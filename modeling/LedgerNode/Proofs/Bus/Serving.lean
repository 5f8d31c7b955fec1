import LedgerNode.Proofs.Bus.Incarnations
import LedgerNode.Proofs.Bus.Settling

set_option autoImplicit false

namespace LedgerNode.Bus

def Job.reply? (respond : Responder) (job : Job) (post : PostId) : Option (String × Parcel) :=
  (respond job.server job.index job.request.message.payload).bind (fun payload =>
    job.request.message.replyTo.map (fun name =>
      (name, {
        post
        answers := some job.request.post
        message := Network.replyTo job.request.message payload })))

namespace Network

def taken? (network : Network) (server : ServerId) (action : Action) : Option Parcel :=
  if action = .take server then
    (network.servers[server]?).bind (fun owner => (network.broker.receive owner.inbox).1.message?)
  else
    none

def takings (steps : List Step) (server : ServerId) : List Parcel :=
  steps.filterMap (fun step => step.before.taken? server step.action)

def attempts (respond : Responder) (steps : List Step) (id : JobId) : List (String × Parcel) :=
  steps.filterMap (fun step =>
    if step.action = .answer id then step.before.publication? respond step.action else none)

inductive Employs (before : Network) : Action → List Job → Prop where
  | kept {action : Action} (untaken : ∀ server, before.taken? server action = none)
      (unanswered : ∀ id, action ≠ .answer id) : Employs before action before.jobs
  | fetched {server : ServerId} {job : Job} (ready : job.state = .ready)
      (own : job.server = server) (taken : before.taken? server (.take server) = some job.request) :
      Employs before (.take server) (before.jobs ++ [job])
  | answered {id : JobId} {job : Job} {state : JobState} (found : before.jobs[id]? = some job)
      (ready : job.state = .ready) (moved : state ≠ .ready) :
      Employs before (.answer id) (before.setJob id state).jobs
  | concluded {id : JobId} {job : Job} {post : PostId} (found : before.jobs[id]? = some job)
      (posted : job.state = .posted post) :
      Employs before (.conclude id) (before.setJob id .done).jobs

section Jobs

variable {respond : Responder} {before after : Network} {action : Action}

theorem taken?_other {server : ServerId} (other : action ≠ .take server) :
    before.taken? server action = none := if_neg other

theorem Change.employs (change : Change respond action before after) :
    before.Employs action after.jobs := by
  have quiet (untaken : ∀ server, action ≠ .take server) (unanswered : ∀ id, action ≠ .answer id)
      (same : after.jobs = before.jobs) : before.Employs action after.jobs := by
    rw [same]
    exact .kept (fun server => taken?_other (untaken server)) unanswered
  cases change with
  | left leaving =>
    cases leaving with
    | serverTold owned closed =>
      next id server =>
        refine .kept (fun other => ?_) (by simp)
        unfold taken?
        split
        next same =>
          cases same
          rw [owned, Option.bind_some, closed]
          rfl
        next => rfl
    | _ => exact quiet (by simp) (by simp) rfl
  | launched => exact quiet (by simp) (by simp) (jobs_launched ..)
  | misfired => exact quiet (by simp) (by simp) (jobs_launched ..)
  | ended ends ended =>
    obtain ⟨_, _, _, there, -, -, rfl⟩ := ended
    refine quiet ?_ ?_ (by rw [endCall_frame there])
    · rintro _ rfl
      cases ends
    · rintro _ rfl
      cases ends
  | delivered => exact quiet (by simp) (by simp) (jobs_deliver ..)
  | fetched owned found taken =>
    refine .fetched rfl rfl ?_
    simp [taken?, owned, message?_of_take? found taken]
  | replied found ready => exact .answered found ready (by simp)
  | undeliverable found ready => exact .answered found ready (by simp)
  | silent found ready => exact .answered found ready (by simp)
  | rejected found posted => exact .concluded found posted
  | concluded found posted => exact .concluded found posted
  | _ => exact quiet (by simp) (by simp) rfl

theorem employs_of_perform (performed : before.perform respond action = some after) :
    before.Employs action after.jobs := by
  obtain ⟨middle, change, rfl | ⟨_, _, _, _, _, -, -, ends⟩⟩ := change_of_perform performed
  · exact change.employs
  · obtain ⟨call, there, -, -, rfl⟩ := ends
    rw [endCall_frame there]
    exact change.employs

def Answered (respond : Responder) (job : Job) (published : List (String × Parcel)) : Prop :=
  (job.state = .ready ∧ published = []) ∨
    (job.state ≠ .ready ∧ ∃ post, published = (job.reply? respond post).toList)

theorem publication?_of_ready {id : JobId} {job : Job} (found : before.jobs[id]? = some job)
    (ready : job.state = .ready) :
    before.publication? respond (.answer id) = job.reply? respond before.nextPost := by
  simp [publication?, Job.reply?, found, ready]

theorem attempts_concat (steps : List Step) (step : Step) (id : JobId) :
    attempts respond (steps ++ [step]) id = attempts respond steps id ++
      (if step.action = .answer id then step.before.publication? respond step.action
        else none).toList := by
  unfold attempts
  rw [List.filterMap_append, List.filterMap_cons]
  split <;> simp [*]

theorem takings_concat (steps : List Step) (step : Step) (server : ServerId) :
    takings (steps ++ [step]) server =
      takings steps server ++ (step.before.taken? server step.action).toList := by
  unfold takings
  rw [List.filterMap_append, List.filterMap_cons]
  split <;> simp [*]

theorem getElem?_jobs_setJob (network : Network) (id other : JobId) (state : JobState) :
    (network.setJob id state).jobs[other]? =
      (network.jobs[other]?).map (fun job => if other = id then { job with state } else job) := by
  simp only [setJob, List.getElem?_modify, eq_comm (a := id)]
  split <;> simp

theorem Trace.answered {steps : List Step} {network : Network}
    (trace : Trace respond empty steps network) :
    (∀ (id : JobId) (job : Job), network.jobs[id]? = some job →
      Answered respond job (attempts respond steps id)) ∧
    ∀ (id : JobId), network.jobs[id]? = none → attempts respond steps id = [] := by
  induction trace with
  | start => exact ⟨fun _ _ found => (by cases found), fun _ _ => rfl⟩
  | @next steps before after action trace performed ih =>
    obtain ⟨known, unknown⟩ := ih
    have employs := employs_of_perform performed
    have other {id : JobId} (different : action ≠ .answer id) :
        attempts respond (steps ++ [⟨before, action, after⟩]) id = attempts respond steps id := by
      simp [attempts_concat, different]
    generalize after.jobs = jobs at employs ⊢
    cases employs with
    | kept _ unanswered =>
      refine ⟨fun id job found => ?_, fun id absent => ?_⟩
      · rw [other (unanswered id)]
        exact known id job found
      · rw [other (unanswered id)]
        exact unknown id absent
    | @fetched _ fresh ready =>
      refine ⟨fun id job found => ?_, fun id absent => ?_⟩
      · rw [other (by simp)]
        rw [List.getElem?_append] at found
        split at found
        next => exact known id job found
        next beyond =>
          obtain ⟨_, rfl⟩ := List.getElem?_eq_some_iff.mp found
          refine .inl ⟨?_, unknown id (List.getElem?_eq_none (Nat.not_lt.mp beyond))⟩
          simpa using ready
      · rw [other (by simp)]
        apply unknown id
        rw [List.getElem?_eq_none_iff, List.length_append] at absent
        exact List.getElem?_eq_none (Nat.le_trans (Nat.le_add_right _ _) absent)
    | @answered answered was state there ready moved =>
      refine ⟨fun id job found => ?_, fun id absent => ?_⟩
      · rw [getElem?_jobs_setJob] at found
        obtain ⟨old, earlier, rfl⟩ := Option.map_eq_some_iff.mp found
        by_cases same : id = answered
        · subst same
          obtain rfl := Option.some.inj (there.symm.trans earlier)
          -- A job is answered when it is ready, so it had published nothing.
          have nothing : attempts respond steps id = [] := by
            rcases known id was there with ⟨-, nothing⟩ | ⟨busy, -⟩
            · exact nothing
            · exact absurd ready busy
          refine .inr ⟨by simpa using moved, before.nextPost, ?_⟩
          rw [attempts_concat, nothing, if_pos rfl]
          simp only [publication?_of_ready there ready, List.nil_append, if_true]
          rfl
        · rw [other (by simpa using Ne.symm same), if_neg same]
          exact known id old earlier
      · rw [getElem?_jobs_setJob, Option.map_eq_none_iff] at absent
        have different : id ≠ answered := by
          rintro rfl
          cases there.symm.trans absent
        rw [other (by simpa using different.symm)]
        exact unknown id absent
    | @concluded concluded was post there posted =>
      refine ⟨fun id job found => ?_, fun id absent => ?_⟩
      · rw [other (by simp)]
        rw [getElem?_jobs_setJob] at found
        obtain ⟨old, earlier, rfl⟩ := Option.map_eq_some_iff.mp found
        by_cases same : id = concluded
        · subst same
          obtain rfl := Option.some.inj (there.symm.trans earlier)
          rcases known id was there with ⟨ready, -⟩ | ⟨-, once⟩
          · cases posted.symm.trans ready
          · rw [if_pos rfl]
            exact .inr ⟨by simp, once⟩
        · rw [if_neg same]
          exact known id old earlier
      · rw [getElem?_jobs_setJob, Option.map_eq_none_iff] at absent
        rw [other (by simp)]
        exact unknown id absent

def jobsOf (network : Network) (server : ServerId) : List Job :=
  network.jobs.filter (fun job => job.server = server)

theorem requests_setJob (network : Network) (id : JobId) (state : JobState) (server : ServerId) :
    ((network.setJob id state).jobsOf server).map Job.request =
      (network.jobsOf server).map Job.request := by
  unfold jobsOf setJob
  simp only
  generalize network.jobs = jobs
  induction jobs generalizing id with
  | nil => simp
  | cons first rest ih =>
    cases id with
    | zero => by_cases own : first.server = server <;> simp [own]
    | succ id =>
      have later := ih id
      by_cases own : first.server = server <;> simp [own, later]

theorem Trace.requests {steps : List Step} {network : Network}
    (trace : Trace respond empty steps network) (server : ServerId) :
    (network.jobsOf server).map Job.request = takings steps server := by
  induction trace with
  | start => rfl
  | @next steps before after action trace performed ih =>
    rw [takings_concat, ← ih]
    have employs := employs_of_perform performed
    unfold jobsOf
    generalize after.jobs = jobs at employs ⊢
    cases employs with
    | kept untaken => simp [untaken]
    | @fetched taker job _ own taken =>
      by_cases same : taker = server
      · subst same
        simp [own, taken]
      · have other : before.taken? server (.take taker) = none :=
          taken?_other (by simpa using same)
        simp [own, same, other]
    | answered =>
      rw [taken?_other (by simp), Option.toList_none, List.append_nil]
      exact requests_setJob before _ _ server
    | concluded =>
      rw [taken?_other (by simp), Option.toList_none, List.append_nil]
      exact requests_setJob before _ _ server

end Jobs

section Loop

variable {respond : Responder} {network after : Network} {action : Action} {server : ServerId}
  {queue : QueueId}

theorem servers_of_perform (performed : network.perform respond action = some after) :
    after.servers = network.servers ∨ ∃ queue, network.isOutside queue = true ∧
      after.servers = network.servers ++ [{ inbox := queue }] := by
  obtain ⟨middle, change, ends⟩ := changes_of_perform performed
  have same : after.servers = middle.servers := by
    rcases ends with rfl | ⟨_, _, _, there, -, -, rfl⟩
    · rfl
    · rw [endCall_frame there]
  rw [same]
  cases change with
  | launched => exact .inl (servers_launched ..)
  | misfired => exact .inl (servers_launched ..)
  | ended _ ended =>
    obtain ⟨_, _, _, there, -, -, rfl⟩ := ended
    exact .inl (by rw [endCall_frame there])
  | delivered => exact .inl (servers_deliver ..)
  | served outside => exact .inr ⟨_, outside, rfl⟩
  | _ => exact .inl rfl

theorem server_of_perform {owner : Server} (performed : network.perform respond action = some after)
    (owned : network.servers[server]? = some owner) : after.servers[server]? = some owner := by
  rcases servers_of_perform performed with same | ⟨queue, -, same⟩
  · rw [same, owned]
  · rw [same, List.getElem?_append_left (List.getElem?_eq_some_iff.mp owned).1, owned]

theorem Trace.inboxes {steps : List Step} (trace : Trace respond empty steps network) :
    (network.servers.map Server.inbox).Nodup := by
  induction trace with
  | start => exact List.nodup_nil
  | next action trace performed ih =>
    rcases servers_of_perform performed with same | ⟨queue, outside, same⟩
    · exact same ▸ ih
    · rw [same, List.map_append, List.nodup_append]
      refine ⟨ih, List.pairwise_singleton _ _, ?_⟩
      intro inbox member other last
      obtain rfl := List.mem_singleton.mp last
      obtain ⟨server, there, rfl⟩ := List.mem_map.mp member
      simp only [isOutside, Bool.and_eq_true, List.all_eq_true, bne_iff_ne] at outside
      exact outside.2 server there

structure Serves (respond : Responder) (network : Network) (server : ServerId) (queue : QueueId) :
    Prop where
  reached : ∃ steps, Trace respond empty steps network
  owned : network.servers[server]? = some { inbox := queue }

theorem Serves.next (serves : network.Serves respond server queue)
    (performed : network.perform respond action = some after) :
    after.Serves respond server queue := by
  obtain ⟨⟨steps, trace⟩, owned⟩ := serves
  exact ⟨⟨_, trace.next action performed⟩, server_of_perform performed owned⟩

theorem Serves.outside (serves : network.Serves respond server queue) :
    network.isOutside queue = false := by
  by_contra outside
  simp only [Bool.not_eq_false, isOutside, Bool.and_eq_true, List.all_eq_true, bne_iff_ne]
    at outside
  exact outside.2 _ (List.mem_of_getElem? serves.owned) rfl

theorem Serves.inbox_ne (serves : network.Serves respond server queue) {id : ClientId}
    {client : Client} (owned : network.clients[id]? = some client) : client.inbox ≠ queue := by
  obtain ⟨steps, trace⟩ := serves.reached
  have served := trace.run.bound.served _ (List.mem_of_getElem? serves.owned)
  exact served.2 id client.profile (profile_of_getElem? owned)

theorem Serves.eq_of_inbox (serves : network.Serves respond server queue) {other : ServerId}
    {owner : Server} (owned : network.servers[other]? = some owner)
    (same : owner.inbox = queue) : other = server := by
  obtain ⟨steps, trace⟩ := serves.reached
  have inboxes := trace.inboxes
  have atOther : (network.servers.map Server.inbox)[other]? = some queue := by
    rw [List.getElem?_map, owned, ← same]
    rfl
  have atOwn : (network.servers.map Server.inbox)[server]? = some queue := by
    rw [List.getElem?_map, serves.owned]
    rfl
  have within := (List.getElem?_eq_some_iff.mp atOther).1
  exact (List.getElem?_inj within inboxes).mp (atOther.trans atOwn.symm)

theorem Serves.drawn? (serves : network.Serves respond server queue)
    (performed : network.perform respond action = some after) :
    network.drawn? action queue = network.taken? server action := by
  have unread (other : network.reader? action ≠ some queue) (apart : action ≠ .take server) :
      network.drawn? action queue = network.taken? server action := by
    rw [Network.drawn?, if_neg other, taken?_other apart]
  cases action with
  | receive read =>
    simp only [perform, Bool.and_eq_true] at performed
    split at performed
    next outside =>
      refine unread (fun same => ?_) (by simp)
      cases same
      cases serves.outside.symm.trans outside.1
    next => cases performed
  | dispatch id =>
    refine unread (fun same => ?_) (by simp)
    obtain ⟨client, owned, inbox⟩ := Option.map_eq_some_iff.mp same
    exact serves.inbox_ne owned inbox
  | take other =>
    by_cases own : other = server
    · subst own
      simp [Network.drawn?, reader?, taken?, serves.owned]
    · refine unread (fun same => own ?_) (by simpa using own)
      obtain ⟨owner, owned, inbox⟩ := Option.map_eq_some_iff.mp same
      exact serves.eq_of_inbox owned inbox
  | _ => exact unread (by simp [reader?]) (by simp)

theorem Serves.left (serves : network.Serves respond server queue)
    (performed : network.perform respond action = some after)
    (running : network.broker.isConsumed queue = true)
    (past : after.broker.isConsumed queue = false) :
    action = .take server ∧ (network.broker.receive queue).1 = .closed := by
  obtain ⟨was, found, consumed⟩ := (Option.any_eq_true _ _).mp running
  obtain ⟨now, later, evolves⟩ := evolves_of_perform performed found
  have gone : now.consumed = false := by simpa [Broker.isConsumed, later] using past
  cases evolves with
  | kept => cases consumed.symm.trans gone
  | handed =>
    rw [Queue.consumed_enqueue] at gone
    cases consumed.symm.trans gone
  | overtaken => cases consumed.symm.trans gone
  | withdrawn => cases consumed.symm.trans gone
  | drawn _ _ taken =>
    rw [(Queue.takes_of_take? taken).consumed] at gone
    cases consumed.symm.trans gone
  | left leaving =>
    cases leaving with
    | dropped outside => cases serves.outside.symm.trans outside
    | clientTold owned => exact absurd rfl (serves.inbox_ne owned)
    | retired owned => exact absurd rfl (serves.inbox_ne owned)
    | serverTold owned closed =>
      obtain rfl := serves.eq_of_inbox owned rfl
      exact ⟨rfl, closed⟩

def Nameless (network : Network) (queue : QueueId) : Prop :=
  ∀ name, (name, queue) ∉ network.broker.registry

theorem Nameless.kept (nameless : network.Nameless queue)
    (performed : network.perform respond action = some after)
    (there : queue < network.broker.queues.length) : after.Nameless queue := by
  obtain ⟨middle, change, ends⟩ := changes_of_perform performed
  have same : after.broker.registry = middle.broker.registry := by
    rcases ends with rfl | ⟨_, _, _, found, -, -, rfl⟩
    · rfl
    · rw [endCall_frame found]
      rfl
  intro name
  rw [same]
  rcases change.registry with kept | ⟨gone, kept⟩ | ⟨fresh, capacity, opened⟩
  · exact kept ▸ nameless name
  · rw [kept]
    exact fun member => nameless name (List.mem_filter.mp member).1
  · rw [opened]
    intro member
    rcases List.mem_cons.mp member with new | old
    · -- A new queue stands behind those that were there.
      cases new
      exact Nat.lt_irrefl _ there
    · exact nameless name (List.mem_filter.mp old).1

theorem Trace.entries {steps : List Step} (trace : Trace respond empty steps network) :
    ∀ entry ∈ network.broker.registry, ∃ held, network.broker.queue? entry.2 = some held ∧
      held.name = entry.1 := by
  have changed {action : Action} {before after : Network}
      (change : Change respond action before after)
      (named : ∀ entry ∈ before.broker.registry, ∃ held,
        before.broker.queue? entry.2 = some held ∧ held.name = entry.1) :
      ∀ entry ∈ after.broker.registry, ∃ held, after.broker.queue? entry.2 = some held ∧
        held.name = entry.1 := by
    have carried (entry : String × QueueId) (member : entry ∈ before.broker.registry) :
        ∃ held, after.broker.queue? entry.2 = some held ∧ held.name = entry.1 := by
      obtain ⟨held, found, same⟩ := named entry member
      obtain ⟨now, later, handled⟩ := change.handles found
      exact ⟨now, later, handled.name.trans same⟩
    intro entry member
    rcases change.registry with kept | ⟨gone, kept⟩ | ⟨fresh, capacity, opened⟩
    · exact carried entry (kept ▸ member)
    · rw [kept] at member
      exact carried entry (List.mem_filter.mp member).1
    · rw [opened] at member
      rcases List.mem_cons.mp member with rfl | old
      · refine ⟨Queue.create fresh capacity, ?_, rfl⟩
        rw [opened, Broker.queue?_opened, if_pos rfl]
      · exact carried entry (List.mem_filter.mp old).1
  apply trace.run.invariant (fun network => ∀ entry ∈ network.broker.registry, ∃ held,
    network.broker.queue? entry.2 = some held ∧ held.name = entry.1)
  · intro entry member
    cases member
  · exact fun change _ named => changed change named
  · exact fun ended named => changed ended.change named

def remaining (network : Network) (queue : QueueId) : Nat :=
  ((network.broker.queue? queue).map (fun held =>
    held.held.length + if held.consumed then 1 else 0)).getD 0

theorem handed?_of_nameless (nameless : network.Nameless queue) :
    network.handed? respond action queue = none := by
  by_contra some
  obtain ⟨parcel, handed⟩ := Option.ne_none_iff_exists'.mp some
  obtain ⟨name, -, bound, -⟩ := handed?_spec handed
  obtain ⟨before, later, same, -⟩ := List.lookup_eq_some_iff.mp bound
  exact nameless name (by simp [same])

theorem remaining_eq {held : Queue} (found : network.broker.queue? queue = some held) :
    network.remaining queue = held.held.length + if held.consumed then 1 else 0 := by
  simp [remaining, found]

theorem Nameless.remaining_le (nameless : network.Nameless queue) {was : Queue}
    (performed : network.perform respond action = some after)
    (found : network.broker.queue? queue = some was) :
    after.remaining queue ≤ network.remaining queue := by
  obtain ⟨now, later, evolves⟩ := evolves_of_perform performed found
  have silent : network.handed? respond action queue = none := handed?_of_nameless nameless
  rw [remaining_eq found, remaining_eq later]
  cases evolves with
  | kept => exact Nat.le_refl _
  | handed sends => cases sends.symm.trans silent
  | overtaken sends => cases sends.symm.trans silent
  | withdrawn =>
    exact Nat.add_le_add_right (was.held_abandon_sublist _).length_le _
  | drawn _ _ taken =>
    have takes := Queue.takes_of_take? taken
    rw [takes.held, takes.consumed, List.length_cons]
    omega
  | left =>
    rw [Queue.held_dropConsumer]
    exact Nat.zero_le _

theorem Serves.remaining_lt (serves : network.Serves respond server queue)
    (performed : network.perform respond (.take server) = some after) :
    after.remaining queue < network.remaining queue := by
  have change : Change respond (.take server) network after := change_of_take performed
  have own {owner : Server} (owned : network.servers[server]? = some owner) :
      owner.inbox = queue := by
    obtain rfl := Option.some.inj (owned.symm.trans serves.owned)
    rfl
  cases change with
  | left leaving consumed =>
    cases leaving with
    | serverTold owned =>
      rw [own owned] at consumed ⊢
      obtain ⟨was, found, running⟩ := (Option.any_eq_true _ _).mp consumed
      have later : (network.dropConsumer queue).broker.queue? queue = some was.dropConsumer := by
        refine (Broker.queue?_dropConsumer ..).trans ?_
        simp [found]
      rw [remaining_eq found, remaining_eq later, running, Queue.held_dropConsumer]
      simp [Queue.dropConsumer]
  | ended ends => cases ends
  | fetched owned found taken =>
    next rest request =>
      have takes := Queue.takes_of_take? taken
      rw [own owned] at found ⊢
      have later : (network.fetched server queue request rest).broker.queue? queue = some rest := by
        refine (Broker.queue?_update ..).trans ?_
        simp [found]
      rw [remaining_eq found, remaining_eq later, takes.held, takes.consumed, List.length_cons]
      omega

theorem Serves.within (serves : network.Serves respond server queue) :
    queue < network.broker.queues.length := by
  obtain ⟨steps, trace⟩ := serves.reached
  exact (trace.run.bound.served _ (List.mem_of_getElem? serves.owned)).1

theorem Serves.inbox (serves : network.Serves respond server queue) :
    ∃ held, network.broker.queue? queue = some held :=
  ⟨_, List.getElem?_eq_getElem serves.within⟩

section Continuing

variable {more : List Step} {later : Network}

theorem Serves.trace (serves : network.Serves respond server queue)
    (rest : Trace respond network more later) : later.Serves respond server queue := by
  induction rest with
  | start => exact serves
  | next _ _ performed ih => exact ih.next performed

theorem Serves.readings (serves : network.Serves respond server queue)
    (rest : Trace respond network more later) :
    more.filterMap (fun step => step.before.drawn? step.action queue) = takings more server := by
  induction rest with
  | start => rfl
  | next action rest performed ih =>
    have same := (serves.trace rest).drawn? performed
    unfold takings at ih ⊢
    rw [List.filterMap_append, List.filterMap_append, ih]
    simp [List.filterMap_cons, same]

theorem Serves.remaining (serves : network.Serves respond server queue)
    (nameless : network.Nameless queue) (rest : Trace respond network more later) :
    later.Nameless queue ∧
      more.countP (fun step => step.action = .take server) + later.remaining queue ≤
        network.remaining queue := by
  induction rest with
  | start => exact ⟨nameless, by simp⟩
  | next action rest performed ih =>
    obtain ⟨still, counted⟩ := ih
    have serves := serves.trace rest
    obtain ⟨held, found⟩ := serves.inbox
    refine ⟨still.kept performed serves.within, ?_⟩
    rw [List.countP_append, List.countP_singleton]
    by_cases own : action = .take server
    · subst own
      have lower := serves.remaining_lt performed
      simp only [decide_true, if_true]
      omega
    · have lower := still.remaining_le performed found
      simp only [own, decide_false, Bool.false_eq_true, if_false]
      omega

end Continuing

theorem Serves.ended {steps : List Step} (trace : Trace respond empty steps network)
    (owned : network.servers[server]? = some { inbox := queue })
    (performed : network.perform respond action = some after)
    (complete : network.broker.isConsumed queue = false →
      (ledger respond steps queue).standing = (ledger respond steps queue).received)
    (past : after.broker.isConsumed queue = false) :
    (ledger respond (steps ++ [⟨network, action, after⟩]) queue).standing =
      (ledger respond (steps ++ [⟨network, action, after⟩]) queue).received := by
  have serves : network.Serves respond server queue := ⟨⟨steps, trace⟩, owned⟩
  obtain ⟨was, found⟩ := serves.inbox
  obtain ⟨now, later, -⟩ := evolves_of_perform performed found
  have balanced := trace.ledger.1 queue was found
  have silent : network.handed? respond action queue = none ∧
      network.drawn? action queue = none ∧ was.waiting = [] ∧
      (ledger respond steps queue).standing = (ledger respond steps queue).received := by
    by_cases running : network.broker.isConsumed queue = true
    · obtain ⟨rfl, closed⟩ := serves.left performed running past
      have nothing := ((closed_iff found balanced.sound).mp closed).1
      obtain ⟨buffer, waiting⟩ := List.append_eq_nil_iff.mp nothing
      have consumed : was.consumed = true := by simpa [Broker.isConsumed, found] using running
      refine ⟨rfl, ?_, waiting, ?_⟩
      · rw [serves.drawn? performed]
        simp [taken?, owned, closed, Reception.message?]
      · rw [balanced.kept consumed, balanced.stock consumed, buffer, waiting]
        simp
    · have stopped : was.consumed = false := by simpa [Broker.isConsumed, found] using running
      obtain ⟨buffer, waiting⟩ := balanced.gone stopped
      refine ⟨?_, ?_, waiting, complete (by simpa using running)⟩
      · by_contra some
        obtain ⟨parcel, handed⟩ := Option.ne_none_iff_exists'.mp some
        obtain ⟨-, -, -, consumed⟩ := handed?_spec handed
        exact running consumed
      · have nothing := Queue.take?_eq_none.mpr buffer
        unfold Network.drawn?
        rw [Broker.receive, found]
        simp only [nothing]
        split
        next => split <;> rfl
        next => rfl
  obtain ⟨unsent, unread, nobody, same⟩ := silent
  have kept (post : PostId) : Step.abandons respond ⟨network, action, after⟩ queue post = false := by
    by_contra given
    obtain ⟨-, waited | ⟨parcel, handed, -⟩, -⟩ :=
      (abandons_iff found later).mp (by simpa using given)
    · simp [Queue.isWaiting, nobody] at waited
    · cases unsent.symm.trans handed
  rw [ledger_concat]
  simp only [Ledger.standing, unsent, unread, kept, Option.toList_none, List.append_nil,
    Bool.or_false]
  exact same

end Loop

end Network

end LedgerNode.Bus
