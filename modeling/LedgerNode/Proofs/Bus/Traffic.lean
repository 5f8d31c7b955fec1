import LedgerNode.Proofs.Bus.Numbering

set_option autoImplicit false

namespace LedgerNode.Bus

namespace Network

inductive Sends (respond : Responder) (before after : Network) :
    Action → QueueId → Parcel → Prop where
  | published {name : String} {message : Message} {answers : Option PostId} {queue : QueueId}
      (bound : before.broker.lookup? name = some queue) :
      Sends respond before after (.publish name message answers) queue
        { post := before.nextPost, answers, message }
  | called {client : ClientId} {owner : Client} {route : String} {payload : Bytes}
      {timeout : Duration} {queue : QueueId} (owned : before.clients[client]? = some owner)
      (bound : before.broker.lookup? route = some queue)
      (issued : after.issued = before.issued ++ [before.startedCall client owner route timeout]) :
      Sends respond before after (.call client route payload timeout) queue
        { post := before.nextPost, answers := none, message := owner.request payload }
  | replied {id : JobId} {job : Job} {payload : Bytes} {name : String} {queue : QueueId}
      (found : before.jobs[id]? = some job)
      (worked : respond job.server job.index job.request.message.payload = some payload)
      (named : job.request.message.replyTo = some name)
      (bound : before.broker.lookup? name = some queue) :
      Sends respond before after (.answer id) queue
        { post := before.nextPost, answers := some job.request.post
          message := replyTo job.request.message payload }

inductive Draws (before after : Network) : Action → QueueId → Parcel → Prop where
  | received {queue : QueueId} {parcel : Parcel} (outside : before.isOutside queue = true) :
      Draws before after (.receive queue) queue parcel
  | delivered {id : ClientId} {client : Client} {rest : Queue} {parcel : Parcel}
      (owned : before.clients[id]? = some client)
      (result : after = (before.took client.inbox rest).deliver id parcel.message) :
      Draws before after (.dispatch id) client.inbox parcel
  | fetched {id : ServerId} {server : Server} {parcel : Parcel}
      (owned : before.servers[id]? = some server) :
      Draws before after (.take id) server.inbox parcel

inductive Handles (respond : Responder) (before after : Network) (action : Action) (id : QueueId) :
    Queue → Queue → Prop where
  | kept {queue : Queue} : Handles respond before after action id queue queue
  | sent {queue : Queue} {parcel : Parcel} (sends : Sends respond before after action id parcel)
      (counted : after.nextPost = before.nextPost + 1) :
      Handles respond before after action id queue (queue.enqueue parcel)
  | drawn {queue rest : Queue} {parcel : Parcel} (draws : Draws before after action id parcel)
      (taken : queue.take? = some (parcel, rest)) :
      Handles respond before after action id queue rest
  | withdrawn {queue : Queue} (post : PostId) :
      Handles respond before after action id queue (queue.abandon post)
  | left {queue : Queue} : Handles respond before after action id queue queue.dropConsumer

theorem handles_update {respond : Responder} {before after : Network} {action : Action}
    {id place : QueueId} {was : Queue} {change : Queue → Queue}
    (found : before.broker.queue? id = some was)
    (handled : id = place → Handles respond before after action id was (change was)) :
    ∃ now, (before.broker.update place change).queue? id = some now ∧
      Handles respond before after action id was now := by
  rw [Broker.queue?_update, found]
  by_cases same : id = place
  · exact ⟨change was, by simp [same], handled same⟩
  · exact ⟨was, by simp [same], .kept⟩

theorem handles_of_same {respond : Responder} {before after : Network} {action : Action}
    {id : QueueId} {was : Queue} (same : after.broker.queue? id = before.broker.queue? id)
    (found : before.broker.queue? id = some was) :
    ∃ now, after.broker.queue? id = some now ∧ Handles respond before after action id was now :=
  ⟨was, same.trans found, .kept⟩

theorem Change.handles {respond : Responder} {action : Action} {before after : Network}
    {id : QueueId} {was : Queue} (change : Change respond action before after)
    (found : before.broker.queue? id = some was) :
    ∃ now, after.broker.queue? id = some now ∧ Handles respond before after action id was now := by
  cases change with
  | opened | connected =>
    -- A new queue stands behind the ones there are.
    refine handles_of_same ?_ found
    refine (Broker.queue?_opened ..).trans (if_neg ?_)
    exact Nat.ne_of_lt (Broker.queue?_lt found)
  | published bound =>
    refine handles_update found (fun same => ?_)
    subst same
    exact .sent (.published bound) rfl
  | withdrew =>
    next post =>
      refine ⟨was.abandon post, ?_, .withdrawn post⟩
      exact (Broker.queue?_abandon ..).trans (congrArg _ found)
  | received outside there taken =>
    refine handles_update found (fun same => ?_)
    subst same
    obtain rfl := Option.some.inj (found.symm.trans there)
    exact .drawn (.received outside) taken
  | left => exact handles_update found (fun _ => .left)
  | unbound => exact handles_of_same (Broker.queue?_delete ..) found
  | launched owned bound =>
    -- Registering the call touches no queue, so only its request does.
    simp only [sent, broker_launched, nextPost_launched]
    refine handles_update found (fun same => ?_)
    subst same
    exact .sent (.called owned bound (issued_launched ..)) rfl
  | misfired => exact handles_of_same (by rw [broker_launched]) found
  | ended _ ended =>
    obtain ⟨call, record, state, there, -, -, rfl⟩ := ended
    refine ⟨_, ?_, .withdrawn record.post⟩
    rw [endCall_frame there, Broker.queue?_abandon, found]
    rfl
  | delivered owned there taken =>
    rw [broker_deliver]
    refine handles_update found (fun same => ?_)
    subst same
    obtain rfl := Option.some.inj (found.symm.trans there)
    exact .drawn (.delivered owned rfl) taken
  | fetched owned there taken =>
    refine handles_update found (fun same => ?_)
    subst same
    obtain rfl := Option.some.inj (found.symm.trans there)
    exact .drawn (.fetched owned) taken
  | replied there _ worked named bound =>
    refine handles_update found (fun same => ?_)
    subst same
    exact .sent (.replied there worked named bound) rfl
  | _ => exact handles_of_same rfl found

theorem absent_update {broker : Broker} {id place : QueueId} {change : Queue → Queue}
    (absent : broker.queue? id = none) : (broker.update place change).queue? id = none := by
  rw [Broker.queue?_update, absent]
  split <;> rfl

theorem created_of_opened {broker : Broker} {name : String} {capacity : Nat} {id : QueueId}
    {now : Queue} (absent : broker.queue? id = none)
    (found : (broker.opened name capacity).queue? id = some now) :
    id = broker.queues.length ∧ now = Queue.create name capacity := by
  rw [Broker.queue?_opened] at found
  split at found
  next last => exact ⟨last, (Option.some.inj found).symm⟩
  next => exact absurd (absent.symm.trans found) (by simp)

theorem Change.creates {respond : Responder} {action : Action} {before after : Network}
    {id : QueueId} {now : Queue} (change : Change respond action before after)
    (absent : before.broker.queue? id = none) (found : after.broker.queue? id = some now) :
    ∃ name capacity, (action = .declare name capacity ∨ action = .connect name capacity) ∧
      id = before.broker.queues.length ∧ now = Queue.create name capacity := by
  have impossible (same : after.broker.queue? id = none) :
      ∃ name capacity, (action = .declare name capacity ∨ action = .connect name capacity) ∧
        id = before.broker.queues.length ∧ now = Queue.create name capacity := by
    rw [same] at found
    cases found
  cases change with
  | opened => exact ⟨_, _, .inl rfl, created_of_opened absent found⟩
  | connected => exact ⟨_, _, .inr rfl, created_of_opened absent found⟩
  | withdrew =>
    apply impossible
    exact (Broker.queue?_abandon ..).trans (congrArg _ absent)
  | launched owned bound =>
    apply impossible
    simp only [sent, broker_launched]
    exact absent_update absent
  | misfired =>
    apply impossible
    rw [broker_launched]
    exact absent
  | ended _ ended =>
    obtain ⟨call, record, state, there, -, -, rfl⟩ := ended
    apply impossible
    rw [endCall_frame there, Broker.queue?_abandon, absent]
    rfl
  | delivered owned there taken =>
    apply impossible
    rw [broker_deliver]
    exact absent_update absent
  | published | received | left | fetched | replied => exact impossible (absent_update absent)
  | _ => exact impossible absent

section Handling

variable {respond : Responder} {before after : Network} {action : Action} {id : QueueId}
  {was now : Queue}

theorem Handles.name (handled : Handles respond before after action id was now) :
    now.name = was.name := by
  cases handled with
  | sent => exact Queue.name_enqueue ..
  | drawn _ taken => exact (Queue.takes_of_take? taken).name
  | _ => rfl

theorem Handles.received (handled : Handles respond before after action id was now) :
    now.received = was.received ∨
      ∃ parcel, Draws before after action id parcel ∧ parcel ∈ was.held ∧
        now.received = parcel :: was.received := by
  cases handled with
  | sent => exact .inl (Queue.received_enqueue ..)
  | drawn draws taken =>
    have takes := Queue.takes_of_take? taken
    refine .inr ⟨_, draws, ?_, takes.received⟩
    rw [takes.held]
    exact List.mem_cons_self
  | _ => exact .inl rfl

theorem Handles.seen (handled : Handles respond before after action id was now) {parcel : Parcel}
    (seen : parcel ∈ now.seen) :
    parcel ∈ was.seen ∨
      Sends respond before after action id parcel ∧ after.nextPost = before.nextPost + 1 := by
  cases handled with
  | kept => exact .inl seen
  | sent sends counted =>
    simp only [Queue.seen, Queue.received_enqueue, Queue.held_enqueue, List.mem_append,
      List.mem_singleton] at seen ⊢
    rcases seen with there | there | rfl
    · exact .inl (.inl there)
    · exact .inl (.inr there)
    · exact .inr ⟨sends, counted⟩
  | drawn _ taken =>
    -- What is taken goes from the held to the received, both of which were seen.
    have takes := Queue.takes_of_take? taken
    left
    simp only [Queue.seen, takes.received, takes.held, List.mem_append, List.mem_cons] at seen ⊢
    rcases seen with (there | there) | there
    · exact .inr (.inl there)
    · exact .inl there
    · exact .inr (.inr there)
  | withdrawn post =>
    have sublist := was.held_abandon_sublist post
    left
    simp only [Queue.seen, Queue.received_abandon, List.mem_append] at seen ⊢
    exact seen.imp_right (fun there => sublist.subset there)
  | left =>
    left
    simp only [Queue.seen, Queue.received_dropConsumer, Queue.held_dropConsumer,
      List.append_nil] at seen ⊢
    exact List.mem_append_left _ seen

end Handling

def Seen (network : Network) (id : QueueId) (parcel : Parcel) : Prop :=
  ∃ queue, network.broker.queue? id = some queue ∧ parcel ∈ queue.seen

def Received (network : Network) (parcel : Parcel) : Prop :=
  ∃ id queue, network.broker.queue? id = some queue ∧ parcel ∈ queue.received

instance (network : Network) (parcel : Parcel) : Decidable (network.Received parcel) :=
  decidable_of_iff (∃ queue ∈ network.broker.queues, parcel ∈ queue.received) (by
    constructor
    · rintro ⟨queue, member, received⟩
      obtain ⟨id, found⟩ := List.getElem?_of_mem member
      exact ⟨id, queue, found, received⟩
    · rintro ⟨id, queue, found, received⟩
      exact ⟨queue, List.mem_of_getElem? found, received⟩)

theorem Received.seen {network : Network} {parcel : Parcel} (received : network.Received parcel) :
    ∃ id, network.Seen id parcel := by
  obtain ⟨id, queue, found, member⟩ := received
  exact ⟨id, queue, found, List.mem_append_left _ member⟩

section Steps

variable {respond : Responder} {before after : Network} {action : Action}

theorem Change.seen (change : Change respond action before after) {id : QueueId} {parcel : Parcel}
    (seen : after.Seen id parcel) :
    before.Seen id parcel ∨
      Sends respond before after action id parcel ∧ after.nextPost = before.nextPost + 1 := by
  obtain ⟨now, found, member⟩ := seen
  cases there : before.broker.queue? id with
  | none =>
    obtain ⟨name, capacity, -, -, rfl⟩ := change.creates there found
    simp [Queue.seen] at member
  | some was =>
    obtain ⟨_, same, handled⟩ := change.handles there
    obtain rfl := Option.some.inj (found.symm.trans same)
    exact (handled.seen member).imp_left (fun member => ⟨was, there, member⟩)

theorem Change.received_mono (change : Change respond action before after) {parcel : Parcel}
    (received : before.Received parcel) : after.Received parcel := by
  obtain ⟨id, was, there, member⟩ := received
  obtain ⟨now, found, handled⟩ := change.handles there
  refine ⟨id, now, found, ?_⟩
  rcases handled.received with same | ⟨_, _, _, more⟩
  · exact same ▸ member
  · exact more ▸ List.mem_cons_of_mem _ member

theorem request_of_setJob {network : Network} {id : JobId} {state : JobState} {job : Job}
    (member : job ∈ (network.setJob id state).jobs) :
    ∃ old ∈ network.jobs, old.request = job.request := by
  obtain ⟨place, found⟩ := List.getElem?_of_mem member
  simp only [setJob, List.getElem?_modify] at found
  obtain ⟨old, there, changed⟩ := Option.map_eq_some_iff.mp found
  refine ⟨old, List.mem_of_getElem? there, ?_⟩
  rw [← changed]
  split <;> rfl

theorem Change.request (change : Change respond action before after) {job : Job}
    (member : job ∈ after.jobs) :
    (∃ old ∈ before.jobs, old.request = job.request) ∨ after.Received job.request := by
  have same (there : job ∈ before.jobs) :
      (∃ old ∈ before.jobs, old.request = job.request) ∨ after.Received job.request :=
    .inl ⟨job, there, rfl⟩
  cases change with
  | launched | misfired =>
    apply same
    simpa only [sent, jobs_launched] using member
  | ended _ ended =>
    obtain ⟨call, record, state, there, -, -, rfl⟩ := ended
    apply same
    rw [endCall_frame there] at member
    exact member
  | delivered =>
    apply same
    rw [jobs_deliver] at member
    exact member
  | fetched owned there taken =>
    next id server was rest parcel =>
      rcases List.mem_append.mp member with earlier | last
      · exact same earlier
      · obtain rfl := List.mem_singleton.mp last
        refine .inr ⟨server.inbox, rest, ?_, ?_⟩
        · refine (Broker.queue?_update ..).trans ?_
          simp [there]
        · rw [(Queue.takes_of_take? taken).received]
          exact List.mem_cons_self
  | replied => exact .inl (request_of_setJob member)
  | undeliverable => exact .inl (request_of_setJob member)
  | silent => exact .inl (request_of_setJob member)
  | rejected => exact .inl (request_of_setJob member)
  | concluded => exact .inl (request_of_setJob member)
  | _ => exact same member

theorem Change.registry (change : Change respond action before after) :
    after.broker.registry = before.broker.registry ∨
      (∃ name, after.broker.registry = Broker.unbind name before.broker.registry) ∨
      ∃ name capacity, after.broker = before.broker.opened name capacity := by
  cases change with
  | opened | connected => exact .inr (.inr ⟨_, _, rfl⟩)
  | unbound => exact .inr (.inl ⟨_, rfl⟩)
  | launched | misfired =>
    left
    simp only [sent, broker_launched, Broker.registry_update]
  | ended _ ended =>
    obtain ⟨call, record, state, there, -, -, rfl⟩ := ended
    rw [endCall_frame there]
    exact .inl rfl
  | delivered =>
    rw [broker_deliver]
    exact .inl rfl
  | _ => exact .inl rfl

theorem Change.lookup? (change : Change respond action before after) {name : String}
    {id : QueueId} (bound : after.broker.lookup? name = some id) :
    before.broker.lookup? name = some id ∨
      ∃ capacity, after.broker = before.broker.opened name capacity ∧
        id = before.broker.queues.length := by
  rcases change.registry with same | ⟨gone, same⟩ | ⟨fresh, capacity, opened⟩
  · exact .inl (by rwa [Broker.lookup?, same] at bound)
  · rw [Broker.lookup?, same, Broker.unbind, lookup_filter_ne] at bound
    split at bound
    next => cases bound
    next => exact .inl bound
  · rw [opened, Broker.lookup?_opened] at bound
    split at bound
    next own =>
      subst own
      exact .inr ⟨capacity, opened, (Option.some.inj bound).symm⟩
    next => exact .inl bound

end Steps

structure Bound (network : Network) : Prop where
  named : ∀ name id, network.broker.lookup? name = some id →
    ∃ queue, network.broker.queue? id = some queue ∧ queue.name = name
  inbox : ∀ (id : ClientId) (client : Client), network.profiles[id]? = some client →
    ∃ queue, network.broker.queue? client.inbox = some queue ∧ queue.name = client.replyQueue
  own : ∀ (first second : ClientId) (one other : Client),
    network.profiles[first]? = some one → network.profiles[second]? = some other →
    one.inbox = other.inbox → first = second
  served : ∀ server ∈ network.servers, server.inbox < network.broker.queues.length ∧
    ∀ (id : ClientId) (client : Client), network.profiles[id]? = some client →
      client.inbox ≠ server.inbox

theorem bound_empty : empty.Bound := by
  constructor <;> simp [empty, profiles, Broker.lookup?, Broker.empty]

theorem Recorded.profile {before after : Network} {action : Action}
    (recorded : Recorded before after action) {id : ClientId} {client : Client}
    (found : after.profiles[id]? = some client) :
    (∃ old, before.profiles[id]? = some old ∧ client.replyQueue = old.replyQueue ∧
      client.inbox = old.inbox) ∨
    id = before.profiles.length ∧ ∃ name capacity, action = .connect name capacity ∧
      after.broker = before.broker.opened name capacity ∧
      client.replyQueue = name ∧ client.inbox = before.broker.queues.length := by
  cases recorded with
  | kept _ profiles =>
    rw [profiles] at found
    exact .inl ⟨client, found, rfl, rfl⟩
  | connected _ profiles opened =>
    rw [profiles, List.getElem?_append] at found
    split at found
    next => exact .inl ⟨client, found, rfl, rfl⟩
    next beyond =>
      obtain ⟨within, rfl⟩ := List.getElem?_eq_some_iff.mp found
      rw [List.length_singleton, Nat.lt_one_iff, Nat.sub_eq_zero_iff_le] at within
      refine .inr ⟨Nat.le_antisymm within (Nat.not_lt.mp beyond), _, _, rfl, opened, ?_⟩
      simp
  | called _ _ profiles =>
    rw [profiles, List.getElem?_modify] at found
    obtain ⟨old, there, changed⟩ := Option.map_eq_some_iff.mp found
    refine .inl ⟨old, there, ?_⟩
    rw [← changed]
    split <;> exact ⟨rfl, rfl⟩

theorem Change.queues_length {respond : Responder} {before after : Network} {action : Action}
    (change : Change respond action before after) :
    before.broker.queues.length ≤ after.broker.queues.length := by
  by_contra fewer
  -- Otherwise the place behind the last queue had one that is gone, and queues are kept.
  have within := Nat.not_le.mp fewer
  obtain ⟨now, found, -⟩ := change.handles (List.getElem?_eq_getElem within)
  exact Nat.lt_irrefl _ (Broker.queue?_lt found)

theorem Change.server {respond : Responder} {before after : Network} {action : Action}
    (change : Change respond action before after) (bound : before.Bound) {server : Server}
    (member : server ∈ after.servers) :
    server.inbox < before.broker.queues.length ∧
      ∀ (id : ClientId) (client : Client), before.profiles[id]? = some client →
        client.inbox ≠ server.inbox := by
  cases change with
  | launched | misfired =>
    simp only [sent, servers_launched] at member
    exact bound.served server member
  | ended _ ended =>
    obtain ⟨call, record, state, there, -, -, rfl⟩ := ended
    rw [endCall_frame there] at member
    exact bound.served server member
  | delivered =>
    rw [servers_deliver] at member
    exact bound.served server member
  | served outside consumed =>
    rcases List.mem_append.mp member with earlier | last
    · exact bound.served server earlier
    · obtain rfl := List.mem_singleton.mp last
      obtain ⟨queue, there, -⟩ := (Option.any_eq_true _ _).mp consumed
      refine ⟨Broker.queue?_lt there, ?_⟩
      -- Only a queue that no client reads can be given to a server.
      intro id client found same
      obtain ⟨owner, owned, rfl⟩ := Option.map_eq_some_iff.mp
        ((getElem?_profiles before id).symm.trans found)
      simp only [isOutside, Bool.and_eq_true, List.all_eq_true, bne_iff_ne] at outside
      exact outside.1 owner (List.mem_of_getElem? owned) same
  | _ => exact bound.served server member

theorem Bound.changed {respond : Responder} {before after : Network} {action : Action}
    (bound : before.Bound) (change : Change respond action before after) : after.Bound := by
  -- Queues keep their names and places, and a new one stands behind all that clients read.
  have carried {id : QueueId} {name : String}
      (there : ∃ queue, before.broker.queue? id = some queue ∧ queue.name = name) :
      ∃ queue, after.broker.queue? id = some queue ∧ queue.name = name := by
    obtain ⟨was, found, named⟩ := there
    obtain ⟨now, found, handled⟩ := change.handles found
    exact ⟨now, found, handled.name.trans named⟩
  have fresh {name : String} {capacity : Nat}
      (opened : after.broker = before.broker.opened name capacity) :
      ∃ queue, after.broker.queue? before.broker.queues.length = some queue ∧
        queue.name = name := by
    refine ⟨Queue.create name capacity, ?_, rfl⟩
    rw [opened, Broker.queue?_opened, if_pos rfl]
  have within {id : ClientId} {client : Client} (found : before.profiles[id]? = some client) :
      client.inbox < before.broker.queues.length := by
    obtain ⟨queue, there, -⟩ := bound.inbox id client found
    exact Broker.queue?_lt there
  refine ⟨?_, ?_, ?_, ?_⟩
  · intro name id found
    rcases change.lookup? found with found | ⟨capacity, opened, rfl⟩
    · exact carried (bound.named name id found)
    · exact fresh opened
  · intro id client found
    obtain ⟨old, there, named, inbox⟩ | ⟨-, name, capacity, -, opened, named, inbox⟩ :=
      change.recorded.profile found
    · rw [named, inbox]
      exact carried (bound.inbox id old there)
    · rw [named, inbox]
      exact fresh opened
  · intro first second one other oneFound otherFound same
    obtain ⟨oneOld, oneThere, -, oneInbox⟩ | ⟨rfl, -, -, -, -, -, oneInbox⟩ :=
      change.recorded.profile oneFound <;>
    obtain ⟨otherOld, otherThere, -, otherInbox⟩ | ⟨rfl, -, -, -, -, -, otherInbox⟩ :=
      change.recorded.profile otherFound
    -- Of two clients at most one is new, and the inbox of that one was no queue before.
    · exact bound.own _ _ _ _ oneThere otherThere (oneInbox.symm.trans (same.trans otherInbox))
    · have := within oneThere
      rw [← oneInbox, same, otherInbox] at this
      exact absurd this (Nat.lt_irrefl _)
    · have := within otherThere
      rw [← otherInbox, ← same, oneInbox] at this
      exact absurd this (Nat.lt_irrefl _)
    · rfl
  · intro server member
    obtain ⟨there, apart⟩ := change.server bound member
    refine ⟨Nat.lt_of_lt_of_le there change.queues_length, ?_⟩
    intro id client found same
    obtain ⟨old, was, -, inbox⟩ | ⟨-, name, capacity, -, opened, named, inbox⟩ :=
      change.recorded.profile found
    · exact apart id old was (inbox.symm.trans same)
    · rw [← same, inbox] at there
      exact absurd there (Nat.lt_irrefl _)

structure Dated (network : Network) : Prop where
  seen : ∀ id parcel, network.Seen id parcel → parcel.post < network.nextPost
  requests : ∀ job ∈ network.jobs, network.Received job.request

theorem Change.nextPost {respond : Responder} {before after : Network} {action : Action}
    (change : Change respond action before after) : before.nextPost ≤ after.nextPost := by
  cases change.recorded with
  | kept _ _ counted => exact counted
  | connected _ _ _ counted => exact Nat.le_of_eq counted.symm
  | called _ _ _ counted => exact counted ▸ Nat.le_succ _

theorem Sends.post {respond : Responder} {before after : Network} {action : Action}
    {id : QueueId} {parcel : Parcel} (sends : Sends respond before after action id parcel) :
    parcel.post = before.nextPost := by
  cases sends <;> rfl

theorem dated_empty : empty.Dated := by
  constructor
  · intro id parcel ⟨queue, found, _⟩
    cases found
  · intro job member
    cases member

theorem Dated.changed {respond : Responder} {before after : Network} {action : Action}
    (dated : before.Dated) (change : Change respond action before after) : after.Dated where
  seen := by
    intro id parcel seen
    rcases change.seen seen with seen | ⟨sends, counted⟩
    · exact Nat.lt_of_lt_of_le (dated.seen id parcel seen) change.nextPost
    · rw [sends.post, counted]
      exact Nat.lt_succ_self _
  requests := by
    intro job member
    rcases change.request member with ⟨old, there, same⟩ | received
    · exact same ▸ change.received_mono (dated.requests old there)
    · exact received

theorem Run.bound {respond : Responder} {allowed : Network → Action → Prop} {network : Network}
    (run : Run respond allowed empty network) : network.Bound :=
  run.invariant Bound bound_empty (fun change _ bound => bound.changed change)
    (fun ended bound => bound.changed (ended.change : Change respond _ _ _))

theorem Run.dated {respond : Responder} {allowed : Network → Action → Prop} {network : Network}
    (run : Run respond allowed empty network) : network.Dated :=
  run.invariant Dated dated_empty (fun change _ dated => dated.changed change)
    (fun ended dated => dated.changed (ended.change : Change respond _ _ _))

end Network

end LedgerNode.Bus
