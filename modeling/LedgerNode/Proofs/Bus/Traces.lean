import LedgerNode.Proofs.Bus.Outcomes

set_option autoImplicit false

namespace LedgerNode.Bus

def Reception.message? : Reception → Option Parcel
  | message parcel => some parcel
  | _ => none

namespace Network

structure Step where
  before : Network
  action : Action
  after : Network

inductive Trace (respond : Responder) (start : Network) : List Step → Network → Prop where
  | start : Trace respond start [] start
  | next {steps : List Step} {network after : Network} (action : Action) :
      Trace respond start steps network → network.perform respond action = some after →
      Trace respond start (steps ++ [{ before := network, action, after }]) after

def publication? (respond : Responder) (network : Network) : Action → Option (String × Parcel)
  | .publish name message answers => some (name, { post := network.nextPost, answers, message })
  | .call client route payload _ =>
    (network.clients[client]?).map (fun owner =>
      (route, { post := network.nextPost, answers := none, message := owner.request payload }))
  | .answer id =>
    (network.jobs[id]?).bind (fun job =>
      if job.state = .ready then
        (respond job.server job.index job.request.message.payload).bind (fun payload =>
          job.request.message.replyTo.map (fun name =>
            (name, {
              post := network.nextPost
              answers := some job.request.post
              message := replyTo job.request.message payload })))
      else
        none)
  | _ => none

def handed? (respond : Responder) (network : Network) (action : Action) (id : QueueId) :
    Option Parcel :=
  (network.publication? respond action).bind (fun entry =>
    if network.broker.lookup? entry.1 = some id ∧ network.broker.isConsumed id = true then
      some entry.2
    else
      none)

def reader? (network : Network) : Action → Option QueueId
  | .receive queue => some queue
  | .dispatch id => (network.clients[id]?).map Client.inbox
  | .take id => (network.servers[id]?).map Server.inbox
  | _ => none

def drawn? (network : Network) (action : Action) (id : QueueId) : Option Parcel :=
  if network.reader? action = some id then (network.broker.receive id).1.message? else none

def isOver (network : Network) (post : PostId) : Bool :=
  network.calls.any (fun call => call.post == post && !call.state.isLive)

inductive Evolves (respond : Responder) (before : Network) (action : Action) (after : Network)
    (id : QueueId) (was : Queue) : Queue → Prop where
  | kept (silent : before.handed? respond action id = none)
      (unread : before.drawn? action id = none) :
      Evolves respond before action after id was was
  | handed {parcel : Parcel} (sends : before.handed? respond action id = some parcel)
      (unread : before.drawn? action id = none)
      (counted : after.nextPost = before.nextPost + 1) :
      Evolves respond before action after id was (was.enqueue parcel)
  | overtaken {parcel : Parcel} (sends : before.handed? respond action id = some parcel)
      (unread : before.drawn? action id = none)
      (counted : after.nextPost = before.nextPost + 1) (crowded : was.hasRoom = false)
      (past : after.isOver parcel.post = true) :
      Evolves respond before action after id was (was.abandon parcel.post)
  | drawn {parcel : Parcel} {rest : Queue} (silent : before.handed? respond action id = none)
      (reads : before.drawn? action id = some parcel) (taken : was.take? = some (parcel, rest)) :
      Evolves respond before action after id was rest
  | withdrawn {post : PostId} (silent : before.handed? respond action id = none)
      (unread : before.drawn? action id = none)
      (given : action = .abandon post ∨ after.isOver post = true) :
      Evolves respond before action after id was (was.abandon post)
  | left (leaving : before.Leaving action id) (silent : before.handed? respond action id = none)
      (unread : before.drawn? action id = none) :
      Evolves respond before action after id was was.dropConsumer

section Logs

variable {respond : Responder} {network : Network} {action : Action} {id : QueueId}

theorem handed?_of_publication? (id : QueueId) {name : String} {parcel : Parcel} {queue : QueueId}
    (published : network.publication? respond action = some (name, parcel))
    (bound : network.broker.lookup? name = some queue)
    (consumed : network.broker.isConsumed queue = true) :
    network.handed? respond action id = if id = queue then some parcel else none := by
  by_cases same : id = queue
  · subst same
    simp [handed?, published, bound, consumed]
  · simp [handed?, published, bound, same, Ne.symm same]

theorem handed?_of_failed {entry : String × Parcel} {error : BusError} {parcel : Parcel}
    (published : network.publication? respond action = some entry)
    (failed : network.broker.publish entry.1 parcel = .error error) :
    network.handed? respond action id = none := by
  unfold handed?
  rw [published, Option.bind_some, if_neg]
  rintro ⟨bound, consumed⟩
  have sent : network.broker.publish entry.1 parcel = .ok _ :=
    Broker.publish_eq_ok.mpr ⟨id, bound, consumed, rfl⟩
  cases sent.symm.trans failed

theorem drawn?_of_reader? (id : QueueId) {queue : QueueId}
    (reads : network.reader? action = some queue) :
    network.drawn? action id =
      if id = queue then (network.broker.receive queue).1.message? else none := by
  unfold drawn?
  rw [reads]
  by_cases same : id = queue
  · simp [same]
  · simp [same, Ne.symm same]

theorem message?_of_take? {queue : QueueId} {was rest : Queue} {parcel : Parcel}
    (found : network.broker.queue? queue = some was) (taken : was.take? = some (parcel, rest)) :
    (network.broker.receive queue).1.message? = some parcel := by
  simp [Broker.receive, found, taken, Reception.message?]

theorem handed?_spec {parcel : Parcel} (handed : network.handed? respond action id = some parcel) :
    ∃ name, network.publication? respond action = some (name, parcel) ∧
      network.broker.lookup? name = some id ∧ network.broker.isConsumed id = true := by
  obtain ⟨entry, published, handed⟩ := Option.bind_eq_some_iff.mp handed
  split at handed
  next bound =>
    cases handed
    exact ⟨entry.1, published, bound⟩
  next => cases handed

theorem post_of_publication? {name : String} {parcel : Parcel}
    (published : network.publication? respond action = some (name, parcel)) :
    parcel.post = network.nextPost := by
  cases action with
  | publish =>
    cases published
    rfl
  | call =>
    obtain ⟨owner, -, same⟩ := Option.map_eq_some_iff.mp published
    cases same
    rfl
  | answer =>
    obtain ⟨job, -, published⟩ := Option.bind_eq_some_iff.mp published
    split at published
    next =>
      obtain ⟨payload, -, published⟩ := Option.bind_eq_some_iff.mp published
      obtain ⟨name, -, same⟩ := Option.map_eq_some_iff.mp published
      cases same
      rfl
    next => cases published
  | _ => cases published

end Logs

section Evolution

variable {respond : Responder} {before after : Network} {action : Action} {id : QueueId}
  {was : Queue}

theorem evolves_update {place : QueueId} {change : Queue → Queue}
    (found : before.broker.queue? id = some was)
    (own : id = place → Evolves respond before action after id was (change was))
    (other : id ≠ place → Evolves respond before action after id was was) :
    ∃ now, (before.broker.update place change).queue? id = some now ∧
      Evolves respond before action after id was now := by
  rw [Broker.queue?_update, found]
  by_cases same : id = place
  · exact ⟨change was, by simp [same], own same⟩
  · exact ⟨was, by simp [same], other same⟩

theorem evolves_handed {name : String} {parcel : Parcel} {queue : QueueId}
    (found : before.broker.queue? id = some was)
    (published : before.publication? respond action = some (name, parcel))
    (bound : before.broker.lookup? name = some queue)
    (consumed : before.broker.isConsumed queue = true) (unread : before.reader? action = none)
    (counted : after.nextPost = before.nextPost + 1) :
    ∃ now, (before.broker.update queue (fun queue => queue.enqueue parcel)).queue? id = some now ∧
      Evolves respond before action after id was now := by
  have handed := handed?_of_publication? id published bound consumed
  have unread : before.drawn? action id = none := by simp [drawn?, unread]
  refine evolves_update found (fun same => ?_) (fun different => ?_)
  · rw [if_pos same] at handed
    exact .handed handed unread counted
  · rw [if_neg different] at handed
    exact .kept handed unread

theorem evolves_drawn {queue : QueueId} {there rest : Queue} {parcel : Parcel}
    (found : before.broker.queue? id = some was)
    (reads : before.reader? action = some queue) (silent : before.handed? respond action id = none)
    (source : before.broker.queue? queue = some there)
    (taken : there.take? = some (parcel, rest)) :
    ∃ now, (before.broker.update queue (fun _ => rest)).queue? id = some now ∧
      Evolves respond before action after id was now := by
  have drawn := drawn?_of_reader? id reads
  rw [message?_of_take? source taken] at drawn
  refine evolves_update found (fun same => ?_) (fun different => ?_)
  · rw [if_pos same] at drawn
    subst same
    obtain rfl := Option.some.inj (found.symm.trans source)
    exact .drawn silent drawn taken
  · rw [if_neg different] at drawn
    exact .kept silent drawn

theorem evolves_same (found : before.broker.queue? id = some was)
    (same : after.broker.queue? id = before.broker.queue? id)
    (silent : before.handed? respond action id = none)
    (unread : before.drawn? action id = none) :
    ∃ now, after.broker.queue? id = some now ∧ Evolves respond before action after id was now :=
  ⟨was, same.trans found, .kept silent unread⟩

theorem unread_of_leaving (respond : Responder) (id : QueueId) {queue : QueueId}
    (leaving : before.Leaving action queue) :
    before.handed? respond action id = none ∧ before.drawn? action id = none := by
  cases leaving with
  | dropped => exact ⟨rfl, rfl⟩
  | clientTold owned closed =>
    refine ⟨rfl, ?_⟩
    rw [drawn?_of_reader? id (by rw [reader?, owned]; rfl), closed]
    split <;> rfl
  | serverTold owned closed =>
    refine ⟨rfl, ?_⟩
    rw [drawn?_of_reader? id (by rw [reader?, owned]; rfl), closed]
    split <;> rfl
  | retired => exact ⟨rfl, rfl⟩

theorem Ending.over {network : Network} {call : Call} {state : CallState}
    (ending : network.Ending call state) : state.isLive = false := by
  cases ending <;> rfl

theorem EndedBy.withdrawn {place : CallId} {state : CallState}
    (ended : before.EndedBy place state after) :
    ∃ call, before.calls[place]? = some call ∧ after.isOver call.post = true ∧
      after.broker = before.broker.abandon call.post ∧ after.nextPost = before.nextPost := by
  obtain ⟨call, found, -, ending, rfl⟩ := ended
  refine ⟨call, found, ?_, by rw [endCall_frame found], by rw [endCall_frame found]⟩
  have now : (before.endCall place state).calls[place]? = some { call with state } := by
    simp [getElem?_calls_endCall found, found]
  refine List.any_eq_true.mpr ⟨_, List.mem_of_getElem? now, ?_⟩
  simp [ending.over]

theorem Change.evolves_call {client : ClientId} {route : String} {payload : Bytes}
    {timeout : Duration} (change : Change respond (.call client route payload timeout) before after)
    (found : before.broker.queue? id = some was) :
    ∃ now, after.broker.queue? id = some now ∧
      (now = was ∧ before.handed? respond (.call client route payload timeout) id = none ∨
        ∃ parcel, now = was.enqueue parcel ∧
          before.handed? respond (.call client route payload timeout) id = some parcel ∧
          after.nextPost = before.nextPost + 1) := by
  cases change with
  | launched owned bound consumed =>
    next owner queue =>
      let request : Parcel :=
        { post := before.nextPost, answers := none, message := owner.request payload }
      have published : before.publication? respond (.call client route payload timeout) =
          some (route, request) := by simp [publication?, owned, request]
      have handed := handed?_of_publication? id published bound consumed
      have counted := congrArg (· + 1) (nextPost_launched before client owner route timeout)
      by_cases same : id = queue
      · rw [if_pos same] at handed
        subst same
        refine ⟨was.enqueue request, ?_, .inr ⟨request, rfl, handed, counted⟩⟩
        simp [sent, found, request]
      · rw [if_neg same] at handed
        refine ⟨was, ?_, .inl ⟨rfl, handed⟩⟩
        simp [sent, found, same]
  | misfired owned failed =>
    refine ⟨was, by rw [broker_launched]; exact found, .inl ⟨rfl, ?_⟩⟩
    exact handed?_of_failed (by rw [publication?, owned]; rfl) failed
  | left leaving => cases leaving
  | ended ends => cases ends

theorem Change.evolves (change : Change respond action before after)
    (noRead : ∀ queue, action ≠ .receive queue) (found : before.broker.queue? id = some was) :
    ∃ now, after.broker.queue? id = some now ∧
      Evolves respond before action after id was now := by
  cases change with
  | idle => exact absurd rfl (noRead _)
  | received => exact absurd rfl (noRead _)
  | opened | connected =>
    refine evolves_same found ?_ rfl rfl
    exact (Broker.queue?_opened ..).trans (if_neg (Nat.ne_of_lt (Broker.queue?_lt found)))
  | published bound consumed => exact evolves_handed found rfl bound consumed rfl rfl
  | withdrew =>
    next post =>
      refine ⟨was.abandon post, ?_, .withdrawn rfl rfl (.inl rfl)⟩
      exact (Broker.queue?_abandon ..).trans (congrArg _ found)
  | left leaving =>
    obtain ⟨silent, unread⟩ := unread_of_leaving respond id leaving
    exact evolves_update found (fun same => .left (same ▸ leaving) silent unread)
      (fun _ => .kept silent unread)
  | unbound => exact evolves_same found (Broker.queue?_delete ..) rfl rfl
  | launched owned bound consumed =>
    obtain ⟨now, there, ⟨rfl, silent⟩ | ⟨parcel, rfl, sends, counted⟩⟩ :=
      Change.evolves_call (.launched owned bound consumed : Change respond _ before _) found
    · exact ⟨_, there, .kept silent rfl⟩
    · exact ⟨_, there, .handed sends rfl counted⟩
  | misfired owned failed =>
    obtain ⟨now, there, ⟨rfl, silent⟩ | ⟨parcel, rfl, sends, counted⟩⟩ :=
      Change.evolves_call (.misfired owned failed : Change respond _ before _) found
    · exact ⟨_, there, .kept silent rfl⟩
    · exact ⟨_, there, .handed sends rfl counted⟩
  | ended ends ended =>
    obtain ⟨place, call, state, there, ends'⟩ := ended
    obtain ⟨_, -, past, same, -⟩ := EndedBy.withdrawn ⟨call, there, ends'⟩
    have silent : before.handed? respond action id = none := by
      cases action <;> first | rfl | cases ends
    have unread : before.drawn? action id = none := by
      cases action <;> first | rfl | cases ends
    refine ⟨_, ?_, .withdrawn silent unread (.inr past)⟩
    rw [same, Broker.queue?_abandon, found]
    rfl
  | released => exact evolves_same found rfl rfl rfl
  | served => exact evolves_same found rfl rfl rfl
  | ticked => exact evolves_same found rfl rfl rfl
  | delivered owned there taken =>
    rw [broker_deliver]
    exact evolves_drawn found (by rw [reader?, owned]; rfl) rfl there taken
  | fetched owned there taken =>
    exact evolves_drawn found (by rw [reader?, owned]; rfl) rfl there taken
  | replied there ready worked named bound consumed =>
    refine evolves_handed found ?_ bound consumed rfl rfl
    simp [publication?, there, ready, worked, named]
  | @undeliverable _ _ job _ _ _ _ there ready named failed =>
    refine evolves_same found rfl ?_ rfl
    cases worked : respond job.server job.index job.request.message.payload with
    | none => simp [handed?, publication?, there, ready, worked]
    | some payload =>
      exact handed?_of_failed (by simp [publication?, there, ready, worked, named]; rfl) failed
  | silent there ready nothing =>
    refine evolves_same found rfl ?_ rfl
    rcases nothing with nothing | nothing
    · simp [handed?, publication?, there, ready, nothing]
    · simp [handed?, publication?, there, ready, nothing]
  | rejected => exact evolves_same found rfl rfl rfl
  | concluded => exact evolves_same found rfl rfl rfl

theorem evolves_of_receive {queue : QueueId} (found : before.broker.queue? id = some was) :
    ∃ now, (before.receive queue).2.broker.queue? id = some now ∧
      Evolves respond before (.receive queue) after id was now := by
  rcases before.receive_cases queue with ⟨there, parcel, rest, source, taken, result⟩ | ⟨same, nothing⟩
  · rw [result]
    exact evolves_drawn found rfl rfl source taken
  · have unread : before.drawn? (.receive queue) id = none := by
      rw [drawn?_of_reader? id (rfl : before.reader? (.receive queue) = some queue)]
      split
      next =>
        rcases nothing with empty | closed
        · rw [show (before.broker.receive queue).1 = .empty by simpa [receive] using empty]
          rfl
        · rw [closed]
          rfl
      next => rfl
    exact ⟨was, by rw [same]; exact found, .kept rfl unread⟩

theorem evolves_of_perform (performed : before.perform respond action = some after)
    (found : before.broker.queue? id = some was) :
    ∃ now, after.broker.queue? id = some now ∧
      Evolves respond before action after id was now := by
  by_cases receives : ∃ queue, action = .receive queue
  · obtain ⟨queue, rfl⟩ := receives
    simp only [perform] at performed
    split at performed
    next =>
      cases performed
      exact evolves_of_receive found
    next => cases performed
  · obtain ⟨middle, change, rfl | ⟨client, route, payload, timeout, state, rfl, -, ends⟩⟩ :=
      change_of_perform performed
    · exact change.evolves (fun queue same => receives ⟨queue, same⟩) found
    · -- What a call hands over is given up again if the call ends in the same step.
      obtain ⟨now, there, outcome⟩ := change.evolves_call found
      obtain ⟨call, started, past, broker, counted⟩ := ends.withdrawn
      have later : after.broker.queue? id = some (now.abandon call.post) := by
        rw [broker, Broker.queue?_abandon, there]
        rfl
      have absent : before.issued[before.calls.length]? = none := by simp [issued]
      obtain ⟨_, _, _, _, _, -, -, issue⟩ :=
        change.recorded.issued_new absent (issued_of_getElem? started)
      have post : call.post = before.nextPost := congrArg Call.post issue
      rcases outcome with ⟨rfl, silent⟩ | ⟨parcel, rfl, sends, more⟩
      · exact ⟨_, later, .withdrawn silent rfl (.inr past)⟩
      · obtain ⟨_, published, -⟩ := handed?_spec sends
        have same : parcel.post = call.post := (post_of_publication? published).trans post.symm
        rw [← same] at later past
        by_cases room : was.hasRoom = true
        · rw [Queue.abandon_enqueue_of_hasRoom room] at later
          exact ⟨_, later, .handed sends rfl (counted.trans more)⟩
        · have crowded : was.hasRoom = false := by simpa using room
          rw [Queue.abandon_enqueue_of_crowded crowded] at later
          exact ⟨_, later, .overtaken sends rfl (counted.trans more) crowded past⟩

end Evolution

theorem isWaiting_iff {broker : Broker} {post : PostId} :
    broker.isWaiting post = true ↔
      ∃ id queue, broker.queue? id = some queue ∧ ∃ parcel ∈ queue.waiting, parcel.post = post := by
  simp only [Broker.isWaiting, Queue.isWaiting, List.any_eq_true, beq_iff_eq]
  constructor
  · rintro ⟨queue, member, waits⟩
    obtain ⟨id, found⟩ := List.getElem?_of_mem member
    exact ⟨id, queue, found, waits⟩
  · rintro ⟨id, queue, found, waits⟩
    exact ⟨queue, List.mem_of_getElem? found, waits⟩

theorem Handles.waiting {respond : Responder} {before after : Network} {action : Action}
    {id : QueueId} {was now : Queue} (handled : Handles respond before after action id was now)
    {parcel : Parcel} (waits : parcel ∈ now.waiting) :
    parcel ∈ was.waiting ∨ parcel.post = before.nextPost := by
  cases handled with
  | kept => exact .inl waits
  | sent sends =>
    unfold Queue.enqueue at waits
    split at waits
    next => exact .inl waits
    next =>
      rcases List.mem_append.mp waits with there | last
      · exact .inl there
      · obtain rfl := List.mem_singleton.mp last
        exact .inr sends.post
  | drawn _ taken =>
    unfold Queue.take? at taken
    split at taken
    next => cases taken
    next =>
      cases taken
      unfold Queue.fillSlot at waits
      split at waits
      next => exact .inl waits
      next more =>
        split at waits
        next => exact .inl (more ▸ List.mem_cons_of_mem _ waits)
        next => exact .inl waits
  | withdrawn => exact .inl (List.mem_filter.mp waits).1
  | left => cases waits

theorem isWaiting_abandon (broker : Broker) (post : PostId) :
    (broker.abandon post).isWaiting post = false := by
  by_contra waits
  obtain ⟨id, queue, found, parcel, there, same⟩ := isWaiting_iff.mp (by simpa using waits)
  rw [Broker.queue?_abandon] at found
  obtain ⟨was, -, rfl⟩ := Option.map_eq_some_iff.mp found
  simpa [same] using (List.mem_filter.mp there).2

theorem isOver_iff {network : Network} {post : PostId} :
    network.isOver post = true ↔ ∃ (id : CallId) (call : Call), network.calls[id]? = some call ∧
      call.post = post ∧ call.state.isLive = false := by
  simp only [isOver, List.any_eq_true, Bool.and_eq_true, beq_iff_eq, Bool.not_eq_true']
  constructor
  · rintro ⟨call, member, past⟩
    obtain ⟨id, found⟩ := List.getElem?_of_mem member
    exact ⟨id, call, found, past⟩
  · rintro ⟨id, call, found, past⟩
    exact ⟨call, List.mem_of_getElem? found, past⟩

theorem Numbered.over_of_isOver {network : Network} (numbered : network.Numbered) {id : CallId}
    {call : Call} (found : network.calls[id]? = some call)
    (past : network.isOver call.post = true) : call.state.isLive = false := by
  -- A post stands for one call, so what is told of the post is told of the call.
  obtain ⟨other, record, there, same, gone⟩ := isOver_iff.mp past
  obtain rfl := numbered.eq_of_post (issued_of_getElem? there) (issued_of_getElem? found) same
  obtain rfl := Option.some.inj (found.symm.trans there)
  exact gone

def Withdrawn (network : Network) : Prop :=
  ∀ post, network.isOver post = true → network.broker.isWaiting post = false

theorem Withdrawn.changed {respond : Responder} {action : Action} {before after : Network}
    (withdrawn : before.Withdrawn) (numbered : before.Numbered)
    (change : Change respond action before after) : after.Withdrawn := by
  intro post past
  obtain ⟨place, call, found, rfl, finished⟩ := isOver_iff.mp past
  cases there : before.calls[place]? with
  | none =>
    rcases change.started_state there found with outstanding | ⟨lost, -⟩
    · rw [outstanding] at finished
      cases finished
    · rw [lost] at finished
      cases finished
  | some old =>
    obtain ⟨state, same, -⟩ := change.proceeds there
    obtain rfl := Option.some.inj (found.symm.trans same)
    by_cases live : old.state.isLive = true
    · obtain ⟨-, _, -, -, -, result⟩ := change.endedBy there found live finished
      rw [result, endCall_frame there]
      exact isWaiting_abandon before.broker old.post
    · have was : before.broker.isWaiting old.post = false :=
        withdrawn old.post (isOver_iff.mpr ⟨place, old, there, rfl, by simpa using live⟩)
      by_contra waits
      obtain ⟨id, now, known, parcel, waits, post⟩ := isWaiting_iff.mp (by simpa using waits)
      cases earlier : before.broker.queue? id with
      | none =>
        obtain ⟨_, _, -, -, rfl⟩ := change.creates earlier known
        cases waits
      | some queue =>
        obtain ⟨_, same, handled⟩ := change.handles earlier
        obtain rfl := Option.some.inj (known.symm.trans same)
        -- What comes in has a number that no call has yet.
        rcases handled.waiting waits with waited | fresh
        · have waiting := isWaiting_iff.mpr ⟨id, queue, earlier, parcel, waited, post⟩
          cases waiting.symm.trans was
        · have issue := List.mem_of_getElem? (issued_of_getElem? there)
          have posted := numbered.posted old.issue issue
          exact Nat.ne_of_lt posted (post.symm.trans fresh)

theorem Run.withdrawn {respond : Responder} {allowed : Network → Action → Prop}
    {network : Network} (run : Run respond allowed empty network) : network.Withdrawn := by
  have both : network.Numbered ∧ network.Withdrawn := by
    apply run.invariant (fun network => network.Numbered ∧ network.Withdrawn)
    · exact ⟨numbered_empty, fun _ past => by cases past⟩
    · intro action before after change _ ⟨numbered, withdrawn⟩
      exact ⟨numbered.recorded change.recorded, withdrawn.changed numbered change⟩
    · intro before after ended ⟨numbered, withdrawn⟩
      have change : Change respond (.abort 0) before after := ended.change
      exact ⟨numbered.recorded change.recorded, withdrawn.changed numbered change⟩
  exact both.2

theorem nextPost_of_perform {respond : Responder} {before after : Network} {action : Action}
    (performed : before.perform respond action = some after) :
    before.nextPost ≤ after.nextPost := by
  obtain ⟨middle, change, rfl | ⟨_, _, _, _, _, -, -, ends⟩⟩ := change_of_perform performed
  · exact change.nextPost
  · obtain ⟨_, -, -, -, counted⟩ := ends.withdrawn
    exact counted ▸ change.nextPost

theorem creates_of_perform {respond : Responder} {before after : Network} {action : Action}
    {id : QueueId} {now : Queue} (performed : before.perform respond action = some after)
    (absent : before.broker.queue? id = none) (found : after.broker.queue? id = some now) :
    ∃ name capacity, now = Queue.create name capacity := by
  obtain ⟨middle, change, rfl | ⟨_, _, _, _, _, -, -, ends⟩⟩ := change_of_perform performed
  · obtain ⟨name, capacity, -, -, same⟩ := change.creates absent found
    exact ⟨name, capacity, same⟩
  · obtain ⟨_, -, -, broker, -⟩ := ends.withdrawn
    rw [broker, Broker.queue?_abandon] at found
    obtain ⟨was, there, rfl⟩ := Option.map_eq_some_iff.mp found
    obtain ⟨name, capacity, -, -, rfl⟩ := change.creates absent there
    exact ⟨name, capacity, rfl⟩

theorem Trace.trans {respond : Responder} {start middle network : Network}
    {first second : List Step} (earlier : Trace respond start first middle)
    (later : Trace respond middle second network) :
    Trace respond start (first ++ second) network := by
  induction later with
  | start => simpa using earlier
  | next action _ performed ih => simpa using ih.next action performed

def record (respond : Responder) : List Action → Network → Option (List Step × Network)
  | [], network => some ([], network)
  | action :: rest, network =>
    (network.perform respond action).bind (fun after =>
      (record respond rest after).map (fun later =>
        ({ before := network, action, after } :: later.1, later.2)))

theorem trace_of_record {respond : Responder} {actions : List Action} {start network : Network}
    {steps : List Step} (recorded : record respond actions start = some (steps, network)) :
    Trace respond start steps network := by
  induction actions generalizing start steps with
  | nil =>
    cases recorded
    exact .start
  | cons action rest ih =>
    obtain ⟨after, performed, recorded⟩ := Option.bind_eq_some_iff.mp recorded
    obtain ⟨both, rest, same⟩ := Option.map_eq_some_iff.mp recorded
    cases same
    exact (Trace.start.next action performed).trans (ih rest)

theorem Trace.run {respond : Responder} {start network : Network} {steps : List Step}
    (trace : Trace respond start steps network) :
    Run respond (fun _ _ => True) start network := by
  induction trace with
  | start => exact .start
  | next action _ performed ih => exact ih.next action trivial performed

theorem Run.trace {respond : Responder} {allowed : Network → Action → Prop}
    {start network : Network} (run : Run respond allowed start network) :
    ∃ steps, Trace respond start steps network ∧
      ∀ step ∈ steps, allowed step.before step.action := by
  induction run with
  | start => exact ⟨[], .start, by simp⟩
  | next action _ fine performed ih =>
    obtain ⟨steps, trace, all⟩ := ih
    refine ⟨_, trace.next action performed, fun step member => ?_⟩
    rcases List.mem_append.mp member with earlier | last
    · exact all step earlier
    · obtain rfl := List.mem_singleton.mp last
      exact fine

theorem Trace.not_aborted {respond : Responder} {allowed : Network → Action → Prop}
    {start network : Network} {steps : List Step} (prior : Run respond allowed empty start)
    (trace : Trace respond start steps network) {id : CallId}
    (kept : ∀ step ∈ steps, step.action ≠ .abort id) (absent : start.calls[id]? = none)
    {call : Call} (found : network.calls[id]? = some call) : call.state ≠ .aborted := by
  induction trace generalizing call with
  | start => cases absent.symm.trans found
  | @next steps before after action trace performed ih =>
    have other := kept _ (List.mem_append_right _ List.mem_cons_self)
    have ih := @ih (fun step member => kept step (List.mem_append_left _ member))
    cases there : before.calls[id]? with
    | some was => exact not_aborted_of_perform performed other there (ih there) found
    | none =>
      have run : Run respond (fun _ _ => True) empty before :=
        (prior.mono (fun _ _ _ => trivial)).trans trace.run
      obtain ⟨_, _, _, _, _, -, -, -, outstanding | ⟨_, -, -, -, proper⟩⟩ :=
        started_of_perform performed run.registered there found
      · rw [outstanding]
        simp
      · exact proper

theorem Trace.isHeld {respond : Responder} {start network : Network} {steps : List Step}
    (trace : Trace respond start steps network) {client : ClientId}
    (kept : ∀ step ∈ steps, step.action ≠ .dropClient client)
    (held : start.isHeld client = true) : network.isHeld client = true := by
  induction trace with
  | start => exact held
  | next action _ performed ih =>
    have ih := ih (fun step member => kept step (List.mem_append_left _ member))
    exact isHeld_of_perform performed (kept _ (List.mem_append_right _ List.mem_cons_self)) ih

theorem Trace.around {respond : Responder} {start network : Network} {steps : List Step}
    {step : Step} (trace : Trace respond start steps network) (member : step ∈ steps) :
    Run respond (fun _ _ => True) start step.before ∧
      Run respond (fun _ _ => True) step.before network := by
  induction trace with
  | start => cases member
  | next action trace performed ih =>
    rcases List.mem_append.mp member with earlier | last
    · obtain ⟨front, back⟩ := ih earlier
      exact ⟨front, back.next action trivial performed⟩
    · obtain rfl := List.mem_singleton.mp last
      exact ⟨trace.run, .next action .start trivial performed⟩

theorem Trace.split {respond : Responder} {start network : Network} {steps : List Step}
    {step : Step} (trace : Trace respond start steps network) (member : step ∈ steps) :
    ∃ front back, steps = front ++ [step] ++ back ∧ Trace respond start front step.before ∧
      step.before.perform respond step.action = some step.after ∧
      Trace respond step.after back network := by
  induction trace with
  | start => cases member
  | next action trace performed ih =>
    rcases List.mem_append.mp member with earlier | last
    · obtain ⟨front, back, rfl, first, done, rest⟩ := ih earlier
      exact ⟨front, _, (List.append_assoc ..).trans rfl, first, done, rest.next action performed⟩
    · obtain rfl := List.mem_singleton.mp last
      exact ⟨_, [], (List.append_nil _).symm, trace, performed, .start⟩

theorem Run.nextPost {respond : Responder} {allowed : Network → Action → Prop}
    {start network : Network} (run : Run respond allowed start network) :
    start.nextPost ≤ network.nextPost := by
  induction run with
  | start => exact Nat.le_refl _
  | next action _ _ performed ih => exact Nat.le_trans ih (nextPost_of_perform performed)

end Network

end LedgerNode.Bus
