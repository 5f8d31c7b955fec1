import LedgerNode.Proofs.Bus.Endings

set_option autoImplicit false

namespace LedgerNode.Bus

def CallState.isUndeliverable : CallState → Bool
  | failed (.noSuchQueue _) | failed (.queueClosed _) => true
  | _ => false

theorem CallState.isLive_of_isUndeliverable {state : CallState}
    (undeliverable : state.isUndeliverable = true) : state.isLive = false := by
  cases state <;> first | rfl | cases undeliverable

namespace Network

def Step.reading? (step : Step) : Option Parcel :=
  (step.before.reader? step.action).bind (step.before.drawn? step.action)

def readings (steps : List Step) : List Parcel :=
  steps.filterMap Step.reading?

theorem readings_concat (steps : List Step) (step : Step) :
    readings (steps ++ [step]) = readings steps ++ step.reading?.toList := by
  cases read : step.reading? <;> simp [readings, read]

theorem drawn?_eq_some {network : Network} {action : Action} {id : QueueId} {parcel : Parcel} :
    network.drawn? action id = some parcel ↔
      network.reader? action = some id ∧
        (network.broker.receive id).1.message? = some parcel := by
  unfold drawn?
  split <;> simp_all

theorem mem_readings (respond : Responder) {steps : List Step} {parcel : Parcel} :
    parcel ∈ readings steps ↔ ∃ id, parcel ∈ (ledger respond steps id).received := by
  simp only [readings, Step.reading?, ledger, List.mem_filterMap, Option.bind_eq_some_iff]
  constructor
  · rintro ⟨step, member, id, -, drawn⟩
    exact ⟨id, step, member, drawn⟩
  · rintro ⟨id, step, member, drawn⟩
    exact ⟨step, member, id, (drawn?_eq_some.mp drawn).1, drawn⟩

section Books

variable {respond : Responder} {steps : List Step} {network : Network} {id : QueueId}
  {parcel : Parcel}

theorem Trace.received_accepted (trace : Trace respond empty steps network)
    (received : parcel ∈ (Network.ledger respond steps id).received) :
    parcel ∈ (Network.ledger respond steps id).accepted := by
  cases found : network.broker.queue? id with
  | none => simp [trace.ledger.2 id found, Ledger.blank] at received
  | some queue => exact (trace.ledger.1 id queue found).taken.subset received

theorem Trace.accepted_arrived (trace : Trace respond empty steps network)
    (accepted : parcel ∈ (Network.ledger respond steps id).accepted) :
    parcel ∈ (Network.ledger respond steps id).arrived := by
  cases found : network.broker.queue? id with
  | none => simp [trace.ledger.2 id found, Ledger.blank] at accepted
  | some queue =>
    exact (trace.ledger.1 id queue found).stays.subset (List.mem_append_left _ accepted)

theorem Trace.received_distinct (trace : Trace respond empty steps network) (id : QueueId) :
    ((Network.ledger respond steps id).received.map Parcel.post).Nodup := by
  cases found : network.broker.queue? id with
  | none => simp [trace.ledger.2 id found, Ledger.blank]
  | some queue =>
    have balanced := trace.ledger.1 id queue found
    have all := balanced.distinct
    rw [List.map_append] at all
    exact (List.nodup_append.mp all).1.sublist (balanced.taken.sublist.map _)

theorem Trace.readings_once (trace : Trace respond empty steps network) :
    ((readings steps).map Parcel.post).Nodup := by
  induction trace with
  | start => exact List.nodup_nil
  | @next steps before after action trace performed ih =>
    have whole := trace.next action performed
    rw [readings_concat]
    cases read : Step.reading? ⟨before, action, after⟩ with
    | none => simpa using ih
    | some parcel =>
      obtain ⟨id, -, drawn⟩ := Option.bind_eq_some_iff.mp read
      have last : (Network.ledger respond (steps ++ [⟨before, action, after⟩]) id).received =
          (Network.ledger respond steps id).received ++ [parcel] := by
        rw [ledger_concat, drawn]
        rfl
      -- A message arrives in one queue only, so a second reading of it would be in the same queue.
      have new : parcel.post ∉ (readings steps).map Parcel.post := by
        intro earlier
        obtain ⟨other, there, same⟩ := List.mem_map.mp earlier
        obtain ⟨place, received⟩ := (mem_readings respond).mp there
        have kept : other ∈
            (Network.ledger respond (steps ++ [⟨before, action, after⟩]) place).received := by
          rw [ledger_concat]
          exact List.mem_append_left _ received
        have here : parcel ∈
            (Network.ledger respond (steps ++ [⟨before, action, after⟩]) id).received := by
          simp [last]
        obtain rfl := whole.arrived_once (whole.received kept).1 (whole.received here).1 same
        have distinct := whole.received_distinct place
        rw [last, List.map_append, List.nodup_append] at distinct
        exact distinct.2.2 _ (List.mem_map_of_mem received) _ (by simp) same
      simp only [Option.toList_some, List.map_append, List.map_cons, List.map_nil]
      exact List.nodup_append.mpr ⟨ih, by simp, by
        intro post earlier other only same
        simp only [List.mem_singleton] at only
        exact new (only ▸ same ▸ earlier)⟩

end Books

section Sources

variable {respond : Responder} {before after : Network} {action : Action} {id : QueueId}
  {was now : Queue} {parcel : Parcel}

theorem Evolves.waits (evolves : Evolves respond before action after id was now)
    (waits : parcel ∈ now.waiting) :
    parcel ∈ was.waiting ∨ before.handed? respond action id = some parcel := by
  cases evolves with
  | kept => exact .inl waits
  | handed sends =>
    unfold Queue.enqueue at waits
    split at waits
    next => exact .inl waits
    next => simpa [sends, eq_comm] using waits
  | overtaken | withdrawn => exact .inl (List.mem_filter.mp waits).1
  | drawn _ _ taken =>
    unfold Queue.take? Queue.fillSlot at taken
    left
    grind [Queue.accept]
  | left => cases waits

theorem Evolves.accepts (evolves : Evolves respond before action after id was now)
    (accepted : parcel ∈ now.buffer) :
    parcel ∈ was.buffer ∨ parcel ∈ was.waiting ∨
      before.handed? respond action id = some parcel ∧ was.hasRoom = true := by
  cases evolves with
  | kept => exact .inl accepted
  | handed sends =>
    unfold Queue.enqueue at accepted
    split at accepted
    next room =>
      rcases List.mem_append.mp accepted with there | new
      · exact .inl there
      · obtain rfl := List.mem_singleton.mp new
        exact .inr (.inr ⟨sends, room⟩)
    next => exact .inl accepted
  | overtaken | withdrawn => exact .inl accepted
  | drawn _ _ taken =>
    unfold Queue.take? Queue.fillSlot at taken
    grind [Queue.accept]
  | left => cases accepted

theorem Step.accepted_source {step : Step}
    (performed : step.before.perform respond step.action = some step.after)
    (accepted : parcel ∈ step.accepted id) :
    ∃ was, step.before.broker.queue? id = some was ∧ (parcel ∈ was.waiting ∨
      step.before.handed? respond step.action id = some parcel ∧ was.hasRoom = true) := by
  obtain ⟨there, new⟩ := List.mem_filter.mp accepted
  unfold bufferOf at there new
  cases found : step.before.broker.queue? id with
  | none =>
    cases later : step.after.broker.queue? id with
    | none => simp [later] at there
    | some now =>
      obtain ⟨name, capacity, rfl⟩ := creates_of_perform performed found later
      simp [later, Queue.create] at there
  | some was =>
    obtain ⟨now, later, evolves⟩ := evolves_of_perform performed found
    simp only [found, later, Option.map_some, Option.getD_some, decide_eq_true_eq] at there new
    exact ⟨was, rfl, (evolves.accepts there).resolve_left new⟩

theorem waiting_source (performed : before.perform respond action = some after) {post : PostId}
    (waits : after.broker.isWaiting post = true) :
    before.broker.isWaiting post = true ∨
      ∃ id parcel, before.handed? respond action id = some parcel ∧ parcel.post = post := by
  obtain ⟨id, now, later, parcel, there, rfl⟩ := isWaiting_iff.mp waits
  cases found : before.broker.queue? id with
  | none =>
    obtain ⟨name, capacity, rfl⟩ := creates_of_perform performed found later
    cases there
  | some was =>
    obtain ⟨_, same, evolves⟩ := evolves_of_perform performed found
    obtain rfl := Option.some.inj (later.symm.trans same)
    rcases evolves.waits there with waited | handed
    · exact .inl (isWaiting_iff.mpr ⟨id, was, found, parcel, waited, rfl⟩)
    · exact .inr ⟨id, parcel, handed, rfl⟩

theorem post_of_handed? (handed : before.handed? respond action id = some parcel) :
    parcel.post = before.nextPost := by
  obtain ⟨name, published, -⟩ := handed?_spec handed
  exact post_of_publication? published

end Sources

/-- A message that was posted, waits for no slot and was accepted by no queue. -/
structure Lost (respond : Responder) (steps : List Step) (network : Network) (post : PostId) :
    Prop where
  posted : post < network.nextPost
  withdrawn : network.broker.isWaiting post = false
  unaccepted : ∀ id, ∀ parcel ∈ (ledger respond steps id).accepted, parcel.post ≠ post

section Losses

variable {respond : Responder} {steps earlier later : List Step}
  {before after middle network : Network} {action : Action} {post : PostId}

theorem Lost.unread (lost : Lost respond steps network post)
    (trace : Trace respond empty steps network) : ∀ parcel ∈ readings steps, parcel.post ≠ post := by
  intro parcel read
  obtain ⟨id, received⟩ := (mem_readings respond).mp read
  exact lost.unaccepted id parcel (trace.received_accepted received)

theorem mem_accepted_concat {step : Step} {id : QueueId} {parcel : Parcel} :
    parcel ∈ (ledger respond (steps ++ [step]) id).accepted ↔
      parcel ∈ (ledger respond steps id).accepted ∨ parcel ∈ step.accepted id := by
  rw [ledger_concat]
  exact List.mem_append

theorem Lost.next (lost : Lost respond steps before post)
    (performed : before.perform respond action = some after) :
    Lost respond (steps ++ [⟨before, action, after⟩]) after post where
  posted := Nat.lt_of_lt_of_le lost.posted (nextPost_of_perform performed)
  withdrawn := by
    by_contra waits
    rcases waiting_source performed (by simpa using waits) with waited | ⟨id, parcel, handed, rfl⟩
    · exact Bool.noConfusion (lost.withdrawn.symm.trans waited)
    · exact Nat.ne_of_lt lost.posted (post_of_handed? handed)
  unaccepted := by
    intro id parcel accepted
    rcases mem_accepted_concat.mp accepted with earlier | now
    · exact lost.unaccepted id parcel earlier
    · rintro rfl
      obtain ⟨was, found, waited | ⟨handed, -⟩⟩ := Step.accepted_source performed now
      · have waiting := isWaiting_iff.mpr ⟨id, was, found, parcel, waited, rfl⟩
        exact Bool.noConfusion (lost.withdrawn.symm.trans waiting)
      · exact Nat.ne_of_lt lost.posted (post_of_handed? handed)

theorem Lost.mono (lost : Lost respond earlier middle post)
    (trace : Trace respond middle later network) :
    Lost respond (earlier ++ later) network post := by
  induction trace with
  | start => simpa using lost
  | next action trace performed ih =>
    rw [← List.append_assoc]
    exact ih.next performed

theorem lost_of_waiting (trace : Trace respond empty steps before)
    (performed : before.perform respond action = some after) {id : QueueId} {queue : Queue}
    {parcel : Parcel} (found : before.broker.queue? id = some queue)
    (waits : parcel ∈ queue.waiting) (gone : after.broker.isWaiting parcel.post = false)
    (absent : ∀ other ∈ after.bufferOf id, other.post ≠ parcel.post) :
    Lost respond (steps ++ [⟨before, action, after⟩]) after parcel.post := by
  have whole := trace.next action performed
  have arrived := trace.arrived_of_waiting found waits
  refine ⟨?_, gone, ?_⟩
  · exact Nat.lt_of_lt_of_le (trace.arrived_below arrived) (nextPost_of_perform performed)
  · intro place other accepted same
    obtain rfl := whole.arrived_once (whole.accepted_arrived accepted) (arrived_concat arrived) same
    rcases mem_accepted_concat.mp accepted with earlier | now
    · -- A queue keeps what it accepted and what waits apart, so what waits was not accepted before.
      have distinct := (trace.ledger.1 place queue found).distinct
      rw [List.map_append, List.nodup_append] at distinct
      exact distinct.2.2 _ (List.mem_map_of_mem earlier) _ (List.mem_map_of_mem waits) same
    · exact absent other (List.mem_filter.mp now).1 same

theorem Trace.lost_of_refused (trace : Trace respond empty steps network)
    (refused : network.broker.isRefused post = true) : Lost respond steps network post := by
  induction trace with
  | start => cases refused
  | @next steps before after action trace performed ih =>
    rcases refused_of_perform performed refused with earlier |
      ⟨id, queue, parcel, found, waits, rfl, now, known, deserted⟩
    · exact (ih earlier).next performed
    · -- The consumer of the only queue that it came to is gone, and with it all that was there.
      have whole := trace.next action performed
      obtain ⟨buffer, nobody⟩ := (whole.ledger.1 id now known).gone deserted
      refine lost_of_waiting trace performed found waits ?_ ?_
      · by_contra still
        obtain ⟨place, other, there, waiter, waits', same⟩ :=
          isWaiting_iff.mp (by simpa using still)
        have arrived := trace.arrived_of_waiting found waits
        obtain rfl := whole.arrived_once (whole.arrived_of_waiting there waits')
          (arrived_concat arrived) same
        obtain rfl := Option.some.inj (known.symm.trans there)
        simp [nobody] at waits'
      · simp [bufferOf, known, buffer]

theorem over_not_waiting (trace : Trace respond empty steps network) {id : CallId} {call : Call}
    (found : network.calls[id]? = some call) (past : call.state.isLive = false) :
    network.broker.isWaiting call.post = false :=
  trace.run.withdrawn _ (isOver_iff.mpr ⟨id, call, found, rfl, past⟩)

theorem lost_of_ended (trace : Trace respond empty steps before)
    (performed : before.perform respond action = some after) {id : CallId} {call now : Call}
    (found : before.calls[id]? = some call) (later : after.calls[id]? = some now)
    (live : call.state.isLive = true) (past : now.state.isLive = false)
    (waits : before.broker.isWaiting call.post = true) :
    Lost respond (steps ++ [⟨before, action, after⟩]) after call.post := by
  obtain ⟨place, queue, there, parcel, waiting, same⟩ := isWaiting_iff.mp waits
  obtain ⟨-, result⟩ := verdict_of_perform performed found later live past
  have broker : after.broker = before.broker.abandon call.post := by
    rw [result, endCall_frame found]
  rw [← same] at broker ⊢
  apply lost_of_waiting trace performed there waiting
  · rw [broker]
    exact isWaiting_abandon ..
  · intro other member
    have buffered : other ∈ queue.buffer := by
      simpa [bufferOf, broker, there, Queue.abandon] using member
    exact (trace.ledger.1 place queue there).apart buffered waiting

theorem lost_of_unsent (trace : Trace respond empty steps before)
    (performed : before.perform respond action = some after) {id : CallId} {call : Call}
    (absent : before.calls[id]? = none) (found : after.calls[id]? = some call)
    (past : call.state.isLive = false)
    (full : ∀ (queue : QueueId) (was : Queue), before.broker.lookup? call.route = some queue →
      before.broker.queue? queue = some was → was.consumed = true → was.hasRoom = false) :
    Lost respond (steps ++ [⟨before, action, after⟩]) after call.post := by
  have whole := trace.next action performed
  obtain ⟨client, owner, route, payload, timeout, rfl, owned, -, issue, -⟩ :=
    trace.run.launch performed absent found
  have post : call.post = before.nextPost := congrArg Call.post issue
  have routed : call.route = route := congrArg Call.route issue
  refine ⟨?_, over_not_waiting whole found past, ?_⟩
  · have posted := whole.run.numbered.posted _ (List.mem_of_getElem? (issued_of_getElem? found))
    exact posted
  · intro place parcel accepted same
    have used {parcel : Parcel} (arrived : parcel ∈ (Network.ledger respond steps place).arrived) :
        parcel.post ≠ call.post := by
      rw [post]
      exact Nat.ne_of_lt (trace.arrived_below arrived)
    rcases mem_accepted_concat.mp accepted with earlier | now
    · exact used (trace.accepted_arrived earlier) same
    · obtain ⟨was, there, waited | ⟨handed, room⟩⟩ := Step.accepted_source performed now
      · exact used (trace.arrived_of_waiting there waited) same
      · obtain ⟨name, published, bound, consumed⟩ := handed?_spec handed
        simp only [publication?, owned, Option.map_some, Option.some.injEq, Prod.mk.injEq]
          at published
        rw [← published.1, ← routed] at bound
        have consumed : was.consumed = true := by
          simpa [Broker.isConsumed, there] using consumed
        exact Bool.noConfusion ((full place was bound there consumed).symm.trans room)

theorem Trace.issue_eq (trace : Trace respond middle steps network) {id : CallId} {was call : Call}
    (found : middle.calls[id]? = some was) (later : network.calls[id]? = some call) :
    was.issue = call.issue :=
  Option.some.inj ((trace.run.issued_mono (issued_of_getElem? found)).symm.trans
    (issued_of_getElem? later))

theorem Trace.lost_of_undeliverable (trace : Trace respond empty steps network) {id : CallId}
    {call : Call} (found : network.calls[id]? = some call)
    (state : call.state.isUndeliverable = true) : Lost respond steps network call.post := by
  induction trace generalizing call with
  | start => cases found
  | @next steps before after action trace performed ih =>
    have past := CallState.isLive_of_isUndeliverable state
    cases there : before.calls[id]? with
    | none =>
      obtain ⟨client, owner, route, payload, timeout, -, -, -, issue, launch⟩ :=
        trace.run.launch performed there found
      have routed : call.route = route := congrArg Call.route issue
      generalize call.state = result at state launch
      cases launch with
      | underway => cases state
      | late => cases state
      | unsent failed =>
        apply lost_of_unsent trace performed there found past
        intro queue was bound known consumed
        have consumed : before.broker.isConsumed queue = true := by
          simp [Broker.isConsumed, known, consumed]
        rw [routed] at bound
        cases failed.symm.trans (Broker.publish_eq_ok.mpr ⟨queue, bound, consumed, rfl⟩)
    | some was =>
      by_cases live : was.state.isLive = true
      · have issue := (Trace.start.next action performed).issue_eq there found
        have same : was.post = call.post := Call.post_of_issue issue
        obtain ⟨verdict, -⟩ := verdict_of_perform performed there found live past
        rw [← same]
        generalize call.state = result at state verdict
        cases verdict with
        | refused _ refused => exact (trace.lost_of_refused refused).next performed
        | _ => cases state
      · -- A call that is over stays as it is, so it was undeliverable before the step.
        have kept := over_of_perform performed there (by simpa using live)
        obtain rfl := Option.some.inj (found.symm.trans kept)
        exact (ih there state).next performed

end Losses

def Step.starts (step : Step) (id : CallId) (call : Call) : Prop :=
  id = step.before.calls.length ∧
    ∃ payload, step.action = .call call.client call.route payload call.timeout

section Requests

variable {respond : Responder} {steps : List Step} {start network : Network} {id : CallId}
  {call : Call} {queue : QueueId} {parcel : Parcel}

theorem Trace.nextPost_le (prior : Run respond (fun _ _ => True) empty start)
    (trace : Trace respond start steps network) (absent : start.calls[id]? = none)
    (found : network.calls[id]? = some call) : start.nextPost ≤ call.post := by
  induction trace generalizing call with
  | start => cases absent.symm.trans found
  | @next steps before after action trace performed ih =>
    cases there : before.calls[id]? with
    | some was =>
      have issue := (Trace.start.next action performed).issue_eq there found
      have same : was.post = call.post := Call.post_of_issue issue
      exact same ▸ ih there
    | none =>
      obtain ⟨_, _, _, _, _, -, -, -, issue, -⟩ :=
        (prior.trans trace.run).launch performed there found
      have post : call.post = before.nextPost := congrArg Call.post issue
      exact post ▸ trace.run.nextPost

theorem nextPost_of_handed? {before after : Network} {action : Action}
    (performed : before.perform respond action = some after)
    (handed : before.handed? respond action queue = some parcel) :
    after.nextPost = before.nextPost + 1 := by
  cases found : before.broker.queue? queue with
  | none => cases (handed?_of_absent found).symm.trans handed
  | some was =>
    obtain ⟨now, -, evolves⟩ := evolves_of_perform performed found
    cases evolves with
    | handed _ _ counted | overtaken _ _ counted => exact counted
    | kept silent | drawn silent | withdrawn silent | left _ silent =>
      cases silent.symm.trans handed

theorem Trace.arrived_own (trace : Trace respond empty steps network)
    (found : network.calls[id]? = some call)
    (arrived : parcel ∈ (Network.ledger respond steps queue).arrived)
    (same : parcel.post = call.post) :
    ∃ step ∈ steps, step.starts id call ∧
      step.before.publication? respond step.action = some (call.route, parcel) := by
  obtain ⟨step, member, handed⟩ := List.mem_filterMap.mp arrived
  obtain ⟨front, back, rfl, prior, performed, rest⟩ := trace.split member
  have post := (post_of_handed? handed).symm.trans same
  refine ⟨step, member, ?_⟩
  -- The step hands over the next number, so the call is there behind it and not before.
  cases earlier : step.before.calls[id]? with
  | some was =>
    have issue := ((Trace.start.next step.action performed).trans rest).issue_eq earlier found
    have own : was.post = call.post := Call.post_of_issue issue
    have posted := prior.run.numbered.posted _ (List.mem_of_getElem? (issued_of_getElem? earlier))
    exact absurd (own.trans post.symm) (Nat.ne_of_lt posted)
  | none =>
    cases now : step.after.calls[id]? with
    | none =>
      have run := prior.run.next _ trivial performed
      have late := rest.nextPost_le run now found
      rw [nextPost_of_handed? performed handed] at late
      exact absurd post (Nat.ne_of_lt late)
    | some record =>
      obtain ⟨client, owner, route, payload, timeout, made, owned, first, issue, -⟩ :=
        prior.run.launch performed earlier now
      have issue := (rest.issue_eq now found).symm.trans issue
      have client : call.client = client := congrArg Call.client issue
      have route : call.route = route := congrArg Call.route issue
      have timeout : call.timeout = timeout := congrArg Call.timeout issue
      subst client route timeout
      refine ⟨⟨first, payload, made⟩, ?_⟩
      obtain ⟨name, published, -⟩ := handed?_spec handed
      rw [made] at published ⊢
      simp only [publication?, owned, Option.map_some, Option.some.injEq, Prod.mk.injEq]
        at published ⊢
      exact ⟨trivial, published.2⟩

end Requests

inductive Unpublished (steps : List Step) (id : CallId) (call : Call) : Prop where
  | undeliverable (state : call.state.isUndeliverable = true)
  | waiting {step : Step} (member : step ∈ steps) (live : step.before.isLive id = true)
      (waits : step.before.broker.isWaiting call.post = true)
      (gone : step.after.isLive id = false)
  | crowded {step : Step} (member : step ∈ steps) (starts : step.starts id call)
      (gone : step.after.isLive id = false)
      (full : ∀ (queue : QueueId) (was : Queue), step.before.broker.lookup? call.route = some queue →
        step.before.broker.queue? queue = some was → was.hasRoom = false)

def requestsAmong (network : Network) (client : ClientId) (parcels : List Parcel) : List Parcel :=
  parcels.filter (fun parcel =>
    network.calls.any (fun call => call.client == client && call.post == parcel.post))

section Runs

variable {respond : Responder} {steps earlier later : List Step} {middle network : Network}
  {id : CallId} {call : Call}

theorem Unpublished.lost (unpublished : Unpublished steps id call)
    (trace : Trace respond empty steps network) (found : network.calls[id]? = some call) :
    Lost respond steps network call.post := by
  cases unpublished with
  | undeliverable state => exact trace.lost_of_undeliverable found state
  | waiting member live waits gone =>
    obtain ⟨front, back, rfl, prior, performed, rest⟩ := trace.split member
    obtain ⟨was, there, live⟩ := isLive_iff.mp live
    obtain ⟨state, now, -⟩ := proceeds_of_perform performed there
    have past : state.isLive = false := by simpa [isLive, now] using gone
    have issue := ((Trace.start.next _ performed).trans rest).issue_eq there found
    have same : was.post = call.post := Call.post_of_issue issue
    rw [← same] at waits ⊢
    exact (lost_of_ended prior performed there now live past waits).mono rest
  | crowded member starts gone full =>
    obtain ⟨front, back, rfl, prior, performed, rest⟩ := trace.split member
    obtain ⟨rfl, payload, made⟩ := starts
    rename_i step
    obtain ⟨owner, now, -, there, -⟩ := call_of_perform (made ▸ performed)
    have past : now.state.isLive = false := by simpa [isLive, there] using gone
    have issue := rest.issue_eq there found
    have same : now.post = call.post := Call.post_of_issue issue
    have routed : now.route = call.route := (Call.mk.inj issue).2.2.1
    rw [← same]
    exact (lost_of_unsent prior performed (by simp) there past
      (fun queue was bound known _ => full queue was (routed ▸ bound) known)).mono rest

theorem mem_requestsAmong {client : ClientId} {parcels : List Parcel} {parcel : Parcel} :
    parcel ∈ network.requestsAmong client parcels ↔
      parcel ∈ parcels ∧ ∃ (id : CallId) (call : Call), network.calls[id]? = some call ∧
        call.client = client ∧ call.post = parcel.post := by
  simp only [requestsAmong, List.mem_filter, List.any_eq_true, Bool.and_eq_true, beq_iff_eq]
  constructor
  · rintro ⟨member, call, listed, mine, post⟩
    obtain ⟨id, found⟩ := List.getElem?_of_mem listed
    exact ⟨member, id, call, found, mine, post⟩
  · rintro ⟨member, id, call, found, mine, post⟩
    exact ⟨member, call, List.mem_of_getElem? found, mine, post⟩

theorem Trace.read_own (trace : Trace respond empty steps network)
    (found : network.calls[id]? = some call) {parcel : Parcel} (read : parcel ∈ readings steps)
    (same : parcel.post = call.post) :
    (∃ queue, parcel ∈ (Network.ledger respond steps queue).accepted) ∧
      ∃ step ∈ steps, step.starts id call ∧
        step.before.publication? respond step.action = some (call.route, parcel) := by
  obtain ⟨queue, received⟩ := (mem_readings respond).mp read
  exact ⟨⟨queue, trace.received_accepted received⟩,
    trace.arrived_own found (trace.received received).1 same⟩

theorem Trace.read_id (trace : Trace respond empty steps network)
    (found : network.calls[id]? = some call) {parcel : Parcel} (read : parcel ∈ readings steps)
    (same : parcel.post = call.post) : parcel.message.correlationId = call.correlationId := by
  obtain ⟨queue, received⟩ := (mem_readings respond).mp read
  cases known : network.broker.queue? queue with
  | none => simp [trace.ledger.2 queue known, Ledger.blank] at received
  | some was =>
    rw [trace.received_eq known, List.mem_reverse] at received
    exact trace.run.marked queue parcel ⟨was, known, List.mem_append_left _ received⟩ call.issue
      (List.mem_of_getElem? (issued_of_getElem? found)) same.symm

theorem Trace.requests_once (trace : Trace respond empty steps network) {client : ClientId}
    (few : network.callCount client < 2 ^ 64) :
    ((network.requestsAmong client (readings steps)).map
      (fun parcel => parcel.message.correlationId)).Nodup := by
  have once : ((network.requestsAmong client (readings steps)).map Parcel.post).Nodup :=
    trace.readings_once.sublist (List.filter_sublist.map _)
  unfold List.Nodup at once ⊢
  rw [List.pairwise_map] at once ⊢
  refine once.imp_of_mem ?_
  intro one other first second different same
  obtain ⟨read, id, call, found, mine, post⟩ := mem_requestsAmong.mp first
  obtain ⟨read', id', call', found', mine', post'⟩ := mem_requestsAmong.mp second
  have own := (trace.read_id found read post.symm).symm.trans
    (same.trans (trace.read_id found' read' post'.symm))
  obtain rfl := trace.run.numbered.eq_of_id (issued_of_getElem? found) (issued_of_getElem? found')
    (mine.trans mine'.symm) own (Nat.le_of_lt (mine ▸ few))
  obtain rfl := Option.some.inj (found.symm.trans found')
  exact different (post.symm.trans post')

/--
In every run the request of a call is read once at most, and not at all if the call ended before a queue
accepted it. No two requests of a client with fewer than 2^64 calls are read under one id.
-/
theorem requests_are_read_at_most_once (prior : Trace respond empty earlier middle)
    (trace : Trace respond middle later network) :
    ((readings (earlier ++ later)).map Parcel.post).Nodup ∧
    (∀ (id : CallId) (call : Call), middle.calls[id]? = some call → Unpublished earlier id call →
      ∀ parcel ∈ readings (earlier ++ later), parcel.post ≠ call.post) ∧
    (∀ (id : CallId) (call : Call), network.calls[id]? = some call →
      ∀ parcel ∈ readings (earlier ++ later), parcel.post = call.post →
        (∃ queue, parcel ∈ (ledger respond (earlier ++ later) queue).accepted) ∧
        ∃ step ∈ earlier ++ later, step.starts id call ∧
          step.before.publication? respond step.action = some (call.route, parcel)) ∧
    ∀ client, network.callCount client < 2 ^ 64 →
      ((network.requestsAmong client (readings (earlier ++ later))).map
        (fun parcel => parcel.message.correlationId)).Nodup := by
  have whole := prior.trans trace
  refine ⟨whole.readings_once, ?_, ?_, fun client few => whole.requests_once few⟩
  · intro id call found unpublished
    exact ((unpublished.lost prior found).mono trace).unread whole
  · intro id call found parcel read same
    exact whole.read_own found read same

end Runs

/-- Of seven calls one is read. One is aborted and one times out while they wait for a slot, one has no
time to wait and one goes to a name that nobody has; of the last two one was accepted and one waits when
the consumer goes. Then the name is declared again, and the new queue is drained. -/
def turnedAway : Option ((List Step × Network) × List Step × Network) :=
  (record (fun _ _ _ => none)
    [.declare "jobs" 1, .connect "replies" 4, .call 0 "jobs" [0] ⟨5⟩, .call 0 "jobs" [1] ⟨5⟩,
      .call 0 "jobs" [2] ⟨5⟩, .call 0 "jobs" [3] ⟨0⟩, .call 0 "none" [4] ⟨5⟩, .abort 1, .tick 5,
      .expire 2, .receive 0, .call 0 "jobs" [5] ⟨5⟩, .call 0 "jobs" [6] ⟨5⟩, .dropConsumer 0,
      .finish 6] empty).bind (fun first =>
    (record (fun _ _ _ => none)
      [.delete "jobs", .declare "jobs" 4, .call 0 "jobs" [7] ⟨5⟩, .receive 2, .receive 2]
      first.2).map (fun second => (first, second)))

theorem turnedAway_never_read :
    ∃ earlier middle later network, turnedAway = some ((earlier, middle), later, network) ∧
      middle.calls.map Call.state = [.outstanding, .aborted, .failed (.timeout ⟨5⟩),
        .failed (.timeout ⟨0⟩), .failed (.noSuchQueue "none"), .outstanding,
        .failed (.queueClosed "jobs")] ∧
      (readings (earlier ++ later)).map Parcel.post = [0, 7] ∧
      (∀ id ∈ [1, 2, 3, 4, 6], ∀ call, middle.calls[id]? = some call →
        ∀ parcel ∈ readings (earlier ++ later), parcel.post ≠ call.post) ∧
      ((network.requestsAmong 0 (readings (earlier ++ later))).map
        (fun parcel => parcel.message.correlationId)).Nodup := by
  obtain ⟨⟨⟨earlier, middle⟩, later, network⟩, done⟩ :=
    Option.isSome_iff_exists.mp (by decide : turnedAway.isSome = true)
  have computed : ((earlier, middle), later, network) = turnedAway.get (by decide) := by simp [done]
  obtain ⟨_, first, done'⟩ := Option.bind_eq_some_iff.mp done
  obtain ⟨_, second, same⟩ := Option.map_eq_some_iff.mp done'
  cases same
  obtain ⟨states, posts, few, aborted, late, impatient⟩ :
      middle.calls.map Call.state = [.outstanding, .aborted, .failed (.timeout ⟨5⟩),
        .failed (.timeout ⟨0⟩), .failed (.noSuchQueue "none"), .outstanding,
        .failed (.queueClosed "jobs")] ∧
      (readings (earlier ++ later)).map Parcel.post = [0, 7] ∧ network.callCount 0 < 2 ^ 64 ∧
      (∀ call, middle.calls[1]? = some call → Unpublished earlier 1 call) ∧
      (∀ call, middle.calls[2]? = some call → Unpublished earlier 2 call) ∧
      ∀ call, middle.calls[3]? = some call → Unpublished earlier 3 call := by
    cases computed
    refine ⟨rfl, rfl, by decide, ?_, ?_, ?_⟩
    · rintro call ⟨⟩
      refine .waiting (List.mem_of_getElem? (i := 7) rfl) ?_ ?_ ?_ <;> rfl
    · rintro call ⟨⟩
      refine .waiting (List.mem_of_getElem? (i := 9) rfl) ?_ ?_ ?_ <;> rfl
    · rintro call ⟨⟩
      refine .crowded (List.mem_of_getElem? (i := 5) rfl) ⟨rfl, _, rfl⟩ rfl ?_
      rintro queue was ⟨⟩ ⟨⟩
      rfl
  obtain ⟨-, lost, -, ids⟩ :=
    requests_are_read_at_most_once (trace_of_record first) (trace_of_record second)
  refine ⟨earlier, middle, later, network, done, states, posts, ?_, ids 0 few⟩
  intro id member call found
  apply lost id call found
  have state := congrArg (fun states => states[id]?) states
  simp only [List.getElem?_map, found, Option.map_some] at state
  simp only [List.mem_cons, List.not_mem_nil, or_false] at member
  rcases member with rfl | rfl | rfl | rfl | rfl
  · exact aborted call found
  · exact late call found
  · exact impatient call found
  · exact .undeliverable (by rw [Option.some.inj state]; rfl)
  · exact .undeliverable (by rw [Option.some.inj state]; rfl)

end Network

end LedgerNode.Bus
