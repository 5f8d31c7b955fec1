import LedgerNode.Proofs.Bus.Idling
import LedgerNode.Proofs.Bus.Link

set_option autoImplicit false

namespace LedgerNode.Bus

structure Ask where
  route : String
  payload : Bytes
  timeout : Duration
  deriving DecidableEq, Repr

def requestsFrom (replyQueue : String) (payloads : List Bytes) : List Message :=
  payloads.mapIdx (fun place payload =>
    { correlationId := UInt64.ofNat place, replyTo := some replyQueue, payload })

theorem requestsFrom_concat (replyQueue : String) (payloads : List Bytes) (payload : Bytes) :
    requestsFrom replyQueue (payloads ++ [payload]) = requestsFrom replyQueue payloads ++
      [{ correlationId := UInt64.ofNat payloads.length, replyTo := some replyQueue, payload }] :=
  List.mapIdx_concat

def Action.isTick : Action → Bool
  | tick _ => true
  | _ => false

namespace Network

def Step.ask? (step : Step) (client : ClientId) : Option Ask :=
  match step.action with
  | .call caller route payload timeout =>
    if caller = client then some { route, payload, timeout } else none
  | _ => none

def asks (client : ClientId) (steps : List Step) : List Ask :=
  steps.filterMap (fun step => step.ask? client)

def sentBy (replyQueue : String) (client : ClientId) (steps : List Step) : List Message :=
  requestsFrom replyQueue ((asks client steps).map Ask.payload)

def messagesAmong (network : Network) (client : ClientId) (parcels : List Parcel) : List Message :=
  (network.requestsAmong client parcels).map Parcel.message

/--
Before a step the route leads to a queue with a consumer. No time passes while there is something to read
in the queue, and nobody gives up a request of the client from outside.
-/
structure Step.Prompt (step : Step) (client : ClientId) (route : String) (queue : QueueId) :
    Prop where
  bound : step.before.broker.lookup? route = some queue
  consumed : step.before.broker.isConsumed queue = true
  read : step.action.isTick = true → step.before.bufferOf queue = []
  kept : ∀ (id : CallId) (call : Call), step.before.calls[id]? = some call → call.client = client →
    step.action ≠ .abandon call.post ∧ step.action ≠ .abort id

instance (step : Step) (client : ClientId) (route : String) (queue : QueueId) :
    Decidable (step.Prompt client route queue) :=
  decidable_of_iff
    (step.before.broker.lookup? route = some queue ∧
      step.before.broker.isConsumed queue = true ∧
      (step.action.isTick = true → step.before.bufferOf queue = []) ∧
      ∀ id < step.before.calls.length, ∀ call ∈ step.before.calls[id]?, call.client = client →
        step.action ≠ .abandon call.post ∧ step.action ≠ .abort id)
    ⟨fun ⟨bound, consumed, read, kept⟩ => ⟨bound, consumed, read, fun id call found =>
        kept id (List.getElem?_eq_some_iff.mp found).1 call found⟩,
      fun prompt => ⟨prompt.bound, prompt.consumed, prompt.read, fun id _ call => prompt.kept id call⟩⟩

section Asking

variable {respond : Responder} {before after : Network} {action : Action} {client : ClientId}

theorem ask?_eq_some {step : Step} {ask : Ask} : step.ask? client = some ask ↔
    step.action = .call client ask.route ask.payload ask.timeout := by
  unfold Step.ask?
  constructor
  · intro asked
    split at asked
    next made =>
      split at asked
      next same =>
        cases asked
        exact same ▸ made
      next => cases asked
    next => cases asked
  · intro made
    simp [made]

theorem asks_concat (client : ClientId) (steps : List Step) (step : Step) :
    asks client (steps ++ [step]) = asks client steps ++ (step.ask? client).toList := by
  cases asked : step.ask? client <;> simp [asks, asked]

theorem issued_of_perform (performed : before.perform respond action = some after) :
    (after.issued = before.issued ∧ ∀ client, Step.ask? ⟨before, action, after⟩ client = none) ∨
      ∃ client owner route payload timeout, action = .call client route payload timeout ∧
        before.clients[client]? = some owner ∧
        after.issued = before.issued ++ [before.startedCall client owner route timeout] := by
  cases action with
  | call client route payload timeout =>
    obtain ⟨owner, owned, started⟩ := issued_of_call performed
    exact .inr ⟨client, owner, route, payload, timeout, rfl, owned, started⟩
  | _ =>
    refine .inl ⟨?_, fun _ => rfl⟩
    obtain ⟨middle, change, rfl | ⟨_, _, _, _, _, calls, -⟩⟩ := change_of_perform performed
    · exact change.recorded.issued_eq nofun
    · cases calls

theorem callCount_ask (client : ClientId) (performed : before.perform respond action = some after) :
    after.callCount client =
      before.callCount client + (Step.ask? ⟨before, action, after⟩ client).toList.length := by
  unfold callCount
  rcases issued_of_perform performed with ⟨same, silent⟩ |
    ⟨caller, owner, route, payload, timeout, rfl, -, started⟩
  · rw [same, silent]
    rfl
  · rw [started, List.countP_append, List.countP_singleton]
    by_cases own : caller = client <;> simp [Step.ask?, startedCall, own]

def idsOf (network : Network) (client : ClientId) : List CorrelationId :=
  (network.issued.filter (fun call => call.client = client)).map Call.correlationId

theorem requestsAmong_issued (network : Network) (client : ClientId) (parcels : List Parcel) :
    network.requestsAmong client parcels = parcels.filter (fun parcel =>
      network.issued.any (fun call => call.client == client && call.post == parcel.post)) := by
  unfold requestsAmong issued
  simp only [List.any_map]
  rfl

theorem requestsAmong_of_perform (performed : before.perform respond action = some after)
    {parcels : List Parcel} (below : ∀ parcel ∈ parcels, parcel.post < before.nextPost) :
    after.requestsAmong client parcels = before.requestsAmong client parcels := by
  rw [requestsAmong_issued, requestsAmong_issued]
  rcases issued_of_perform performed with ⟨same, -⟩ |
    ⟨caller, owner, route, payload, timeout, rfl, -, started⟩
  · rw [same]
  · refine List.filter_congr fun parcel member => ?_
    have other : before.nextPost ≠ parcel.post := (Nat.ne_of_lt (below parcel member)).symm
    simp [started, startedCall, other]

theorem requestsAmong_handed (numbered : before.Numbered)
    (performed : before.perform respond action = some after) (queue : QueueId) :
    (Step.ask? ⟨before, action, after⟩ client = none ∧
      after.requestsAmong client (before.handed? respond action queue).toList = []) ∨
    ∃ ask owner, Step.ask? ⟨before, action, after⟩ client = some ask ∧
      before.clients[client]? = some owner ∧
      after.requestsAmong client (before.handed? respond action queue).toList =
        (before.handed? respond action queue).toList ∧
      ∀ parcel, before.handed? respond action queue = some parcel →
        parcel.message = owner.request ask.payload := by
  have older : ∀ call ∈ before.issued, call.post ≠ before.nextPost :=
    fun call member => Nat.ne_of_lt (numbered.posted call member)
  have post {parcel : Parcel} (handed : before.handed? respond action queue = some parcel) :
      parcel.post = before.nextPost := post_of_handed? handed
  simp only [requestsAmong_issued]
  rcases issued_of_perform performed with ⟨same, silent⟩ |
    ⟨caller, owner, route, payload, timeout, rfl, owned, started⟩
  · refine .inl ⟨silent client, List.filter_eq_nil_iff.mpr fun parcel member => ?_⟩
    have handed := post (Option.mem_toList.mp member)
    simp only [same, handed, List.any_eq_true, Bool.and_eq_true, beq_iff_eq]
    rintro ⟨call, there, -, own⟩
    exact older call there own
  · by_cases own : caller = client
    · subst own
      refine .inr ⟨{ route, payload, timeout }, owner, by simp [Step.ask?], owned, ?_, ?_⟩
      · refine List.filter_eq_self.mpr fun parcel member => ?_
        simp [started, startedCall, post (Option.mem_toList.mp member)]
      · intro parcel handed
        obtain ⟨name, published, -⟩ := handed?_spec handed
        simp only [publication?, owned, Option.map_some, Option.some.injEq, Prod.mk.injEq] at published
        rw [← published.2]
    · refine .inl ⟨by simp [Step.ask?, own], List.filter_eq_nil_iff.mpr fun parcel member => ?_⟩
      have handed := post (Option.mem_toList.mp member)
      simp only [started, handed, List.any_eq_true, List.mem_append, List.mem_singleton,
        Bool.and_eq_true, beq_iff_eq]
      rintro ⟨call, there | rfl, mine, post⟩
      · exact older call there post
      · exact own mine

end Asking

section Runs

variable {respond : Responder} {earlier later : List Step} {start network : Network}
  {client : ClientId} {owner : Client} {route : String} {queue : QueueId}

theorem callCount_of_fresh (fresh : ∀ call ∈ start.calls, call.client ≠ client) :
    start.callCount client = 0 := by
  refine List.countP_eq_zero.mpr fun call member => ?_
  obtain ⟨record, there, rfl⟩ := List.mem_map.mp member
  exact fun same => fresh record there (of_decide_eq_true same)

theorem Trace.callCount_eq (trace : Trace respond start later network) (client : ClientId) :
    network.callCount client = start.callCount client + (asks client later).length := by
  induction trace with
  | start => rfl
  | next action _ performed ih =>
    rw [callCount_ask client performed, ih, asks_concat, List.length_append, Nat.add_assoc]

theorem Trace.profile (trace : Trace respond start later network)
    (known : start.profiles[client]? = some owner) :
    ∃ now, network.profiles[client]? = some now ∧ now.replyQueue = owner.replyQueue :=
  trace.run.invariant
    (fun network => ∃ now, network.profiles[client]? = some now ∧ now.replyQueue = owner.replyQueue)
    ⟨owner, known, rfl⟩
    (fun change _ ⟨_, there, same⟩ =>
      have ⟨now, later, name, _⟩ := change.recorded.profile_mono there
      ⟨now, later, name.trans same⟩)
    (fun ended ⟨_, there, same⟩ =>
      have ⟨now, later, name, _⟩ := (ended.recorded (.tick 0)).profile_mono there
      ⟨now, later, name.trans same⟩)

theorem Trace.request_eq (prior : Trace respond empty earlier start)
    (trace : Trace respond start later network)
    (fresh : ∀ call ∈ start.calls, call.client ≠ client)
    (known : start.profiles[client]? = some owner) {now : Client}
    (owned : network.clients[client]? = some now) (payload : Bytes) :
    now.request payload = {
      correlationId := UInt64.ofNat (asks client later).length
      replyTo := some owner.replyQueue
      payload } := by
  have next : now.nextId = UInt64.ofNat (asks client later).length := by
    have counted := trace.callCount_eq client
    rw [callCount_of_fresh fresh, Nat.zero_add] at counted
    rw [← counted]
    exact (prior.trans trace).run.numbered.next client now.profile (profile_of_getElem? owned)
  have name : now.replyQueue = owner.replyQueue := by
    obtain ⟨profile, there, same⟩ := trace.profile known
    obtain rfl := Option.some.inj ((profile_of_getElem? owned).symm.trans there)
    exact same
  rw [Client.request, next, name]

theorem Trace.idsOf_eq (prior : Trace respond empty earlier start)
    (trace : Trace respond start later network)
    (fresh : ∀ call ∈ start.calls, call.client ≠ client)
    (known : start.profiles[client]? = some owner) :
    network.idsOf client = (List.range (asks client later).length).map UInt64.ofNat := by
  induction trace with
  | start =>
    have none : start.issued.filter (fun call => call.client = client) = [] := by
      rw [← List.length_eq_zero_iff, ← List.countP_eq_length_filter]
      exact callCount_of_fresh fresh
    rw [idsOf, none]
    rfl
  | @next steps before after action trace performed ih =>
    rw [asks_concat]
    unfold idsOf at ih ⊢
    rcases issued_of_perform performed with ⟨same, silent⟩ |
      ⟨caller, now, route, payload, timeout, rfl, owned, started⟩
    · rw [same, ih, silent, Option.toList_none, List.append_nil]
    · rw [started, List.filter_append, List.map_append, ih]
      by_cases own : caller = client
      · subst own
        have id : now.nextId = UInt64.ofNat (asks caller steps).length :=
          congrArg Message.correlationId (prior.request_eq trace fresh known owned [])
        simp [Step.ask?, startedCall, id, List.range_succ]
      · simp [Step.ask?, startedCall, own]

theorem messagesAmong_of_fresh (fresh : ∀ call ∈ start.calls, call.client ≠ client)
    (parcels : List Parcel) : start.messagesAmong client parcels = [] := by
  refine List.map_eq_nil_iff.mpr (List.filter_eq_nil_iff.mpr fun parcel _ => ?_)
  simp only [List.any_eq_true, Bool.and_eq_true, beq_iff_eq]
  rintro ⟨call, there, mine, -⟩
  exact fresh call there mine

theorem messagesAmong_append (network : Network) (client : ClientId) (first second : List Parcel) :
    network.messagesAmong client (first ++ second) =
      network.messagesAmong client first ++ network.messagesAmong client second := by
  rw [messagesAmong, requestsAmong, List.filter_append, List.map_append]
  rfl

theorem Trace.arrived_next (prior : Trace respond empty earlier start)
    (trace : Trace respond start later network)
    (fresh : ∀ call ∈ start.calls, call.client ≠ client)
    (known : start.profiles[client]? = some owner) (queue : QueueId) {action : Action}
    {after : Network} (performed : network.perform respond action = some after) :
    ∃ got due : List Message, got.Sublist due ∧
      (((Step.ask? ⟨network, action, after⟩ client).isSome = true →
        (network.handed? respond action queue).isSome = true) → got = due) ∧
      sentBy owner.replyQueue client (later ++ [⟨network, action, after⟩]) =
        sentBy owner.replyQueue client later ++ due ∧
      after.messagesAmong client (Network.ledger respond
          (earlier ++ (later ++ [⟨network, action, after⟩])) queue).arrived =
        network.messagesAmong client (Network.ledger respond (earlier ++ later) queue).arrived ++
          got := by
  have whole := prior.trans trace
  have below : ∀ parcel ∈ (Network.ledger respond (earlier ++ later) queue).arrived,
      parcel.post < network.nextPost := fun _ => whole.arrived_below
  have kept : after.messagesAmong client (Network.ledger respond (earlier ++ later) queue).arrived =
      network.messagesAmong client (Network.ledger respond (earlier ++ later) queue).arrived :=
    congrArg (List.map Parcel.message) (requestsAmong_of_perform performed below)
  rw [← List.append_assoc, ledger_concat, messagesAmong_append, kept, sentBy, asks_concat,
    List.map_append]
  rcases requestsAmong_handed whole.run.numbered performed queue with ⟨silent, none⟩ |
    ⟨ask, now, asked, owned, all, carries⟩
  · refine ⟨[], [], .slnil, fun _ => rfl, ?_, ?_⟩
    · rw [silent, Option.toList_none, List.map_nil, List.append_nil, List.append_nil]
      rfl
    · rw [messagesAmong, messagesAmong, none, List.map_nil]
  · have request := prior.request_eq trace fresh known owned ask.payload
    refine ⟨_, [now.request ask.payload], ?_, ?_, ?_, rfl⟩
    · rw [messagesAmong, all]
      cases handed : network.handed? respond action queue with
      | none => exact List.nil_sublist _
      | some parcel => simp [carries parcel handed]
    · intro delivered
      obtain ⟨parcel, handed⟩ := Option.isSome_iff_exists.mp (delivered (by rw [asked]; rfl))
      rw [messagesAmong, all, handed]
      simp [carries parcel handed]
    · rw [asked, Option.toList_some, List.map_singleton, requestsFrom_concat, List.length_map, request]
      rfl

theorem Trace.arrived_sublist (prior : Trace respond empty earlier start)
    (trace : Trace respond start later network)
    (fresh : ∀ call ∈ start.calls, call.client ≠ client)
    (known : start.profiles[client]? = some owner) (queue : QueueId) :
    (network.messagesAmong client
      (Network.ledger respond (earlier ++ later) queue).arrived).Sublist
        (sentBy owner.replyQueue client later) := by
  induction trace with
  | start =>
    rw [messagesAmong_of_fresh fresh]
    exact List.nil_sublist _
  | next action trace performed ih =>
    obtain ⟨got, due, part, -, sent, arrived⟩ :=
      prior.arrived_next trace fresh known queue performed
    rw [arrived, sent]
    exact ih.append part

theorem Trace.arrived_all (prior : Trace respond empty earlier start)
    (trace : Trace respond start later network)
    (fresh : ∀ call ∈ start.calls, call.client ≠ client)
    (known : start.profiles[client]? = some owner)
    (delivered : ∀ step ∈ later, (step.ask? client).isSome = true →
      (step.before.handed? respond step.action queue).isSome = true) :
    network.messagesAmong client (Network.ledger respond (earlier ++ later) queue).arrived =
      sentBy owner.replyQueue client later := by
  induction trace with
  | start =>
    rw [messagesAmong_of_fresh fresh]
    rfl
  | next action trace performed ih =>
    have ih := ih fun step member => delivered step (List.mem_append_left _ member)
    obtain ⟨got, due, -, same, sent, arrived⟩ :=
      prior.arrived_next trace fresh known queue performed
    rw [arrived, sent, ih, same (delivered _ (List.mem_append_right _ List.mem_cons_self))]

end Runs

def Timely (network : Network) (client : ClientId) (queue : QueueId) : Prop :=
  ∀ parcel ∈ network.waitingOf queue, ∀ call ∈ network.issued, call.client = client →
    call.post = parcel.post → network.clock < call.deadline

section Attention

variable {respond : Responder} {steps earlier later : List Step} {start before after network : Network}
  {action : Action} {client : ClientId} {owner : Client} {route : String} {queue : QueueId}

theorem queue?_of_isConsumed (consumed : network.broker.isConsumed queue = true) :
    ∃ held, network.broker.queue? queue = some held ∧ held.consumed = true :=
  (Option.any_eq_true _ _).mp consumed

theorem Timely.next (whole : Trace respond empty steps before) (timely : before.Timely client queue)
    (prompt : Step.Prompt ⟨before, action, after⟩ client route queue)
    (patient : ∀ ask, Step.ask? ⟨before, action, after⟩ client = some ask →
      0 < ask.timeout.nanoseconds)
    (performed : before.perform respond action = some after) : after.Timely client queue := by
  obtain ⟨was, found, -⟩ := queue?_of_isConsumed prompt.consumed
  obtain ⟨now, there, evolves⟩ := evolves_of_perform performed found
  have balanced := whole.ledger.1 queue was found
  intro parcel waits call issued mine own
  have waits : parcel ∈ now.waiting := by simpa [waitingOf, there] using waits
  have old (issued : call ∈ before.issued) : after.clock < call.deadline := by
    have waited : parcel ∈ was.waiting := by
      rcases evolves.waits waits with waited | handed
      · exact waited
      · have posted := whole.run.numbered.posted call issued
        exact absurd (own.trans (post_of_handed? handed)) (Nat.ne_of_lt posted)
    have early := timely parcel (by simpa [waitingOf, found] using waited) call issued mine own
    by_cases tick : action.isTick = true
    · have empty : was.buffer = [] := by simpa [bufferOf, found] using prompt.read tick
      rw [balanced.sound.waiting_eq_nil empty] at waited
      cases waited
    · rw [clock_of_still performed (by rintro _ rfl; exact tick rfl)]
      exact early
  rcases issued_of_perform performed with ⟨same, -⟩ |
    ⟨caller, owner, name, payload, timeout, rfl, -, started⟩
  · exact old (same ▸ issued)
  · rw [started] at issued
    rcases List.mem_append.mp issued with issued | last
    · exact old issued
    · obtain rfl := List.mem_singleton.mp last
      obtain rfl : caller = client := mine
      have time := patient ⟨name, payload, timeout⟩ (by simp [Step.ask?])
      have still (nanoseconds : Nat) :
          Action.call caller name payload timeout ≠ .tick nanoseconds := by
        intro same
        cases same
      rw [clock_of_still performed still]
      exact Nat.lt_add_of_pos_right time

theorem abandons_eq_false_of_waiting (whole : Trace respond empty steps before)
    (timely : before.Timely client queue)
    (prompt : Step.Prompt ⟨before, action, after⟩ client route queue)
    (performed : before.perform respond action = some after) {id : CallId} {call : Call}
    (there : before.calls[id]? = some call) (mine : call.client = client) :
    Step.abandons respond ⟨before, action, after⟩ queue call.post = false := by
  -- A request that waits for its consumer is not given up, whatever happens to its call.
  obtain ⟨was, found, -⟩ := queue?_of_isConsumed prompt.consumed
  obtain ⟨now, later, -⟩ := evolves_of_perform performed found
  by_contra abandons
  obtain ⟨given, source, -⟩ := (abandons_iff found later).mp (by simpa using abandons)
  have issued := issued_of_getElem? there
  obtain ⟨parcel, waits, own⟩ : ∃ parcel ∈ was.waiting, parcel.post = call.post := by
    rcases source with waited | ⟨parcel, handed, own⟩
    · exact isWaiting_iff_mem.mp waited
    · have posted := whole.run.numbered.posted _ (List.mem_of_getElem? issued)
      exact absurd (own.symm.trans (post_of_handed? handed)) (Nat.ne_of_lt posted)
  have waiting : before.broker.isWaiting call.post = true :=
    isWaiting_iff.mpr ⟨queue, was, found, parcel, waits, own⟩
  rcases given with given | done
  · exact (prompt.kept id call there mine).1 given
  · obtain ⟨state, ended, -⟩ := proceeds_of_perform performed there
    have run := whole.run.next action trivial performed
    have past : state.isLive = false := run.numbered.over_of_isOver ended done
    have live : call.state.isLive = true := by
      by_contra finished
      have before := whole.run.withdrawn call.post
        (isOver_iff.mpr ⟨id, call, there, rfl, by simpa using finished⟩)
      cases before.symm.trans waiting
    -- Its consumer is there and it has time left, so only somebody else could end the call now.
    obtain ⟨verdict, -⟩ := verdict_of_perform performed there ended live past
    cases verdict with
    | refused _ refused =>
      have kept := whole.not_refused prompt.consumed (whole.arrived_of_waiting found waits)
      rw [own] at kept
      cases kept.symm.trans refused
    | answered _ _ accepted => cases accepted.symm.trans waiting
    | disconnected _ _ accepted => cases accepted.symm.trans waiting
    | late _ _ _ due =>
      have early := timely parcel (by simpa [waitingOf, found] using waits) _
        (List.mem_of_getElem? issued) mine own.symm
      exact absurd early (Nat.not_lt.mpr due)
    | aborted aborts => exact (prompt.kept id call there mine).2 aborts

theorem abandons_eq_false_of_started (whole : Trace respond empty steps before)
    (prompt : Step.Prompt ⟨before, action, after⟩ client route queue)
    (patient : ∀ ask, Step.ask? ⟨before, action, after⟩ client = some ask →
      0 < ask.timeout.nanoseconds)
    (performed : before.perform respond action = some after) {id : CallId} {call : Call}
    (absent : before.calls[id]? = none) (there : after.calls[id]? = some call)
    (mine : call.client = client) :
    Step.abandons respond ⟨before, action, after⟩ queue call.post = false := by
  obtain ⟨was, found, -⟩ := queue?_of_isConsumed prompt.consumed
  obtain ⟨now, later, -⟩ := evolves_of_perform performed found
  by_contra abandons
  obtain ⟨given, source, -⟩ := (abandons_iff found later).mp (by simpa using abandons)
  obtain ⟨caller, owner, name, payload, timeout, rfl, owned, -, issue, launch⟩ :=
    whole.run.launch performed absent there
  obtain rfl : call.client = caller := congrArg Call.client issue
  have post : call.post = before.nextPost := congrArg Call.post issue
  obtain ⟨parcel, handed⟩ : ∃ parcel, before.handed? respond _ queue = some parcel := by
    rcases source with waited | ⟨parcel, handed, -⟩
    · obtain ⟨parcel, waits, own⟩ := isWaiting_iff_mem.mp waited
      exact absurd (own.trans post) (Nat.ne_of_lt (whole.run.waiting_below found waits))
    · exact ⟨parcel, handed⟩
  have done : after.isOver call.post = true := by
    rcases given with abandoned | done
    · cases abandoned
    · exact done
  have run := whole.run.next _ trivial performed
  have past := run.numbered.over_of_isOver there done
  generalize call.state = state at launch past
  cases launch with
  | underway => cases past
  | unsent failed =>
    have silent : before.handed? respond (.call call.client name payload timeout) queue = none :=
      handed?_of_failed (by rw [publication?, owned]; rfl) failed
    cases silent.symm.trans handed
  | late _ impatient =>
    have time := patient ⟨name, payload, timeout⟩ (by simp [Step.ask?, mine])
    exact absurd impatient (Nat.ne_of_gt time)

theorem Trace.none_abandoned (prior : Trace respond empty earlier start)
    (trace : Trace respond start later network)
    (fresh : ∀ call ∈ start.calls, call.client ≠ client)
    (prompt : ∀ step ∈ later, step.Prompt client route queue)
    (patient : ∀ step ∈ later, ∀ ask, step.ask? client = some ask → 0 < ask.timeout.nanoseconds) :
    network.Timely client queue ∧
      ∀ (id : CallId) (call : Call), network.calls[id]? = some call → call.client = client →
        (Network.ledger respond (earlier ++ later) queue).abandoned call.post = false := by
  induction trace with
  | start =>
    refine ⟨fun parcel _ call issued mine => ?_, fun id call there mine => ?_⟩
    · obtain ⟨record, there, rfl⟩ := List.mem_map.mp issued
      exact absurd mine (fresh record there)
    · exact absurd mine (fresh call (List.mem_of_getElem? there))
  | @next steps before after action trace performed ih =>
    obtain ⟨timely, safe⟩ := ih (fun step member => prompt step (List.mem_append_left _ member))
      (fun step member => patient step (List.mem_append_left _ member))
    have prompt := prompt _ (List.mem_append_right _ List.mem_cons_self)
    have patient := patient _ (List.mem_append_right _ List.mem_cons_self)
    have whole := prior.trans trace
    refine ⟨timely.next whole prompt patient performed, fun id call there mine => ?_⟩
    rw [← List.append_assoc, ledger_concat, Bool.or_eq_false_iff]
    cases earlier : before.calls[id]? with
    | some old =>
      obtain ⟨state, same, -⟩ := proceeds_of_perform performed earlier
      obtain rfl := Option.some.inj (there.symm.trans same)
      have kept := abandons_eq_false_of_waiting whole timely prompt performed earlier mine
      exact ⟨safe id old earlier mine, kept⟩
    | none =>
      obtain ⟨_, _, _, _, _, -, -, -, issue, -⟩ := whole.run.launch performed earlier there
      have post : call.post = before.nextPost := congrArg Call.post issue
      obtain ⟨was, found, -⟩ := queue?_of_isConsumed prompt.consumed
      exact ⟨post ▸ (whole.ledger.1 queue was found).abandoned_next,
        abandons_eq_false_of_started whole prompt patient performed earlier there mine⟩

theorem received_sublist (whole : Trace respond empty steps network) (queue : QueueId) :
    (Network.ledger respond steps queue).received.Sublist
      (Network.ledger respond steps queue).arrived := by
  cases found : network.broker.queue? queue with
  | none =>
    rw [whole.ledger.2 queue found]
    exact List.nil_sublist _
  | some held =>
    have balanced := whole.ledger.1 queue held found
    exact balanced.taken.sublist.trans ((List.sublist_append_left _ _).trans balanced.stays)

theorem Trace.receivedBy_eq (whole : Trace respond empty steps network) (queue : QueueId) :
    (Network.ledger respond steps queue).received = (network.receivedBy queue).reverse := by
  cases found : network.broker.queue? queue with
  | none =>
    rw [whole.ledger.2 queue found, receivedBy, found]
    rfl
  | some held =>
    rw [whole.received_eq found, receivedBy, found]
    rfl

theorem Trace.messages_sublist (prior : Trace respond empty earlier start)
    (trace : Trace respond start later network)
    (fresh : ∀ call ∈ start.calls, call.client ≠ client)
    (known : start.profiles[client]? = some owner) (queue : QueueId) :
    (network.messagesAmong client (network.receivedBy queue).reverse).Sublist
      (sentBy owner.replyQueue client later) := by
  have whole := prior.trans trace
  rw [← whole.receivedBy_eq queue]
  have part := (received_sublist whole queue).filter (fun parcel =>
    network.calls.any (fun call => call.client == client && call.post == parcel.post))
  exact (part.map Parcel.message).trans (prior.arrived_sublist trace fresh known queue)

theorem handed?_of_prompt {step : Step} {ask : Ask}
    (prompt : step.Prompt client route queue)
    (performed : step.before.perform respond step.action = some step.after)
    (asked : step.ask? client = some ask) (routed : ask.route = route) :
    (step.before.handed? respond step.action queue).isSome = true := by
  have made := ask?_eq_some.mp asked
  rw [made] at performed ⊢
  obtain ⟨owner, owned, -⟩ := issued_of_call performed
  have published : step.before.publication? respond
      (.call client ask.route ask.payload ask.timeout) =
        some (route, step.before.nextRequest owner ask.payload) := by
    rw [publication?, owned, routed]
    rfl
  rw [handed?_of_publication? queue published prompt.bound prompt.consumed, if_pos rfl]
  rfl

/-- A consumer that reads in time has read, or has yet to read, all requests of a client in order. -/
theorem Trace.messages_all (prior : Trace respond empty earlier start)
    (trace : Trace respond start later network)
    (fresh : ∀ call ∈ start.calls, call.client ≠ client)
    (known : start.profiles[client]? = some owner)
    (prompt : ∀ step ∈ later, step.Prompt client route queue)
    (asking : ∀ ask ∈ asks client later, ask.route = route ∧ 0 < ask.timeout.nanoseconds)
    (consumed : network.broker.isConsumed queue = true) :
    network.messagesAmong client ((network.receivedBy queue).reverse ++ network.heldBy queue) =
      sentBy owner.replyQueue client later := by
  have listed {step : Step} (member : step ∈ later) {ask : Ask} (asked : step.ask? client = some ask) :
      ask ∈ asks client later := List.mem_filterMap.mpr ⟨step, member, asked⟩
  obtain ⟨-, safe⟩ := prior.none_abandoned trace fresh prompt
    (fun step member ask asked => (asking ask (listed member asked)).2)
  have whole := prior.trans trace
  rw [← prior.arrived_all trace fresh known fun step member starts => ?_]
  · obtain ⟨held, found, there⟩ := queue?_of_isConsumed consumed
    have balanced := whole.ledger.1 queue held found
    have kept := balanced.kept there
    rw [balanced.stock there, whole.receivedBy_eq, List.append_assoc] at kept
    simp only [heldBy, found, Option.map_some, Option.getD_some, Queue.held, ← kept]
    refine congrArg (List.map Parcel.message) ?_
    unfold requestsAmong Ledger.standing
    rw [List.filter_filter]
    refine List.filter_congr fun parcel _ => ?_
    -- None of the client's requests was given up.
    by_cases own : (network.calls.any fun call =>
        call.client == client && call.post == parcel.post) = true
    · obtain ⟨call, member, both⟩ := List.any_eq_true.mp own
      obtain ⟨id, known⟩ := List.getElem?_of_mem member
      simp only [Bool.and_eq_true, beq_iff_eq] at both
      rw [← both.2, safe id call known both.1]
      simp
    · simp [own]
  · obtain ⟨ask, asked⟩ := Option.isSome_iff_exists.mp starts
    obtain ⟨-, -, -, -, performed, -⟩ := trace.split member
    exact handed?_of_prompt (prompt step member) performed asked (asking ask (listed member asked)).1

theorem Trace.heldBy_eq_nil (whole : Trace respond empty steps network)
    (empty : network.bufferOf queue = []) : network.heldBy queue = [] := by
  unfold bufferOf heldBy at *
  cases found : network.broker.queue? queue with
  | none => rfl
  | some held =>
    rw [found] at empty
    have empty : held.buffer = [] := empty
    have waiting := (whole.ledger.1 queue held found).sound.waiting_eq_nil empty
    simp [Queue.held, empty, waiting]

theorem Trace.handed_since (prior : Trace respond empty earlier start)
    (trace : Trace respond start later network) {name : String} {capacity : Nat}
    (unused : start.broker.queue? queue = some (Queue.create name capacity)) {parcel : Parcel}
    (read : parcel ∈ (network.receivedBy queue).reverse) :
    ∃ step ∈ later, step.before.handed? respond step.action queue = some parcel := by
  have whole := prior.trans trace
  rw [← whole.receivedBy_eq queue] at read
  obtain ⟨arrived, kept⟩ := whole.received read
  obtain ⟨step, member, handed⟩ := List.mem_filterMap.mp arrived
  rcases List.mem_append.mp member with before | after
  · -- What came in before was given up by then, since the queue held nothing of it.
    have balanced := prior.ledger.1 queue _ unused
    have stock := balanced.stock rfl
    rw [prior.receivedBy_eq, receivedBy, unused] at stock
    have standing : (Network.ledger respond earlier queue).standing = [] :=
      (balanced.kept rfl).trans (congrArg (· ++ []) stock)
    have gone := List.filter_eq_nil_iff.mp standing parcel
      (List.mem_filterMap.mpr ⟨step, before, handed⟩)
    have stays : (Network.ledger respond earlier queue).abandoned parcel.post = false :=
      (Bool.or_eq_false_iff.mp (List.any_append.symm.trans kept)).1
    exact absurd (by rw [stays]; rfl) gone
  · exact ⟨step, after, handed⟩

theorem Trace.messagesAmong_eq (prior : Trace respond empty earlier start)
    (trace : Trace respond start later network) {name : String} {capacity : Nat}
    (unused : start.broker.queue? queue = some (Queue.create name capacity))
    (only : ∀ step ∈ later, (step.before.handed? respond step.action queue).isSome = true →
      (step.ask? client).isSome = true) :
    network.messagesAmong client (network.receivedBy queue).reverse =
      (network.receivedBy queue).reverse.map Parcel.message := by
  refine congrArg (List.map Parcel.message) (List.filter_eq_self.mpr fun parcel read => ?_)
  obtain ⟨step, member, handed⟩ := prior.handed_since trace unused read
  obtain ⟨ask, asked⟩ := Option.isSome_iff_exists.mp (only step member (by rw [handed]; rfl))
  obtain ⟨front, back, -, -, performed, rest⟩ := trace.split member
  rw [ask?_eq_some.mp asked] at performed
  obtain ⟨owner, call, -, there, issue⟩ := call_of_perform performed
  obtain ⟨record, found, same⟩ := Option.map_eq_some_iff.mp
    ((getElem?_issued ..).symm.trans (rest.run.issued_mono (issued_of_getElem? there)))
  refine List.any_eq_true.mpr ⟨record, List.mem_of_getElem? found, ?_⟩
  have mine : record.client = client := congrArg Call.client (same.trans issue)
  have post : record.post = step.before.nextPost := congrArg Call.post (same.trans issue)
  simp [mine, post, post_of_handed? handed]

end Attention

end Network

end LedgerNode.Bus
