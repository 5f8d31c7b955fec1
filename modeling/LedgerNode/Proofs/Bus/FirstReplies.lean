import LedgerNode.Proofs.Bus.Reconnection
import LedgerNode.Proofs.Bus.Registration
import LedgerNode.Proofs.Bus.Requests

set_option autoImplicit false

namespace LedgerNode.Bus

namespace Network

def Step.reply? (step : Step) (call : Call) : Option Bytes :=
  if step.action = .dispatch call.client ∧ step.before.clock < call.deadline then
    (step.before.nextReply? call.client).bind (fun reply =>
      if reply.answers = some call.post then some reply.message.payload else none)
  else
    none

def firstReply? (steps : List Step) (call : Call) : Option Bytes :=
  steps.findSome? (fun step => step.reply? call)

/--
Before a step the route of a client leads to a queue with a consumer. What the client dispatches in the
step is a reply to a message that was received, and no call of the client is overdue then.
-/
structure Step.Served (step : Step) (client : ClientId) (route : String) (queue : QueueId) :
    Prop where
  bound : step.before.broker.lookup? route = some queue
  consumed : step.before.broker.isConsumed queue = true
  genuine : step.action = .dispatch client → ∀ owner ∈ step.before.clients[client]?,
    ∀ reply ∈ step.before.nextReply? client,
      ∃ request, step.before.Answers owner.replyQueue reply request
  punctual : step.action = .dispatch client → ∀ call ∈ step.before.calls, call.client = client →
    call.state.isLive = true → step.before.clock < call.deadline

/-- A step in which a client with a served route hands no reply to a call of its own that was made for
somebody else, such as a client that had the same reply queue before it. -/
structure Step.Attends (step : Step) (client : ClientId) (route : String) (queue : QueueId) :
    Prop extends Step.Served step client route queue where
  own : step.action = .dispatch client → ∀ reply ∈ step.before.nextReply? client,
    (step.before.holder? client reply.message.correlationId).isSome = true →
      ∃ call ∈ step.before.calls, call.client = client ∧ reply.answers = some call.post

instance (step : Step) (client : ClientId) (route : String) (queue : QueueId) :
    Decidable (step.Served client route queue) :=
  decidable_of_iff
    (step.before.broker.lookup? route = some queue ∧
      step.before.broker.isConsumed queue = true ∧
      (step.action = .dispatch client → ∀ owner ∈ step.before.clients[client]?,
        ∀ reply ∈ step.before.nextReply? client,
          ∃ request, step.before.Answers owner.replyQueue reply request) ∧
      (step.action = .dispatch client → ∀ call ∈ step.before.calls, call.client = client →
        call.state.isLive = true → step.before.clock < call.deadline))
    ⟨fun ⟨bound, consumed, genuine, punctual⟩ => ⟨bound, consumed, genuine, punctual⟩,
      fun served => ⟨served.bound, served.consumed, served.genuine, served.punctual⟩⟩

instance (step : Step) (client : ClientId) (route : String) (queue : QueueId) :
    Decidable (step.Attends client route queue) :=
  decidable_of_iff
    (step.Served client route queue ∧
      (step.action = .dispatch client → ∀ reply ∈ step.before.nextReply? client,
        (step.before.holder? client reply.message.correlationId).isSome = true →
          ∃ call ∈ step.before.calls, call.client = client ∧ reply.answers = some call.post))
    ⟨fun ⟨served, own⟩ => { served with own }, fun attends => ⟨attends.toServed, attends.own⟩⟩

inductive Heeds (network : Network) (call : Call) (first : Option Bytes) : Prop where
  | outstanding (state : call.state = .outstanding) (silent : first = none) :
      Heeds network call first
  | answered {payload : Bytes} {request : Parcel} (state : call.state = .answered payload)
      (got : first = some payload) (received : network.Received request)
      (own : request.post = call.post) : Heeds network call first
  | returned {payload : Bytes} (state : call.state = .returned payload)
      (got : first = some payload) : Heeds network call first
  | late (state : call.state = .failed (.timeout call.timeout)) (silent : first = none)
      (due : call.deadline ≤ network.clock) : Heeds network call first
  | aborted (state : call.state = .aborted) : Heeds network call first

theorem reply?_eq_some {step : Step} {call : Call} {payload : Bytes} :
    step.reply? call = some payload ↔
      step.action = .dispatch call.client ∧ step.before.clock < call.deadline ∧
        ∃ reply, step.before.nextReply? call.client = some reply ∧
          reply.answers = some call.post ∧ reply.message.payload = payload := by
  unfold Step.reply?
  split
  next timely =>
    simp [Option.bind_eq_some_iff, timely.1, timely.2]
  next untimely =>
    constructor
    · intro got
      cases got
    · rintro ⟨dispatches, early, -⟩
      exact absurd ⟨dispatches, early⟩ untimely

theorem firstReply?_concat (steps : List Step) (step : Step) (call : Call) :
    firstReply? (steps ++ [step]) call = (firstReply? steps call).or (step.reply? call) := by
  simp [firstReply?, List.findSome?_append]

section Steps

variable {respond : Responder} {before after : Network} {action : Action} {client : ClientId}
  {route : String} {queue : QueueId} {id : CallId} {call : Call}

theorem Step.Attends.sendable {step : Step} (attends : step.Attends client route queue)
    (parcel : Parcel) : ∃ sent, step.before.broker.publish route parcel = .ok sent :=
  ⟨_, Broker.publish_eq_ok.mpr ⟨queue, attends.bound, attends.consumed, rfl⟩⟩

theorem Step.Served.answering {step : Step} (served : step.Served client route queue)
    {allowed : Network → Action → Prop} (run : Run respond allowed empty step.before)
    (dispatches : step.action = .dispatch client) {reply : Parcel}
    (next : step.before.nextReply? client = some reply) :
    ∃ request, step.before.Received request ∧ reply.answers = some request.post ∧
      ∀ (id : CallId) (call : Call), step.before.calls[id]? = some call →
        call.post = request.post → reply.message.correlationId = call.correlationId := by
  obtain ⟨owner, owned, -⟩ := Option.bind_eq_some_iff.mp next
  obtain ⟨request, received, -, made, genuine⟩ := served.genuine dispatches owner owned reply next
  refine ⟨request, received, made, fun id call found post => ?_⟩
  obtain ⟨queue, seen⟩ := received.seen
  have issued := List.mem_of_getElem? (issued_of_getElem? found)
  rw [genuine]
  exact run.marked queue request seen call.issue issued post

theorem Step.Attends.handed {allowed : Network → Action → Prop}
    (attends : Step.Attends ⟨before, action, after⟩ client route queue)
    (run : Run respond allowed empty before) (performed : before.perform respond action = some after)
    (found : before.calls[id]? = some call) (mine : call.client = client)
    (outstanding : call.state = .outstanding) {payload : Bytes}
    (replied : Step.reply? ⟨before, action, after⟩ call = some payload) :
    after.calls[id]? = some { call with state := .answered payload } ∧
      ∃ request, before.Received request ∧ request.post = call.post := by
  subst mine
  obtain ⟨dispatches, -, reply, next, made, rfl⟩ := reply?_eq_some.mp replied
  obtain ⟨request, received, made', carries⟩ := attends.toServed.answering run dispatches next
  have post : call.post = request.post := Option.some.inj (made.symm.trans made')
  -- An outstanding call has its place, and that is where its reply goes.
  have held := run.registered.waits id call found outstanding
  rw [← carries id call found post] at held
  obtain ⟨later, done, handed⟩ : ∃ later, before.perform respond (.dispatch call.client) =
      some later ∧ later.calls[id]? = some { call with
        state := .answered reply.message.payload } := handed_of_holder next held found outstanding
  have dispatches : action = .dispatch call.client := dispatches
  rw [dispatches] at performed
  obtain rfl := Option.some.inj (done.symm.trans performed)
  exact ⟨handed, request, received, post.symm⟩

theorem Step.Attends.replied {allowed : Network → Action → Prop}
    (attends : Step.Attends ⟨before, action, after⟩ client route queue)
    (run : Run respond allowed empty before) (few : before.callCount client < 2 ^ 64)
    (found : before.calls[id]? = some call) (mine : call.client = client)
    (outstanding : call.state = .outstanding) {reader : ClientId} {reply : Parcel}
    (dispatches : action = .dispatch reader) (next : before.nextReply? reader = some reply)
    (held : before.holder? reader reply.message.correlationId = some id) :
    Step.reply? ⟨before, action, after⟩ call = some reply.message.payload := by
  obtain ⟨_, there, owned, own, -⟩ := run.registered.holds _ _ _ held
  obtain rfl := Option.some.inj (found.symm.trans there)
  obtain rfl := owned.symm.trans mine
  obtain ⟨request, -, made', carries⟩ := attends.toServed.answering run dispatches next
  have taken : (before.holder? reader reply.message.correlationId).isSome = true := by
    rw [held]
    rfl
  obtain ⟨record, member, same, made⟩ := attends.own dispatches reply next taken
  obtain ⟨asking, asked⟩ := List.getElem?_of_mem member
  have own' := carries asking record asked (Option.some.inj (made.symm.trans made'))
  -- The reply has the id of the call it was made for, and so has this call.
  obtain rfl := run.numbered.eq_of_id (issued_of_getElem? asked) (issued_of_getElem? found)
    (same.trans mine.symm) (own'.symm.trans own.symm)
    (Nat.le_of_lt (show before.callCount record.client < 2 ^ 64 from same ▸ few))
  obtain rfl := Option.some.inj (asked.symm.trans found)
  have live : record.state.isLive = true := by rw [outstanding]; rfl
  have early := attends.punctual dispatches record (List.mem_of_getElem? found) mine live
  rw [← mine] at dispatches next
  exact reply?_eq_some.mpr ⟨dispatches, early, reply, next, made, rfl⟩

theorem Ending.of_outstanding {network : Network} {state : CallState}
    (ending : network.Ending call state) (outstanding : call.state = .outstanding)
    (kept : network.broker.isRefused call.post = false)
    (sendable : ∀ parcel, ∃ sent, network.broker.publish call.route parcel = .ok sent) :
    state = .aborted ∨
      state = .failed (.timeout call.timeout) ∧ call.deadline ≤ network.clock := by
  cases ending with
  | refused refused => cases refused.symm.trans kept
  | @unsent _ parcel failed =>
    obtain ⟨sent, published⟩ := sendable parcel
    cases failed.symm.trans published
  | answered _ _ answered => cases answered.symm.trans outstanding
  | disconnected _ _ disconnected => cases disconnected.symm.trans outstanding
  | late _ _ due => exact .inr ⟨rfl, due⟩
  | aborted => exact .inl rfl

theorem Ending.of_answered {network : Network} {state : CallState} {payload : Bytes}
    (ending : network.Ending call state) (answered : call.state = .answered payload)
    (kept : network.broker.isRefused call.post = false)
    (accepted : network.broker.isWaiting call.post = false)
    (sendable : ∀ parcel, ∃ sent, network.broker.publish call.route parcel = .ok sent) :
    state = .aborted ∨ state = .returned payload := by
  cases ending with
  | refused refused => cases refused.symm.trans kept
  | @unsent _ parcel failed =>
    obtain ⟨sent, published⟩ := sendable parcel
    cases failed.symm.trans published
  | answered _ _ same => cases same.symm.trans answered; exact .inr rfl
  | disconnected _ _ disconnected => cases disconnected.symm.trans answered
  | late _ unanswered =>
    rcases unanswered with waits | outstanding
    · cases waits.symm.trans accepted
    · cases outstanding.symm.trans answered
  | aborted => exact .inl rfl

theorem Heeds.outcome? {network : Network} {first : Option Bytes} (heeds : network.Heeds call first)
    (found : network.calls[id]? = some call) (past : (network.outcome? id).isSome = true) :
    network.outcome? id = some (first.elim (.error (.timeout call.timeout)) .ok) := by
  unfold Network.outcome? at past ⊢
  rw [found, Option.map_some] at past ⊢
  cases heeds with
  | outstanding state => simp [state] at past
  | answered state => simp [state] at past
  | returned state got => simp [state, got]
  | late state silent => simp [state, silent]
  | aborted state => simp [state] at past

end Steps

section Traces

variable {respond : Responder} {earlier steps : List Step} {start before after network : Network}
  {action : Action} {client : ClientId} {route : String} {queue : QueueId} {id : CallId} {call : Call}

theorem Trace.heeds_step (trace : Trace respond empty earlier before)
    (attends : Step.Attends ⟨before, action, after⟩ client route queue)
    (performed : before.perform respond action = some after)
    (few : after.callCount client < 2 ^ 64) (found : before.calls[id]? = some call)
    (mine : call.client = client) (routed : call.route = route) {parcel : Parcel}
    (arrived : parcel ∈ (Network.ledger respond earlier queue).arrived) (post : parcel.post = call.post)
    {first : Option Bytes} (heeds : before.Heeds call first) :
    ∃ state, after.calls[id]? = some { call with state } ∧
      after.Heeds { call with state } (first.or (Step.reply? ⟨before, action, after⟩ call)) := by
  have run := trace.run
  have later := clock_of_perform performed
  have fewer : before.callCount client < 2 ^ 64 :=
    Nat.lt_of_le_of_lt (callCount_of_perform performed client) few
  obtain ⟨state, there, proceeds⟩ := proceeds_of_perform performed found
  have undisturbed : state ≠ .disconnected := fun lost =>
    (run.next action trivial performed).undisturbed id _ there (mine ▸ few) lost
  have kept := trace.not_refused attends.consumed arrived
  rw [post] at kept
  have sendable := attends.sendable
  rw [← routed] at sendable
  cases heeds with
  | outstanding outstanding silent =>
    cases replied : Step.reply? ⟨before, action, after⟩ call with
    | some payload =>
      obtain ⟨handed, request, received, own⟩ :=
        attends.handed run performed found mine outstanding replied
      have received := received_of_perform performed received
      exact ⟨_, handed, .answered rfl (by simp [silent]) received own⟩
    | none =>
      refine ⟨state, there, ?_⟩
      cases proceeds with
      | kept => exact .outstanding outstanding (by simp [silent])
      | displaced => exact absurd rfl undisturbed
      | handed _ dispatches next held =>
        cases (attends.replied run fewer found mine outstanding dispatches next held).symm.trans
          replied
      | finished _ ending =>
        rcases ending.of_outstanding outstanding kept sendable with rfl | ⟨rfl, due⟩
        · exact .aborted rfl
        · exact .late rfl (by simp [silent]) (Nat.le_trans due later)
  | answered answered got received own =>
    have accepted := trace.not_waiting_of_received received
    rw [own] at accepted
    refine ⟨state, there, ?_⟩
    cases proceeds with
    | kept => exact .answered answered (by simp [got]) (received_of_perform performed received) own
    | displaced => exact absurd rfl undisturbed
    | handed outstanding => cases outstanding.symm.trans answered
    | finished _ ending =>
      rcases ending.of_answered answered kept accepted sendable with rfl | rfl
      · exact .aborted rfl
      · exact .returned rfl (by simp [got])
  | returned returned got =>
    obtain rfl := proceeds.of_over (by rw [returned]; rfl)
    exact ⟨call.state, there, .returned returned (by simp [got])⟩
  | late late silent due =>
    obtain rfl := proceeds.of_over (by rw [late]; rfl)
    -- The time of the call is up, so no reply is in time any more.
    have untimely : Step.reply? ⟨before, action, after⟩ call = none := by
      cases replied : Step.reply? ⟨before, action, after⟩ call with
      | none => rfl
      | some payload =>
        obtain ⟨-, early, -⟩ := reply?_eq_some.mp replied
        exact absurd early (Nat.not_lt.mpr due)
    exact ⟨call.state, there, .late late (by simp [silent, untimely]) (Nat.le_trans due later)⟩
  | aborted aborted =>
    obtain rfl := proceeds.of_over (by rw [aborted]; rfl)
    exact ⟨call.state, there, .aborted aborted⟩

theorem Change.sendable {caller : ClientId} {payload : Bytes} {timeout : Duration}
    (change : Change respond (.call caller route payload timeout) before after)
    (bound : before.broker.lookup? route = some queue)
    (consumed : before.broker.isConsumed queue = true) :
    after.broker.refused = before.broker.refused ∧
      ∀ parcel, ∃ sent, after.broker.publish route parcel = .ok sent := by
  cases change with
  | @launched _ _ owner _ _ _ target _ target_bound =>
    refine ⟨by simp only [sent, broker_launched, Broker.refused_update], fun parcel => ?_⟩
    refine ⟨_, Broker.publish_eq_ok.mpr ⟨queue, ?_, ?_, rfl⟩⟩
    · simpa only [sent, broker_launched, Broker.lookup?_update] using bound
    · -- What comes in leaves the consumer where it is.
      unfold Broker.isConsumed at consumed ⊢
      simp only [sent, broker_launched, Broker.queue?_update]
      split
      next => simpa [Option.any_map, Function.comp_def] using consumed
      next => exact consumed
  | misfired _ failed =>
    cases failed.symm.trans (Broker.publish_eq_ok.mpr ⟨queue, bound, consumed, rfl⟩)
  | left leaving => cases leaving
  | ended ends => cases ends

theorem Trace.heeds_started (trace : Trace respond empty earlier before)
    (attends : Step.Attends ⟨before, action, after⟩ client route queue)
    (performed : before.perform respond action = some after) (absent : before.calls[id]? = none)
    (found : after.calls[id]? = some call) (routed : call.route = route) :
    call.post = before.nextPost ∧ Step.reply? ⟨before, action, after⟩ call = none ∧
      (∃ parcel, before.handed? respond action queue = some parcel ∧ parcel.post = call.post) ∧
      after.Heeds call none := by
  obtain ⟨caller, owner, target, payload, timeout, rfl, owned, issue, outcome⟩ :=
    started_of_perform performed trace.run.registered absent found
  have post : call.post = before.nextPost := congrArg Call.post issue
  obtain rfl : target = route := (congrArg Call.route issue).symm.trans routed
  let request : Parcel :=
    { post := before.nextPost, answers := none, message := owner.request payload }
  have published : before.publication? respond (.call caller target payload timeout) =
      some (target, request) := by simp [publication?, owned, request]
  have handed : before.handed? respond (.call caller target payload timeout) queue =
      some request :=
    (handed?_of_publication? queue published attends.bound attends.consumed).trans (if_pos rfl)
  refine ⟨post, ?_, ⟨request, handed, post.symm⟩, ?_⟩
  · cases replied : Step.reply? ⟨before, .call caller target payload timeout, after⟩ call with
    | none => rfl
    | some payload => cases (reply?_eq_some.mp replied).1
  · rcases outcome with outstanding | ⟨middle, change, there, ends, proper⟩
    · exact .outstanding outstanding rfl
    · -- Only a call without time ends at once, and then its time is up.
      obtain ⟨same, sendable⟩ := change.sendable attends.bound attends.consumed
      have kept : middle.broker.isRefused call.issue.post = false := by
        have post : call.issue.post = before.nextPost := post
        rw [Broker.isRefused, same, post]
        cases refused : before.broker.isRefused before.nextPost with
        | false => exact refused
        | true =>
          obtain ⟨other, parcel, arrived, own, -⟩ := trace.refused refused
          exact absurd own (Nat.ne_of_lt (trace.arrived_below arrived))
      have clock := ends.ended.clock
      obtain ⟨record, known, -, ending, -⟩ := ends
      obtain rfl := Option.some.inj (there.symm.trans known)
      rcases ending.of_outstanding rfl kept (by simpa [Call.issue, routed] using sendable) with
        aborted | ⟨late, due⟩
      · exact absurd aborted proper
      · exact .late late rfl (clock ▸ due)

theorem Trace.unreplied (prior : Trace respond empty earlier start)
    (trace : Trace respond start steps network)
    (served : ∀ step ∈ steps, step.Served client route queue) (mine : call.client = client)
    (fresh : network.nextPost ≤ call.post) : firstReply? steps call = none := by
  apply List.findSome?_eq_none_iff.mpr
  intro step member
  cases replied : step.reply? call with
  | none => rfl
  | some payload =>
    subst mine
    obtain ⟨front, back⟩ := trace.around member
    have run := prior.run.trans front
    obtain ⟨dispatches, -, reply, next, made, -⟩ := reply?_eq_some.mp replied
    obtain ⟨request, received, made', -⟩ := (served step member).answering run dispatches next
    have same : request.post = call.post := Option.some.inj (made'.symm.trans made)
    obtain ⟨place, seen⟩ := received.seen
    have posted := run.dated.seen place request seen
    have earlier : request.post < call.post :=
      Nat.lt_of_lt_of_le posted (Nat.le_trans back.nextPost fresh)
    exact absurd same (Nat.ne_of_lt earlier)

/-- Every call of the client to its route heeds the first reply that came in time. -/
theorem Trace.heeds (prior : Trace respond empty earlier start)
    (trace : Trace respond start steps network)
    (fresh : ∀ call ∈ start.calls, call.client ≠ client)
    (attends : ∀ step ∈ steps, step.Attends client route queue)
    (few : network.callCount client < 2 ^ 64) (found : network.calls[id]? = some call)
    (mine : call.client = client) (routed : call.route = route) :
    (∃ parcel ∈ (Network.ledger respond (earlier ++ steps) queue).arrived,
      parcel.post = call.post) ∧ network.Heeds call (firstReply? steps call) := by
  induction trace generalizing call with
  | start => exact absurd mine (fresh call (List.mem_of_getElem? found))
  | @next steps before after action trace performed ih =>
    have whole := prior.trans trace
    have step := attends ⟨before, action, after⟩ (List.mem_append_right _ List.mem_cons_self)
    have attends := fun step member => attends step (List.mem_append_left _ member)
    have fewer : before.callCount client < 2 ^ 64 :=
      Nat.lt_of_le_of_lt (callCount_of_perform performed client) few
    rw [← List.append_assoc, firstReply?_concat]
    cases there : before.calls[id]? with
    | none =>
      obtain ⟨post, silent, ⟨parcel, handed, same⟩, heeds⟩ :=
        whole.heeds_started step performed there found routed
      have served := fun step member => (attends step member).toServed
      rw [prior.unreplied trace served mine (Nat.le_of_eq post.symm), silent]
      refine ⟨⟨parcel, ?_, same⟩, heeds⟩
      rw [ledger_concat]
      exact List.mem_append_right _ (by simp [handed])
    | some was =>
      obtain ⟨state, later, -⟩ := proceeds_of_perform performed there
      obtain rfl := Option.some.inj (found.symm.trans later)
      obtain ⟨⟨parcel, arrived, same⟩, heeds⟩ := ih attends fewer there mine routed
      obtain ⟨state', later', heeds⟩ :=
        whole.heeds_step step performed few there mine routed arrived same heeds
      obtain rfl := congrArg Call.state (Option.some.inj (later.symm.trans later'))
      exact ⟨⟨parcel, arrived_concat arrived, same⟩, heeds⟩

end Traces

end Network

end LedgerNode.Bus
