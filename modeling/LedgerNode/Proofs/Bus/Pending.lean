import LedgerNode.Proofs.Bus.Traffic

set_option autoImplicit false

namespace LedgerNode.Bus

namespace Network

/-- Each outstanding call has a place under its client and id, and the places hold nothing else. -/
structure Registered (network : Network) : Prop where
  waits : ∀ id call, network.calls[id]? = some call → call.state = .outstanding →
    network.holder? call.client call.correlationId = some id
  holds : ∀ client correlation id, network.holder? client correlation = some id →
    ∃ call, network.calls[id]? = some call ∧ call.client = client ∧
      call.correlationId = correlation ∧ call.state = .outstanding

theorem registered_empty : empty.Registered := by
  constructor <;> simp [empty, holder?]

theorem holder?_modify {before after : Network} {id : ClientId} {change : Client → Client}
    (clients : after.clients = before.clients.modify id change)
    (kept : ∀ client, (change client).pending = client.pending) (client : ClientId)
    (correlation : CorrelationId) :
    after.holder? client correlation = before.holder? client correlation := by
  unfold holder?
  rw [clients, List.getElem?_modify]
  cases before.clients[client]? with
  | none => rfl
  | some owner =>
    by_cases same : id = client <;> simp [same, kept]

theorem holder?_cleared {before after : Network} {id : ClientId} {cleared : CorrelationId}
    (clients : after.clients = before.clients.modify id (fun client =>
      { client with pending := removePending cleared client.pending }))
    (client : ClientId) (correlation : CorrelationId) :
    after.holder? client correlation =
      if client = id ∧ correlation = cleared then none
      else before.holder? client correlation := by
  unfold holder?
  rw [clients, List.getElem?_modify]
  cases before.clients[client]? with
  | none => simp
  | some owner =>
    by_cases same : id = client
    · subst same
      simp [removePending, lookup_filter_ne]
    · simp [same, Ne.symm same]

theorem holder?_launched {network : Network} {id : ClientId} {owner : Client}
    (owned : network.clients[id]? = some owner) (route : String) (timeout : Duration)
    (client : ClientId) (correlation : CorrelationId) :
    (network.launched id owner route timeout).holder? client correlation =
      if client = id ∧ correlation = owner.nextId then some network.calls.length
      else network.holder? client correlation := by
  unfold holder?
  rw [launched_frame, List.getElem?_modify]
  by_cases same : id = client
  · subst same
    by_cases next : correlation = owner.nextId <;>
      simp [owned, lookup_cons_ite, removePending, lookup_filter_ne, next]
  · cases network.clients[client]? <;> simp [same, Ne.symm same]

theorem holder?_connected (network : Network) (name : String) (capacity : Nat) (client : ClientId)
    (correlation : CorrelationId) :
    (network.connected name capacity).holder? client correlation =
      network.holder? client correlation := by
  unfold holder? connected
  simp only [List.getElem?_append]
  split
  next => rfl
  next beyond =>
    rw [List.getElem?_eq_none (Nat.not_lt.mp beyond)]
    cases client - network.clients.length <;> simp

theorem Registered.same {before after : Network} (registered : before.Registered)
    (calls : after.calls = before.calls)
    (holders : ∀ client correlation,
      after.holder? client correlation = before.holder? client correlation) :
    after.Registered where
  waits := by simpa only [calls, holders] using registered.waits
  holds := by simpa only [calls, holders] using registered.holds

theorem Registered.cleared {before after : Network} (registered : before.Registered)
    (client : ClientId) (correlation : CorrelationId)
    (holders : ∀ other id, after.holder? other id =
      if other = client ∧ id = correlation then none else before.holder? other id)
    (change : CallId → Call → Call)
    (calls : ∀ id, after.calls[id]? = (before.calls[id]?).map (change id))
    (issue : ∀ id call, (change id call).issue = call.issue)
    (kept : ∀ id call, before.calls[id]? = some call →
      ¬(call.client = client ∧ call.correlationId = correlation) → change id call = call)
    (settled : ∀ id call, (change id call).state = .outstanding →
      call.state = .outstanding ∧ before.holder? client correlation ≠ some id) :
    after.Registered where
  waits := by
    intro id call found outstanding
    rw [calls] at found
    obtain ⟨was, there, rfl⟩ := Option.map_eq_some_iff.mp found
    obtain ⟨waiting, elsewhere⟩ := settled id was outstanding
    have place := registered.waits id was there waiting
    have issued := issue id was
    have sameClient : (change id was).client = was.client := (Call.mk.inj issued).1
    have sameId : (change id was).correlationId = was.correlationId := (Call.mk.inj issued).2.1
    rw [holders, sameClient, sameId, if_neg, place]
    rintro ⟨ownClient, ownId⟩
    exact elsewhere (ownClient ▸ ownId ▸ place)
  holds := by
    intro other identity id held
    rw [holders] at held
    split at held
    next => cases held
    next apart =>
      obtain ⟨call, there, rfl, rfl, outstanding⟩ := registered.holds other identity id held
      refine ⟨call, ?_, rfl, rfl, outstanding⟩
      rw [calls, there, Option.map_some, kept id call there apart]

theorem Ended.registered {before after : Network} (ended : before.Ended after)
    (registered : before.Registered) : after.Registered := by
  obtain ⟨id, call, state, found, -, ending, rfl⟩ := ended
  refine registered.cleared call.client call.correlationId ?_ _
    (fun _ => getElem?_calls_endCall found state) ?_ ?_ ?_
  · exact holder?_cleared (by rw [endCall_frame found])
  · intro other record
    split
    next => rfl
    next => split <;> rfl
  · intro other record there apart
    have different : other ≠ id := by
      rintro rfl
      obtain rfl := Option.some.inj (found.symm.trans there)
      exact apart ⟨rfl, rfl⟩
    -- Whoever has the place has the client and the id that the place is for.
    have unheld : before.holder? call.client call.correlationId ≠ some other := by
      intro held
      obtain ⟨_, same, client, correlation, -⟩ := registered.holds _ _ _ held
      obtain rfl := Option.some.inj (there.symm.trans same)
      exact apart ⟨client, correlation⟩
    simp [different, unheld]
  · intro other record outstanding
    have finished : state ≠ .outstanding := by cases ending <;> simp
    by_cases same : other = id
    · rw [if_pos same] at outstanding
      exact absurd outstanding finished
    · rw [if_neg same] at outstanding
      split at outstanding
      next => cases outstanding
      next unsettled => exact ⟨outstanding, fun held => unsettled ⟨held, outstanding⟩⟩

theorem Registered.delivered {network : Network} (registered : network.Registered) {id : ClientId}
    {client : Client} (owned : network.clients[id]? = some client) (message : Message) :
    (network.deliver id message).Registered := by
  rcases deliver_cases owned message with ⟨-, same⟩ | ⟨call, held, frame, states⟩
  · rw [same]
    exact registered.same rfl (fun _ _ => rfl)
  · obtain ⟨record, found, rfl, own, outstanding⟩ := registered.holds _ _ _ held
    refine registered.cleared record.client message.correlationId ?_ _ states ?_ ?_ ?_
    · exact holder?_cleared (by rw [frame])
    · intro other record
      split <;> rfl
    · intro other record' there apart
      -- The call that is handed the message is the one whose place is cleared.
      have different : other ≠ call := by
        rintro rfl
        obtain rfl := Option.some.inj (found.symm.trans there)
        exact apart ⟨rfl, own⟩
      simp [different]
    · intro other record' waiting
      split at waiting
      next => cases waiting
      next unsettled =>
        refine ⟨waiting, fun held' => unsettled ⟨?_, waiting⟩⟩
        exact Option.some.inj (held'.symm.trans held)

theorem Registered.launched {network : Network} (registered : network.Registered) {id : ClientId}
    {owner : Client} (owned : network.clients[id]? = some owner) (route : String)
    (timeout : Duration) : (network.launched id owner route timeout).Registered := by
  have within {client : ClientId} {correlation : CorrelationId} {call : CallId}
      (held : network.holder? client correlation = some call) : call < network.calls.length := by
    obtain ⟨record, found, -⟩ := registered.holds _ _ _ held
    exact (List.getElem?_eq_some_iff.mp found).1
  -- The new call takes the place of its id, and whichever call had it is no longer outstanding.
  refine ⟨?_, ?_⟩
  · intro call record found outstanding
    rw [getElem?_calls_launched] at found
    obtain ⟨was, there, changed⟩ := Option.map_eq_some_iff.mp found
    split at changed
    next => subst changed; cases outstanding
    next undisturbed =>
      subst changed
      rw [holder?_launched owned]
      rw [List.getElem?_append] at there
      split at there
      next =>
        have place := registered.waits call was there outstanding
        rw [if_neg, place]
        rintro ⟨client, correlation⟩
        exact undisturbed ⟨client ▸ correlation ▸ place, outstanding⟩
      next beyond =>
        obtain ⟨only, rfl⟩ := List.getElem?_eq_some_iff.mp there
        rw [List.length_singleton, Nat.lt_one_iff, Nat.sub_eq_zero_iff_le] at only
        have last : call = network.calls.length := Nat.le_antisymm only (Nat.not_lt.mp beyond)
        simp [startedCall, last]
  · intro client correlation call held
    rw [holder?_launched owned] at held
    split at held
    next own =>
      obtain ⟨rfl, rfl⟩ := own
      obtain rfl := Option.some.inj held
      have unheld : network.holder? client owner.nextId ≠ some network.calls.length :=
        fun held => Nat.lt_irrefl _ (within held)
      refine ⟨network.startedCall client owner route timeout, ?_, rfl, rfl, rfl⟩
      rw [getElem?_calls_launched]
      simp [unheld]
    next apart =>
      obtain ⟨record, found, rfl, rfl, outstanding⟩ := registered.holds _ _ _ held
      refine ⟨record, ?_, rfl, rfl, outstanding⟩
      rw [getElem?_calls_launched, List.getElem?_append_left (within held), found]
      have unheld : network.holder? id owner.nextId ≠ some call := by
        intro held'
        obtain ⟨_, same, client, correlation, -⟩ := registered.holds _ _ _ held'
        obtain rfl := Option.some.inj (found.symm.trans same)
        exact apart ⟨client, correlation⟩
      simp [unheld]

theorem Registered.changed {respond : Responder} {action : Action} {before after : Network}
    (registered : before.Registered) (change : Change respond action before after) :
    after.Registered := by
  cases change with
  | connected => exact registered.same rfl (holder?_connected _ _ _)
  | launched owned => exact (registered.launched owned _ _).same rfl (fun _ _ => rfl)
  | misfired owned => exact (registered.launched owned _ _).same rfl (fun _ _ => rfl)
  | ended _ ended => exact ended.registered registered
  | released => exact registered.same rfl (holder?_modify rfl (fun _ => rfl))
  | delivered owned =>
    apply Registered.delivered
    · exact registered.same rfl (fun _ _ => rfl)
    · exact owned
  | _ => exact registered.same rfl (fun _ _ => rfl)

theorem Run.registered {respond : Responder} {allowed : Network → Action → Prop}
    {network : Network} (run : Run respond allowed empty network) : network.Registered :=
  run.invariant Registered registered_empty (fun change _ registered => registered.changed change)
    (fun ended registered => ended.registered registered)

end Network

end LedgerNode.Bus
