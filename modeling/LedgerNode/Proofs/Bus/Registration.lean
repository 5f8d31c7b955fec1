import LedgerNode.Proofs.Bus.Correlation

set_option autoImplicit false

namespace LedgerNode.Bus

namespace Network

def SinglyKept (network : Network) : Prop :=
  ∀ client ∈ network.clients, (client.pending.map Prod.fst).Nodup

theorem nodup_removePending {id : CorrelationId} {pending : List (CorrelationId × CallId)}
    (nodup : (pending.map Prod.fst).Nodup) : ((removePending id pending).map Prod.fst).Nodup :=
  nodup.sublist (List.filter_sublist.map _)

theorem nodup_register {id : CorrelationId} {pending : List (CorrelationId × CallId)}
    (nodup : (pending.map Prod.fst).Nodup) (call : CallId) :
    (((id, call) :: removePending id pending).map Prod.fst).Nodup := by
  refine List.nodup_cons.mpr ⟨?_, nodup_removePending nodup⟩
  intro member
  obtain ⟨entry, kept, same⟩ := List.mem_map.mp member
  have other := (List.mem_filter.mp kept).2
  simp [same] at other

theorem SinglyKept.modify {before after : Network} {id : ClientId} {change : Client → Client}
    (kept : before.SinglyKept) (clients : after.clients = before.clients.modify id change)
    (nodup : ∀ client ∈ before.clients, ((change client).pending.map Prod.fst).Nodup) :
    after.SinglyKept := by
  intro client member
  rw [clients] at member
  rcases mem_modify member with there | ⟨old, found, rfl⟩
  · exact kept client there
  · exact nodup old (List.mem_of_getElem? found)

theorem SinglyKept.launched {network : Network} (kept : network.SinglyKept) (id : ClientId)
    (owner : Client) (route : String) (timeout : Duration) :
    (network.launched id owner route timeout).SinglyKept := by
  rw [launched_frame]
  exact kept.modify rfl (fun client member => nodup_register (kept client member) _)

theorem Ended.singlyKept {before after : Network} (ended : before.Ended after)
    (kept : before.SinglyKept) : after.SinglyKept := by
  obtain ⟨id, call, state, found, -, -, rfl⟩ := ended
  rw [endCall_frame found]
  exact kept.modify rfl (fun client member => nodup_removePending (kept client member))

theorem SinglyKept.changed {respond : Responder} {action : Action} {before after : Network}
    (kept : before.SinglyKept) (change : Change respond action before after) :
    after.SinglyKept := by
  cases change with
  | connected =>
    intro client member
    rcases List.mem_append.mp member with there | new
    · exact kept client there
    · obtain rfl := List.mem_singleton.mp new
      exact List.nodup_nil
  | launched => exact kept.launched _ _ _ _
  | misfired => exact kept.launched _ _ _ _
  | ended _ ended => exact ended.singlyKept kept
  | released => exact kept.modify rfl kept
  | delivered owned found taken consumed =>
    next id client queue rest parcel =>
      have owned : (before.took client.inbox rest).clients[id]? = some client := owned
      have kept : (before.took client.inbox rest).SinglyKept := kept
      rcases deliver_cases owned parcel.message with ⟨-, same⟩ | ⟨_, -, frame, -⟩
      · rw [same]
        exact kept
      · rw [frame]
        exact kept.modify rfl (fun client member => nodup_removePending (kept client member))
  | _ => exact kept

theorem Run.singlyKept {respond : Responder} {allowed : Network → Action → Prop}
    {network : Network} (run : Run respond allowed empty network) : network.SinglyKept :=
  run.invariant SinglyKept (fun _ member => by cases member)
    (fun change _ kept => kept.changed change) (fun ended kept => ended.singlyKept kept)

/-- Whoever holds an id of a client that is issued, or that another call has, is in its way. -/
inductive InTheWay (before after : Network) (id : CallId) (call : Call) : Prop where
  | issued {owner : Client} (owned : before.clients[call.client]? = some owner)
      (same : call.correlationId = owner.nextId)
      (counted : before.callCount call.client < after.callCount call.client)
  | shared {other : CallId} {record : Call} (found : before.calls[other]? = some record)
      (different : other ≠ id) (client : record.client = call.client)
      (same : record.correlationId = call.correlationId)

theorem callCount_launched (network : Network) (client : ClientId) (owner : Client)
    (route : String) (timeout : Duration) :
    (network.launched client owner route timeout).callCount client =
      network.callCount client + 1 := by
  rw [callCount, issued_launched, List.countP_append]
  simp [callCount, startedCall]

theorem inTheWay_of_launched {before after : Network} (registered : before.Registered)
    {client : ClientId} {owner : Client} {route : String} {timeout : Duration}
    (owned : before.clients[client]? = some owner)
    (issued : after.issued = (before.launched client owner route timeout).issued)
    {id : CallId} {call now : Call} (found : before.calls[id]? = some call)
    (later : (before.launched client owner route timeout).calls[id]? = some now)
    (lost : now.state = .disconnected) (was : call.state ≠ .disconnected) :
    InTheWay before after id call := by
  have within := (List.getElem?_eq_some_iff.mp found).1
  rw [getElem?_calls_launched, List.getElem?_append_left within, found] at later
  simp only [Option.map_some, Option.some.injEq] at later
  split at later
  next held =>
    obtain ⟨_, there, rfl, own, -⟩ := registered.holds _ _ _ held.1
    obtain rfl := Option.some.inj (found.symm.trans there)
    have counted : after.callCount call.client = before.callCount call.client + 1 := by
      rw [callCount, issued]
      exact callCount_launched ..
    exact .issued owned own (counted ▸ Nat.lt_succ_self _)
  next => exact absurd (later ▸ lost) was

theorem inTheWay_of_ended {before after : Network} (registered : before.Registered)
    (ended : before.Ended after) {id : CallId} {call now : Call}
    (found : before.calls[id]? = some call) (later : after.calls[id]? = some now)
    (lost : now.state = .disconnected) (was : call.state ≠ .disconnected) :
    InTheWay before after id call := by
  obtain ⟨other, record, state, there, -, ending, rfl⟩ := ended
  rw [getElem?_calls_endCall there, found] at later
  simp only [Option.map_some, Option.some.injEq] at later
  split at later
  next =>
    subst later
    cases ending <;> cases lost
  next different =>
    split at later
    next held =>
      obtain ⟨_, again, mine, own, -⟩ := registered.holds _ _ _ held.1
      obtain rfl := Option.some.inj (found.symm.trans again)
      exact .shared there (Ne.symm different) mine.symm own.symm
    next => exact absurd (later ▸ lost) was

theorem Change.inTheWay {respond : Responder} {action : Action} {before after : Network}
    (change : Change respond action before after) (registered : before.Registered) {id : CallId}
    {call now : Call} (found : before.calls[id]? = some call)
    (later : after.calls[id]? = some now) (lost : now.state = .disconnected)
    (was : call.state ≠ .disconnected) : InTheWay before after id call := by
  have same (calls : after.calls[id]? = before.calls[id]?) : InTheWay before after id call := by
    obtain rfl := Option.some.inj (found.symm.trans (calls.symm.trans later))
    exact absurd lost was
  cases change with
  | launched owned =>
    apply inTheWay_of_launched registered owned _ found later lost was
    rfl
  | misfired owned =>
    apply inTheWay_of_launched registered owned _ found later lost was
    rfl
  | ended _ ended => exact inTheWay_of_ended registered ended found later lost was
  | delivered owned there taken consumed =>
    next client owner queue rest parcel =>
      have owned : (before.took owner.inbox rest).clients[client]? = some owner := owned
      rcases deliver_cases owned parcel.message with ⟨-, dropped⟩ | ⟨_, -, -, states⟩
      · exact same (by rw [dropped]; rfl)
      · rw [states, show (before.took owner.inbox rest).calls[id]? = some call from found] at later
        simp only [Option.map_some, Option.some.injEq] at later
        split at later
        next =>
          subst later
          cases lost
        next => exact absurd (later ▸ lost) was
  | _ => exact same rfl

def Undisturbed (network : Network) : Prop :=
  ∀ (id : CallId) (call : Call), network.calls[id]? = some call →
    network.callCount call.client < 2 ^ 64 → call.state ≠ .disconnected

theorem Undisturbed.changed {respond : Responder} {action : Action} {before after : Network}
    (undisturbed : before.Undisturbed) (registered : before.Registered)
    (numbered : before.Numbered) (change : Change respond action before after) :
    after.Undisturbed := by
  intro id now later few lost
  cases found : before.calls[id]? with
  | none =>
    rcases change.started_state found later with outstanding | ⟨-, client, correlation, held⟩
    · cases outstanding.symm.trans lost
    · obtain ⟨_, there, -⟩ := registered.holds _ _ _ held
      cases found.symm.trans there
  | some call =>
    obtain ⟨state, same, -⟩ := change.proceeds found
    obtain rfl := Option.some.inj (later.symm.trans same)
    have fewer : before.callCount call.client < 2 ^ 64 :=
      Nat.lt_of_le_of_lt (change.recorded.callCount call.client) few
    have was := undisturbed id call found fewer
    have issue := issued_of_getElem? found
    cases change.inTheWay registered found later lost was with
    | issued owned own counted =>
      -- The id of the call is the number of calls before it, and the next id that of all calls.
      have turn := numbered.toNat_id issue fewer
      have next := numbered.toNat_next (profile_of_getElem? owned) fewer
      have same := turn.symm.trans ((congrArg UInt64.toNat own).trans next)
      exact Nat.ne_of_lt (ordinal_lt_callCount issue) same
    | shared there different client same =>
      exact different (numbered.eq_of_id (issued_of_getElem? there) issue client same
        (client ▸ Nat.le_of_lt fewer))

theorem Run.undisturbed {respond : Responder} {allowed : Network → Action → Prop}
    {network : Network} (run : Run respond allowed empty network) : network.Undisturbed := by
  have all : network.Registered ∧ network.Numbered ∧ network.Undisturbed := by
    apply run.invariant (fun network =>
      network.Registered ∧ network.Numbered ∧ network.Undisturbed)
    · exact ⟨registered_empty, numbered_empty, fun _ _ found => by cases found⟩
    · intro action before after change _ ⟨registered, numbered, undisturbed⟩
      exact ⟨registered.changed change, numbered.recorded change.recorded,
        undisturbed.changed registered numbered change⟩
    · intro before after ended ⟨registered, numbered, undisturbed⟩
      have change : Change respond (.abort 0) before after := ended.change
      exact ⟨registered.changed change, numbered.recorded change.recorded,
        undisturbed.changed registered numbered change⟩
  exact all.2.2

def pendingOf (network : Network) (client : ClientId) : List (CorrelationId × CallId) :=
  ((network.clients[client]?).map Client.pending).getD []

theorem SinglyKept.mem_pendingOf {network : Network} (kept : network.SinglyKept)
    {client : ClientId} {correlation : CorrelationId} {id : CallId} :
    (correlation, id) ∈ network.pendingOf client ↔
      network.holder? client correlation = some id := by
  unfold pendingOf holder?
  cases owned : network.clients[client]? with
  | none => simp
  | some owner => exact mem_iff_lookup (kept owner (List.mem_of_getElem? owned))

structure PendingFits (network : Network) (client : ClientId) (owner : Client) : Prop where
  entries : ∀ correlation id, (correlation, id) ∈ owner.pending ↔
    ∃ call, network.calls[id]? = some call ∧ call.client = client ∧
      call.correlationId = correlation ∧ call.state.isLive = true ∧ call.state.reply? = none
  once : (owner.pending.map Prod.fst).Nodup
  below : ∀ correlation ∈ owner.pending.map Prod.fst, correlation < owner.nextId
  apart : ∀ (first second : CallId) (one other : Call), network.calls[first]? = some one →
    network.calls[second]? = some other → one.client = client → other.client = client →
    one.correlationId = other.correlationId → first = second
  idle : (∀ (id : CallId) (call : Call), network.calls[id]? = some call → call.client = client →
    call.state.isLive = false) → owner.pending = []

structure Unregistered (before after : Network) (id : CallId) (call : Call) : Prop where
  gone : ∀ client correlation, (correlation, id) ∉ after.pendingOf client
  free : call.correlationId ∉ (after.pendingOf call.client).map Prod.fst
  kept : ∀ client correlation other, other ≠ id →
    ((correlation, other) ∈ after.pendingOf client ↔
      (correlation, other) ∈ before.pendingOf client)

theorem Run.pendingFits {respond : Responder} {allowed : Network → Action → Prop}
    {network : Network} (run : Run respond allowed empty network) {client : ClientId}
    {owner : Client} (owned : network.clients[client]? = some owner)
    (few : network.callCount client < 2 ^ 64) : network.PendingFits client owner := by
  have kept := run.singlyKept
  have registered := run.registered
  have numbered := run.numbered
  have listed : network.pendingOf client = owner.pending := by simp [pendingOf, owned]
  have entries (correlation : CorrelationId) (id : CallId) :
      (correlation, id) ∈ owner.pending ↔
        ∃ call, network.calls[id]? = some call ∧ call.client = client ∧
          call.correlationId = correlation ∧ call.state.isLive = true ∧
          call.state.reply? = none := by
    rw [← listed, kept.mem_pendingOf]
    constructor
    · intro held
      obtain ⟨call, found, mine, own, outstanding⟩ := registered.holds _ _ _ held
      exact ⟨call, found, mine, own, by rw [outstanding]; rfl, by rw [outstanding]; rfl⟩
    · rintro ⟨call, found, rfl, rfl, live, unanswered⟩
      have undisturbed := run.undisturbed id call found few
      apply registered.waits id call found
      cases state : call.state <;> simp_all [CallState.isLive, CallState.reply?]
  refine ⟨entries, kept owner (List.mem_of_getElem? owned), ?_, ?_, ?_⟩
  · intro correlation member
    obtain ⟨⟨_, id⟩, listed, rfl⟩ := List.mem_map.mp member
    obtain ⟨call, found, rfl, rfl, -⟩ := (entries _ _).mp listed
    have issue := issued_of_getElem? found
    have turn := numbered.toNat_id issue few
    have next := numbered.toNat_next (profile_of_getElem? owned) few
    have earlier := ordinal_lt_callCount issue
    rw [← turn] at earlier
    exact UInt64.lt_iff_toNat_lt.mpr (Nat.lt_of_lt_of_eq earlier next.symm)
  · intro first second one other oneFound otherFound oneMine otherMine same
    exact numbered.eq_of_id (issued_of_getElem? oneFound) (issued_of_getElem? otherFound)
      (oneMine.trans otherMine.symm) same (oneMine ▸ Nat.le_of_lt few)
  · intro nobody
    apply List.eq_nil_iff_forall_not_mem.mpr
    rintro ⟨correlation, id⟩ member
    obtain ⟨call, found, mine, -, live, -⟩ := (entries _ _).mp member
    cases live.symm.trans (nobody id call found mine)

theorem EndedBy.over {before after : Network} {ended id : CallId} {state : CallState} {call : Call}
    (ends : before.EndedBy ended state after) (different : id ≠ ended)
    (found : after.calls[id]? = some call) (past : call.state.isLive = false) :
    ∃ was, before.calls[id]? = some was ∧ was.state.isLive = false := by
  obtain ⟨record, there, -, -, rfl⟩ := ends
  rw [getElem?_calls_endCall there] at found
  obtain ⟨was, earlier, rfl⟩ := Option.map_eq_some_iff.mp found
  refine ⟨was, earlier, ?_⟩
  rw [if_neg different] at past
  split at past
  next => cases past
  next => exact past

theorem EndedBy.holder? {before after : Network} {id : CallId} {state : CallState} {call : Call}
    (ends : before.EndedBy id state after) (registered : before.Registered)
    (numbered : before.Numbered) (found : after.calls[id]? = some call)
    (few : before.callCount call.client < 2 ^ 64) {other : CallId} (different : other ≠ id)
    (client : ClientId) (correlation : CorrelationId) :
    after.holder? client correlation = some other ↔
      before.holder? client correlation = some other := by
  obtain ⟨record, there, -, -, rfl⟩ := ends
  rw [getElem?_calls_endCall there, there] at found
  obtain rfl : { record with state } = call := by simpa using found
  rw [holder?_cleared (by rw [endCall_frame there])]
  split
  next own =>
    obtain ⟨rfl, rfl⟩ := own
    refine iff_of_false (by simp) (fun held => ?_)
    -- The place of a call is held by no call but that one.
    obtain ⟨another, known, client, same, -⟩ := registered.holds _ _ _ held
    exact different (numbered.eq_of_id (issued_of_getElem? known) (issued_of_getElem? there)
      client same (client ▸ Nat.le_of_lt few))
  next => rfl

theorem Registered.holder?_launched {network : Network} (registered : network.Registered)
    (numbered : network.Numbered) {id : ClientId} {owner : Client}
    (owned : network.clients[id]? = some owner) (few : network.callCount id < 2 ^ 64)
    (route : String) (timeout : Duration) {other : CallId}
    (different : other ≠ network.calls.length) (client : ClientId) (correlation : CorrelationId) :
    (network.launched id owner route timeout).holder? client correlation = some other ↔
      network.holder? client correlation = some other := by
  rw [Network.holder?_launched owned]
  split
  next own =>
    obtain ⟨rfl, rfl⟩ := own
    refine iff_of_false ?_ (fun held => ?_)
    · rintro ⟨rfl⟩
      exact different rfl
    · obtain ⟨call, found, rfl, same, -⟩ := registered.holds _ _ _ held
      have issue := issued_of_getElem? found
      have turn := numbered.toNat_id issue few
      have next := numbered.toNat_next (profile_of_getElem? owned) few
      exact Nat.ne_of_lt (ordinal_lt_callCount issue)
        (turn.symm.trans ((congrArg UInt64.toNat same).trans next))
  next => rfl

theorem Run.unregistered {respond : Responder} {network : Network} {id : CallId} {call : Call}
    (run : Run respond (fun _ _ => True) empty network) (found : network.calls[id]? = some call)
    (past : call.state.isLive = false) (few : network.callCount call.client < 2 ^ 64) :
    (∀ client correlation, (correlation, id) ∉ network.pendingOf client) ∧
      call.correlationId ∉ (network.pendingOf call.client).map Prod.fst := by
  have gone {client : ClientId} {correlation : CorrelationId} :
      (correlation, id) ∉ network.pendingOf client := by
    intro member
    obtain ⟨_, there, -, -, outstanding⟩ :=
      run.registered.holds _ _ _ (run.singlyKept.mem_pendingOf.mp member)
    obtain rfl := Option.some.inj (found.symm.trans there)
    rw [outstanding] at past
    cases past
  refine ⟨fun _ _ => gone, fun member => ?_⟩
  obtain ⟨⟨correlation, other⟩, listed, rfl⟩ := List.mem_map.mp member
  obtain ⟨_, there, client, same, -⟩ :=
    run.registered.holds _ _ _ (run.singlyKept.mem_pendingOf.mp listed)
  obtain rfl := run.numbered.eq_of_id (issued_of_getElem? there) (issued_of_getElem? found) client
    same (client ▸ Nat.le_of_lt few)
  exact gone listed

theorem Change.over {respond : Responder} {action : Action} {before after : Network}
    (change : Change respond action before after) (registered : before.Registered) {id : CallId}
    {call : Call} (found : after.calls[id]? = some call) (past : call.state.isLive = false)
    (was : ∀ old, before.calls[id]? = some old → old.state.isLive = true) :
    action.endsCall = true ∧ before.EndedBy id call.state after := by
  cases there : before.calls[id]? with
  | none =>
    -- A call that is new waits for its reply.
    rcases change.started_state there found with outstanding | ⟨-, client, correlation, held⟩
    · rw [outstanding] at past
      cases past
    · obtain ⟨_, known, -⟩ := registered.holds _ _ _ held
      cases there.symm.trans known
  | some old => exact change.endedBy there found (was old there) past

theorem kept_of_perform {respond : Responder} {network after : Network} {action : Action}
    {id : CallId} {call : Call} (registered : network.Registered) (numbered : network.Numbered)
    (performed : network.perform respond action = some after)
    (found : after.calls[id]? = some call) (past : call.state.isLive = false)
    (was : ∀ old, network.calls[id]? = some old → old.state.isLive = true)
    (few : after.callCount call.client < 2 ^ 64) {other : CallId} (different : other ≠ id)
    (client : ClientId) (correlation : CorrelationId) :
    after.holder? client correlation = some other ↔
      network.holder? client correlation = some other := by
  obtain ⟨middle, change, rfl | ⟨caller, route, payload, timeout, state, rfl, -, ends⟩⟩ :=
    change_of_perform performed
  · have ends := (change.over registered found past was).2
    have fewer := Nat.lt_of_le_of_lt (change.recorded.callCount call.client) few
    exact ends.holder? registered numbered found fewer different client correlation
  · have last : id = network.calls.length := by
      by_contra earlier
      obtain ⟨step, there, done⟩ := ends.over earlier found past
      cases (change.over registered there done was).1
    subst last
    have ending : Change respond (.abort 0) middle after := ends.ended.change
    have fewer := Nat.lt_of_le_of_lt (ending.recorded.callCount call.client) few
    rw [ends.holder? (registered.changed change) (numbered.recorded change.recorded) found fewer
      different]
    -- The call that ends is the one that the same action started.
    have absent : network.issued[network.calls.length]? = none := by simp [issued]
    obtain ⟨record, there, -⟩ := ends
    obtain ⟨_, _, _, _, _, same, -, started⟩ :=
      change.recorded.issued_new absent (issued_of_getElem? there)
    cases same
    have kept := ending.recorded.issued_mono (issued_of_getElem? there)
    have issue := Option.some.inj ((issued_of_getElem? found).symm.trans kept)
    have mine : call.client = caller := congrArg Call.client (issue.trans started)
    have earlier := Nat.lt_of_le_of_lt (change.recorded.callCount caller) (mine ▸ fewer)
    cases change with
    | launched owned =>
      exact registered.holder?_launched numbered owned earlier _ _ different client correlation
    | misfired owned =>
      exact registered.holder?_launched numbered owned earlier _ _ different client correlation
    | left leaving => cases leaving
    | ended ends => cases ends

/--
Below 2^64 calls the pending calls of a client are exactly those that wait for a reply, and a step in which a
call ends takes out the entry of that call and no other.
-/
theorem pending_are_the_unanswered_calls {respond : Responder} {network : Network}
    (reach : Reachable respond network) :
    (∀ (client : ClientId) (owner : Client), network.clients[client]? = some owner →
      network.callCount client < 2 ^ 64 → network.PendingFits client owner) ∧
    ∀ (action : Action) (after : Network), network.perform respond action = some after →
      ∀ (id : CallId) (call : Call), after.calls[id]? = some call → call.state.isLive = false →
        (∀ was, network.calls[id]? = some was → was.state.isLive = true) →
        after.callCount call.client < 2 ^ 64 → network.Unregistered after id call := by
  have run := run_iff_reachable.mpr reach
  refine ⟨fun client owner owned few => run.pendingFits owned few, ?_⟩
  intro action after performed id call found past was few
  have later : Run respond (fun _ _ => True) empty after := run.next action trivial performed
  obtain ⟨gone, free⟩ := later.unregistered found past few
  refine ⟨gone, free, fun client correlation other different => ?_⟩
  rw [later.singlyKept.mem_pendingOf, run.singlyKept.mem_pendingOf]
  exact kept_of_perform run.registered run.numbered performed found past was few different client
    correlation

/-- Of four calls through a queue with one slot the first was answered and the second was aborted; the
third was accepted since, the fourth waits, and a reply under an unused id was dropped. -/
def crowded : Option Network :=
  follow echo (fun _ _ => True)
    [.declare "service" 1, .connect "replies" 4, .call 0 "service" [1] ⟨5⟩,
      .call 0 "service" [2] ⟨5⟩, .call 0 "service" [3] ⟨5⟩, .call 0 "service" [4] ⟨5⟩, .abort 1,
      .receive 0,
      .publish "replies" { correlationId := 0, replyTo := none, payload := [5] } (some 0),
      .publish "replies" { correlationId := 9, replyTo := none, payload := [6] } none, .dispatch 0,
      .dispatch 0, .tick 5] empty

theorem crowded_pending_are_unanswered :
    ∃ network owner after call, crowded = some network ∧ network.clients[0]? = some owner ∧
      owner.pending = [(3, 3), (2, 2)] ∧ network.PendingFits 0 owner ∧
      network.perform echo (.expire 3) = some after ∧ after.calls[3]? = some call ∧
      call.state = .failed (.timeout ⟨5⟩) ∧ network.Unregistered after 3 call := by
  obtain ⟨network, done⟩ := Option.isSome_iff_exists.mp (by decide : crowded.isSome = true)
  have computed : network = crowded.get (by decide) := by simp [done]
  have run := run_of_follow done
  obtain ⟨owner, after, call, old, owned, pending, few, performed, found, state, later, old', live⟩ :
      ∃ owner after call old, network.clients[0]? = some owner ∧
        owner.pending = [(3, 3), (2, 2)] ∧ network.callCount 0 < 2 ^ 64 ∧
        network.perform echo (.expire 3) = some after ∧ after.calls[3]? = some call ∧
        call.state = .failed (.timeout ⟨5⟩) ∧ after.callCount call.client < 2 ^ 64 ∧
        network.calls[3]? = some old ∧ old.state.isLive = true := by
    rw [computed]
    exact ⟨_, _, _, _, rfl, rfl, by decide, rfl, rfl, rfl, by decide, rfl, rfl⟩
  have ⟨fits, ends⟩ := pending_are_the_unanswered_calls (run_iff_reachable.mp run)
  refine ⟨network, owner, after, call, done, owned, pending, fits 0 owner owned few, performed, found,
    state, ?_⟩
  apply ends (.expire 3) after performed 3 call found (by rw [state]; rfl) _ later
  intro was there
  exact Option.some.inj (old'.symm.trans there) ▸ live

end Network

end LedgerNode.Bus
