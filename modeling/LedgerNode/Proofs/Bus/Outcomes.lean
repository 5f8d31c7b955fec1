import LedgerNode.Proofs.Bus.Pending

set_option autoImplicit false

namespace LedgerNode.Bus

def CallState.reply? : CallState → Option Bytes
  | answered payload | returned payload => some payload
  | _ => none

namespace Network

def nextReply? (network : Network) (id : ClientId) : Option Parcel :=
  (network.clients[id]?).bind (fun client =>
    if network.broker.isConsumed client.inbox then
      (network.broker.queue? client.inbox).bind (fun queue => queue.buffer.head?)
    else
      none)

def takenReplies (network : Network) (id : ClientId) : List Parcel :=
  (((network.clients[id]?).bind (fun client => network.broker.queue? client.inbox)).map
    Queue.received).getD []

theorem nextReply?_of_take? {network : Network} {id : ClientId} {client : Client} {queue rest : Queue}
    {parcel : Parcel} (owned : network.clients[id]? = some client)
    (found : network.broker.queue? client.inbox = some queue)
    (taken : queue.take? = some (parcel, rest))
    (consumed : network.broker.isConsumed client.inbox = true) :
    network.nextReply? id = some parcel := by
  simp [nextReply?, owned, found, consumed, (Queue.takes_of_take? taken).buffer]

theorem perform_dispatch (respond : Responder) {network : Network} {id : ClientId}
    {parcel : Parcel} (next : network.nextReply? id = some parcel) :
    ∃ client queue rest, network.clients[id]? = some client ∧
      network.broker.queue? client.inbox = some queue ∧ queue.take? = some (parcel, rest) ∧
      network.perform respond (.dispatch id) =
        some ((network.took client.inbox rest).deliver id parcel.message) := by
  obtain ⟨client, owned, next⟩ := Option.bind_eq_some_iff.mp next
  split at next
  next consumed =>
    obtain ⟨queue, found, first⟩ := Option.bind_eq_some_iff.mp next
    cases taken : queue.take? with
    | none =>
      rw [Queue.take?_eq_none.mp taken] at first
      cases first
    | some both =>
      obtain ⟨head, rest⟩ := both
      have same := (Queue.takes_of_take? taken).buffer
      obtain rfl := Option.some.inj (first.symm.trans same)
      refine ⟨client, queue, rest, owned, found, taken, ?_⟩
      simp [perform, dispatch, owned, consumed, receive, Broker.receive, found, taken, took]
  next => cases next

inductive Proceeds (before : Network) (action : Action) (id : CallId) (call : Call) :
    CallState → Prop where
  | kept : Proceeds before action id call call.state
  | displaced (outstanding : call.state = .outstanding) :
      Proceeds before action id call .disconnected
  | handed {client : ClientId} {parcel : Parcel} (outstanding : call.state = .outstanding)
      (dispatched : action = .dispatch client) (next : before.nextReply? client = some parcel)
      (held : before.holder? client parcel.message.correlationId = some id) :
      Proceeds before action id call (.answered parcel.message.payload)
  | finished {state : CallState} (live : call.state.isLive = true)
      (ending : before.Ending call state) : Proceeds before action id call state

theorem Ended.proceeds {before after : Network} {id : CallId} {call : Call}
    (ended : before.Ended after) (action : Action) (found : before.calls[id]? = some call) :
    ∃ state, after.calls[id]? = some { call with state } ∧
      Proceeds before action id call state := by
  obtain ⟨finished, record, state, there, live, ending, rfl⟩ := ended
  rw [getElem?_calls_endCall there, found]
  by_cases same : id = finished
  · subst same
    obtain rfl := Option.some.inj (found.symm.trans there)
    exact ⟨state, by simp, .finished live ending⟩
  · by_cases lost : before.holder? record.client record.correlationId = some id ∧
        call.state = .outstanding
    · exact ⟨.disconnected, by simp [same, lost], .displaced lost.2⟩
    · exact ⟨call.state, by simp [same, lost], .kept⟩

theorem Change.proceeds {respond : Responder} {action : Action} {before after : Network}
    {id : CallId} {call : Call} (change : Change respond action before after)
    (found : before.calls[id]? = some call) :
    ∃ state, after.calls[id]? = some { call with state } ∧
      Proceeds before action id call state := by
  have within := (List.getElem?_eq_some_iff.mp found).1
  have started {client : ClientId} {owner : Client} {route : String} {timeout : Duration} :
      ∃ state, (before.launched client owner route timeout).calls[id]? = some { call with state } ∧
        Proceeds before action id call state := by
    rw [getElem?_calls_launched, List.getElem?_append_left within, found]
    by_cases lost : before.holder? client owner.nextId = some id ∧ call.state = .outstanding
    · exact ⟨.disconnected, by simp [lost], .displaced lost.2⟩
    · exact ⟨call.state, by simp [lost], .kept⟩
  cases change with
  -- A new call takes its id over from whichever call of the client still had it.
  | launched => exact started
  | misfired => exact started
  | ended _ ended => exact ended.proceeds action found
  | delivered owned there taken consumed =>
    next client owner queue rest parcel =>
      have next := nextReply?_of_take? owned there taken consumed
      have owned : (before.took owner.inbox rest).clients[client]? = some owner := owned
      rcases deliver_cases owned parcel.message with ⟨-, same⟩ | ⟨held, holder, -, states⟩
      · rw [same]
        exact ⟨call.state, found, .kept⟩
      · rw [states, show (before.took owner.inbox rest).calls[id]? = some call from found]
        by_cases given : id = held ∧ call.state = .outstanding
        · refine ⟨.answered parcel.message.payload, by simp [given], ?_⟩
          exact .handed given.2 rfl next (given.1 ▸ holder)
        · exact ⟨call.state, by simp [given], .kept⟩
  | _ => exact ⟨call.state, found, .kept⟩

theorem Proceeds.outstanding {before : Network} {action : Action} {id : CallId} {call : Call}
    {state : CallState} (proceeds : Proceeds before action id call state)
    (outstanding : state = .outstanding) : call.state = .outstanding := by
  cases proceeds with
  | kept => exact outstanding
  | displaced => cases outstanding
  | handed => cases outstanding
  | finished _ ending => cases ending <;> cases outstanding

theorem Proceeds.of_over {before : Network} {action : Action} {id : CallId} {call : Call}
    {state : CallState} (proceeds : Proceeds before action id call state)
    (past : call.state.isLive = false) : state = call.state := by
  cases proceeds with
  | kept => rfl
  | displaced outstanding => rw [outstanding] at past; cases past
  | handed outstanding => rw [outstanding] at past; cases past
  | finished live => cases live.symm.trans past

theorem Change.started_state {respond : Responder} {action : Action} {before after : Network}
    {id : CallId} {call : Call} (change : Change respond action before after)
    (absent : before.calls[id]? = none) (found : after.calls[id]? = some call) :
    call.state = .outstanding ∨ call.state = .disconnected ∧
      ∃ client correlation, before.holder? client correlation = some id := by
  have impossible (same : after.calls[id]? = none) :
      call.state = .outstanding ∨ call.state = .disconnected ∧
        ∃ client correlation, before.holder? client correlation = some id := by
    rw [same] at found
    cases found
  have started {client : ClientId} {owner : Client} {route : String} {timeout : Duration}
      (found : (before.launched client owner route timeout).calls[id]? = some call) :
      call.state = .outstanding ∨ call.state = .disconnected ∧
        ∃ client correlation, before.holder? client correlation = some id := by
    rw [getElem?_calls_launched] at found
    obtain ⟨was, there, changed⟩ := Option.map_eq_some_iff.mp found
    rw [List.getElem?_append_right (List.getElem?_eq_none_iff.mp absent)] at there
    obtain ⟨_, rfl⟩ := List.getElem?_eq_some_iff.mp there
    rw [← changed]
    split
    next held => exact .inr ⟨rfl, _, _, held.1⟩
    next => exact .inl (by simp [startedCall])
  cases change with
  | launched => exact started found
  | misfired => exact started found
  | ended _ ended =>
    obtain ⟨finished, record, state, there, -, -, rfl⟩ := ended
    apply impossible
    rw [getElem?_calls_endCall there, absent]
    rfl
  | delivered owned there taken consumed =>
    next client owner queue rest parcel =>
      have owned : (before.took owner.inbox rest).clients[client]? = some owner := owned
      have absent : (before.took owner.inbox rest).calls[id]? = none := absent
      apply impossible
      rcases deliver_cases owned parcel.message with ⟨-, same⟩ | ⟨held, holder, -, states⟩
      · rw [same]
        exact absent
      · rw [states, absent]
        rfl
  | _ => exact impossible absent

theorem Change.started {respond : Responder} {action : Action} {before after : Network}
    {id : CallId} {call : Call} (change : Change respond action before after)
    (absent : before.calls[id]? = none) (found : after.calls[id]? = some call) :
    call.state.reply? = none := by
  rcases change.started_state absent found with outstanding | ⟨disconnected, -⟩
  · rw [outstanding]
    rfl
  · rw [disconnected]
    rfl

theorem Change.endedBy {respond : Responder} {action : Action} {before after : Network}
    (change : Change respond action before after) {id : CallId} {call now : Call}
    (found : before.calls[id]? = some call) (later : after.calls[id]? = some now)
    (live : call.state.isLive = true) (past : now.state.isLive = false) :
    action.endsCall = true ∧ before.EndedBy id now.state after := by
  have within := (List.getElem?_eq_some_iff.mp found).1
  have alive (still : now.state.isLive = true) :
      action.endsCall = true ∧ before.EndedBy id now.state after := by
    cases still.symm.trans past
  have same (calls : after.calls[id]? = before.calls[id]?) :
      action.endsCall = true ∧ before.EndedBy id now.state after := by
    obtain rfl := Option.some.inj (found.symm.trans (calls.symm.trans later))
    exact alive live
  have launched {client : ClientId} {owner : Client} {route : String} {timeout : Duration}
      (later : (before.launched client owner route timeout).calls[id]? = some now) :
      action.endsCall = true ∧ before.EndedBy id now.state after := by
    rw [getElem?_calls_launched, List.getElem?_append_left within, found] at later
    simp only [Option.map_some, Option.some.injEq] at later
    split at later
    next => exact alive (later ▸ rfl)
    next => exact alive (later ▸ live)
  cases change with
  | launched => exact launched later
  | misfired => exact launched later
  | ended ends ended =>
    obtain ⟨other, record, state, there, active, ending, rfl⟩ := ended
    rw [getElem?_calls_endCall there, found] at later
    simp only [Option.map_some, Option.some.injEq] at later
    split at later
    next own =>
      subst own later
      exact ⟨ends, record, there, active, ending, rfl⟩
    next =>
      split at later
      next => exact alive (later ▸ rfl)
      next => exact alive (later ▸ live)
  | delivered owned there taken consumed =>
    next client owner queue rest parcel =>
      have owned : (before.took owner.inbox rest).clients[client]? = some owner := owned
      rcases deliver_cases owned parcel.message with ⟨-, dropped⟩ | ⟨_, -, -, states⟩
      · exact same (by rw [dropped]; rfl)
      · rw [states, show (before.took owner.inbox rest).calls[id]? = some call from found] at later
        simp only [Option.map_some, Option.some.injEq] at later
        split at later
        next => exact alive (later ▸ rfl)
        next => exact alive (later ▸ live)
  | _ => exact same rfl

theorem EndedBy.kept {before after : Network} {ended id : CallId} {state : CallState} {call : Call}
    (ends : before.EndedBy ended state after) (different : id ≠ ended)
    (found : before.calls[id]? = some call) :
    after.calls[id]? = some call ∨
      call.state = .outstanding ∧ after.calls[id]? = some { call with state := .disconnected } := by
  obtain ⟨record, there, -, -, rfl⟩ := ends
  rw [getElem?_calls_endCall there, found, Option.map_some, if_neg different]
  split
  next lost => exact .inr ⟨lost.2, rfl⟩
  next => exact .inl rfl

theorem EndedBy.state {before after : Network} {id : CallId} {state : CallState}
    (ends : before.EndedBy id state after) {now : Call} (found : after.calls[id]? = some now) :
    now.state = state := by
  obtain ⟨record, there, -, -, rfl⟩ := ends
  rw [getElem?_calls_endCall there, there, Option.map_some, if_pos rfl] at found
  exact congrArg Call.state (Option.some.inj found).symm

theorem proceeds_of_perform {respond : Responder} {before after : Network} {action : Action}
    (performed : before.perform respond action = some after) {id : CallId} {call : Call}
    (found : before.calls[id]? = some call) :
    ∃ state, after.calls[id]? = some { call with state } ∧
      Proceeds before action id call state := by
  obtain ⟨middle, change, rfl | ⟨_, _, _, _, _, -, -, ends⟩⟩ := change_of_perform performed
  · exact change.proceeds found
  · -- The new call, if it ends at once, takes at most a place away.
    obtain ⟨state, there, proceeds⟩ := change.proceeds found
    have different := Nat.ne_of_lt (List.getElem?_eq_some_iff.mp found).1
    rcases ends.kept different there with same | ⟨outstanding, lost⟩
    · exact ⟨state, same, proceeds⟩
    · exact ⟨.disconnected, lost, .displaced (proceeds.outstanding outstanding)⟩

theorem endedBy_of_perform {respond : Responder} {before after : Network} {action : Action}
    (performed : before.perform respond action = some after) {id : CallId} {call now : Call}
    (found : before.calls[id]? = some call) (later : after.calls[id]? = some now)
    (live : call.state.isLive = true) (past : now.state.isLive = false) :
    action.endsCall = true ∧ before.EndedBy id now.state after := by
  obtain ⟨middle, change, rfl | ⟨_, _, _, _, _, rfl, -, ends⟩⟩ := change_of_perform performed
  · exact change.endedBy found later live past
  · -- Who starts a call ends no other.
    obtain ⟨state, there, -⟩ := change.proceeds found
    have different := Nat.ne_of_lt (List.getElem?_eq_some_iff.mp found).1
    rcases ends.kept different there with same | ⟨-, lost⟩
    · obtain rfl := Option.some.inj (later.symm.trans same)
      cases (change.endedBy found there live past).1
    · obtain rfl := Option.some.inj (later.symm.trans lost)
      cases past

theorem not_aborted_of_perform {respond : Responder} {before after : Network} {action : Action}
    (performed : before.perform respond action = some after) {id : CallId} {call now : Call}
    (other : action ≠ .abort id) (found : before.calls[id]? = some call)
    (kept : call.state ≠ .aborted) (later : after.calls[id]? = some now) :
    now.state ≠ .aborted := by
  intro aborted
  have past : now.state.isLive = false := by rw [aborted]; rfl
  have ended {ended : CallId} {state : CallState} (proper : state ≠ .aborted ∨ ended ≠ id)
      (ends : before.EndedBy ended state after) : False := by
    by_cases same : id = ended
    · subst same
      exact (proper.resolve_right (fun different => different rfl))
        ((ends.state later).symm.trans aborted)
    · rcases ends.kept same found with stays | ⟨-, lost⟩
      · obtain rfl := Option.some.inj (later.symm.trans stays)
        exact kept aborted
      · obtain rfl := Option.some.inj (later.symm.trans lost)
        cases aborted
  by_cases live : call.state.isLive = true
  · obtain ⟨ends, -⟩ := endedBy_of_perform performed found later live past
    cases action with
    | abort place =>
      exact ended (.inr (fun same => other (same ▸ rfl))) (endedBy_of_abort performed)
    | expire place =>
      obtain ⟨state, proper, ends⟩ := endedBy_of_expire performed
      exact ended (.inl proper) ends
    | finish place =>
      obtain ⟨state, proper, ends⟩ := endedBy_of_finish performed
      exact ended (.inl proper) ends
    | _ => cases ends
  · obtain ⟨state, there, proceeds⟩ := proceeds_of_perform performed found
    obtain rfl := proceeds.of_over (by simpa using live)
    obtain rfl := Option.some.inj (later.symm.trans there)
    exact kept aborted

theorem started_of_perform {respond : Responder} {before after : Network} {action : Action}
    (performed : before.perform respond action = some after) (registered : before.Registered)
    {id : CallId} {call : Call} (absent : before.calls[id]? = none)
    (found : after.calls[id]? = some call) :
    ∃ client owner route payload timeout, action = .call client route payload timeout ∧
      before.clients[client]? = some owner ∧
      call.issue = before.startedCall client owner route timeout ∧
      (call.state = .outstanding ∨ ∃ middle, Change respond action before middle ∧
        middle.calls[id]? = some call.issue ∧ middle.EndedBy id call.state after ∧
        call.state ≠ .aborted) := by
  have unissued : before.issued[id]? = none := by rw [getElem?_issued, absent]; rfl
  have waits {network : Network} (change : Change respond action before network) {record : Call}
      (there : network.calls[id]? = some record) : record.state = .outstanding := by
    rcases change.started_state absent there with outstanding | ⟨-, _, _, held⟩
    · exact outstanding
    · obtain ⟨_, earlier, -⟩ := registered.holds _ _ _ held
      cases absent.symm.trans earlier
  obtain ⟨middle, change, rfl | ⟨_, _, _, _, state, same, proper, ends⟩⟩ :=
    change_of_perform performed
  · obtain ⟨client, owner, route, payload, timeout, calls, owned, issue⟩ :=
      change.recorded.issued_new unissued (issued_of_getElem? found)
    exact ⟨client, owner, route, payload, timeout, calls, owned, issue, .inl (waits change found)⟩
  · obtain ⟨record, there, live, ending, result⟩ := ends
    have issued : after.issued = middle.issued := result ▸ issued_endCall there state
    obtain ⟨client, owner, route, payload, timeout, calls, owned, issue⟩ :=
      change.recorded.issued_new unissued (issued ▸ issued_of_getElem? found)
    -- What is new in this step is the one call that ends in it.
    have last : id = before.calls.length := by
      have beyond := List.getElem?_eq_none_iff.mp absent
      have present := (List.getElem?_eq_some_iff.mp (issued_of_getElem? found)).1
      have counted := change.recorded.length_issued
      rw [issued] at present
      simp only [Network.issued, List.length_map] at present counted
      exact Nat.le_antisymm (Nat.le_of_lt_succ (Nat.lt_of_lt_of_le present counted)) beyond
    subst last
    have now : call = { record with state } := by
      rw [result, getElem?_calls_endCall there, there, Option.map_some, if_pos rfl] at found
      exact (Option.some.inj found).symm
    subst now
    have waiting : middle.calls[before.calls.length]? = some record.issue := by
      rw [there, Call.issue, ← waits change there]
    exact ⟨client, owner, route, payload, timeout, calls, owned, issue,
      .inr ⟨middle, change, waiting, ⟨record, there, live, ending, result⟩, proper⟩⟩

theorem issued_of_call {respond : Responder} {before after : Network} {client : ClientId}
    {route : String} {payload : Bytes} {timeout : Duration}
    (performed : before.perform respond (.call client route payload timeout) = some after) :
    ∃ owner, before.clients[client]? = some owner ∧
      after.issued = before.issued ++ [before.startedCall client owner route timeout] := by
  obtain ⟨middle, change, ends⟩ := changes_of_perform performed
  have issued : after.issued = middle.issued := by
    rcases ends with rfl | ⟨_, _, state, there, -, -, rfl⟩
    · rfl
    · exact issued_endCall there state
  rw [issued]
  cases change with
  | launched owned | misfired owned => exact ⟨_, owned, issued_launched ..⟩
  | left leaving => cases leaving
  | ended ends => cases ends

theorem call_of_perform {respond : Responder} {before after : Network} {client : ClientId}
    {route : String} {payload : Bytes} {timeout : Duration}
    (performed : before.perform respond (.call client route payload timeout) = some after) :
    ∃ owner call, before.clients[client]? = some owner ∧
      after.calls[before.calls.length]? = some call ∧
      call.issue = before.startedCall client owner route timeout := by
  obtain ⟨owner, owned, issued⟩ := issued_of_call performed
  have found : after.issued[before.calls.length]? =
      some (before.startedCall client owner route timeout) := by
    rw [issued]
    simp [Network.issued]
  rw [getElem?_issued] at found
  obtain ⟨call, there, issue⟩ := Option.map_eq_some_iff.mp found
  exact ⟨owner, call, owned, there, issue⟩

def Hands (network : Network) (action : Action) (id : CallId) (payload : Bytes) : Prop :=
  ∃ client reply, action = .dispatch client ∧ network.nextReply? client = some reply ∧
    network.holder? client reply.message.correlationId = some id ∧
    reply.message.payload = payload

theorem Proceeds.handed_or_kept {before : Network} {action : Action} {id : CallId} {call : Call}
    {state : CallState} {payload : Bytes} (proceeds : Proceeds before action id call state)
    (got : state.reply? = some payload) :
    call.state.reply? = some payload ∨ before.Hands action id payload := by
  cases proceeds with
  | kept => exact .inl got
  | displaced => cases got
  | handed _ dispatched next held =>
    exact .inr ⟨_, _, dispatched, next, held, Option.some.inj got⟩
  | finished live ending =>
    left
    cases ending with
    | answered _ _ answered => rw [answered]; exact got
    | _ => cases got

theorem handed_of_perform {respond : Responder} {network after : Network} {action : Action}
    {id : CallId} {call : Call} {payload : Bytes}
    (performed : network.perform respond action = some after)
    (found : after.calls[id]? = some call) (got : call.state.reply? = some payload) :
    (∃ was, network.calls[id]? = some was ∧ was.state.reply? = some payload) ∨
      network.Hands action id payload := by
  obtain ⟨middle, change, ends⟩ := changes_of_perform performed
  -- What ends behind the change returns nothing that it was not handed in the change.
  have between : ∃ step, middle.calls[id]? = some step ∧ step.state.reply? = some payload := by
    rcases ends with rfl | ended
    · exact ⟨call, found, got⟩
    · cases there : middle.calls[id]? with
      | none =>
        have nothing := (ended.change : Change respond _ _ _).started there found
        rw [nothing] at got
        cases got
      | some step =>
        refine ⟨step, rfl, ?_⟩
        obtain ⟨state, same, proceeds⟩ := ended.proceeds (.tick 0) there
        obtain rfl := Option.some.inj (found.symm.trans same)
        rcases proceeds.handed_or_kept got with kept | ⟨_, _, dispatched, -⟩
        · exact kept
        · cases dispatched
  obtain ⟨step, there, got⟩ := between
  -- And a call that the change started has no answer yet.
  cases was : network.calls[id]? with
  | none =>
    rw [change.started was there] at got
    cases got
  | some old =>
    obtain ⟨state, same, proceeds⟩ := change.proceeds was
    obtain rfl := Option.some.inj (there.symm.trans same)
    exact (proceeds.handed_or_kept got).imp_left (fun kept => ⟨old, rfl, kept⟩)

theorem Run.handed {respond : Responder} {allowed : Network → Action → Prop}
    {network : Network} {id : CallId} {call : Call} {payload : Bytes}
    (run : Run respond allowed empty network) (found : network.calls[id]? = some call)
    (got : call.state.reply? = some payload) :
    ∃ before action after, Run respond allowed empty before ∧ allowed before action ∧
      before.perform respond action = some after ∧ Run respond allowed after network ∧
      before.Hands action id payload := by
  -- Back along the run, to the step before which the call had no reply.
  induction run generalizing call with
  | start => cases found
  | @next network later action run allowed performed ih =>
    rcases handed_of_perform performed found got with ⟨was, there, got⟩ | hands
    · obtain ⟨before, first, after, earlier, proper, step, rest, hands⟩ := ih there got
      exact ⟨before, first, after, earlier, proper, step, rest.next action allowed performed, hands⟩
    · exact ⟨network, action, later, run, allowed, performed, .start, hands⟩

end Network

end LedgerNode.Bus
