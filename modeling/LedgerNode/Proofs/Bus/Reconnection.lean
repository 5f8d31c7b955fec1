import LedgerNode.Bus.Schedule
import LedgerNode.Proofs.Bus.Correlation

set_option autoImplicit false

namespace LedgerNode.Bus

namespace Network

/-- A call of a client waits for a reply, and its turn among that client's calls is that of another
call among its own client's. -/
def WaitsAtTurn (network : Network) (client : ClientId) (asking : CallId) (call : Call)
    (id : CallId) : Prop :=
  ∃ other, network.calls[id]? = some other ∧ other.client = client ∧ other.state = .outstanding ∧
    network.ordinal id client % 2 ^ 64 = network.ordinal asking call.client % 2 ^ 64

theorem Run.holder_iff {respond : Responder} {names : String → Prop} {network : Network}
    (run : Run respond (Orderly names) empty network) {client : ClientId} {asking : CallId}
    {call : Call} {reply : Parcel} (found : network.calls[asking]? = some call)
    (next : network.nextReply? client = some reply) (made : reply.answers = some call.post)
    (id : CallId) :
    network.holder? client reply.message.correlationId = some id ↔
      network.WaitsAtTurn client asking call id := by
  rw [run.id_of_answers found next made]
  constructor
  · intro held
    obtain ⟨other, there, rfl, own, outstanding⟩ := run.registered.holds _ _ _ held
    refine ⟨other, there, rfl, outstanding, ?_⟩
    have turn := run.numbered.ids id _ (issued_of_getElem? there)
    exact ofNat_eq_iff_mod.mp (turn.symm.trans own)
  · rintro ⟨other, there, rfl, outstanding, turn⟩
    have own := run.numbered.ids id _ (issued_of_getElem? there)
    have same : other.correlationId = UInt64.ofNat (network.ordinal asking call.client) :=
      own.trans (ofNat_eq_iff_mod.mpr turn)
    rw [← same]
    exact run.registered.waits id other there outstanding

theorem handed_of_holder {respond : Responder} {network : Network} {client : ClientId}
    {reply : Parcel} {id : CallId} {other : Call}
    (next : network.nextReply? client = some reply)
    (held : network.holder? client reply.message.correlationId = some id)
    (there : network.calls[id]? = some other) (outstanding : other.state = .outstanding) :
    ∃ after, network.perform respond (.dispatch client) = some after ∧
      after.calls[id]? = some { other with state := .answered reply.message.payload } := by
  obtain ⟨owner, queue, rest, owned, -, -, performed⟩ := perform_dispatch respond next
  have owned : (network.took owner.inbox rest).clients[client]? = some owner := owned
  refine ⟨_, performed, ?_⟩
  rcases deliver_cases owned reply.message with ⟨missed, -⟩ | ⟨call, holder, -, states⟩
  · cases missed.symm.trans held
  · obtain rfl := Option.some.inj (held.symm.trans holder)
    rw [states, show (network.took owner.inbox rest).calls[id]? = some other from there]
    simp [outstanding]

theorem outcome_of_answered {respond : Responder} {network : Network} {id : CallId} {call : Call}
    {payload : Bytes} (found : network.calls[id]? = some call)
    (answered : call.state = .answered payload)
    (kept : network.broker.isRefused call.post = false)
    (accepted : network.broker.isWaiting call.post = false) :
    ∃ after, network.perform respond (.finish id) = some after ∧
      after.outcome? id = some (.ok payload) := by
  refine ⟨network.endCall id (.returned payload), ?_, ?_⟩
  · simp [perform, finish, found, answered, kept, accepted, CallState.isLive]
  · simp [outcome?, getElem?_calls_endCall found, found]

theorem returned_of_outcome? {network : Network} {id : CallId} {payload : Bytes}
    (outcome : network.outcome? id = some (.ok payload)) :
    ∃ call, network.calls[id]? = some call ∧ call.state = .returned payload := by
  unfold outcome? at outcome
  split at outcome
  next payload' state =>
    obtain ⟨call, found, state⟩ := Option.map_eq_some_iff.mp state
    cases outcome
    exact ⟨call, found, state⟩
  next => cases outcome
  next => cases outcome

/--
A reply to the request of a call is dropped exactly if no call of the client that takes it waits at the turn
of that call. A call that does wait there is handed the payload and returns it.
-/
theorem reply_dropped_iff_no_call_at_turn {respond : Responder} {names : String → Prop}
    {network : Network} (run : Run respond (Orderly names) empty network) :
    (∀ (client : ClientId) (asking : CallId) (call : Call) (reply : Parcel),
      network.calls[asking]? = some call → network.nextReply? client = some reply →
      reply.answers = some call.post →
      (network.Drops respond client ↔ ∀ id, ¬network.WaitsAtTurn client asking call id) ∧
      ∀ id, network.WaitsAtTurn client asking call id →
        ∃ after other, network.perform respond (.dispatch client) = some after ∧
          after.calls[id]? = some other ∧ other.state = .answered reply.message.payload ∧
          (after.broker.isRefused other.post = false → after.broker.isWaiting other.post = false →
            ∃ last, after.perform respond (.finish id) = some last ∧
              last.outcome? id = some (.ok reply.message.payload))) ∧
    ∀ (id : CallId) (payload : Bytes), network.outcome? id = some (.ok payload) →
      ∃ before client asking call reply, Run respond (Orderly names) empty before ∧
        Run respond (Orderly names) before network ∧ before.nextReply? client = some reply ∧
        before.calls[asking]? = some call ∧ reply.answers = some call.post ∧
        before.WaitsAtTurn client asking call id ∧ reply.message.payload = payload := by
  refine ⟨?_, ?_⟩
  · intro client asking call reply found next made
    have place := run.holder_iff found next made
    refine ⟨⟨?_, ?_⟩, ?_⟩
    · rintro ⟨_, _, after, -, -, performed, -, -, kept⟩ id ⟨other, there, mine, outstanding, turn⟩
      -- The dispatch that dropped the reply would have handed it to this call.
      have held := (place id).mpr ⟨other, there, mine, outstanding, turn⟩
      obtain ⟨after', performed', handed⟩ := handed_of_holder next held there outstanding
      obtain rfl := Option.some.inj (performed.symm.trans performed')
      rw [kept, there] at handed
      have state := (Call.mk.inj (Option.some.inj handed)).2.2.2.2.2.2
      cases outstanding.symm.trans state
    · intro nobody
      apply drops_of_unclaimed next
      cases held : network.holder? client reply.message.correlationId with
      | none => rfl
      | some id => exact absurd ((place id).mp held) (nobody id)
    · rintro id ⟨other, there, mine, outstanding, turn⟩
      have held := (place id).mpr ⟨other, there, mine, outstanding, turn⟩
      obtain ⟨after, performed, handed⟩ := handed_of_holder next held there outstanding
      exact ⟨after, _, performed, handed, rfl, outcome_of_answered handed rfl⟩
  · intro id payload outcome
    obtain ⟨record, there, returned⟩ := returned_of_outcome? outcome
    have got : record.state.reply? = some payload := by rw [returned]; rfl
    obtain ⟨before, action, after, earlier, orderly, step, later, hands⟩ := run.handed there got
    obtain ⟨client, reply, rfl, next, held, same⟩ := hands
    have rest : Run respond (Orderly names) before network :=
      (Run.next (.dispatch client) .start orderly step).trans later
    -- The call that the reply was made for may be one of an earlier client of that name.
    obtain ⟨owner, owned, seen⟩ := seen_of_nextReply? next
    obtain ⟨request, genuine⟩ := earlier.traced.replies client owner reply owned seen
    obtain ⟨asking, _, _, issued, -, made, -⟩ := earlier.traced.answered owned genuine
    obtain ⟨call, found, rfl⟩ := Option.map_eq_some_iff.mp
      ((getElem?_issued before asking).symm.trans issued)
    exact ⟨before, client, asking, call, reply, earlier, rest, next, found, made,
      (earlier.holder_iff found next made id).mp held, same⟩

/-- A client goes while a service holds its request, and another is connected under its name and calls
the service; then the service answers the first request. -/
def reconnected : Option Network :=
  follow echo (Orderly (fun name => name = "replies"))
    [.declare "service" 4, .connect "replies" 4, .call 0 "service" [1] ⟨5⟩, .receive 0, .abort 0,
      .dropClient 0, .retire 0, .connect "replies" 4, .call 1 "service" [2] ⟨5⟩,
      .publish "replies" { correlationId := 0, replyTo := none, payload := [3] } (some 0)] empty

theorem reconnected_returns_stale_reply :
    ∃ network reply earlier later last, reconnected = some network ∧
      network.calls = [earlier, later] ∧ earlier.client = 0 ∧ later.client = 1 ∧
      earlier.state = .aborted ∧ network.nextReply? 1 = some reply ∧
      reply.answers = some earlier.post ∧ earlier.post ≠ later.post ∧
      (network.perform echo (.dispatch 1)).bind (fun after => after.perform echo (.finish 1)) =
        some last ∧
      last.outcome? 1 = some (.ok reply.message.payload) ∧ last.warnings = [] :=
  ⟨reconnected.get (by decide), _, _, _, _, rfl, rfl, rfl, rfl, rfl, rfl, rfl, by decide, rfl, rfl,
    rfl⟩

theorem reconnected_not_dropped :
    ∃ network earlier, reconnected = some network ∧ network.calls[0]? = some earlier ∧
      network.WaitsAtTurn 1 0 earlier 1 ∧ ¬network.Drops echo 1 := by
  obtain ⟨network, done⟩ := Option.isSome_iff_exists.mp (by decide : reconnected.isSome = true)
  have computed : network = reconnected.get (by decide) := by simp [done]
  have run := run_of_follow done
  obtain ⟨earlier, found, waits, reply, next, made⟩ : ∃ earlier, network.calls[0]? = some earlier ∧
      network.WaitsAtTurn 1 0 earlier 1 ∧
      ∃ reply, network.nextReply? 1 = some reply ∧ reply.answers = some earlier.post := by
    rw [computed]
    exact ⟨_, rfl, ⟨_, rfl, rfl, rfl, rfl⟩, _, rfl, rfl⟩
  have exact := (reply_dropped_iff_no_call_at_turn run).1 1 0 earlier reply found next made
  exact ⟨network, earlier, done, found, waits, fun drops => exact.1.mp drops 1 waits⟩

end Network

end LedgerNode.Bus
