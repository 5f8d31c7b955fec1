import LedgerNode.Proofs.Bus.Incarnations

set_option autoImplicit false

namespace LedgerNode.Bus

namespace Network

def Marked (network : Network) : Prop :=
  ∀ id parcel, network.Seen id parcel → ∀ call ∈ network.issued, call.post = parcel.post →
    parcel.message.correlationId = call.correlationId

def Deserted (network : Network) (id : QueueId) : Prop :=
  ∃ queue, network.broker.queue? id = some queue ∧ queue.consumed = false

section Steps

variable {respond : Responder} {before after : Network} {action : Action}

theorem Change.request_cases (change : Change respond action before after)
    (numbered : before.Numbered) (dated : before.Dated) {id : QueueId} {parcel : Parcel}
    (seen : after.Seen id parcel) {call : Call} (member : call ∈ after.issued)
    (same : call.post = parcel.post) :
    (before.Seen id parcel ∧ call ∈ before.issued) ∨
      ∃ client owner route payload timeout, action = .call client route payload timeout ∧
        before.clients[client]? = some owner ∧ before.broker.lookup? route = some id ∧
        call = before.startedCall client owner route timeout ∧
        parcel.message = owner.request payload := by
  rcases change.recorded.issued_cases member with issued |
    ⟨client, owner, route, payload, timeout, rfl, owned, rfl⟩
  · rcases change.seen seen with seen | ⟨sends, -⟩
    · exact .inl ⟨seen, issued⟩
    · exact absurd (same.trans sends.post) (Nat.ne_of_lt (numbered.posted call issued))
  · -- A new call has a new number, under which only its own request is sent.
    rcases change.seen seen with seen | ⟨sends, -⟩
    · have older := dated.seen id parcel seen
      exact absurd older (same ▸ Nat.lt_irrefl _)
    · cases sends with
      | called owned' leads =>
        obtain rfl := Option.some.inj (owned.symm.trans owned')
        exact .inr ⟨client, owner, route, payload, timeout, rfl, owned, leads, rfl, rfl⟩

theorem Marked.changed (marked : before.Marked) (numbered : before.Numbered) (dated : before.Dated)
    (change : Change respond action before after) : after.Marked := by
  intro id parcel seen call member same
  rcases change.request_cases numbered dated seen member same with ⟨seen, issued⟩ |
    ⟨_, _, _, _, _, -, -, -, rfl, own⟩
  · exact marked id parcel seen call issued same
  · rw [own]
    rfl

theorem Handles.deserted {id : QueueId} {was now : Queue}
    (handled : Handles respond before after action id was now) (gone : was.consumed = false) :
    now.consumed = false := by
  cases handled with
  | sent =>
    unfold Queue.enqueue
    split <;> exact gone
  | drawn _ taken => exact (Queue.takes_of_take? taken).consumed.trans gone
  | left => rfl
  | _ => exact gone

theorem Change.deserted (change : Change respond action before after) {id : QueueId}
    (deserted : before.Deserted id) : after.Deserted id := by
  obtain ⟨was, found, gone⟩ := deserted
  obtain ⟨now, later, handled⟩ := change.handles found
  exact ⟨now, later, handled.deserted gone⟩

theorem Change.refused_cases (change : Change respond action before after) :
    after.broker.refused = before.broker.refused ∨ ∃ id, after = before.dropConsumer id := by
  cases change with
  | left => exact .inr ⟨_, rfl⟩
  | launched | misfired =>
    left
    simp only [sent, broker_launched, Broker.refused_update]
  | ended _ ended =>
    obtain ⟨call, record, state, there, -, -, rfl⟩ := ended
    left
    rw [endCall_frame there]
    rfl
  | delivered =>
    left
    rw [broker_deliver]
    rfl
  | _ => exact .inl rfl

theorem Change.refused (change : Change respond action before after) {post : PostId}
    (refused : after.broker.isRefused post = true) :
    before.broker.isRefused post = true ∨
      ∃ id queue parcel, before.broker.queue? id = some queue ∧ parcel ∈ queue.waiting ∧
        parcel.post = post ∧ after.Deserted id := by
  rcases change.refused_cases with same | ⟨id, rfl⟩
  · rw [Broker.isRefused, same] at refused
    exact .inl refused
  · simp only [Network.dropConsumer, Broker.dropConsumer, Broker.isRefused,
      List.contains_iff_mem, List.mem_append] at refused ⊢
    rcases refused with waited | earlier
    · cases found : before.broker.queue? id with
      | none => simp [found] at waited
      | some queue =>
        simp only [found, Option.map_some, Option.getD_some] at waited
        obtain ⟨parcel, waits, rfl⟩ := List.mem_map.mp waited
        refine .inr ⟨id, queue, parcel, found, waits, rfl, queue.dropConsumer, ?_, rfl⟩
        refine (Broker.queue?_dropConsumer ..).trans ?_
        simp [found]
    · exact .inl earlier

theorem Change.refused_mono (change : Change respond action before after) {post : PostId}
    (refused : before.broker.isRefused post = true) : after.broker.isRefused post = true := by
  rcases change.refused_cases with same | ⟨id, rfl⟩
  · rwa [Broker.isRefused, same]
  · simp only [Network.dropConsumer, Broker.dropConsumer, Broker.isRefused,
      List.contains_iff_mem, List.mem_append] at refused ⊢
    exact .inr refused

theorem clock_deliver (network : Network) (id : ClientId) (message : Message) :
    (network.deliver id message).clock = network.clock := by
  rw [deliver_frame]

theorem Ended.clock (ended : before.Ended after) : after.clock = before.clock := by
  obtain ⟨call, record, state, there, -, -, rfl⟩ := ended
  rw [endCall_frame there]

theorem Change.clock (change : Change respond action before after) :
    before.clock ≤ after.clock := by
  cases change with
  | launched => exact Nat.le_of_eq (clock_launched ..).symm
  | misfired => exact Nat.le_of_eq (clock_launched ..).symm
  | ended _ ended => exact Nat.le_of_eq ended.clock.symm
  | delivered =>
    rw [clock_deliver]
    exact Nat.le_refl _
  | ticked => exact Nat.le_add_right ..
  | _ => exact Nat.le_refl _

theorem clock_of_perform (performed : before.perform respond action = some after) :
    before.clock ≤ after.clock := by
  obtain ⟨middle, change, rfl | ended⟩ := changes_of_perform performed
  · exact change.clock
  · exact ended.clock ▸ change.clock

theorem received_of_perform (performed : before.perform respond action = some after)
    {parcel : Parcel} (received : before.Received parcel) : after.Received parcel := by
  obtain ⟨middle, change, rfl | ended⟩ := changes_of_perform performed
  · exact change.received_mono received
  · exact (ended.change : Change respond _ _ _).received_mono (change.received_mono received)

theorem refused_mono_of_perform (performed : before.perform respond action = some after)
    {post : PostId} (refused : before.broker.isRefused post = true) :
    after.broker.isRefused post = true := by
  obtain ⟨middle, change, rfl | ended⟩ := changes_of_perform performed
  · exact change.refused_mono refused
  · exact (ended.change : Change respond _ _ _).refused_mono (change.refused_mono refused)

theorem deserted_of_perform (performed : before.perform respond action = some after)
    {id : QueueId} (deserted : before.Deserted id) : after.Deserted id := by
  obtain ⟨middle, change, rfl | ended⟩ := changes_of_perform performed
  · exact change.deserted deserted
  · exact (ended.change : Change respond _ _ _).deserted (change.deserted deserted)

theorem refused_of_leaving (performed : before.perform respond action = some after)
    {id : QueueId} (leaving : before.Leaving action id) {queue : Queue} {parcel : Parcel}
    (found : before.broker.queue? id = some queue) (waits : parcel ∈ queue.waiting) :
    after.broker.isRefused parcel.post = true := by
  rw [(left_of_leaving performed leaving).2]
  simp only [dropConsumer, Broker.dropConsumer, Broker.isRefused, List.contains_iff_mem,
    List.mem_append, found, Option.map_some, Option.getD_some]
  exact .inl (List.mem_map_of_mem waits)

theorem refused_of_perform (performed : before.perform respond action = some after)
    {post : PostId} (refused : after.broker.isRefused post = true) :
    before.broker.isRefused post = true ∨
      ∃ id queue parcel, before.broker.queue? id = some queue ∧ parcel ∈ queue.waiting ∧
        parcel.post = post ∧ after.Deserted id := by
  obtain ⟨middle, change, rfl | ⟨id, call, state, found, live, ending, rfl⟩⟩ :=
    changes_of_perform performed
  · exact change.refused refused
  · -- The end of a call withdraws its message, which refuses nothing.
    have same : (middle.endCall id state).broker.refused = middle.broker.refused := by
      rw [endCall_frame found]
      rfl
    rw [Broker.isRefused, same] at refused
    refine (change.refused refused).imp_right ?_
    rintro ⟨queue, was, parcel, there, waits, post, deserted⟩
    have ended : middle.Ended (middle.endCall id state) :=
      ⟨id, call, state, found, live, ending, rfl⟩
    exact ⟨queue, was, parcel, there, waits, post,
      (ended.change : Change respond _ _ _).deserted deserted⟩

end Steps

theorem Run.waiting_below {respond : Responder} {allowed : Network → Action → Prop}
    {network : Network} (run : Run respond allowed empty network) {id : QueueId} {queue : Queue}
    {parcel : Parcel} (found : network.broker.queue? id = some queue)
    (waits : parcel ∈ queue.waiting) : parcel.post < network.nextPost := by
  apply run.dated.seen id parcel
  exact ⟨queue, found, List.mem_append_right _ (List.mem_append_right _ waits)⟩

theorem Run.marked {respond : Responder} {allowed : Network → Action → Prop} {network : Network}
    (run : Run respond allowed empty network) : network.Marked := by
  have all : network.Numbered ∧ network.Dated ∧ network.Marked := by
    apply run.invariant (fun network => network.Numbered ∧ network.Dated ∧ network.Marked)
    · refine ⟨numbered_empty, dated_empty, ?_⟩
      intro id parcel seen call member
      cases member
    · intro action before after change _ ⟨numbered, dated, marked⟩
      exact ⟨numbered.recorded change.recorded, dated.changed change,
        marked.changed numbered dated change⟩
    · intro before after ended ⟨numbered, dated, marked⟩
      have change : Change respond (.abort 0) before after := ended.change
      exact ⟨numbered.recorded change.recorded, dated.changed change,
        marked.changed numbered dated change⟩
  exact all.2.2

section Traces

variable {respond : Responder} {steps : List Step} {network : Network}

theorem Trace.arrived_of_waiting (trace : Trace respond empty steps network) {id : QueueId}
    {queue : Queue} {parcel : Parcel} (found : network.broker.queue? id = some queue)
    (waits : parcel ∈ queue.waiting) : parcel ∈ (Network.ledger respond steps id).arrived :=
  (trace.ledger.1 id queue found).stays.subset (List.mem_append_right _ waits)

theorem arrived_concat {step : Step} {id : QueueId} {parcel : Parcel}
    (arrived : parcel ∈ (Network.ledger respond steps id).arrived) :
    parcel ∈ (Network.ledger respond (steps ++ [step]) id).arrived := by
  rw [ledger_concat]
  exact List.mem_append_left _ arrived

theorem Trace.refused (trace : Trace respond empty steps network) {post : PostId}
    (refused : network.broker.isRefused post = true) :
    ∃ id, ∃ parcel ∈ (Network.ledger respond steps id).arrived, parcel.post = post ∧
      network.Deserted id := by
  induction trace with
  | start => cases refused
  | next action trace performed ih =>
    rcases refused_of_perform performed refused with earlier |
      ⟨id, queue, parcel, found, waits, same, deserted⟩
    · obtain ⟨id, parcel, arrived, same, deserted⟩ := ih earlier
      exact ⟨id, parcel, arrived_concat arrived, same, deserted_of_perform performed deserted⟩
    · exact ⟨id, parcel, arrived_concat (trace.arrived_of_waiting found waits), same, deserted⟩

theorem Evolves.received {before after : Network} {action : Action} {id : QueueId} {was now : Queue}
    (evolves : Evolves respond before action after id was now) :
    now.received = (before.drawn? action id).toList ++ was.received := by
  cases evolves with
  | kept _ unread => simp [unread]
  | handed _ unread => simp [unread]
  | overtaken _ unread => simp [unread]
  | drawn _ reads taken => simp [reads, (Queue.takes_of_take? taken).received]
  | withdrawn _ unread => simp [unread]
  | left _ _ unread => simp [unread]

theorem Trace.received_eq (trace : Trace respond empty steps network) {id : QueueId} {queue : Queue}
    (found : network.broker.queue? id = some queue) :
    (Network.ledger respond steps id).received = queue.received.reverse := by
  induction trace generalizing queue with
  | start => cases found
  | @next steps before after action trace performed ih =>
    rw [ledger_concat]
    cases there : before.broker.queue? id with
    | none =>
      obtain ⟨name, capacity, rfl⟩ := creates_of_perform performed there found
      rw [trace.ledger.2 id there, drawn?_of_absent there]
      rfl
    | some was =>
      obtain ⟨_, same, evolves⟩ := evolves_of_perform performed there
      obtain rfl := Option.some.inj (found.symm.trans same)
      rw [ih there, evolves.received]
      cases before.drawn? action id <;> simp

theorem Trace.not_waiting_of_received (trace : Trace respond empty steps network)
    {parcel : Parcel} (received : network.Received parcel) :
    network.broker.isWaiting parcel.post = false := by
  by_contra waits
  obtain ⟨other, queue, there, waiter, waits, same⟩ := isWaiting_iff.mp (by simpa using waits)
  obtain ⟨id, was, found, member⟩ := received
  have listed : parcel ∈ (Network.ledger respond steps id).received := by
    rw [trace.received_eq found]
    exact List.mem_reverse.mpr member
  have arrived := (trace.received listed).1
  obtain rfl := trace.arrived_once (trace.arrived_of_waiting there waits) arrived same
  obtain rfl := Option.some.inj (there.symm.trans found)
  have balanced := trace.ledger.1 other queue there
  have distinct := balanced.distinct
  rw [List.map_append, List.nodup_append] at distinct
  exact distinct.2.2 _ (List.mem_map_of_mem (balanced.taken.subset listed)) _
    (List.mem_map_of_mem waits) same.symm

theorem Trace.not_refused (trace : Trace respond empty steps network) {id : QueueId}
    (consumed : network.broker.isConsumed id = true) {parcel : Parcel}
    (arrived : parcel ∈ (Network.ledger respond steps id).arrived) :
    network.broker.isRefused parcel.post = false := by
  by_contra refused
  obtain ⟨other, found, there, same, was, known, gone⟩ := trace.refused (by simpa using refused)
  obtain rfl := trace.arrived_once there arrived same
  simp [Broker.isConsumed, known, gone] at consumed

end Traces

end Network

end LedgerNode.Bus
