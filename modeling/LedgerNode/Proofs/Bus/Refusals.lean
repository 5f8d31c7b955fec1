import LedgerNode.Proofs.Bus.Bindings

set_option autoImplicit false

namespace LedgerNode.Bus

namespace Network

def consumer? (network : Network) : Action → Option QueueId
  | .receive queue | .dropConsumer queue => some queue
  | .dispatch id | .retire id => (network.clients[id]?).map Client.inbox
  | .take id => (network.servers[id]?).map Server.inbox
  | _ => none

def withdrawn? (network : Network) : Action → Option PostId
  | .abandon post => some post
  | .abort id | .expire id | .finish id => (network.calls[id]?).map Call.post
  | _ => none

section Steps

variable {respond : Responder} {steps : List Step} {before after : Network} {action : Action}
  {id : QueueId} {post : PostId}

theorem Leaving.consumer? (leaving : before.Leaving action id) :
    before.consumer? action = some id := by
  cases leaving with
  | dropped => rfl
  | clientTold owned | serverTold owned | retired owned => simp [Network.consumer?, owned]

theorem consumer?_of_reader? (reads : before.reader? action = some id) :
    before.consumer? action = some id := by
  cases action with
  | receive | dispatch | take => exact reads
  | _ => cases reads

theorem silent_of_publication? {entry : String × Parcel}
    (published : before.publication? respond action = some entry) :
    action.opens? = none ∧ before.consumer? action = none ∧ before.withdrawn? action = none := by
  cases action with
  | publish | call | answer => exact ⟨rfl, rfl, rfl⟩
  | _ => cases published

theorem Trace.nobody_waits (trace : Trace respond empty steps before)
    (deserted : before.Deserted id) {queue : Queue} (found : before.broker.queue? id = some queue) :
    queue.waiting = [] := by
  obtain ⟨_, same, gone⟩ := deserted
  obtain rfl := Option.some.inj (found.symm.trans same)
  exact ((trace.ledger.1 id queue found).gone gone).2

theorem unhanded_of_deserted (performed : before.perform respond action = some after)
    (deserted : after.Deserted id) : before.handed? respond action id = none := by
  refine Option.eq_none_iff_forall_ne_some.mpr (fun parcel handed => ?_)
  rcases deserted_cases performed deserted with ⟨queue, found, gone⟩ | leaving
  · obtain ⟨_, -, -, consumed⟩ := handed?_spec handed
    simp [Broker.isConsumed, found, gone] at consumed
  · cases (unread_of_leaving respond id leaving).1.symm.trans handed

theorem leaving_of_refused (trace : Trace respond empty steps before)
    (performed : before.perform respond action = some after)
    (refused : after.broker.isRefused post = true) (kept : before.broker.isRefused post = false) :
    ∃ id queue parcel, before.Leaving action id ∧ before.broker.queue? id = some queue ∧
      parcel ∈ queue.waiting ∧ parcel.post = post := by
  rcases refused_of_perform performed refused with earlier |
    ⟨id, queue, parcel, found, waits, same, deserted⟩
  · cases earlier.symm.trans kept
  · refine ⟨id, queue, parcel, ?_, found, waits, same⟩
    refine (deserted_cases performed deserted).resolve_left (fun gone => ?_)
    simp [trace.nobody_waits gone found] at waits

theorem Verdict.withdrawn? {call : CallId} {record : Call} {state : CallState}
    (verdict : Verdict before action call record state)
    (found : before.calls[call]? = some record) : before.withdrawn? action = some record.post := by
  cases verdict with
  | refused looks | answered looks | disconnected looks =>
    rcases looks with rfl | rfl <;> simp [Network.withdrawn?, found]
  | late fires =>
    subst fires
    simp [Network.withdrawn?, found]
  | aborted aborts =>
    subst aborts
    simp [Network.withdrawn?, found]

theorem withdrawn?_of_over (trace : Trace respond empty steps before)
    (performed : before.perform respond action = some after)
    (waits : before.broker.isWaiting post = true) (past : after.isOver post = true) :
    before.withdrawn? action = some post := by
  obtain ⟨call, now, later, rfl, ended⟩ := isOver_iff.mp past
  cases found : before.calls[call]? with
  | none =>
    -- A new call has a new number, and nothing waits under that yet.
    obtain ⟨_, _, _, _, _, -, -, issue, -⟩ :=
      started_of_perform performed trace.run.registered found later
    have fresh : now.post = before.nextPost := congrArg Call.post issue
    obtain ⟨id, queue, there, parcel, waiting, same⟩ := isWaiting_iff.mp waits
    exact absurd (same.trans fresh) (Nat.ne_of_lt (trace.run.waiting_below there waiting))
  | some record =>
    -- The call was still live, or its message would not wait any more, so this step ends it.
    obtain ⟨state, same, -⟩ := proceeds_of_perform performed found
    obtain rfl := Option.some.inj (later.symm.trans same)
    have live : record.state.isLive = true := by
      by_contra earlier
      have gone := trace.run.withdrawn record.post
        (isOver_iff.mpr ⟨call, record, found, rfl, by simpa using earlier⟩)
      cases waits.symm.trans gone
    exact (verdict_of_perform performed found later live ended).1.withdrawn? found

theorem Lost.abandons (lost : Lost respond steps before post) (id : QueueId) :
    Step.abandons respond ⟨before, action, after⟩ id post = false := by
  have unhanded : (before.handed? respond action id).any (fun parcel => parcel.post == post) = false := by
    by_contra handed
    obtain ⟨parcel, handed, same⟩ := (Option.any_eq_true _ _).mp (by simpa using handed)
    exact Nat.ne_of_lt lost.posted ((beq_iff_eq.mp same).symm.trans (post_of_handed? handed))
  have unwaited : (before.waitingOf id).any (fun parcel => parcel.post == post) = false := by
    unfold waitingOf
    cases found : before.broker.queue? id with
    | none => rfl
    | some queue =>
      have absent := List.any_eq_false.mp lost.withdrawn queue (List.mem_of_getElem? found)
      exact Bool.eq_false_iff.mpr absent
  simp [Step.abandons, unhanded, unwaited]

end Steps

section Traces

variable {respond : Responder} {steps : List Step} {network : Network} {id : QueueId}
  {parcel : Parcel} {post : PostId}

theorem Trace.not_abandoned_of_refused (trace : Trace respond empty steps network)
    (refused : network.broker.isRefused post = true) (id : QueueId) :
    (Network.ledger respond steps id).abandoned post = false := by
  induction trace with
  | start => cases refused
  | @next steps before after action trace performed ih =>
    rw [ledger_concat, Bool.or_eq_false_iff]
    cases earlier : before.broker.isRefused post with
    | true => exact ⟨ih earlier, (trace.lost_of_refused earlier).abandons id⟩
    | false =>
      obtain ⟨place, queue, parcel, leaving, found, waits, rfl⟩ :=
        leaving_of_refused trace performed refused earlier
      have balanced := trace.ledger.1 place queue found
      constructor
      · by_contra given
        have given : (Network.ledger respond steps id).abandoned parcel.post = true := by
          simpa using given
        cases there : before.broker.queue? id with
        | none =>
          rw [trace.ledger.2 id there] at given
          cases given
        | some other =>
          obtain ⟨own, arrived, same⟩ :=
            List.mem_map.mp ((trace.ledger.1 id other there).known _ given)
          obtain rfl := trace.arrived_once arrived (trace.arrived_of_waiting found waits) same
          have safe := balanced.safe parcel (List.mem_append_right _ waits)
          cases safe.symm.trans given
      · -- A step in which a consumer leaves ends no call and withdraws nothing by hand.
        have waiting := isWaiting_iff.mpr ⟨place, queue, found, parcel, waits, rfl⟩
        have unfinished : before.isOver parcel.post = false := by
          by_contra past
          have gone := trace.run.withdrawn parcel.post (by simpa using past)
          cases waiting.symm.trans gone
        have same : after.isOver parcel.post = false := by
          rw [(left_of_leaving performed leaving).2]
          exact unfinished
        have other : action ≠ .abandon parcel.post := by
          rintro rfl
          cases leaving
        simp [Step.abandons, same, other]

theorem Trace.arrived_cases (trace : Trace respond empty steps network)
    (arrived : parcel ∈ (Network.ledger respond steps id).arrived)
    (kept : (Network.ledger respond steps id).abandoned parcel.post = false) :
    parcel ∈ (Network.ledger respond steps id).accepted ∨
      (∃ queue, network.broker.queue? id = some queue ∧ parcel ∈ queue.waiting) ∨
      network.broker.isRefused parcel.post = true := by
  induction trace with
  | start => cases arrived
  | @next steps before after action trace performed ih =>
    have whole := trace.next action performed
    cases later : after.broker.queue? id with
    | none =>
      rw [whole.ledger.2 id later] at arrived
      cases arrived
    | some now =>
      by_cases consumed : now.consumed = true
      · have stands : parcel ∈ Ledger.standing _ := List.mem_filter.mpr ⟨arrived, by simp [kept]⟩
        rw [(whole.ledger.1 id now later).kept consumed] at stands
        rcases List.mem_append.mp stands with accepted | waits
        · exact .inl accepted
        · exact .inr (.inl ⟨now, rfl, waits⟩)
      · have deserted : after.Deserted id := ⟨now, later, by simpa using consumed⟩
        have earlier : parcel ∈ (Network.ledger respond steps id).arrived := by
          refine (mem_arrived_concat arrived).resolve_right (fun handed => ?_)
          cases (unhanded_of_deserted performed deserted).symm.trans handed
        rw [ledger_concat, Bool.or_eq_false_iff] at kept
        rcases ih earlier kept.1 with accepted | ⟨was, found, waits⟩ | refused
        · exact .inl (mem_accepted_concat.mpr (.inl accepted))
        · -- It waited until now, so now is when the consumer leaves.
          rcases deserted_cases performed deserted with gone | leaving
          · simp [trace.nobody_waits gone found] at waits
          · exact .inr (.inr (refused_of_leaving performed leaving found waits))
        · exact .inr (.inr (refused_mono_of_perform performed refused))

theorem Trace.refused_iff (trace : Trace respond empty steps network)
    (arrived : parcel ∈ (Network.ledger respond steps id).arrived) :
    network.broker.isRefused parcel.post = true ↔
      Dropped steps id ∧ parcel ∉ (Network.ledger respond steps id).accepted ∧
        (Network.ledger respond steps id).abandoned parcel.post = false := by
  rw [trace.dropped_iff]
  constructor
  · intro refused
    refine ⟨?_, ?_, trace.not_abandoned_of_refused refused id⟩
    · obtain ⟨place, other, there, same, deserted⟩ := trace.refused refused
      obtain rfl := trace.arrived_once there arrived same
      exact deserted
    · intro accepted
      exact (trace.lost_of_refused refused).unaccepted id parcel accepted rfl
  · rintro ⟨deserted, unaccepted, kept⟩
    rcases trace.arrived_cases arrived kept with accepted | ⟨queue, found, waits⟩ | refused
    · exact absurd accepted unaccepted
    · simp [trace.nobody_waits deserted found] at waits
    · exact refused

theorem Trace.unseen_of_refused (trace : Trace respond empty steps network)
    (refused : network.broker.isRefused post = true) (seen : network.Seen id parcel) :
    parcel.post ≠ post := by
  rintro rfl
  have lost := trace.lost_of_refused refused
  obtain ⟨queue, found, member⟩ := seen
  have balanced := trace.ledger.1 id queue found
  simp only [Queue.seen, Queue.held, List.mem_append] at member
  rcases member with received | buffered | waits
  · have read : parcel ∈ (Network.ledger respond steps id).received := by
      rw [trace.received_eq found]
      exact List.mem_reverse.mpr received
    exact lost.unaccepted id parcel (trace.received_accepted read) rfl
  · exact lost.unaccepted id parcel (balanced.buffered buffered) rfl
  · have waiting := isWaiting_iff.mpr ⟨id, queue, found, parcel, waits, rfl⟩
    cases waiting.symm.trans lost.withdrawn

theorem Trace.unmoved_of_failed (trace : Trace respond empty steps network) {name : String}
    {action : Action} {after : Network} (closed : ∀ id, ¬Leads steps name id)
    (published : network.publication? respond action = some (name, parcel))
    (performed : network.perform respond action = some after) (id : QueueId) :
    after.broker.queue? id = network.broker.queue? id := by
  obtain ⟨unopened, unread, ungiven⟩ := silent_of_publication? published
  have unhanded : network.handed? respond action id = none := by
    refine Option.eq_none_iff_forall_ne_some.mpr (fun other handed => ?_)
    obtain ⟨_, same, -⟩ := handed?_spec handed
    cases published.symm.trans same
    exact closed id ((trace.handed?_iff published).mp handed)
  cases found : network.broker.queue? id with
  | none =>
    by_contra made
    obtain ⟨now, later⟩ := Option.ne_none_iff_exists'.mp made
    rcases named_of_perform performed ⟨now, later, rfl⟩ with ⟨_, there, -⟩ | opens
    · cases found.symm.trans there
    · cases unopened.symm.trans opens
  | some was =>
    obtain ⟨now, later, evolves⟩ := evolves_of_perform performed found
    rw [later]
    cases evolves with
    | kept => rfl
    | handed sends | overtaken sends => cases unhanded.symm.trans sends
    | drawn _ reads =>
      cases unread.symm.trans (consumer?_of_reader? (drawn?_eq_some.mp reads).1)
    | withdrawn _ _ given =>
      refine congrArg some (Queue.abandon_of_not_waiting ?_)
      by_contra waits
      obtain ⟨waiter, member, same⟩ := isWaiting_iff_mem.mp (by simpa using waits)
      rcases given with rfl | past
      · cases ungiven
      · have waiting := isWaiting_iff.mpr ⟨id, was, found, waiter, member, same⟩
        cases ungiven.symm.trans (withdrawn?_of_over trace performed waiting past)
    | left leaving => cases unread.symm.trans leaving.consumer?

end Traces

end Network

end LedgerNode.Bus
