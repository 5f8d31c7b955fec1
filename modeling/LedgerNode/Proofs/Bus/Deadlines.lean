import LedgerNode.Proofs.Bus.Idling
import LedgerNode.Proofs.Bus.Reconnection

set_option autoImplicit false

namespace LedgerNode.Bus

namespace Network

def Happens (steps : List Step) (event : Step → Prop) : Prop :=
  ∃ step ∈ steps, event step

theorem happens_concat {steps : List Step} {step : Step} {event : Step → Prop} :
    Happens (steps ++ [step]) event ↔ Happens steps event ∨ event step := by
  simp [Happens, or_and_right, exists_or]

theorem not_happens_concat {steps : List Step} {step : Step} {event : Step → Prop}
    (earlier : ¬Happens steps event) (last : ¬event step) : ¬Happens (steps ++ [step]) event := by
  rw [happens_concat, not_or]
  exact ⟨earlier, last⟩

def Step.FailsToPublish (step : Step) (id : CallId) (call : Call) : Prop :=
  (step.starts id call ∧
    ∃ parcel error, step.before.broker.publish call.route parcel = .error error) ∨
  step.before.broker.isRefused call.post = false ∧ step.after.broker.isRefused call.post = true

def Step.Accepts (step : Step) (call : Call) : Prop :=
  ∃ queue, ∃ parcel ∈ step.accepted queue, parcel.post = call.post

inductive Step.Reaches (step : Step) (id : CallId) : Prop where
  | handed {payload : Bytes} (hands : step.before.Hands step.action id payload)
  | displaced {was now : Call} (found : step.before.calls[id]? = some was)
      (outstanding : was.state = .outstanding) (later : step.after.calls[id]? = some now)
      (lost : now.state = .disconnected)

inductive Step.Touches (step : Step) (id : CallId) (call : Call) : Prop where
  | failed (fails : step.FailsToPublish id call)
  | aborted (aborts : step.action = .abort id)
  | accepted (accepts : step.Accepts call)
  | reached (reaches : step.Reaches id)

section Steps

variable {respond : Responder} {steps : List Step} {before after : Network} {action : Action}
  {id : CallId} {call was now : Call}

theorem Hands.outstanding {payload : Bytes} (hands : before.Hands action id payload)
    (registered : before.Registered) :
    ∃ call, before.calls[id]? = some call ∧ call.state = .outstanding := by
  obtain ⟨client, reply, -, -, held, -⟩ := hands
  obtain ⟨call, found, -, -, outstanding⟩ := registered.holds _ _ _ held
  exact ⟨call, found, outstanding⟩

theorem Step.Reaches.outstanding {step : Step} (reaches : step.Reaches id)
    (registered : step.before.Registered) :
    ∃ call, step.before.calls[id]? = some call ∧ call.state = .outstanding := by
  cases reaches with
  | handed hands => exact hands.outstanding registered
  | displaced found outstanding => exact ⟨_, found, outstanding⟩

theorem live_of_waiting (trace : Trace respond empty steps before)
    (found : before.calls[id]? = some call) (waits : before.broker.isWaiting call.post = true) :
    call.state.isLive = true := by
  by_contra past
  have withdrawn := over_not_waiting trace found (by simpa using past)
  exact Bool.noConfusion (withdrawn.symm.trans waits)

theorem live_of_touches (trace : Trace respond empty steps before)
    (performed : before.perform respond action = some after) (found : before.calls[id]? = some was)
    (own : was.post = call.post) (touches : Step.Touches ⟨before, action, after⟩ id call) :
    was.state.isLive = true := by
  cases touches with
  | failed fails =>
    rcases fails with ⟨starts, -⟩ | ⟨kept, refused⟩
    · have beyond := List.getElem?_eq_none (Nat.le_of_eq starts.1.symm)
      cases found.symm.trans beyond
    · rcases refused_of_perform performed refused with earlier |
        ⟨place, queue, parcel, there, waits, same, -⟩
      · exact Bool.noConfusion (kept.symm.trans earlier)
      · exact live_of_waiting trace found
          (isWaiting_iff.mpr ⟨place, queue, there, parcel, waits, same.trans own.symm⟩)
  | aborted aborts =>
    obtain rfl : action = .abort id := aborts
    obtain ⟨_, there, live, -⟩ := endedBy_of_abort performed
    obtain rfl := Option.some.inj (found.symm.trans there)
    exact live
  | accepted accepts =>
    obtain ⟨place, parcel, accepted, same⟩ := accepts
    have same := same.trans own.symm
    obtain ⟨queue, there, waits | ⟨handed, -⟩⟩ := Step.accepted_source performed accepted
    · exact live_of_waiting trace found (isWaiting_iff.mpr ⟨place, queue, there, parcel, waits, same⟩)
    · have posted := trace.run.numbered.posted _ (List.mem_of_getElem? (issued_of_getElem? found))
      exact absurd (same.symm.trans (post_of_handed? handed)) (Nat.ne_of_lt posted)
  | reached reaches =>
    obtain ⟨_, there, outstanding⟩ := reaches.outstanding trace.run.registered
    obtain rfl := Option.some.inj (found.symm.trans there)
    rw [outstanding]
    rfl

theorem Trace.untouched (trace : Trace respond empty steps before) (absent : before.calls[id]? = none)
    (post : before.nextPost ≤ call.post) : ∀ step ∈ steps, ¬step.Touches id call := by
  intro step member touches
  obtain ⟨front, back, rfl, prior, performed, rest⟩ := trace.split member
  have missing := rest.run.absent absent
  have none := (Trace.start.next step.action performed).run.absent missing
  have later : step.after.nextPost ≤ call.post := Nat.le_trans rest.run.nextPost post
  have whole := prior.next step.action performed
  cases touches with
  | failed fails =>
    rcases fails with ⟨⟨rfl, payload, made⟩, -⟩ | ⟨-, refused⟩
    · obtain ⟨_, _, -, there, -⟩ := call_of_perform (made ▸ performed)
      cases missing.symm.trans there
    · obtain ⟨place, parcel, arrived, same, -⟩ := whole.refused refused
      exact absurd (same ▸ whole.arrived_below arrived) (Nat.not_lt.mpr later)
  | aborted aborts =>
    obtain ⟨_, there, -⟩ := endedBy_of_abort (aborts ▸ performed)
    cases none.symm.trans there
  | accepted accepts =>
    obtain ⟨place, parcel, accepted, same⟩ := accepts
    have arrived := whole.accepted_arrived (mem_accepted_concat.mpr (.inr accepted))
    exact absurd (same ▸ whole.arrived_below arrived) (Nat.not_lt.mpr later)
  | reached reaches =>
    obtain ⟨_, there, -⟩ := reaches.outstanding prior.run.registered
    cases none.symm.trans there

theorem outcome_of_waiting (trace : Trace respond empty steps before)
    (performed : before.perform respond action = some after) {place : QueueId} {queue : Queue}
    {parcel : Parcel} (found : before.broker.queue? place = some queue)
    (waits : parcel ∈ queue.waiting) :
    after.broker.isWaiting parcel.post = true ∨
      parcel ∈ Step.accepted ⟨before, action, after⟩ place ∨
      after.broker.isRefused parcel.post = true ∨ action = .abandon parcel.post ∨
      after.isOver parcel.post = true := by
  have balanced := trace.ledger.1 place queue found
  obtain ⟨now, later, evolves⟩ := evolves_of_perform performed found
  have stays (there : parcel ∈ now.waiting) : after.broker.isWaiting parcel.post = true :=
    isWaiting_iff.mpr ⟨place, now, later, parcel, there, rfl⟩
  cases evolves with
  | kept => exact .inl (stays waits)
  | handed =>
    left
    apply stays
    unfold Queue.enqueue
    split <;> simp [Queue.accept, waits]
  | @overtaken other _ _ _ _ past =>
    by_cases same : parcel.post = other.post
    · exact .inr (.inr (.inr (.inr (same ▸ past))))
    · exact .inl (stays (List.mem_filter.mpr ⟨waits, by simpa using same⟩))
  | drawn _ _ taken =>
    obtain ⟨tail, promoted, buffer, left, waiting⟩ := Ledger.take?_cases balanced.sound taken
    rw [waiting] at waits
    rcases List.mem_append.mp waits with first | behind
    · right; left
      refine List.mem_filter.mpr ⟨?_, ?_⟩
      · simp [bufferOf, later, left, first]
      · have apart (member : parcel ∈ queue.buffer) : False :=
          balanced.apart member (waiting ▸ waits) rfl
        simpa [bufferOf, found] using apart
    · exact .inl (stays behind)
  | @withdrawn post _ _ given =>
    by_cases same : parcel.post = post
    · subst same
      exact .inr (.inr (.inr given))
    · exact .inl (stays (List.mem_filter.mpr ⟨waits, by simpa using same⟩))
  | left leaving =>
    exact .inr (.inr (.inl (refused_of_leaving performed leaving found waits)))

theorem isOver_eq_false (numbered : after.Numbered) (found : after.calls[id]? = some call)
    (live : call.state.isLive = true) : after.isOver call.post = false := by
  by_contra past
  have gone := numbered.over_of_isOver found (by simpa using past)
  exact Bool.noConfusion (live.symm.trans gone)

theorem accepts_of_launch (trace : Trace respond empty steps before)
    (performed : before.perform respond action = some after) (absent : before.calls[id]? = none)
    (found : after.calls[id]? = some call) (outstanding : call.state = .outstanding) :
    after.broker.isWaiting call.post = true ∨ Step.Accepts ⟨before, action, after⟩ call := by
  have whole := trace.next action performed
  obtain ⟨client, owner, route, payload, timeout, rfl, owned, -, issue, launch⟩ :=
    trace.run.launch performed absent found
  have post : call.post = before.nextPost := congrArg Call.post issue
  rw [outstanding] at launch
  cases launch with
  | underway sent =>
    obtain ⟨place, bound, consumed, -⟩ := Broker.publish_eq_ok.mp sent
    have handed : before.handed? respond (.call client route payload timeout) place =
        some (before.nextRequest owner payload) := by
      simp [handed?, publication?, owned, bound, consumed, nextRequest]
    obtain ⟨queue, there, -⟩ := (Option.any_eq_true _ _).mp consumed
    obtain ⟨now, later, evolves⟩ := evolves_of_perform performed there
    cases evolves with
    | handed sends =>
      obtain rfl := Option.some.inj (handed.symm.trans sends)
      unfold Queue.enqueue at later
      split at later
      next =>
        right
        refine ⟨place, before.nextRequest owner payload, List.mem_filter.mpr ⟨?_, ?_⟩, post.symm⟩
        · simp [bufferOf, later, Queue.accept]
        · have fresh (member : before.nextRequest owner payload ∈ queue.buffer) : False :=
            Nat.lt_irrefl _ ((trace.ledger.1 place queue there).held_below
              (List.mem_append_left _ member))
          simpa [bufferOf, there] using fresh
      next =>
        left
        exact isWaiting_iff.mpr ⟨place, _, later, before.nextRequest owner payload, by simp, post.symm⟩
    | overtaken sends _ _ _ past =>
      obtain rfl := Option.some.inj (handed.symm.trans sends)
      have live := isOver_eq_false whole.run.numbered found (by rw [outstanding]; rfl)
      rw [post] at live
      exact Bool.noConfusion (live.symm.trans past)
    | kept silent | drawn silent | withdrawn silent | left _ silent =>
      cases silent.symm.trans handed

end Steps

structure Ongoing (steps : List Step) (network : Network) (id : CallId) (call : Call) : Prop where
  unaborted : ¬Happens steps (fun step => step.action = .abort id)
  failed : Happens steps (fun step => step.FailsToPublish id call) ↔
    network.broker.isRefused call.post = true
  reached : Happens steps (fun step => step.Reaches id) ↔ call.state ≠ .outstanding
  settled : network.broker.isWaiting call.post = true ∨
    network.broker.isRefused call.post = true ∨ Happens steps (fun step => step.Accepts call)

inductive Course (steps : List Step) (network : Network) (id : CallId) (call : Call) : Prop where
  | live (live : call.state.isLive = true) (ongoing : Ongoing steps network id call)
  | undeliverable (state : call.state.isUndeliverable = true)
      (failed : Happens steps (fun step => step.FailsToPublish id call))
  | heard (state : (∃ payload, call.state = .returned payload) ∨ call.state = .failed .disconnected)
      (accepted : Happens steps (fun step => step.Accepts call))
      (reached : Happens steps (fun step => step.Reaches id))
  | late (state : call.state = .failed (.timeout call.timeout)) (due : call.deadline ≤ network.clock)
      (unaborted : ¬Happens steps (fun step => step.action = .abort id))
      (sendable : ¬Happens steps (fun step => step.FailsToPublish id call))
      (unheard : ¬(Happens steps (fun step => step.Accepts call) ∧
        Happens steps (fun step => step.Reaches id)))
  | aborted (state : call.state = .aborted)
      (aborted : Happens steps (fun step => step.action = .abort id))

section Courses

variable {respond : Responder} {steps : List Step} {before after network : Network}
  {action : Action} {id : CallId} {call was : Call}

theorem not_refused_at_start (run : Run respond (fun _ _ => True) empty before)
    (performed : before.perform respond action = some after) :
    after.broker.isRefused before.nextPost = false := by
  by_contra refused
  rcases refused_of_perform performed (by simpa using refused) with earlier |
    ⟨place, queue, parcel, there, waits, same, -⟩
  · exact Bool.noConfusion (run.fresh.symm.trans earlier)
  · exact Nat.ne_of_lt (run.waiting_below there waits) same

theorem Trace.not_happens (trace : Trace respond empty steps before) (absent : before.calls[id]? = none)
    (post : before.nextPost ≤ call.post) {event : Step → Prop}
    (touches : ∀ step : Step, event step → step.Touches id call) : ¬Happens steps event := by
  rintro ⟨step, member, happened⟩
  exact trace.untouched absent post step member (touches step happened)

theorem not_failsToPublish_of_sent {parcel : Parcel} {broker : Broker}
    (sent : before.broker.publish call.route parcel = .ok broker)
    (kept : after.broker.isRefused call.post = false) :
    ¬Step.FailsToPublish ⟨before, action, after⟩ id call := by
  rintro (⟨-, other, error, failed⟩ | ⟨-, refused⟩)
  · obtain ⟨queue, bound, consumed, -⟩ := Broker.publish_eq_ok.mp sent
    cases failed.symm.trans (Broker.publish_eq_ok.mpr ⟨queue, bound, consumed, rfl⟩)
  · exact Bool.noConfusion (kept.symm.trans refused)

theorem course_started (trace : Trace respond empty steps before)
    (performed : before.perform respond action = some after) (absent : before.calls[id]? = none)
    (found : after.calls[id]? = some call) :
    Course (steps ++ [⟨before, action, after⟩]) after id call := by
  have outstanding_accepts := accepts_of_launch trace performed absent found
  obtain ⟨client, owner, route, payload, timeout, rfl, owned, first, issue, launch⟩ :=
    trace.run.launch performed absent found
  have post : call.post = before.nextPost := congrArg Call.post issue
  have routed : call.route = route := congrArg Call.route issue
  have mine : call.client = client := congrArg Call.client issue
  have timeouts : call.timeout = timeout := congrArg Call.timeout issue
  have deadline : call.deadline = before.clock + timeout.nanoseconds := congrArg Call.deadline issue
  have unhappened {event : Step → Prop} (touches : ∀ step : Step, event step → step.Touches id call) :
      ¬Happens steps event := trace.not_happens absent (Nat.le_of_eq post.symm) touches
  have kept := not_refused_at_start trace.run performed
  rw [← post] at kept
  have unaborted : ¬Happens (steps ++ [⟨before, .call client route payload timeout, after⟩])
      (fun step => step.action = .abort id) :=
    not_happens_concat (unhappened fun _ aborts => .aborted aborts) (by simp)
  have unheard : ¬Happens (steps ++ [⟨before, .call client route payload timeout, after⟩])
      (fun step => step.Reaches id) := by
    apply not_happens_concat (unhappened fun _ reaches => .reached reaches)
    intro reaches
    obtain ⟨_, there, -⟩ := reaches.outstanding trace.run.registered
    cases absent.symm.trans there
  have sendable {broker : Broker}
      (sent : before.broker.publish route (before.nextRequest owner payload) = .ok broker) :
      ¬Happens (steps ++ [⟨before, .call client route payload timeout, after⟩])
        (fun step => step.FailsToPublish id call) :=
    not_happens_concat (unhappened fun _ fails => .failed fails)
      (not_failsToPublish_of_sent (routed ▸ sent) kept)
  generalize result : call.state = state at launch
  cases launch with
  | underway sent =>
    refine .live (by rw [result]; rfl) ⟨unaborted, ?_, ?_, ?_⟩
    · exact iff_of_false (sendable sent) (by simp [kept])
    · exact iff_of_false unheard (by simp [result])
    · rcases outstanding_accepts result with waits | accepts
      · exact .inl waits
      · exact .inr (.inr (happens_concat.mpr (.inr accepts)))
  | @unsent error failed =>
    have starts : Step.starts ⟨before, .call client route payload timeout, after⟩ id call :=
      ⟨first, payload, by rw [mine, routed, timeouts]⟩
    refine .undeliverable ?_ (happens_concat.mpr (.inr (.inl ⟨starts, _, error, routed ▸ failed⟩)))
    rw [result]
    rcases Broker.publish_eq_error failed with ⟨-, rfl⟩ | ⟨-, rfl⟩ <;> rfl
  | late sent impatient =>
    refine .late (timeouts ▸ result) ?_ unaborted (sendable sent) (fun both => unheard both.2)
    rw [deadline, impatient]
    exact clock_of_perform performed

theorem course_over (trace : Trace respond empty steps before)
    (performed : before.perform respond action = some after) (found : before.calls[id]? = some call)
    (past : call.state.isLive = false) (course : Course steps before id call) :
    Course (steps ++ [⟨before, action, after⟩]) after id call := by
  have untouched (touches : Step.Touches ⟨before, action, after⟩ id call) : False :=
    Bool.noConfusion (past.symm.trans (live_of_touches trace performed found rfl touches))
  cases course with
  | live live => exact Bool.noConfusion (past.symm.trans live)
  | undeliverable state failed => exact .undeliverable state (happens_concat.mpr (.inl failed))
  | heard state accepted reached =>
    exact .heard state (happens_concat.mpr (.inl accepted)) (happens_concat.mpr (.inl reached))
  | late state due unaborted sendable unheard =>
    refine .late state (Nat.le_trans due (clock_of_perform performed)) ?_ ?_ ?_
    · exact not_happens_concat unaborted (fun now => untouched (.aborted now))
    · exact not_happens_concat sendable (fun now => untouched (.failed now))
    · rw [happens_concat, happens_concat]
      rintro ⟨accepted | now, reached | last⟩
      · exact unheard ⟨accepted, reached⟩
      · exact untouched (.reached last)
      · exact untouched (.accepted now)
      · exact untouched (.accepted now)
  | aborted state aborted => exact .aborted state (happens_concat.mpr (.inl aborted))

theorem Course.ongoing (course : Course steps network id call) (live : call.state.isLive = true) :
    Ongoing steps network id call := by
  cases course with
  | live _ ongoing => exact ongoing
  | undeliverable state =>
    exact absurd live (by simp [CallState.isLive_of_isUndeliverable state])
  | heard state =>
    rcases state with ⟨payload, state⟩ | state <;> rw [state] at live <;> cases live
  | late state | aborted state =>
    rw [state] at live
    cases live

theorem reaches_iff {state : CallState}
    (performed : before.perform respond action = some after) (found : before.calls[id]? = some call)
    (outstanding : call.state = .outstanding) (later : after.calls[id]? = some { call with state })
    (proceeds : Proceeds before action id call state) (live : state.isLive = true) :
    Step.Reaches ⟨before, action, after⟩ id ↔ state ≠ .outstanding := by
  constructor
  · intro reaches
    cases reaches with
    | handed hands =>
      obtain ⟨client, reply, rfl, next, held, -⟩ := hands
      obtain ⟨_, performed', handed⟩ := handed_of_holder next held found outstanding
      obtain rfl := Option.some.inj (performed.symm.trans performed')
      rw [show state = _ from congrArg Call.state (Option.some.inj (later.symm.trans handed))]
      simp
    | displaced _ _ later' lost =>
      obtain rfl := Option.some.inj (later.symm.trans later')
      rw [show state = .disconnected from lost]
      simp
  · intro changed
    cases proceeds with
    | kept => exact absurd outstanding changed
    | displaced => exact .displaced found outstanding later rfl
    | handed _ dispatches next held =>
      have hands : before.Hands action id _ := ⟨_, _, dispatches, next, held, rfl⟩
      exact .handed hands
    | finished _ ending => exact Bool.noConfusion (ending.over.symm.trans live)

theorem Ongoing.kept {state : CallState} (ongoing : Ongoing steps before id call)
    (trace : Trace respond empty steps before) (clocked : before.Clocked respond action)
    (performed : before.perform respond action = some after) (found : before.calls[id]? = some call)
    (later : after.calls[id]? = some { call with state })
    (proceeds : Proceeds before action id call state) (live : state.isLive = true) :
    Ongoing (steps ++ [⟨before, action, after⟩]) after id { call with state } where
  unaborted := by
    apply not_happens_concat ongoing.unaborted
    rintro rfl
    have aborted : state = .aborted := (endedBy_of_abort performed).state later
    rw [aborted] at live
    cases live
  failed := by
    rw [happens_concat]
    constructor
    · -- The call is there, so the step does not start it.
      rintro (earlier | ⟨starts, -⟩ | ⟨-, refused⟩)
      · exact refused_mono_of_perform performed (ongoing.failed.mp earlier)
      · have beyond := List.getElem?_eq_none (Nat.le_of_eq starts.1.symm)
        cases found.symm.trans beyond
      · exact refused
    · intro refused
      cases kept : before.broker.isRefused call.post with
      | true => exact .inl (ongoing.failed.mpr kept)
      | false => exact .inr (.inr ⟨kept, refused⟩)
  reached := by
    rw [happens_concat]
    by_cases outstanding : call.state = .outstanding
    · have unreached := (not_congr ongoing.reached).mpr (by simp [outstanding])
      have now := reaches_iff performed found outstanding later proceeds live
      simpa [unreached] using now
    · refine iff_of_true (.inl (ongoing.reached.mpr outstanding)) (fun waits => ?_)
      exact outstanding (proceeds.outstanding waits)
  settled := by
    rcases ongoing.settled with waits | refused | accepted
    · obtain ⟨place, queue, there, parcel, waiting, same⟩ := isWaiting_iff.mp waits
      have outcome := outcome_of_waiting trace performed there waiting
      rw [same] at outcome
      rcases outcome with still | accepts | refused | given | past
      · exact .inl still
      · exact .inr (.inr (happens_concat.mpr (.inr ⟨place, parcel, accepts, same⟩)))
      · exact .inr (.inl refused)
      · -- Requests are given up by calls that end, and by nobody else in such a run.
        subst given
        exact absurd rfl (clocked call (List.mem_of_getElem? found))
      · have numbered := (trace.next action performed).run.numbered
        have unfinished := isOver_eq_false numbered later live
        exact Bool.noConfusion (unfinished.symm.trans past)
    · exact .inr (.inl (refused_mono_of_perform performed refused))
    · exact .inr (.inr (happens_concat.mpr (.inl accepted)))

theorem Trace.unaccepted_of_waiting (trace : Trace respond empty steps network) {post : PostId}
    (waits : network.broker.isWaiting post = true) :
    ∀ step ∈ steps, ∀ id, ∀ parcel ∈ step.accepted id, parcel.post ≠ post := by
  intro step member id parcel accepted same
  have listed : parcel ∈ (Network.ledger respond steps id).accepted :=
    List.mem_flatMap.mpr ⟨step, member, accepted⟩
  obtain ⟨place, queue, there, waiter, waiting, own⟩ := isWaiting_iff.mp waits
  obtain rfl := trace.arrived_once (trace.accepted_arrived listed)
    (trace.arrived_of_waiting there waiting) (same.trans own.symm)
  have distinct := (trace.ledger.1 id queue there).distinct
  rw [List.map_append, List.nodup_append] at distinct
  exact distinct.2.2 _ (List.mem_map_of_mem listed) _ (List.mem_map_of_mem waiting)
    (same.trans own.symm)

theorem untouched_of_late (found : before.calls[id]? = some call)
    (result : after = before.endCall id (.failed (.timeout call.timeout))) :
    ¬Step.Touches ⟨before, .expire id, after⟩ id call := by
  have broker : after.broker = before.broker.abandon call.post := by
    rw [result, endCall_frame found]
  intro touches
  cases touches with
  | failed fails =>
    rcases fails with ⟨⟨-, payload, made⟩, -⟩ | ⟨kept, refused⟩
    · cases made
    · rw [broker] at refused
      exact Bool.noConfusion (kept.symm.trans refused)
  | aborted aborts => cases aborts
  | accepted accepts =>
    obtain ⟨place, parcel, accepted, -⟩ := accepts
    obtain ⟨there, new⟩ := List.mem_filter.mp accepted
    have same : after.bufferOf place = before.bufferOf place := by
      simp [bufferOf, broker, Queue.abandon, Function.comp_def]
    simp only [same, decide_eq_true_eq] at there new
    exact new there
  | reached reaches =>
    cases reaches with
    | handed hands =>
      obtain ⟨_, _, dispatches, -⟩ := hands
      cases dispatches
    | displaced _ _ later lost =>
      simp only [result, getElem?_calls_endCall found, found, Option.map_some, if_true,
        Option.some.injEq] at later
      subst later
      cases lost

theorem Ongoing.ended {state : CallState} (ongoing : Ongoing steps before id call)
    (trace : Trace respond empty steps before)
    (performed : before.perform respond action = some after) (found : before.calls[id]? = some call)
    (result : after = before.endCall id state) (verdict : Verdict before action id call state) :
    Course (steps ++ [⟨before, action, after⟩]) after id { call with state } := by
  have accepted (kept : before.broker.isRefused call.post = false)
      (gone : before.broker.isWaiting call.post = false) :
      Happens steps (fun step => step.Accepts call) := by
    simpa [kept, gone] using ongoing.settled
  cases verdict with
  | refused _ refused =>
    exact .undeliverable rfl (happens_concat.mpr (.inl (ongoing.failed.mpr refused)))
  | answered _ kept gone answered =>
    refine .heard (.inl ⟨_, rfl⟩) (happens_concat.mpr (.inl (accepted kept gone))) ?_
    exact happens_concat.mpr (.inl (ongoing.reached.mpr (by simp [answered])))
  | disconnected _ kept gone disconnected =>
    refine .heard (.inr rfl) (happens_concat.mpr (.inl (accepted kept gone))) ?_
    exact happens_concat.mpr (.inl (ongoing.reached.mpr (by simp [disconnected])))
  | late fires kept unanswered due =>
    subst fires
    have untouched := untouched_of_late found result
    refine .late rfl (Nat.le_trans due (clock_of_perform performed)) ?_ ?_ ?_
    · exact not_happens_concat ongoing.unaborted (fun now => untouched (.aborted now))
    · refine not_happens_concat (fun earlier => ?_) (fun now => untouched (.failed now))
      exact Bool.noConfusion (kept.symm.trans (ongoing.failed.mp earlier))
    · rw [happens_concat, happens_concat]
      rintro ⟨⟨step, member, place, parcel, accepts, same⟩ | now, heard | last⟩
      · rcases unanswered with waits | outstanding
        · exact trace.unaccepted_of_waiting waits step member place parcel accepts same
        · exact ongoing.reached.mp heard outstanding
      · exact untouched (.reached last)
      · exact untouched (.accepted now)
      · exact untouched (.accepted now)
  | aborted aborts => exact .aborted rfl (happens_concat.mpr (.inr aborts))

theorem Trace.course (trace : Trace respond empty steps network)
    (clocked : ∀ step ∈ steps, step.before.Clocked respond step.action)
    (found : network.calls[id]? = some call) : Course steps network id call := by
  -- By induction on the run. The last step starts the call, finds it over, keeps it or ends it.
  induction trace generalizing call with
  | start => cases found
  | @next steps before after action trace performed ih =>
    have last := clocked _ (List.mem_append_right _ List.mem_cons_self)
    have earlier := fun step member => clocked step (List.mem_append_left _ member)
    cases there : before.calls[id]? with
    | none => exact course_started trace performed there found
    | some was =>
      obtain ⟨state, now, proceeds⟩ := proceeds_of_perform performed there
      obtain rfl := Option.some.inj (found.symm.trans now)
      have course := ih earlier there
      cases live : was.state.isLive with
      | false =>
        obtain rfl := proceeds.of_over live
        exact course_over trace performed there live course
      | true =>
        have ongoing := course.ongoing live
        cases still : state.isLive with
        | true => exact .live still (ongoing.kept trace last performed there found proceeds still)
        | false =>
          obtain ⟨verdict, result⟩ := verdict_of_perform performed there found live still
          exact ongoing.ended trace performed there result verdict

end Courses

/-- A step before the clock reaches the deadline of a call, or else before the call has looked at it. -/
def Step.InTime (step : Step) (id : CallId) (call : Call) : Prop :=
  step.before.clock < call.deadline ∨ step.before.isLive id = true

/-- What holds of a call in every run that keeps to the clock. -/
structure KeepsDeadline (respond : Responder) (steps : List Step) (network : Network) (id : CallId)
    (call : Call) : Prop where
  overdue : network.Idle respond → call.deadline ≤ network.clock → call.state.isLive = false
  idles : ∃ later, Run respond TaskAction network later ∧ later.clock = network.clock ∧
    later.Idle respond ∧ (call.deadline ≤ network.clock → later.isLive id = false)
  still : ∀ step ∈ steps, ∀ nanoseconds, step.action = .tick nanoseconds →
    step.before.isLive id = true → step.before.clock < call.deadline
  late : call.state = .failed (.timeout call.timeout) → call.deadline ≤ network.clock
  -- Whatever touches a call is in time, by `Trace.inTime`. The bound on that time is in the fields above: from
  -- the deadline on the clock stands still until the call has ended, and no call times out before it.
  exactly : 0 < call.timeout.nanoseconds → call.state.isLive = false →
    (call.state = .failed (.timeout call.timeout) ↔
      ¬Happens steps (fun step => step.InTime id call ∧ step.FailsToPublish id call) ∧
      ¬Happens steps (fun step => step.InTime id call ∧ step.action = .abort id) ∧
      ¬(Happens steps (fun step => step.InTime id call ∧ step.Accepts call) ∧
        Happens steps (fun step => step.InTime id call ∧ step.Reaches id)))
  impatient : call.timeout.nanoseconds = 0 →
    call.state = .failed (.timeout call.timeout) ∨ call.state.isUndeliverable = true

section Deadlines

variable {respond : Responder} {steps : List Step} {network : Network} {id : CallId} {call : Call}

theorem Trace.inTime (trace : Trace respond empty steps network)
    (found : network.calls[id]? = some call) (patient : 0 < call.timeout.nanoseconds) {step : Step}
    (member : step ∈ steps) (touches : step.Touches id call) : step.InTime id call := by
  obtain ⟨front, back, rfl, prior, performed, rest⟩ := trace.split member
  cases there : step.before.calls[id]? with
  | some was =>
    have issue := ((Trace.start.next step.action performed).trans rest).issue_eq there found
    have same : was.post = call.post := Call.post_of_issue issue
    exact .inr (isLive_iff.mpr ⟨was, there, live_of_touches prior performed there same touches⟩)
  | none =>
    have whole := prior.next step.action performed
    cases now : step.after.calls[id]? with
    | none =>
      have late := rest.nextPost_le whole.run now found
      exact absurd touches (whole.untouched now late step (by simp))
    | some record =>
      obtain ⟨client, owner, route, payload, timeout, -, -, -, issue, -⟩ :=
        prior.run.launch performed there now
      have issue := (rest.issue_eq now found).symm.trans issue
      have timeouts : call.timeout = timeout := congrArg Call.timeout issue
      have deadline : call.deadline = step.before.clock + timeout.nanoseconds :=
        congrArg Call.deadline issue
      -- In the step that starts it, the whole timeout is left.
      left
      rw [deadline, ← timeouts]
      exact Nat.lt_add_of_pos_right patient

theorem happens_in_time {event : Step → Prop}
    (inTime : ∀ step ∈ steps, event step → step.InTime id call) :
    Happens steps (fun step => step.InTime id call ∧ event step) ↔ Happens steps event := by
  constructor
  · rintro ⟨step, member, -, happened⟩
    exact ⟨step, member, happened⟩
  · rintro ⟨step, member, happened⟩
    exact ⟨step, member, inTime step member happened, happened⟩

theorem Course.late_iff (course : Course steps network id call) (past : call.state.isLive = false) :
    call.state = .failed (.timeout call.timeout) ↔
      ¬Happens steps (fun step => step.FailsToPublish id call) ∧
      ¬Happens steps (fun step => step.action = .abort id) ∧
      ¬(Happens steps (fun step => step.Accepts call) ∧
        Happens steps (fun step => step.Reaches id)) := by
  cases course with
  | live live => exact absurd live (by simp [past])
  | undeliverable state failed =>
    refine iff_of_false (fun late => ?_) (fun nothing => nothing.1 failed)
    rw [late] at state
    cases state
  | heard state accepted reached =>
    refine iff_of_false (fun late => ?_) (fun nothing => nothing.2.2 ⟨accepted, reached⟩)
    rcases state with ⟨payload, state⟩ | state <;> cases state.symm.trans late
  | late state _ unaborted sendable unheard => exact iff_of_true state ⟨sendable, unaborted, unheard⟩
  | aborted state aborted =>
    refine iff_of_false (fun late => ?_) (fun nothing => nothing.2.1 aborted)
    cases state.symm.trans late

theorem Course.due (course : Course steps network id call)
    (state : call.state = .failed (.timeout call.timeout)) : call.deadline ≤ network.clock := by
  cases course with
  | late _ due => exact due
  | live live =>
    rw [state] at live
    cases live
  | undeliverable other =>
    rw [state] at other
    cases other
  | heard other => rcases other with ⟨_, other⟩ | other <;> cases state.symm.trans other
  | aborted other => cases state.symm.trans other

theorem Launch.impatient {before : Network} {route : String} {timeout : Duration} {request : Parcel}
    {state : CallState} (launch : Launch before route timeout request state)
    (impatient : timeout.nanoseconds = 0) :
    state = .failed (.timeout timeout) ∨ state.isUndeliverable = true := by
  cases launch with
  | underway _ patient => exact absurd impatient patient
  | unsent failed =>
    right
    rcases Broker.publish_eq_error failed with ⟨-, rfl⟩ | ⟨-, rfl⟩ <;> rfl
  | late => exact .inl rfl

/--
With a clock that moves in idle states only, a call is over in every idle state from its deadline on. It ends
with a timeout exactly if in time its publish did not fail, nobody aborted it, and it was not both accepted and
reached by a reply.
-/
theorem calls_keep_their_deadlines (trace : Trace respond empty steps network)
    (clocked : ∀ step ∈ steps, step.before.Clocked respond step.action) :
    ∀ step ∈ steps, ∀ (client : ClientId) (route : String) (payload : Bytes) (timeout : Duration),
      step.action = .call client route payload timeout →
      ∃ call, network.calls[step.before.calls.length]? = some call ∧ call.client = client ∧
        call.route = route ∧ call.timeout = timeout ∧
        call.deadline = step.before.clock + timeout.nanoseconds ∧
        KeepsDeadline respond steps network step.before.calls.length call := by
  intro step member client route payload timeout made
  obtain ⟨front, back, same, prior, performed, rest⟩ := trace.split member
  obtain ⟨owner, started, owned, there, issue⟩ := call_of_perform (made ▸ performed)
  obtain ⟨call, found, kept⟩ : ∃ call, network.calls[step.before.calls.length]? = some call ∧
      call.issue = started.issue := by
    have issued := rest.run.issued_mono (issued_of_getElem? there)
    rw [getElem?_issued] at issued
    exact Option.map_eq_some_iff.mp issued
  have issue := kept.trans issue
  have course := trace.course clocked found
  refine ⟨call, found, congrArg Call.client issue, congrArg Call.route issue,
    congrArg Call.timeout issue, congrArg Call.deadline issue, ?_⟩
  refine ⟨fun idle due => idle.not_due found due, ?_, ?_, course.due, ?_, ?_⟩
  · obtain ⟨later, run, clock, idle⟩ := exists_idle respond network
    refine ⟨later, run, clock, idle, fun due => ?_⟩
    have issued := run.issued_mono (issued_of_getElem? found)
    rw [getElem?_issued] at issued
    obtain ⟨now, known, issue⟩ := Option.map_eq_some_iff.mp issued
    have deadline : now.deadline = call.deadline := Call.deadline_of_issue issue
    simpa [isLive, known] using idle.not_due known (by omega)
  · intro other among nanoseconds ticks live
    by_contra due
    obtain ⟨was, known, live⟩ := isLive_iff.mp live
    obtain ⟨_, after, -, -, performed, rest⟩ := trace.split among
    have issue := ((Trace.start.next other.action performed).trans rest).issue_eq known found
    have deadline : was.deadline = call.deadline := Call.deadline_of_issue issue
    -- The clock moves in idle states, and there an overdue call has ended.
    have idle := clocked other among
    rw [ticks] at idle
    exact absurd live (by simp [Idle.not_due idle known (by omega)])
  · intro patient past
    have inTime {step : Step} (member : step ∈ steps) := trace.inTime found patient member
    rw [happens_in_time (fun _ member fails => inTime member (.failed fails)),
      happens_in_time (fun _ member aborts => inTime member (.aborted aborts)),
      happens_in_time (fun _ member accepts => inTime member (.accepted accepts)),
      happens_in_time (fun _ member reaches => inTime member (.reached reaches))]
    exact course.late_iff past
  · intro impatient
    have timeouts : call.timeout = timeout := congrArg Call.timeout issue
    have whole := (made ▸ performed : step.before.perform respond (.call client route payload timeout) =
      some step.after)
    obtain ⟨now, known, -, launch⟩ :=
      launch_of_perform prior.run.registered prior.run.fresh whole owned
    have ended := launch.impatient (timeouts ▸ impatient)
    have past : now.state.isLive = false := by
      rcases ended with late | undeliverable
      · rw [late]
        rfl
      · exact CallState.isLive_of_isUndeliverable undeliverable
    obtain rfl := Option.some.inj (found.symm.trans (rest.run.over known past))
    rw [timeouts]
    exact ended

end Deadlines

/-- One call is accepted, one waits for its slot, and one has no time. The queue of the replies is deleted
and its dispatcher leaves, and the clock goes from one deadline to the next. -/
def unanswered : Option (List Step × Network) :=
  record (fun _ _ _ => none)
    [.declare "service" 1, .connect "replies" 4, .call 0 "service" [1] ⟨5⟩,
      .call 0 "service" [2] ⟨3⟩, .call 0 "service" [3] ⟨0⟩, .delete "replies", .dispatch 0, .tick 3,
      .expire 1, .tick 2, .expire 0] empty

theorem unanswered_keep_deadlines :
    ∃ steps network, unanswered = some (steps, network) ∧
      ∃ first second third, network.calls = [first, second, third] ∧
        first.state = .failed (.timeout ⟨5⟩) ∧ second.state = .failed (.timeout ⟨3⟩) ∧
        third.state = .failed (.timeout ⟨0⟩) ∧ first.deadline = 5 ∧ second.deadline = 3 ∧
        third.deadline = 0 ∧ KeepsDeadline (fun _ _ _ => none) steps network 0 first ∧
        KeepsDeadline (fun _ _ _ => none) steps network 1 second ∧
        KeepsDeadline (fun _ _ _ => none) steps network 2 third := by
  obtain ⟨⟨steps, network⟩, done⟩ :=
    Option.isSome_iff_exists.mp (by decide : unanswered.isSome = true)
  have computed : (steps, network) = unanswered.get (by decide) := by simp [done]
  obtain ⟨clocked, first, second, third, calls, states, deadlines, atFirst, atSecond, atThird⟩ :
      (∀ step ∈ steps, step.before.Clocked (fun _ _ _ => none) step.action) ∧
      ∃ first second third, network.calls = [first, second, third] ∧
        (first.state = .failed (.timeout ⟨5⟩) ∧ second.state = .failed (.timeout ⟨3⟩) ∧
          third.state = .failed (.timeout ⟨0⟩)) ∧
        (first.deadline = 5 ∧ second.deadline = 3 ∧ third.deadline = 0) ∧
        (∃ step ∈ steps, step.action = .call 0 "service" [1] ⟨5⟩ ∧ step.before.calls.length = 0) ∧
        (∃ step ∈ steps, step.action = .call 0 "service" [2] ⟨3⟩ ∧ step.before.calls.length = 1) ∧
        ∃ step ∈ steps, step.action = .call 0 "service" [3] ⟨0⟩ ∧ step.before.calls.length = 2 := by
    cases computed
    exact ⟨by decide, _, _, _, rfl, ⟨rfl, rfl, rfl⟩, ⟨rfl, rfl, rfl⟩,
      ⟨_, List.mem_of_getElem? (i := 2) rfl, rfl, rfl⟩,
      ⟨_, List.mem_of_getElem? (i := 3) rfl, rfl, rfl⟩,
      ⟨_, List.mem_of_getElem? (i := 4) rfl, rfl, rfl⟩⟩
  have keeps (id : CallId) (call : Call) (found : network.calls[id]? = some call)
      (payload : Bytes) (timeout : Duration)
      (made : ∃ step ∈ steps, step.action = .call 0 "service" payload timeout ∧
        step.before.calls.length = id) :
      KeepsDeadline (fun _ _ _ => none) steps network id call := by
    obtain ⟨step, member, made, rfl⟩ := made
    obtain ⟨_, there, -, -, -, -, keeps⟩ := calls_keep_their_deadlines (trace_of_record done) clocked
      step member 0 "service" payload timeout made
    obtain rfl := Option.some.inj (found.symm.trans there)
    exact keeps
  refine ⟨steps, network, done, first, second, third, calls, states.1, states.2.1, states.2.2,
    deadlines.1, deadlines.2.1, deadlines.2.2, ?_, ?_, ?_⟩
  · exact keeps 0 first (by simp [calls]) _ _ atFirst
  · exact keeps 1 second (by simp [calls]) _ _ atSecond
  · exact keeps 2 third (by simp [calls]) _ _ atThird

/-- What would hold if a call looked at nothing but what happens before its deadline, and took a reply
whether or not its request was accepted. -/
def LateUnlessReached (steps : List Step) (id : CallId) (call : Call) : Prop :=
  call.state = .failed (.timeout call.timeout) ↔
    ¬Happens steps (fun step => step.before.clock < call.deadline ∧
      (step.FailsToPublish id call ∨ step.action = .abort id ∨
        ∃ payload, step.before.Hands step.action id payload))

/-- A message with the id of a call is dispatched to the call while its request still waits for a slot. -/
def earlyReply : Option (List Step × Network) :=
  record (fun _ _ _ => none)
    [.declare "service" 1, .connect "replies" 4,
      .publish "service" { correlationId := 9, replyTo := none, payload := [0] } none,
      .call 0 "service" [1] ⟨5⟩,
      .publish "replies" { correlationId := 0, replyTo := none, payload := [2] } none, .dispatch 0,
      .tick 5, .expire 0] empty

/-- A message with the id of a call is dispatched at the deadline, before the call looks at its timer. -/
def tiedReply : Option (List Step × Network) :=
  record (fun _ _ _ => none)
    [.declare "service" 1, .connect "replies" 4, .call 0 "service" [1] ⟨5⟩, .tick 5,
      .publish "replies" { correlationId := 0, replyTo := none, payload := [2] } none, .dispatch 0,
      .finish 0] empty

theorem early_and_tied_replies :
    (∃ steps network call, earlyReply = some (steps, network) ∧
      (∀ step ∈ steps, step.before.Clocked (fun _ _ _ => none) step.action) ∧
      network.calls[0]? = some call ∧ call.deadline = 5 ∧
      call.state = .failed (.timeout ⟨5⟩) ∧ ¬LateUnlessReached steps 0 call) ∧
    ∃ steps network call, tiedReply = some (steps, network) ∧
      (∀ step ∈ steps, step.before.Clocked (fun _ _ _ => none) step.action) ∧
      network.calls[0]? = some call ∧ call.deadline = 5 ∧
      call.state = .returned [2] ∧ ¬LateUnlessReached steps 0 call := by
  constructor
  · refine ⟨_, (earlyReply.get (by decide)).2, _, rfl, by decide, rfl, rfl, rfl, fun law => ?_⟩
    refine law.mp rfl ⟨_, List.mem_of_getElem? (i := 5) rfl, by decide, .inr (.inr ?_)⟩
    exact ⟨[2], 0, _, rfl, rfl, rfl, rfl⟩
  · refine ⟨_, (tiedReply.get (by decide)).2, _, rfl, by decide, rfl, rfl, rfl, fun law => ?_⟩
    refine absurd (law.mpr ?_) (by decide)
    rintro ⟨step, member, early, touched⟩
    -- Before the deadline the call is only started, and its route leads to a queue then.
    have quiet : ∀ step ∈ (tiedReply.get (by decide)).1, step.before.clock < 5 →
        (step.action = .declare "service" 1 ∨ step.action = .connect "replies" 4 ∨
          step.action = .tick 5 ∨ step.action = .call 0 "service" [1] ⟨5⟩ ∧
            step.before.broker.lookup? "service" = some 0 ∧
            step.before.broker.isConsumed 0 = true) ∧
        step.after.broker.isRefused 0 = false := by decide
    obtain ⟨action, kept⟩ := quiet step member early
    rcases touched with (⟨⟨-, _, made⟩, _, _, failed⟩ | ⟨-, refused⟩) | aborts | ⟨_, _, _, sent, -⟩
    · rcases action with same | same | same | ⟨-, bound, consumed⟩
      · cases same.symm.trans made
      · cases same.symm.trans made
      · cases same.symm.trans made
      · cases failed.symm.trans (Broker.publish_eq_ok.mpr ⟨0, bound, consumed, rfl⟩)
    · exact Bool.noConfusion (kept.symm.trans refused)
    · rcases action with same | same | same | ⟨same, -⟩ <;> cases same.symm.trans aborts
    · rcases action with same | same | same | ⟨same, -⟩ <;> cases same.symm.trans sent

end Network

end LedgerNode.Bus
