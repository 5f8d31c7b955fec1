import LedgerNode.Proofs.Bus.Addressing

set_option autoImplicit false

namespace LedgerNode.Bus

namespace Network

def Step.rebinds (step : Step) (name : String) (bound : Option QueueId) : Option QueueId :=
  if step.action.opens? = some name then some step.before.broker.queues.length
  else if step.action = .delete name then none
  else bound

/-- The queue that was declared under a name last, unless the name was deleted since. -/
def binding (steps : List Step) (name : String) : Option QueueId :=
  steps.foldl (fun bound step => step.rebinds name bound) none

def Dropped (steps : List Step) (id : QueueId) : Prop :=
  ∃ step ∈ steps, step.before.Leaving step.action id

def Vacant (steps : List Step) (name : String) : Prop :=
  ∀ id, binding steps name = some id → Dropped steps id

def Leads (steps : List Step) (name : String) (id : QueueId) : Prop :=
  binding steps name = some id ∧ ¬Dropped steps id

section Steps

variable {respond : Responder} {before after : Network} {action : Action} {id : QueueId}

theorem lookup?_congr {one other : Broker} (same : one.registry = other.registry) (name : String) :
    one.lookup? name = other.lookup? name := by
  rw [Broker.lookup?, same, Broker.lookup?]

theorem Change.lookup?_eq (change : Change respond action before after) (name : String) :
    after.broker.lookup? name =
      Step.rebinds ⟨before, action, after⟩ name (before.broker.lookup? name) := by
  -- Only two kinds of step touch the registry; an action that may do several things does neither.
  have kept (same : after.broker.registry = before.broker.registry)
      (opensNone : action.opens? = none) (kept : action ≠ .delete name) :
      after.broker.lookup? name =
        Step.rebinds ⟨before, action, after⟩ name (before.broker.lookup? name) := by
    simp [Step.rebinds, opensNone, kept, lookup?_congr same]
  cases change with
  | @opened _ own capacity | @connected _ own capacity =>
    refine (Broker.lookup?_opened before.broker own name capacity).trans ?_
    simp [Step.rebinds, Action.opens?, eq_comm]
  | @unbound _ gone =>
    refine (Broker.lookup?_delete before.broker gone name).trans ?_
    simp [Step.rebinds, Action.opens?, eq_comm]
  | left leaving => cases leaving <;> exact kept rfl rfl (by simp)
  | launched | misfired =>
    refine kept ?_ rfl (by simp)
    simp only [sent, broker_launched, Broker.registry_update]
  | ended ends ended =>
    obtain ⟨call, record, state, there, -, -, rfl⟩ := ended
    have same : (before.endCall call state).broker.registry = before.broker.registry := by
      rw [endCall_frame there]
      rfl
    cases action with
    | abort | expire | finish => exact kept same rfl (by simp)
    | _ => cases ends
  | delivered =>
    refine kept ?_ rfl (by simp)
    rw [broker_deliver]
    rfl
  | _ => exact kept rfl rfl (by simp)

theorem lookup?_of_perform (performed : before.perform respond action = some after)
    (name : String) : after.broker.lookup? name =
      Step.rebinds ⟨before, action, after⟩ name (before.broker.lookup? name) := by
  obtain ⟨middle, change, rfl | ⟨_, _, _, _, _, -, -, ends⟩⟩ := change_of_perform performed
  · exact change.lookup?_eq name
  · -- The end of the call that was started leaves the registry alone.
    obtain ⟨call, -, -, broker, -⟩ := ends.withdrawn
    rw [broker, Broker.lookup?_abandon]
    exact change.lookup?_eq name

theorem deserted_of_leaving (performed : before.perform respond action = some after)
    (leaving : before.Leaving action id) : after.Deserted id := by
  obtain ⟨consumed, rfl⟩ := left_of_leaving performed leaving
  obtain ⟨queue, found, -⟩ := (Option.any_eq_true _ _).mp consumed
  refine ⟨queue.dropConsumer, (Broker.queue?_dropConsumer ..).trans ?_, rfl⟩
  simp [found]

theorem deserted_cases (performed : before.perform respond action = some after)
    (deserted : after.Deserted id) : before.Deserted id ∨ before.Leaving action id := by
  obtain ⟨now, later, gone⟩ := deserted
  cases found : before.broker.queue? id with
  | none =>
    obtain ⟨name, capacity, rfl⟩ := creates_of_perform performed found later
    cases gone
  | some was =>
    obtain ⟨_, same, evolves⟩ := evolves_of_perform performed found
    obtain rfl := Option.some.inj (later.symm.trans same)
    cases evolves with
    | left leaving => exact .inr leaving
    | handed => exact .inl ⟨was, found, (Queue.consumed_enqueue ..).symm.trans gone⟩
    | drawn _ _ taken =>
      exact .inl ⟨was, found, (Queue.takes_of_take? taken).consumed.symm.trans gone⟩
    | _ => exact .inl ⟨_, found, gone⟩

theorem named_of_perform (performed : before.perform respond action = some after) {name : String}
    (named : after.Named id name) : before.Named id name ∨ action.opens? = some name := by
  obtain ⟨middle, change, rfl | ⟨_, _, _, _, _, -, -, ends⟩⟩ := change_of_perform performed
  · exact (change.named named).imp_right And.right
  · rcases (ends.ended.change : Change respond _ _ _).named named with named | ⟨-, opens⟩
    · exact (change.named named).imp_right And.right
    · cases opens

theorem named_mono_of_perform (performed : before.perform respond action = some after)
    {name : String} (named : before.Named id name) : after.Named id name := by
  obtain ⟨middle, change, rfl | ended⟩ := changes_of_perform performed
  · exact change.named_mono named
  · exact (ended.change : Change respond _ _ _).named_mono (change.named_mono named)

theorem Run.named_mono {allowed : Network → Action → Prop} {start network : Network} {name : String}
    (run : Run respond allowed start network) (named : start.Named id name) : network.Named id name := by
  induction run with
  | start => exact named
  | next _ _ _ performed ih => exact named_mono_of_perform performed ih

end Steps

section Traces

variable {respond : Responder} {steps : List Step} {network : Network} {name : String}
  {id : QueueId}

theorem binding_concat (step : Step) :
    binding (steps ++ [step]) name = step.rebinds name (binding steps name) := by
  simp [binding]

theorem Trace.lookup?_eq (trace : Trace respond empty steps network) (name : String) :
    network.broker.lookup? name = binding steps name := by
  induction trace with
  | start => rfl
  | next action _ performed ih => rw [lookup?_of_perform performed, ih, binding_concat]

theorem Trace.dropped_iff (trace : Trace respond empty steps network) :
    Dropped steps id ↔ network.Deserted id := by
  induction trace with
  | start =>
    constructor
    · rintro ⟨_, member, -⟩
      cases member
    · rintro ⟨_, found, -⟩
      cases found
  | @next steps before after action trace performed ih =>
    constructor
    · rintro ⟨step, member, leaving⟩
      rcases List.mem_append.mp member with earlier | last
      · exact deserted_of_perform performed (ih.mp ⟨step, earlier, leaving⟩)
      · obtain rfl := List.mem_singleton.mp last
        exact deserted_of_leaving performed leaving
    · intro deserted
      rcases deserted_cases performed deserted with earlier | leaving
      · obtain ⟨step, member, left⟩ := ih.mpr earlier
        exact ⟨step, List.mem_append_left _ member, left⟩
      · exact ⟨_, List.mem_append_right _ List.mem_cons_self, leaving⟩

theorem Trace.named (trace : Trace respond empty steps network)
    (bound : binding steps name = some id) : network.Named id name :=
  trace.run.bound.named name id ((trace.lookup?_eq name).trans bound)

theorem Trace.dropped_of_bound (trace : Trace respond empty steps network)
    (bound : binding steps name = some id) :
    Dropped steps id ↔ network.broker.isConsumed id = false := by
  obtain ⟨queue, found, -⟩ := trace.named bound
  rw [trace.dropped_iff]
  simp [Deserted, Broker.isConsumed, found]

theorem Trace.leads_iff (trace : Trace respond empty steps network) :
    Leads steps name id ↔
      network.broker.lookup? name = some id ∧ network.broker.isConsumed id = true := by
  rw [Leads, trace.lookup?_eq]
  refine and_congr_right (fun bound => ?_)
  rw [trace.dropped_of_bound bound, Bool.not_eq_false]

theorem Trace.vacant_iff (trace : Trace respond empty steps network) :
    Vacant steps name ↔ (network.broker.lookup? name).any network.broker.isConsumed = false := by
  rw [trace.lookup?_eq, Vacant]
  cases bound : binding steps name with
  | none => simp
  | some id =>
    simp only [Option.some.injEq, forall_eq', Option.any_some]
    exact trace.dropped_of_bound bound

theorem bound_cases (steps : List Step) (name : String) :
    binding steps name = none ∨ (∃ id, binding steps name = some id ∧ Dropped steps id) ∨
      ∃ id, Leads steps name id := by
  cases bound : binding steps name with
  | none => exact .inl rfl
  | some id =>
    by_cases dropped : Dropped steps id
    · exact .inr (.inl ⟨id, rfl, dropped⟩)
    · exact .inr (.inr ⟨id, bound, dropped⟩)

end Traces

section Operations

variable {respond : Responder} {steps : List Step} {network : Network} {name : String}
  {id : QueueId} {message : Message} {answers : Option PostId}

theorem declare_of_free (free : (network.broker.lookup? name).any network.broker.isConsumed = false)
    (capacity : Nat) : network.declare name capacity =
      .ok (network.broker.queues.length, network.opened name capacity) := by
  simp [declare, Broker.declare, free, opened, Broker.opened]

theorem declare_of_taken (taken : (network.broker.lookup? name).any network.broker.isConsumed = true)
    (capacity : Nat) : network.declare name capacity = .error (.queueExists name) := by
  simp [declare, Broker.declare, taken]

theorem post_of_unbound (unbound : network.broker.lookup? name = none) :
    network.post name message answers = .error (.noSuchQueue name) := by
  simp [post, Broker.publish, unbound]

theorem post_of_unconsumed (bound : network.broker.lookup? name = some id)
    (gone : network.broker.isConsumed id = false) :
    network.post name message answers = .error (.queueClosed name) := by
  simp [post, Broker.publish, bound, gone]

theorem post_of_consumed (bound : network.broker.lookup? name = some id)
    (consumed : network.broker.isConsumed id = true) :
    network.post name message answers = .ok (network.sent id answers message) := by
  simp [post, Broker.publish, bound, consumed, sent]

theorem Trace.declare_of_vacant (trace : Trace respond empty steps network)
    (vacant : Vacant steps name) (capacity : Nat) : network.declare name capacity =
      .ok (network.broker.queues.length, network.opened name capacity) :=
  declare_of_free (trace.vacant_iff.mp vacant) capacity

theorem Trace.declare_of_occupied (trace : Trace respond empty steps network)
    (occupied : ¬Vacant steps name) (capacity : Nat) :
    network.declare name capacity = .error (.queueExists name) := by
  refine declare_of_taken ?_ capacity
  simpa using mt trace.vacant_iff.mpr occupied

theorem Trace.unopened_of_occupied (trace : Trace respond empty steps network)
    (occupied : ¬Vacant steps name) {action : Action} (opens : action.opens? = some name) :
    network.perform respond action = none := by
  cases action with
  | declare | connect =>
    cases opens
    simp [perform, connect, trace.declare_of_occupied occupied, Except.toOption]
  | _ => cases opens

theorem Trace.post_eq_noSuchQueue_iff (trace : Trace respond empty steps network) :
    network.post name message answers = .error (.noSuchQueue name) ↔ binding steps name = none := by
  rw [← trace.lookup?_eq]
  refine ⟨fun failed => ?_, post_of_unbound⟩
  cases bound : network.broker.lookup? name with
  | none => rfl
  | some id =>
    by_cases consumed : network.broker.isConsumed id = true
    · cases (post_of_consumed bound consumed).symm.trans failed
    · cases (post_of_unconsumed bound (by simpa using consumed)).symm.trans failed

theorem Trace.post_eq_ok_iff (trace : Trace respond empty steps network) {after : Network} :
    network.post name message answers = .ok after ↔
      ∃ id, Leads steps name id ∧ after = network.sent id answers message := by
  simp only [trace.leads_iff]
  constructor
  · intro sent
    obtain ⟨id, bound, consumed, same⟩ := post_eq_ok sent
    exact ⟨id, ⟨bound, consumed⟩, same⟩
  · rintro ⟨id, ⟨bound, consumed⟩, rfl⟩
    exact post_of_consumed bound consumed

theorem Trace.post_eq_queueClosed_iff (trace : Trace respond empty steps network) :
    network.post name message answers = .error (.queueClosed name) ↔
      ∃ id, binding steps name = some id ∧ Dropped steps id := by
  constructor
  · intro failed
    rcases bound_cases steps name with unbound | ⟨id, bound, dropped⟩ | ⟨id, leads⟩
    · cases (trace.post_eq_noSuchQueue_iff.mpr unbound).symm.trans failed
    · exact ⟨id, bound, dropped⟩
    · cases (trace.post_eq_ok_iff.mpr ⟨id, leads, rfl⟩).symm.trans failed
  · rintro ⟨id, bound, dropped⟩
    exact post_of_unconsumed ((trace.lookup?_eq name).trans bound)
      ((trace.dropped_of_bound bound).mp dropped)

theorem Trace.delete_eq (trace : Trace respond empty steps network) :
    (network.delete name).1 = (binding steps name).isSome := by
  rw [← trace.lookup?_eq]
  rfl

theorem Trace.handed?_iff (trace : Trace respond empty steps network) {action : Action}
    {parcel : Parcel} (published : network.publication? respond action = some (name, parcel)) :
    network.handed? respond action id = some parcel ↔ Leads steps name id := by
  rw [trace.leads_iff]
  constructor
  · intro handed
    obtain ⟨_, same, bound, consumed⟩ := handed?_spec handed
    cases published.symm.trans same
    exact ⟨bound, consumed⟩
  · rintro ⟨bound, consumed⟩
    rw [handed?_of_publication? id published bound consumed, if_pos rfl]

end Operations

end Network

end LedgerNode.Bus
