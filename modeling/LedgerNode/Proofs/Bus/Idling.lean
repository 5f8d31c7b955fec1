import LedgerNode.Proofs.Bus.Delivery

set_option autoImplicit false

namespace LedgerNode.Bus

def Action.isTask : Action → Bool
  | expire _ => true
  | action => action.isParty

namespace Network

def Idle (respond : Responder) (network : Network) : Prop :=
  ∀ action : Action, action.isTask = true → network.perform respond action = none

abbrev TaskAction (_ : Network) (action : Action) : Prop :=
  action.isTask = true

/-- The clock moves in idle states only, and the request of a call is given up by nobody but the call. -/
def Clocked (respond : Responder) (network : Network) : Action → Prop
  | .tick _ => network.Idle respond
  | .abandon post => ∀ call ∈ network.calls, call.post ≠ post
  | _ => True

section Tasks

variable {respond : Responder} {network before after : Network} {action : Action}

theorem perform_of_absent (party : action.isParty = true)
    (absent : action ∉ network.partyActions) : network.perform respond action = none := by
  have missing {α : Type} (items : List α) (id : Nat) (beyond : ¬id < items.length) :
      items[id]? = none := List.getElem?_eq_none (Nat.not_lt.mp beyond)
  cases action with
  | dispatch id =>
    have owned := missing network.clients id (by simpa [partyActions] using absent)
    simp [perform, dispatch, owned]
  | retire id =>
    have owned := missing network.clients id (by simpa [partyActions] using absent)
    simp [perform, retire, owned]
  | take id =>
    have owned := missing network.servers id (by simpa [partyActions] using absent)
    simp [perform, take, owned]
  | answer id =>
    have found := missing network.jobs id (by simpa [partyActions] using absent)
    simp [perform, answer, found]
  | conclude id =>
    have found := missing network.jobs id (by simpa [partyActions] using absent)
    simp [perform, conclude, found]
  | finish id =>
    have found := missing network.calls id (by simpa [partyActions] using absent)
    simp [perform, finish, found]
  | _ => cases party

theorem idle_iff : network.Idle respond ↔
    network.AtRest respond ∧ ∀ id < network.calls.length, network.expire id = none := by
  constructor
  · intro idle
    constructor
    · intro action member
      have party := isParty_of_mem member
      apply idle action
      cases action <;> first | exact party | rfl
    · exact fun id _ => idle (.expire id) rfl
  · intro ⟨rest, unfired⟩ action task
    by_cases party : action.isParty = true
    · by_cases member : action ∈ network.partyActions
      · exact rest action member
      · exact perform_of_absent party member
    · cases action with
      | expire id =>
        by_cases within : id < network.calls.length
        · exact unfired id within
        · have missing := List.getElem?_eq_none (Nat.not_lt.mp within)
          simp [perform, Network.expire, missing]
      | _ => exact absurd task party

instance : Decidable (network.AtRest respond) :=
  inferInstanceAs (Decidable (∀ action ∈ network.partyActions, network.perform respond action = none))

instance : Decidable (network.Idle respond) :=
  decidable_of_iff _ idle_iff.symm

theorem Idle.not_due (idle : network.Idle respond) {id : CallId} {call : Call}
    (found : network.calls[id]? = some call) (due : call.deadline ≤ network.clock) :
    call.state.isLive = false := by
  have past := expire_none (idle (.expire id) rfl) found due
  simpa [isLive, found] using past

theorem work_lt_of_task (performed : before.perform respond action = some after)
    (task : action.isTask = true) : after.work < before.work := by
  by_cases party : action.isParty = true
  · exact (change_of_party performed party).work_lt party
  · cases action with
    | expire =>
      obtain ⟨state, -, ends⟩ := endedBy_of_expire performed
      exact ends.ended.work_lt
    | _ => exact absurd task party

theorem Change.clock_eq (change : Change respond action before after)
    (still : ∀ nanoseconds, action ≠ .tick nanoseconds) : after.clock = before.clock := by
  cases change with
  | launched | misfired => simp [sent]
  | ended _ ended => exact ended.clock
  | delivered => exact clock_deliver ..
  | ticked => exact absurd rfl (still _)
  | _ => rfl

theorem clock_of_still (performed : before.perform respond action = some after)
    (still : ∀ nanoseconds, action ≠ .tick nanoseconds) : after.clock = before.clock := by
  obtain ⟨middle, change, rfl | ended⟩ := changes_of_perform performed
  · exact change.clock_eq still
  · exact ended.clock.trans (change.clock_eq still)

instance (network : Network) : (action : Action) → Decidable (network.Clocked respond action)
  | .tick _ => inferInstanceAs (Decidable (network.Idle respond))
  | .abandon post => inferInstanceAs (Decidable (∀ call ∈ network.calls, call.post ≠ post))
  | .declare .. | .publish .. | .receive _ | .dropConsumer _ | .delete _ | .connect .. | .call ..
  | .abort _ | .dropClient _ | .serve _ | .expire _ | .dispatch _ | .finish _ | .retire _ | .take _
  | .answer _ | .conclude _ => isTrue trivial

theorem exists_idle (respond : Responder) (network : Network) :
    ∃ later, Run respond TaskAction network later ∧ later.clock = network.clock ∧
      later.Idle respond := by
  -- By induction on the work that is left: each step of a task lowers it and keeps the clock.
  induction left : network.work using Nat.strongRecOn generalizing network with
  | ind work ih =>
    by_cases idle : network.Idle respond
    · exact ⟨network, .start, rfl, idle⟩
    · simp only [Idle, not_forall] at idle
      obtain ⟨action, task, able⟩ := idle
      obtain ⟨after, performed⟩ := Option.ne_none_iff_exists'.mp able
      have lower := work_lt_of_task performed task
      obtain ⟨later, run, clock, idle⟩ := ih after.work (left ▸ lower) after rfl
      have still : ∀ nanoseconds, action ≠ .tick nanoseconds := by
        rintro nanoseconds rfl
        cases task
      exact ⟨later, (Run.next action .start task performed).trans run,
        clock.trans (clock_of_still performed still), idle⟩

end Tasks

end Network

end LedgerNode.Bus
