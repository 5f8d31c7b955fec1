import LedgerNode.Proofs.Bus.Requests
import LedgerNode.Proofs.Bus.Settling

set_option autoImplicit false

namespace LedgerNode.Bus

def Action.isScheduled : Action → Bool
  | tick _ | expire _ => true
  | action => action.isParty

namespace Network

abbrev Scheduled (_ : Network) (action : Action) : Prop :=
  action.isScheduled = true

theorem isScheduled_of_isParty {action : Action} (party : action.isParty = true) :
    action.isScheduled = true := by
  cases action <;> first | rfl | cases party

section Steps

variable {respond : Responder} {start before after network : Network} {action : Action}
  {id : CallId} {call : Call}

theorem issued_of_scheduled (performed : before.perform respond action = some after)
    (scheduled : action.isScheduled = true) : after.issued = before.issued := by
  obtain ⟨middle, change, rfl | ⟨_, _, _, _, _, calls, -⟩⟩ := change_of_perform performed
  · refine change.recorded.issued_eq ?_
    rintro _ _ _ _ rfl
    cases scheduled
  · rw [calls] at scheduled
    cases scheduled

theorem Run.issued_eq (run : Run respond Scheduled start network) :
    network.issued = start.issued := by
  induction run with
  | start => rfl
  | next _ _ scheduled performed ih => exact (issued_of_scheduled performed scheduled).trans ih

theorem over_of_perform (performed : before.perform respond action = some after)
    (found : before.calls[id]? = some call) (past : call.state.isLive = false) :
    after.calls[id]? = some call := by
  obtain ⟨state, there, proceeds⟩ := proceeds_of_perform performed found
  obtain rfl := proceeds.of_over past
  exact there

theorem Run.over {allowed : Network → Action → Prop} (run : Run respond allowed start network)
    (found : start.calls[id]? = some call) (past : call.state.isLive = false) :
    network.calls[id]? = some call := by
  induction run with
  | start => exact found
  | next _ _ _ performed ih => exact over_of_perform performed ih past

theorem outcome?_of_over (found : network.calls[id]? = some call) (past : call.state.isLive = false)
    (proper : call.state ≠ .aborted) : (network.outcome? id).isSome = true := by
  cases state : call.state with
  | returned | failed => simp [outcome?, found, state]
  | aborted => exact absurd state proper
  | _ =>
    rw [state] at past
    cases past

theorem isLive_iff : network.isLive id = true ↔
    ∃ call, network.calls[id]? = some call ∧ call.state.isLive = true :=
  Option.any_eq_true _ _

theorem mem_liveCalls : id ∈ network.liveCalls ↔ network.isLive id = true := by
  simp only [liveCalls, List.mem_filter, List.mem_range, isLive_iff, Option.any_eq_true]
  constructor
  · exact And.right
  · rintro ⟨call, found, live⟩
    exact ⟨(List.getElem?_eq_some_iff.mp found).1, call, found, live⟩

theorem Run.live (run : Run respond Scheduled start network) (live : network.isLive id = true) :
    start.isLive id = true := by
  obtain ⟨call, found, live⟩ := isLive_iff.mp live
  have within := (List.getElem?_eq_some_iff.mp (issued_of_getElem? found)).1
  rw [run.issued_eq, issued, List.length_map] at within
  have there : start.calls[id]? = some start.calls[id] := List.getElem?_eq_getElem within
  refine isLive_iff.mpr ⟨_, there, ?_⟩
  by_contra past
  have same := run.over there (by simpa using past)
  obtain rfl := Option.some.inj (found.symm.trans same)
  exact past live

theorem Run.liveCalls_lt (run : Run respond Scheduled start network)
    (was : start.isLive id = true) (past : network.isLive id = false) :
    network.liveCalls.length < start.liveCalls.length := by
  have counted : network.calls.length = start.calls.length := by
    simpa [issued] using congrArg List.length run.issued_eq
  have fewer : network.liveCalls = start.liveCalls.filter network.isLive := by
    unfold liveCalls
    rw [counted, List.filter_filter]
    apply List.filter_congr
    intro other _
    rw [Bool.eq_iff_iff]
    constructor
    · intro live
      exact Bool.and_eq_true_iff.mpr ⟨live, run.live live⟩
    · exact fun both => (Bool.and_eq_true_iff.mp both).1
  have sublist : network.liveCalls.Sublist start.liveCalls := fewer ▸ List.filter_sublist
  refine Nat.lt_of_le_of_ne sublist.length_le (fun same => ?_)
  have equal := sublist.eq_of_length same
  have live := mem_liveCalls.mp (equal ▸ mem_liveCalls.mpr was)
  cases live.symm.trans past

end Steps

section Waiting

variable (respond : Responder)

theorem settle_scheduled (network : Network) :
    Run respond Scheduled network (network.settle respond) :=
  (settle_spec respond network).1.mono (fun _ _ party => isScheduled_of_isParty party)

theorem expire_over {network after : Network} {id : CallId} (done : network.expire id = some after) :
    after.isLive id = false := by
  obtain ⟨state, -, call, found, -, ending, rfl⟩ := endedBy_of_expire done
  simp [isLive, getElem?_calls_endCall found, found, ending.over]

theorem expire_none {network : Network} {id : CallId} {call : Call} (stuck : network.expire id = none)
    (found : network.calls[id]? = some call) (due : call.deadline ≤ network.clock) :
    network.isLive id = false := by
  simpa [expire, found, due, isLive] using stuck

theorem expireAll_spec (ids : List CallId) (network : Network) :
    Run respond Scheduled network
        (ids.foldl (fun current id => (current.expire id).getD current) network) ∧
      ∀ id ∈ ids, ∀ call, network.issued[id]? = some call → call.deadline ≤ network.clock →
        (ids.foldl (fun current id => (current.expire id).getD current) network).isLive id =
          false := by
  induction ids generalizing network with
  | nil => exact ⟨.start, by simp⟩
  | cons first rest ih =>
    rw [List.foldl_cons]
    -- One timer leaves the clock and what is on record of the calls as they are.
    obtain ⟨step, clock, past⟩ : Run respond Scheduled network ((network.expire first).getD network) ∧
        ((network.expire first).getD network).clock = network.clock ∧
        ∀ call, network.issued[first]? = some call → call.deadline ≤ network.clock →
          ((network.expire first).getD network).isLive first = false := by
      cases done : network.expire first with
      | none =>
        refine ⟨.start, rfl, fun call found due => ?_⟩
        rw [getElem?_issued] at found
        obtain ⟨record, there, rfl⟩ := Option.map_eq_some_iff.mp found
        exact expire_none done there due
      | some after =>
        obtain ⟨state, -, ends⟩ := endedBy_of_expire done
        exact ⟨.next (.expire first) .start rfl done, ends.ended.clock, fun _ _ _ => expire_over done⟩
    obtain ⟨run, ends⟩ := ih ((network.expire first).getD network)
    refine ⟨step.trans run, fun id member call found due => ?_⟩
    rcases List.mem_cons.mp member with rfl | later
    · by_contra live
      cases (run.live (by simpa using live)).symm.trans (past call found due)
    · exact ends id later call (step.issued_eq ▸ found) (clock ▸ due)

theorem expireDue_spec (network : Network) :
    Run respond Scheduled network network.expireDue ∧
      ∀ (id : CallId) (call : Call), network.issued[id]? = some call →
        call.deadline ≤ network.clock → network.expireDue.isLive id = false := by
  obtain ⟨run, ends⟩ := expireAll_spec respond network.liveCalls network
  refine ⟨run, fun id call found due => ?_⟩
  by_contra live
  have live : network.expireDue.isLive id = true := by simpa using live
  have was := run.live live
  cases live.symm.trans (ends id (mem_liveCalls.mpr was) call found due)

theorem advance_spec (network : Network) (nanoseconds : Nat) :
    Run respond Scheduled network (network.advance respond nanoseconds) ∧
      ∀ (id : CallId) (call : Call), network.issued[id]? = some call →
        call.deadline ≤ network.clock + nanoseconds →
          (network.advance respond nanoseconds).isLive id = false := by
  let later : Network := { network with clock := network.clock + nanoseconds }
  have passed : Run respond Scheduled network later := .next (.tick nanoseconds) .start rfl rfl
  obtain ⟨fired, ends⟩ := expireDue_spec respond later
  have settled : Run respond Scheduled later.expireDue (network.advance respond nanoseconds) :=
    settle_scheduled respond later.expireDue
  refine ⟨(passed.trans fired).trans settled, fun id call found due => ?_⟩
  by_contra live
  cases (settled.live (by simpa using live)).symm.trans (ends id call found due)

theorem nextDeadline?_spec (network : Network) :
    (network.nextDeadline? = none ∧ ∀ id, network.isLive id = false) ∨
      ∃ (deadline : Nat) (id : CallId) (call : Call), network.nextDeadline? = some deadline ∧
        network.isLive id = true ∧ network.issued[id]? = some call ∧ call.deadline = deadline := by
  unfold nextDeadline?
  cases next : (network.calls.filterMap (fun call =>
      if call.state.isLive then some call.deadline else none)).min? with
  | none =>
    refine .inl ⟨rfl, fun id => ?_⟩
    by_contra live
    obtain ⟨call, found, live⟩ := isLive_iff.mp (by simpa using live)
    have listed : call.deadline ∈ network.calls.filterMap (fun call =>
        if call.state.isLive then some call.deadline else none) :=
      List.mem_filterMap.mpr ⟨call, List.mem_of_getElem? found, by simp [live]⟩
    rw [List.min?_eq_none_iff.mp next] at listed
    cases listed
  | some deadline =>
    obtain ⟨call, member, given⟩ := List.mem_filterMap.mp (List.min?_mem next)
    obtain ⟨id, found⟩ := List.getElem?_of_mem member
    split at given
    next live =>
      cases given
      exact .inr ⟨_, id, call.issue, rfl, isLive_iff.mpr ⟨call, found, live⟩,
        issued_of_getElem? found, rfl⟩
    next => cases given

theorem waitFor_spec {waits : Network → Bool}
    (needed : ∀ network, waits network = true → ∃ id, network.isLive id = true) (steps : Nat)
    (network : Network) (enough : network.liveCalls.length ≤ steps) :
    Run respond Scheduled network (waitFor respond waits steps network) ∧
      waits (waitFor respond waits steps network) = false := by
  have past {network : Network} (none : ∀ id, network.isLive id = false) :
      waits network = false := by
    by_contra waiting
    obtain ⟨id, live⟩ := needed network (by simpa using waiting)
    cases live.symm.trans (none id)
  induction steps generalizing network with
  | zero =>
    have nobody (id : CallId) : network.isLive id = false := by
      by_contra live
      have listed : id ∈ network.liveCalls := mem_liveCalls.mpr (by simpa using live)
      exact absurd (List.length_pos_of_mem listed) (Nat.not_lt.mpr enough)
    exact ⟨.start, past nobody⟩
  | succ steps ih =>
    unfold waitFor
    split
    next =>
      rcases nextDeadline?_spec network with ⟨none, nobody⟩ |
        ⟨deadline, id, call, next, live, found, rfl⟩
      · rw [none]
        exact ⟨.start, past nobody⟩
      · -- The call whose deadline is next is over then.
        obtain ⟨run, ends⟩ := advance_spec respond network (call.deadline - network.clock)
        have fewer := run.liveCalls_lt live (ends id call found (by omega))
        rw [next]
        obtain ⟨rest, done⟩ := ih (network.advance respond (call.deadline - network.clock))
          (by omega)
        exact ⟨run.trans rest, done⟩
    next idle => exact ⟨.start, by simpa using idle⟩

theorem await_spec (network : Network) (calls : List CallId) :
    Run respond Scheduled network (network.await respond calls) ∧
      ∀ id ∈ calls, (network.await respond calls).isLive id = false := by
  have needed (network : Network) (waits : calls.any network.isLive = true) :
      ∃ id, network.isLive id = true := by
    obtain ⟨id, -, live⟩ := List.any_eq_true.mp waits
    exact ⟨id, live⟩
  obtain ⟨run, done⟩ := waitFor_spec respond needed _ (network.settle respond) (Nat.le_refl _)
  refine ⟨(settle_scheduled respond network).trans run, fun id member => ?_⟩
  have past := List.any_eq_false.mp done id member
  rw [Bool.not_eq_true] at past
  exact past

end Waiting

end Network

end LedgerNode.Bus
