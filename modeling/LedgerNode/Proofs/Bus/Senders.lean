import LedgerNode.Proofs.Bus.Endings
import LedgerNode.Proofs.Bus.Registration

set_option autoImplicit false

namespace LedgerNode.Bus

namespace Network

def Answerable (network : Network) : Prop :=
  ∀ (id : CallId) (call : Call), network.calls[id]? = some call →
    network.callCount call.client < 2 ^ 64 → call.state ≠ .failed .disconnected

section Steps

variable {respond : Responder} {before after network : Network} {action : Action} {id : CallId}
  {call : Call}

theorem Ending.of_disconnected (ending : network.Ending call (.failed .disconnected)) :
    call.state = .disconnected := by
  cases ending with
  | disconnected _ _ disconnected => exact disconnected
  | unsent failed =>
    rcases Broker.publish_eq_error failed with ⟨-, other⟩ | ⟨-, other⟩ <;> cases other

theorem Answerable.changed (answerable : before.Answerable) (undisturbed : before.Undisturbed)
    (change : Change respond action before after) : after.Answerable := by
  intro id now later few lost
  cases found : before.calls[id]? with
  | none =>
    rcases change.started_state found later with outstanding | ⟨disconnected, -⟩
    · cases outstanding.symm.trans lost
    · cases disconnected.symm.trans lost
  | some call =>
    -- Below the bound no call waits behind a lost place, so none can end for it now.
    obtain ⟨state, same, proceeds⟩ := change.proceeds found
    obtain rfl := Option.some.inj (later.symm.trans same)
    have fewer : before.callCount call.client < 2 ^ 64 :=
      Nat.lt_of_le_of_lt (change.recorded.callCount call.client) few
    have state : state = .failed .disconnected := lost
    subst state
    generalize result : CallState.failed .disconnected = state at proceeds
    cases proceeds with
    | kept => exact answerable id call found fewer result.symm
    | displaced | handed => cases result
    | finished _ ending =>
      subst result
      exact undisturbed id call found fewer ending.of_disconnected

theorem Run.answerable {allowed : Network → Action → Prop} (run : Run respond allowed empty network) :
    network.Answerable := by
  induction run with
  | start => exact fun _ _ found => by cases found
  | @next before after action run fine performed ih =>
    obtain ⟨middle, change, rfl | ended⟩ := changes_of_perform performed
    · exact ih.changed run.undisturbed change
    · -- A call that ends in the step that starts it ends behind another change.
      have undisturbed := run.undisturbed.changed run.registered run.numbered change
      have step : Change respond (.abort 0) middle after := ended.change
      exact (ih.changed run.undisturbed change).changed undisturbed step

theorem listens_of_perform {allowed : Network → Action → Prop} (run : Run respond allowed empty before)
    (performed : before.perform respond action = some after) (found : before.calls[id]? = some call)
    (outstanding : call.state = .outstanding) (few : after.callCount call.client < 2 ^ 64) :
    ∃ now, after.calls[id]? = some now ∧
      (now.state = .outstanding ∧ after.holder? call.client call.correlationId = some id ∨
        (∃ payload, before.Hands action id payload ∧ now.state = .answered payload) ∨
        now.state.isLive = false) := by
  have later : Run respond (fun _ _ => True) empty after :=
    (run.mono (fun _ _ _ => trivial)).next action trivial performed
  obtain ⟨state, there, proceeds⟩ := proceeds_of_perform performed found
  refine ⟨_, there, ?_⟩
  cases proceeds with
  | kept => exact .inl ⟨outstanding, later.registered.waits id _ there outstanding⟩
  | displaced => exact absurd rfl (later.undisturbed id _ there few)
  | handed _ dispatches next held =>
    exact .inr (.inl ⟨_, ⟨_, _, dispatches, next, held, rfl⟩, rfl⟩)
  | finished _ ending => exact .inr (.inr ending.over)

end Steps

/--
Below 2^64 calls of its client no call loses its place while it is outstanding: a step that takes the place
away hands a reply to the call or ends it.
-/
theorem no_call_is_disconnected {respond : Responder} {network : Network}
    (reach : Reachable respond network) :
    ∀ (id : CallId) (call : Call), network.calls[id]? = some call →
      network.callCount call.client < 2 ^ 64 →
      call.state ≠ .disconnected ∧
      (∀ (α : Type) (read : Bytes → Except Json.Fault α),
        network.outcomeRead? read id ≠ some (.error .disconnected)) ∧
      network.outcome? id ≠ some (.error .disconnected) ∧
      (call.state = .outstanding →
        network.holder? call.client call.correlationId = some id ∧
        ∀ (action : Action) (after : Network), network.perform respond action = some after →
          after.callCount call.client < 2 ^ 64 →
          ∃ now, after.calls[id]? = some now ∧
            (now.state = .outstanding ∧
                after.holder? call.client call.correlationId = some id ∨
              (∃ payload, network.Hands action id payload ∧ now.state = .answered payload) ∨
              now.state.isLive = false)) := by
  intro id call found few
  have run := run_iff_reachable.mpr reach
  have told : network.outcome? id ≠ some (.error .disconnected) := by
    intro told
    have answerable := run.answerable id call found few
    cases state : call.state <;> simp_all [outcome?]
  refine ⟨run.undisturbed id call found few, ?_, told, ?_⟩
  · intro α read shown
    obtain ⟨outcome, there, same⟩ := Option.map_eq_some_iff.mp shown
    cases outcome with
    | error error =>
      cases same
      exact told there
    | ok payload => cases value : read payload <;> simp [value, Except.mapError] at same
  · intro outstanding
    refine ⟨run.registered.waits id call found outstanding, fun action after performed fewer => ?_⟩
    exact listens_of_perform run performed found outstanding fewer

/-- A call waits on while its reply queue is deleted, the dispatcher leaves and the client is dropped. -/
def forsaken : Option Network :=
  follow (fun _ _ _ => none) (fun _ _ => True)
    [.declare "service" 4, .connect "replies" 4, .call 0 "service" [1] ⟨5⟩, .delete "replies",
      .dispatch 0, .dropClient 0, .tick 5] empty

theorem forsaken_call_times_out :
    ∃ network call after, forsaken = some network ∧ network.broker.isConsumed 1 = false ∧
      network.calls[0]? = some call ∧ call.state = .outstanding ∧
      network.holder? call.client call.correlationId = some 0 ∧
      network.perform (fun _ _ _ => none) (.expire 0) = some after ∧
      after.outcome? 0 = some (.error (.timeout ⟨5⟩)) ∧
      after.outcome? 0 ≠ some (.error .disconnected) := by
  obtain ⟨network, done⟩ := Option.isSome_iff_exists.mp (by decide : forsaken.isSome = true)
  have computed : network = forsaken.get (by decide) := by simp [done]
  have reach := run_iff_reachable.mp (run_of_follow done)
  obtain ⟨call, after, closed, found, outstanding, few, performed, outcome, last, there, fewer⟩ :
      ∃ call after, network.broker.isConsumed 1 = false ∧ network.calls[0]? = some call ∧
        call.state = .outstanding ∧ network.callCount call.client < 2 ^ 64 ∧
        network.perform (fun _ _ _ => none) (.expire 0) = some after ∧
        after.outcome? 0 = some (.error (.timeout ⟨5⟩)) ∧
        ∃ now, after.calls[0]? = some now ∧ after.callCount now.client < 2 ^ 64 := by
    rw [computed]
    exact ⟨_, _, rfl, rfl, rfl, by decide, rfl, rfl, _, rfl, by decide⟩
  obtain ⟨place, -⟩ := (no_call_is_disconnected reach 0 call found few).2.2.2 outstanding
  have told := (no_call_is_disconnected (reach.next _ performed) 0 last there fewer).2.2.1
  exact ⟨network, call, after, done, closed, found, outstanding, place, performed, outcome, told⟩

end Network

end LedgerNode.Bus
