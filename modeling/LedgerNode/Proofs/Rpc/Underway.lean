import LedgerNode.Proofs.Bus.Awaiting
import LedgerNode.Proofs.Bus.FirstReplies
import LedgerNode.Proofs.Rpc.Batch
import Mathlib.Data.List.Forall2

set_option autoImplicit false

namespace LedgerNode.Rpc

open Json Bus

namespace FrontEnd

def outcomeAfter (timeout : Duration) (value : Value) (first : Option Bytes) :
    Except RpcError Value :=
  match readRequest value with
  | .error error => .error error
  | .ok _ =>
    match first with
    | none => .error (.bus (.timeout timeout))
    | some payload =>
      match Reply.read payload with
      | .error fault => .error (.bus (.codec fault))
      | .ok reply => replyResult reply

def sending (frontEnd : FrontEnd) (value : Value) : List Network.Step :=
  match readRequest value with
  | .error _ => []
  | .ok query => [{
      before := frontEnd.network
      action := .call frontEnd.client frontEnd.route query.write frontEnd.timeout
      after := (frontEnd.submit value).2.network }]

def sendings (frontEnd : FrontEnd) : List Value → List Network.Step
  | [] => []
  | value :: rest => frontEnd.sending value ++ (frontEnd.submit value).2.sendings rest

/--
A batch under way, with what became of its items and the steps since the front end was there. Between the
items, and behind them, anything else may happen, which includes other batches of the same front end.
-/
inductive Underway (respond : Responder) (frontEnd : FrontEnd) :
    List Value → List Submission → List Network.Step → Network → Prop where
  | start : Underway respond frontEnd [] [] [] frontEnd.network
  | submit {values : List Value} {submissions : List Submission} {steps : List Network.Step}
      {network : Network} (value : Value) :
      Underway respond frontEnd values submissions steps network →
      network.isHeld frontEnd.client = true →
      Underway respond frontEnd (values ++ [value])
        (submissions ++ [({ frontEnd with network }.submit value).1])
        (steps ++ { frontEnd with network }.sending value)
        ({ frontEnd with network }.submit value).2.network
  | other {values : List Value} {submissions : List Submission} {steps : List Network.Step}
      {network after : Network} (action : Action) :
      Underway respond frontEnd values submissions steps network →
      network.perform respond action = some after →
      Underway respond frontEnd values submissions
        (steps ++ [{ before := network, action, after }]) after

def firstOf (steps : List Network.Step) (network : Network) : Submission → Option Bytes
  | .rejected _ => none
  | .sent call => (network.calls[call]?).bind (Network.firstReply? steps)

inductive Stands (frontEnd : FrontEnd) (network : Network) : Value → Submission → Prop where
  | rejected {value : Value} {error : RpcError} (invalid : readRequest value = .error error) :
      Stands frontEnd network value (.rejected error)
  | sent {value : Value} {query : Query} {id : CallId} {call : Call}
      (valid : readRequest value = .ok query) (absent : frontEnd.network.calls[id]? = none)
      (found : network.calls[id]? = some call)
      (mine : call.client = frontEnd.client) (routed : call.route = frontEnd.route)
      (patient : call.timeout = frontEnd.timeout) :
      Stands frontEnd network value (.sent id)

section Batches

variable {respond : Responder} {frontEnd : FrontEnd} {values : List Value}
  {submissions : List Submission} {steps : List Network.Step} {network after : Network}
  {action : Action} {value : Value} {submission : Submission}

theorem submit_of_error (frontEnd : FrontEnd) {error : RpcError}
    (invalid : readRequest value = .error error) :
    frontEnd.submit value = (.rejected error, frontEnd) ∧ frontEnd.sending value = [] := by
  simp [submit, sending, invalid]

theorem submit_of_ok (respond : Responder) (frontEnd : FrontEnd) {query : Query}
    (valid : readRequest value = .ok query)
    (held : frontEnd.network.isHeld frontEnd.client = true) :
    ∃ after, frontEnd.submit value =
        (.sent frontEnd.network.calls.length, { frontEnd with network := after }) ∧
      frontEnd.network.perform respond
        (.call frontEnd.client frontEnd.route query.write frontEnd.timeout) = some after ∧
      frontEnd.sending value = [{
        before := frontEnd.network
        action := .call frontEnd.client frontEnd.route query.write frontEnd.timeout
        after }] := by
  refine ⟨_, by simp only [submit, valid]; rfl, ?_, by simp only [sending, submit, valid]⟩
  exact if_pos held

theorem Stands.next (stands : Stands frontEnd network value submission)
    (performed : network.perform respond action = some after) :
    Stands frontEnd after value submission := by
  cases stands with
  | rejected invalid => exact .rejected invalid
  | sent valid absent found mine routed patient =>
    obtain ⟨state, there, -⟩ := Network.proceeds_of_perform performed found
    exact .sent valid absent there mine routed patient

theorem Underway.trace (underway : Underway respond frontEnd values submissions steps network) :
    Network.Trace respond frontEnd.network steps network := by
  induction underway with
  | start => exact .start
  | @submit values submissions steps network value _ held ih =>
    cases read : readRequest value with
    | error error =>
      obtain ⟨same, none⟩ := submit_of_error { frontEnd with network } read
      rw [same, none, List.append_nil]
      exact ih
    | ok query =>
      obtain ⟨after, same, performed, sends⟩ :=
        submit_of_ok respond { frontEnd with network } read held
      rw [same, sends]
      exact ih.next _ performed
  | other action _ performed ih => exact ih.next action performed

theorem Stands.all_next (all : List.Forall₂ (Stands frontEnd network) values submissions)
    (performed : network.perform respond action = some after) :
    List.Forall₂ (Stands frontEnd after) values submissions :=
  all.imp (fun _ _ stands => stands.next performed)

theorem Underway.stands (underway : Underway respond frontEnd values submissions steps network) :
    List.Forall₂ (Stands frontEnd network) values submissions := by
  induction underway with
  | start => exact .nil
  | @submit values submissions steps network value underway held ih =>
    cases read : readRequest value with
    | error error =>
      obtain ⟨same, -⟩ := submit_of_error { frontEnd with network } read
      rw [same]
      exact List.rel_append ih (.cons (.rejected read) .nil)
    | ok query =>
      obtain ⟨after, same, performed, -⟩ :=
        submit_of_ok respond { frontEnd with network } read held
      rw [same]
      obtain ⟨owner, call, -, found, issue⟩ := Network.call_of_perform performed
      have absent : frontEnd.network.calls[network.calls.length]? = none :=
        underway.trace.run.absent (List.getElem?_eq_none_iff.mpr (Nat.le_refl _))
      refine List.rel_append (Stands.all_next ih performed) (.cons ?_ .nil)
      exact .sent read absent found (congrArg Call.client issue) (congrArg Call.route issue)
        (congrArg Call.timeout issue)
  | other action _ performed ih => exact Stands.all_next ih performed

theorem Stands.found {id : CallId} (all : List.Forall₂ (Stands frontEnd network) values submissions)
    (member : .sent id ∈ submissions) :
    frontEnd.network.calls[id]? = none ∧ ∃ call, network.calls[id]? = some call := by
  induction all with
  | nil => cases member
  | cons stands _ ih =>
    rcases List.mem_cons.mp member with rfl | later
    · cases stands with
      | sent _ absent found => exact ⟨absent, _, found⟩
    · exact ih later

theorem mem_calls {id : CallId} : id ∈ calls submissions ↔ .sent id ∈ submissions := by
  simp only [calls, List.mem_filterMap]
  constructor
  · rintro ⟨submission, member, same⟩
    cases submission with
    | rejected => cases same
    | sent call =>
      cases same
      exact member
  · exact fun member => ⟨_, member, rfl⟩

theorem Stands.collect (stands : Stands frontEnd network value submission)
    (past : ∀ id, submission = .sent id → (network.outcome? id).isSome = true)
    (heeds : ∀ (id : CallId) (call : Call), network.calls[id]? = some call →
      call.client = frontEnd.client → call.route = frontEnd.route →
      network.Heeds call (Network.firstReply? steps call)) :
    FrontEnd.collect network submission =
      outcomeAfter frontEnd.timeout value (firstOf steps network submission) := by
  cases stands with
  | rejected invalid => simp [FrontEnd.collect, outcomeAfter, invalid]
  | @sent query id call valid _ found mine routed patient =>
    have outcome := (heeds id call found mine routed).outcome? found (past id rfl)
    simp only [FrontEnd.collect, Network.outcomeRead?, outcome, outcomeAfter, valid, firstOf, found,
      Option.map_some, Option.bind_some, patient]
    cases Network.firstReply? steps call with
    | none => rfl
    | some payload =>
      simp only [Option.elim_some]
      cases Reply.read payload <;> rfl

theorem gather_eq (all : List.Forall₂ (Stands frontEnd network) values submissions)
    (past : ∀ id ∈ calls submissions, (network.outcome? id).isSome = true)
    (heeds : ∀ (id : CallId) (call : Call), network.calls[id]? = some call →
      call.client = frontEnd.client → call.route = frontEnd.route →
      network.Heeds call (Network.firstReply? steps call)) :
    gather network values submissions =
      (values.zip (submissions.map (firstOf steps network))).map (fun (value, first) =>
        { id := responseId value, outcome := outcomeAfter frontEnd.timeout value first }) := by
  induction all with
  | nil => rfl
  | @cons value submission values submissions stands _ ih =>
    have outcome := stands.collect
      (fun id same => past id (mem_calls.mpr (same ▸ List.mem_cons_self))) heeds
    have ih := ih (fun id member => past id (mem_calls.mpr (.tail _ (mem_calls.mp member))))
    simp only [gather, List.zip_cons_cons, List.map_cons, outcome] at ih ⊢
    rw [ih]

theorem Underway.extend {more : List Network.Step}
    (underway : Underway respond frontEnd values submissions steps network)
    (trace : Network.Trace respond network more after) :
    Underway respond frontEnd values submissions (steps ++ more) after := by
  induction trace with
  | start => simpa using underway
  | next action _ performed ih => simpa using Underway.other action ih performed

theorem Underway.trans {items : List Value} {others : List Submission} {more : List Network.Step}
    (underway : Underway respond frontEnd values submissions steps network)
    (batch : Underway respond { frontEnd with network } items others more after) :
    Underway respond frontEnd (values ++ items) (submissions ++ others) (steps ++ more) after := by
  induction batch with
  | start => simpa using underway
  | submit value _ held ih => simpa using ih.submit value held
  | other action _ performed ih => simpa using ih.other action performed

theorem Underway.answered {more : List Network.Step}
    (reached : Network.Reachable respond frontEnd.network)
    (underway : Underway respond frontEnd values submissions steps network)
    (kept : ∀ step ∈ steps, ∀ id ∈ calls submissions, step.action ≠ .abort id)
    (waiting : Network.Trace respond network more (network.await respond (calls submissions)))
    (scheduled : ∀ step ∈ more, step.action.isScheduled = true) :
    ∀ id ∈ calls submissions,
      ((network.await respond (calls submissions)).outcome? id).isSome = true := by
  intro id member
  obtain ⟨-, ends⟩ := Network.await_spec respond network (calls submissions)
  have later := underway.extend waiting
  obtain ⟨absent, call, found⟩ := Stands.found later.stands (mem_calls.mp member)
  have past := ends id member
  have proper : call.state ≠ .aborted := by
    refine later.trace.not_aborted (Network.run_iff_reachable.mpr reached) ?_ absent found
    intro step earlier
    rcases List.mem_append.mp earlier with before | waits
    · exact kept step before id member
    · intro aborts
      have schedule := scheduled step waits
      rw [aborts] at schedule
      cases schedule
  exact Network.outcome?_of_over found (by simpa [Network.isLive, found] using past) proper

theorem Underway.awaited (reached : Network.Reachable respond frontEnd.network)
    (underway : Underway respond frontEnd values submissions steps network)
    (kept : ∀ step ∈ steps, ∀ id ∈ calls submissions, step.action ≠ .abort id) :
    ∃ more, Underway respond frontEnd values submissions (steps ++ more)
        (network.await respond (calls submissions)) ∧
      (∀ step ∈ more, step.action.isScheduled = true) ∧
      ∀ id ∈ calls submissions,
        ((network.await respond (calls submissions)).outcome? id).isSome = true := by
  obtain ⟨run, -⟩ := Network.await_spec respond network (calls submissions)
  obtain ⟨more, trace, scheduled⟩ := run.trace
  exact ⟨more, underway.extend trace, scheduled, underway.answered reached kept trace scheduled⟩

theorem sendings_kept (values : List Value) (frontEnd : FrontEnd) {step : Network.Step}
    (member : step ∈ frontEnd.sendings values) (id : CallId) : step.action ≠ .abort id := by
  induction values generalizing frontEnd with
  | nil => cases member
  | cons value rest ih =>
    rcases List.mem_append.mp member with first | others
    · unfold sending at first
      split at first
      next => cases first
      next =>
        obtain rfl := List.mem_singleton.mp first
        exact nofun
    · exact ih _ others

theorem isHeld_submit (frontEnd : FrontEnd) (value : Value)
    (held : frontEnd.network.isHeld frontEnd.client = true) :
    (frontEnd.submit value).2.network.isHeld frontEnd.client = true := by
  cases read : readRequest value with
  | error error => rw [(submit_of_error frontEnd read).1]; exact held
  | ok query =>
    obtain ⟨after, same, performed, -⟩ := submit_of_ok (fun _ _ _ => none) frontEnd read held
    rw [same]
    exact Network.isHeld_of_perform performed nofun held

theorem submit_frame (frontEnd : FrontEnd) (value : Value) :
    (frontEnd.submit value).2 = { frontEnd with network := (frontEnd.submit value).2.network } := by
  unfold submit
  split <;> rfl

theorem Underway.submitAll (rest : List Value)
    (underway : Underway respond frontEnd values submissions steps network)
    (held : network.isHeld frontEnd.client = true) :
    Underway respond frontEnd (values ++ rest)
      (submissions ++ ({ frontEnd with network }.submitAll rest).1)
      (steps ++ { frontEnd with network }.sendings rest)
      ({ frontEnd with network }.submitAll rest).2.network := by
  induction rest generalizing values submissions steps network with
  | nil => simpa [FrontEnd.submitAll, sendings] using underway
  | cons value rest ih =>
    have later := ih (underway.submit value held) (isHeld_submit { frontEnd with network } value held)
    rw [← submit_frame { frontEnd with network } value] at later
    simpa [FrontEnd.submitAll, sendings] using later

theorem underway_answerBatch (reached : Network.Reachable respond frontEnd.network)
    (held : frontEnd.network.isHeld frontEnd.client = true) (values : List Value) :
    ∃ submissions steps,
      Underway respond frontEnd values submissions steps (frontEnd.answerBatch respond values).2.network ∧
        (∀ id ∈ calls submissions,
          ((frontEnd.answerBatch respond values).2.network.outcome? id).isSome = true) ∧
        (frontEnd.answerBatch respond values).1 =
          gather (frontEnd.answerBatch respond values).2.network values submissions := by
  have underway := (Underway.start : Underway respond frontEnd [] [] [] _).submitAll values held
  rw [List.nil_append, List.nil_append, List.nil_append] at underway
  obtain ⟨more, later, -, past⟩ := underway.awaited reached (fun step member id _ =>
    sendings_kept values frontEnd member id)
  exact ⟨_, _, later, past, rfl⟩

theorem answerBody_eq_gather (reached : Network.Reachable respond frontEnd.network)
    (held : frontEnd.network.isHeld frontEnd.client = true) {body : Bytes}
    (read : Reader.readValue.run body = .ok (.array values)) (some : values ≠ []) :
    ∃ submissions steps network, Underway respond frontEnd values submissions steps network ∧
      (∀ id ∈ calls submissions, (network.outcome? id).isSome = true) ∧
      (frontEnd.answerBody respond body).1 = .batch (gather network values submissions) := by
  obtain ⟨submissions, steps, underway, past, responses⟩ := underway_answerBatch reached held values
  refine ⟨_, _, _, underway, past, ?_⟩
  unfold answerBody
  rw [read]
  cases values with
  | nil => exact absurd rfl some
  | cons value rest => exact congrArg RpcReply.batch responses

end Batches

end FrontEnd

end LedgerNode.Rpc
