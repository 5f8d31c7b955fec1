import LedgerNode.Proofs.Rpc.Texts
import LedgerNode.Proofs.Rpc.Underway

set_option autoImplicit false

namespace LedgerNode.Rpc

open Json Bus

inductive OwnId : Value → Value → Prop where
  | given {members : List (String × Value)} {id : Value} (found : members.lookup "id" = some id)
      (scalar : (∃ text, id = .string text) ∨ ∃ numeral, id = .number numeral) :
      OwnId (.object members) id
  | absent {item : Value}
      (unfit : ∀ members id, item = .object members → members.lookup "id" = some id →
        (∀ text, id ≠ .string text) ∧ ∀ numeral, id ≠ .number numeral) : OwnId item .null

structure Answers (item : Value) (response : Response) (seen : Value) : Prop where
  own : OwnId item response.id
  shows : Shows response.id response.outcome seen

inductive WellFormed : Except Fault Value → RpcReply → Value → Prop where
  | malformed {fault : Fault} {error : RpcError} {seen : Value} (code : error.code = -32700)
      (shows : Shows .null (.error error) seen) :
      WellFormed (.error fault) (.single (.failure .null error)) seen
  | empty {error : RpcError} {seen : Value} (code : error.code = -32600)
      (shows : Shows .null (.error error) seen) :
      WellFormed (.ok (.array [])) (.single (.failure .null error)) seen
  | batch {items seen : List Value} {responses : List Response} (more : items ≠ [])
      (counted : responses.length = items.length) (read : seen.length = items.length)
      (each : ∀ (place : Nat) (item : Value), items[place]? = some item →
        ∃ response tree, responses[place]? = some response ∧ seen[place]? = some tree ∧
          Answers item response tree) :
      WellFormed (.ok (.array items)) (.batch responses) (.array seen)
  | single {value seen : Value} {response : Response} (plain : ∀ items, value ≠ .array items)
      (answers : Answers value response seen) : WellFormed (.ok value) (.single response) seen

namespace FrontEnd

inductive Handled (respond : Responder) (frontEnd : FrontEnd) (body : Bytes) :
    List Network.Step → Network → RpcReply → Prop where
  | malformed {fault : Fault} (unread : Reader.readValue.run body = .error fault) :
      Handled respond frontEnd body [] frontEnd.network
        (.single (.failure .null (.parse fault.message)))
  | empty (read : Reader.readValue.run body = .ok (.array [])) :
      Handled respond frontEnd body [] frontEnd.network
        (.single (.failure .null (.invalidRequest "empty batch")))
  | batch {items : List Value} {submissions : List Submission} {steps : List Network.Step}
      {network : Network} (read : Reader.readValue.run body = .ok (.array items)) (more : items ≠ [])
      (underway : Underway respond frontEnd items submissions steps network)
      (past : ∀ id ∈ calls submissions, (network.outcome? id).isSome = true) :
      Handled respond frontEnd body steps network (.batch (gather network items submissions))
  | single {value : Value} {submission : Submission} {steps : List Network.Step} {network : Network}
      (read : Reader.readValue.run body = .ok value) (plain : ∀ items, value ≠ .array items)
      (underway : Underway respond frontEnd [value] [submission] steps network)
      (past : ∀ id ∈ calls [submission], (network.outcome? id).isSome = true) :
      Handled respond frontEnd body steps network
        (.single { id := responseId value, outcome := collect network submission })

section Replies

variable {respond : Responder} {frontEnd : FrontEnd} {body : Bytes} {steps : List Network.Step}
  {network : Network} {reply : RpcReply}

theorem ownId_responseId (value : Value) : OwnId value (responseId value) := by
  unfold responseId
  split
  next members =>
    split
    next text found => exact .given found (.inl ⟨text, rfl⟩)
    next numeral found => exact .given found (.inr ⟨numeral, rfl⟩)
    next other text number =>
      refine .absent (fun members id same found => ?_)
      cases same
      exact ⟨fun string same => text string (found.trans (congrArg some same)),
        fun numeral same => number numeral (found.trans (congrArg some same))⟩
  next other => exact .absent (fun members _ same => absurd same (other members))

theorem identifies_of_ownId {value id : Value} (own : OwnId value id) (sound : value.Sound) :
    Identifies id := by
  cases own with
  | given found scalar =>
    have sound := sound.member found
    rcases scalar with ⟨text, rfl⟩ | ⟨numeral, rfl⟩
    · exact .string text
    · cases sound with
      | number sound => exact .number sound
  | absent => exact .null

theorem answer_of_collect {submission : Submission} {result : Value}
    (collected : collect network submission = .ok result) : ∃ answer, result = resultValue answer := by
  unfold collect at collected
  split at collected
  next => cases collected
  next =>
    split at collected
    next => exact answer_of_replyResult collected
    next => cases collected
    next => cases collected

theorem answers_collect {value : Value} (sound : value.Sound) (network : Network)
    (submission : Submission) :
    let response : Response := { id := responseId value, outcome := collect network submission }
    Proper response ∧ Answers value response response.tree.reread.normal := by
  intro response
  have own := ownId_responseId value
  have proper : Proper response :=
    ⟨identifies_of_ownId own sound, fun _ collected => answer_of_collect collected⟩
  exact ⟨proper, own, proper.shows⟩

theorem handled_answerBody (reached : Network.Reachable respond frontEnd.network)
    (held : frontEnd.network.isHeld frontEnd.client = true) (body : Bytes) :
    ∃ steps, Handled respond frontEnd body steps (frontEnd.answerBody respond body).2.network
      (frontEnd.answerBody respond body).1 := by
  have alone (value : Value) (read : Reader.readValue.run body = .ok value)
      (plain : ∀ items, value ≠ .array items) : ∃ steps, Handled respond frontEnd body steps
        (frontEnd.answerSingle respond value).2.network
        (.single (frontEnd.answerSingle respond value).1) := by
    -- One item is under way as a batch of one is.
    obtain ⟨submissions, steps, underway, past, responses⟩ := underway_answerBatch reached held [value]
    rw [answerBatch_singleton] at underway past responses
    obtain ⟨submission, rfl⟩ := List.length_eq_one_iff.mp underway.stands.length_eq.symm
    have response := List.head_eq_of_cons_eq responses
    rw [response]
    exact ⟨steps, .single read plain underway past⟩
  unfold answerBody
  cases read : Reader.readValue.run body with
  | error fault => exact ⟨[], .malformed read⟩
  | ok value =>
    cases value with
    | array items =>
      cases items with
      | nil => exact ⟨[], .empty read⟩
      | cons item rest =>
        obtain ⟨submissions, steps, underway, past, responses⟩ :=
          underway_answerBatch reached held (item :: rest)
        refine ⟨steps, ?_⟩
        simp only [responses]
        exact .batch read (List.cons_ne_nil _ _) underway past
    | null | boolean | number | string | object => exact alone _ read nofun

theorem wellFormed_gather {items : List Value} {submissions : List Submission} (more : items ≠ [])
    (sound : ∀ item ∈ items, item.Sound) (counted : submissions.length = items.length) :
    ∃ seen, Reader.readValue.run (RpcReply.batch (gather network items submissions)).write = .ok seen ∧
      WellFormed (.ok (.array items)) (.batch (gather network items submissions)) seen := by
  have proper : ∀ response ∈ gather network items submissions, Proper response := by
    intro response member
    obtain ⟨⟨value, submission⟩, paired, rfl⟩ := List.mem_map.mp member
    exact (answers_collect (sound value (List.of_mem_zip paired).1) network submission).1
  have length : (gather network items submissions).length = items.length := by
    rw [gather, List.length_map, List.length_zip, counted, Nat.min_self]
  refine ⟨_, run_batch proper, .batch more length (by rw [List.length_map, length]) ?_⟩
  intro place item found
  have within := (List.getElem?_eq_some_iff.mp found).1
  have sent : submissions[place]? = some submissions[place] := List.getElem?_eq_getElem (by omega)
  have there : (gather network items submissions)[place]? =
      some { id := responseId item, outcome := collect network submissions[place] } := by
    have paired : (items.zip submissions)[place]? = some (item, submissions[place]) :=
      List.getElem?_zip_eq_some.mpr ⟨found, sent⟩
    rw [gather, List.getElem?_map, paired]
    rfl
  have answers := (answers_collect (sound item (List.mem_of_getElem? found)) network
    submissions[place]).2
  exact ⟨_, _, there, by rw [List.getElem?_map, there, Option.map_some], answers⟩

theorem shows_failure {error : RpcError} :
    ∃ seen, Reader.readValue.run (RpcReply.single (.failure .null error)).write = .ok seen ∧
      Shows .null (.error error) seen := by
  have proper : Proper (.failure .null error) := ⟨.null, nofun⟩
  exact ⟨_, proper.run_single, proper.shows⟩

theorem Handled.wellFormed (handled : Handled respond frontEnd body steps network reply) :
    ∃ seen, Reader.readValue.run reply.write = .ok seen ∧
      WellFormed (Reader.readValue.run body) reply seen := by
  cases handled with
  | malformed unread =>
    obtain ⟨seen, read, shows⟩ := shows_failure
    exact ⟨seen, read, unread ▸ .malformed rfl shows⟩
  | empty whole =>
    obtain ⟨seen, read, shows⟩ := shows_failure
    exact ⟨seen, read, whole ▸ .empty rfl shows⟩
  | batch whole more underway =>
    have sound := (sound_of_readValue whole).item
    rw [whole]
    exact wellFormed_gather more sound underway.stands.length_eq.symm
  | single whole plain =>
    obtain ⟨proper, answers⟩ := answers_collect (sound_of_readValue whole) network _
    rw [whole]
    exact ⟨_, proper.run_single, .single plain answers⟩

/--
Whatever happens on the bus, the reply to any body is of the shape that the body asks for, and its text is
read as that reply. As long as nobody aborts its calls, the waiting for them ends.
-/
theorem every_body_gets_wellFormed_reply (reached : Network.Reachable respond frontEnd.network)
    (held : frontEnd.network.isHeld frontEnd.client = true) (body : Bytes) :
    (∃ steps, Handled respond frontEnd body steps (frontEnd.answerBody respond body).2.network
      (frontEnd.answerBody respond body).1) ∧
    (∀ values submissions steps network, Underway respond frontEnd values submissions steps network →
      (∀ step ∈ steps, ∀ id ∈ calls submissions, step.action ≠ .abort id) →
        ∃ more later, Underway respond frontEnd values submissions (steps ++ more) later ∧
          (∀ step ∈ more, step.action.isScheduled = true) ∧
          ∀ id ∈ calls submissions, (later.outcome? id).isSome = true) ∧
    ∀ steps network reply, Handled respond frontEnd body steps network reply →
      ∃ seen, Reader.readValue.run reply.write = .ok seen ∧
        WellFormed (Reader.readValue.run body) reply seen := by
  refine ⟨handled_answerBody reached held body, ?_, fun _ _ _ handled => handled.wellFormed⟩
  intro values submissions steps network underway kept
  obtain ⟨more, later, scheduled, past⟩ := underway.awaited reached kept
  exact ⟨more, _, later, scheduled, past⟩

/-- A request under a negative id for a method whose name has to be escaped, and a list in a batch. -/
def oddBatch : Bytes :=
  Bytes.ofString
    "[\x7b\"jsonrpc\":\"2.0\",\"id\":-5,\"method\":\"\\u0000\\\"\"\x7d,[]]"

def oddItems : List Value := [
  .object [
    ("id", .number (.integer (-5))),
    ("jsonrpc", .string "2.0"),
    ("method", .string "\x00\"")],
  .array []]

theorem oddBatch_wellFormed :
    ∃ frontEnd responses seen later, connect .empty "icon_dex" 0 { nanoseconds := 5 } = .ok frontEnd ∧
      (frontEnd.answerBody (fun _ _ _ => none) oddBatch).1 = .batch responses ∧
      Reader.readValue.run (RpcReply.batch responses).write = .ok seen ∧
      WellFormed (.ok (.array oddItems)) (.batch responses) seen ∧
      ∀ id ∈ calls (frontEnd.submitAll oddItems).1, (Network.outcome? later id).isSome = true := by
  obtain ⟨frontEnd, connected⟩ : ∃ frontEnd,
      connect .empty "icon_dex" 0 { nanoseconds := 5 } = .ok frontEnd := ⟨_, rfl⟩
  have reached : Network.Reachable (fun _ _ _ => none) frontEnd.network := by
    cases connected
    exact .next (.connect "icon_score.icon_dex.reply" 0) .empty rfl
  have held : frontEnd.network.isHeld frontEnd.client = true := by
    cases connected
    rfl
  have read : Reader.readValue.run oddBatch = .ok (.array oddItems) := by
    rfl
  obtain ⟨⟨steps, handled⟩, waits, shaped⟩ := every_body_gets_wellFormed_reply reached held oddBatch
  obtain ⟨seen, same, wellFormed⟩ := shaped _ _ _ handled
  have underway := (Underway.start : Underway (fun _ _ _ => none) frontEnd [] [] [] _).submitAll oddItems held
  obtain ⟨_, later, -, -, past⟩ := waits _ _ _ _ underway (fun step member id _ =>
    sendings_kept oddItems frontEnd member id)
  rw [read] at wellFormed
  generalize answered : (frontEnd.answerBody (fun _ _ _ => none) oddBatch).1 = reply at same wellFormed
  cases wellFormed with
  | batch more counted length each =>
    exact ⟨frontEnd, _, _, later, connected, answered, same, .batch more counted length each, past⟩
  | single plain => exact absurd rfl (plain _)

end Replies

end FrontEnd

end LedgerNode.Rpc
