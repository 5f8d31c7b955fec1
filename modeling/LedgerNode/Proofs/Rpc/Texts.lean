import LedgerNode.Proofs.Json.Sound
import LedgerNode.Rpc.FrontEnd

set_option autoImplicit false

namespace LedgerNode.Rpc

open Json

def RpcError.tree (error : RpcError) : Value :=
  .object [("code", .number (.integer error.code)), ("message", .string error.message)]

def Response.outcomeMember (response : Response) : String × Value :=
  match response.outcome with
  | .ok result => ("result", result)
  | .error error => ("error", error.tree)

def Response.tree (response : Response) : Value :=
  .object [("jsonrpc", .string version), ("id", response.id), response.outcomeMember]

def RpcReply.tree : RpcReply → Value
  | .single response => response.tree
  | .batch responses => .array (responses.map Response.tree)

def errorCodes : List Int :=
  [-32700, -32600, -32601, -32602, -32603, -32000, -32006]

def SameId (id seen : Value) : Prop :=
  seen = id ∨ ∃ value other, id = .number (.float value) ∧ seen = .number (.float other)

inductive Shows (id : Value) : Except RpcError Value → Value → Prop where
  | result {result seen : Value} (same : SameId id seen) :
      Shows id (.ok result) (.object [("id", seen), ("jsonrpc", .string "2.0"), ("result", result)])
  | error {error : RpcError} {seen : Value} (same : SameId id seen) (known : error.code ∈ errorCodes) :
      Shows id (.error error) (.object [
        ("error", .object [
          ("code", .number (.integer error.code)),
          ("message", .string error.message)]),
        ("id", seen),
        ("jsonrpc", .string "2.0")])

inductive Identifies : Value → Prop where
  | null : Identifies .null
  | string (text : String) : Identifies (.string text)
  | number {numeral : Number} (sound : numeral.Sound) : Identifies (.number numeral)

structure Proper (response : Response) : Prop where
  id : Identifies response.id
  answered : ∀ result, response.outcome = .ok result → ∃ answer, result = resultValue answer

section Texts

variable {id : Value} {response : Response}

theorem RpcError.code_mem (error : RpcError) : error.code ∈ errorCodes := by
  have all : ∀ code ∈ [parseCode, timeoutCode, QueryError.invalidRequestCode,
      QueryError.methodNotFoundCode, QueryError.invalidParamsCode, QueryError.internalCode,
      QueryError.serverCode], code ∈ errorCodes := by decide
  apply all
  cases error with
  | parse | invalidRequest | invalidParams => simp [code]
  | query error => cases error <;> simp [code, QueryError.code]
  | bus error => cases error <;> simp [code]

theorem Response.write_eq (response : Response) : response.write = response.tree.write := by
  rcases response with ⟨id, _ | _⟩ <;> rfl

theorem RpcReply.write_eq (reply : RpcReply) : reply.write = reply.tree.write := by
  cases reply with
  | single response => exact response.write_eq
  | batch responses =>
    have texts : responses.map Response.write = (responses.map Response.tree).map Value.write := by
      rw [List.map_map]
      exact List.map_congr_left (fun response _ => response.write_eq)
    rw [write, tree, Value.write, writeItems_eq_map, texts]

theorem answer_of_replyResult {reply : Reply} {result : Value} (shown : replyResult reply = .ok result) :
    ∃ answer, result = resultValue answer := by
  cases reply with
  | error => cases shown
  | ok answer =>
    cases shown
    exact ⟨answer, rfl⟩

structure Plain (depth : Depth) (value : Value) : Prop where
  writable : value.Writable depth
  reread : value.reread = value
  normal : value.normal = value

theorem plain_tree (error : RpcError) (depth : Depth) : Plain (depth + 1) error.tree := by
  have range : -2 ^ 63 ≤ error.code ∧ error.code < 2 ^ 64 := by
    have all : ∀ code ∈ errorCodes, -2 ^ 63 ≤ code ∧ code < 2 ^ 64 := by decide
    exact all error.code error.code_mem
  refine ⟨?_, rfl, normal_object ?_ ?_⟩
  · exact List.forall_mem_cons.mpr ⟨Value.writable_number.mpr range,
      List.forall_mem_singleton.mpr (Value.writable_string _)⟩
  · have names : ["code", "message"].Pairwise (· < ·) := by decide
    exact List.pairwise_map.mp names
  · exact List.forall_mem_cons.mpr ⟨rfl, List.forall_mem_singleton.mpr rfl⟩

theorem plain_resultValue (answer : Answer) (depth : Depth) : Plain (depth + 1) (resultValue answer) := by
  cases answer with
  | balance | height => exact ⟨Value.writable_string _, rfl, rfl⟩
  | account summary =>
    refine ⟨?_, rfl, normal_object ?_ ?_⟩
    · simp [resultValue, Value.Writable]
    · have names : ["address", "balance", "isContract"].Pairwise (· < ·) := by decide
      exact List.pairwise_map.mp names
    · simp [Value.normal]

theorem Identifies.writable (identifies : Identifies id) (depth : Depth) : id.Writable depth := by
  cases identifies with
  | null | string => simp
  | number sound => exact Value.writable_number.mpr sound

theorem Identifies.same (identifies : Identifies id) :
    SameId id id.reread ∧ id.reread.normal = id.reread := by
  cases identifies with
  | null | string => exact ⟨.inl rfl, rfl⟩
  | @number numeral _ =>
    cases numeral with
    | integer => exact ⟨.inl rfl, rfl⟩
    | float => exact ⟨.inr ⟨_, _, rfl, rfl⟩, rfl⟩

theorem Proper.plain (proper : Proper response) (depth : Depth) :
    Plain (depth + 1) response.outcomeMember.2 := by
  rcases response with ⟨id, error | result⟩
  · exact plain_tree error depth
  · obtain ⟨answer, rfl⟩ := proper.answered result rfl
    exact plain_resultValue answer depth

theorem Proper.writable (proper : Proper response) (depth : Depth) :
    response.tree.Writable (depth + 2) :=
  List.forall_mem_cons.mpr ⟨Value.writable_string _, List.forall_mem_cons.mpr ⟨proper.id.writable _,
    List.forall_mem_singleton.mpr (proper.plain depth).writable⟩⟩

theorem Proper.shows (proper : Proper response) :
    Shows response.id response.outcome response.tree.reread.normal := by
  obtain ⟨same, normal⟩ := proper.id.same
  have plain := proper.plain 0
  have read : response.tree.reread = .object [("jsonrpc", .string version), ("id", response.id.reread),
      response.outcomeMember] := by
    have kept : (response.outcomeMember.1, response.outcomeMember.2.reread) = response.outcomeMember :=
      Prod.ext rfl plain.reread
    rw [Response.tree, Value.reread, Value.rereadMembers_eq_map]
    simp only [List.map_cons, List.map_nil, kept]
    rfl
  have ordered : response.tree.reread.normal = .object (orderMembers [
      ("jsonrpc", .string version), ("id", response.id.reread), response.outcomeMember]) := by
    have kept : (response.outcomeMember.1, response.outcomeMember.2.normal) = response.outcomeMember :=
      Prod.ext rfl plain.normal
    rw [read, Value.normal, normalMembers_eq_map]
    simp only [List.map_cons, List.map_nil, kept, normal]
    rfl
  have first : "id" < "jsonrpc" ∧ ¬"jsonrpc" < "id" := by decide
  rw [ordered]
  rcases response with ⟨id, error | result⟩
  · have before : "error" < "id" := by decide
    simpa [orderMembers, insertMember, Response.outcomeMember, RpcError.tree, version, first, before]
      using Shows.error same error.code_mem
  · have behind : ¬"result" < "id" ∧ ¬"result" < "jsonrpc" := by decide
    simpa [orderMembers, insertMember, Response.outcomeMember, version, first, behind] using
      Shows.result same

theorem Proper.run_single (proper : Proper response) :
    Reader.readValue.run (RpcReply.single response).write = .ok response.tree.reread.normal := by
  rw [RpcReply.write_eq]
  exact Reader.run_readValue_reread (proper.writable 125)

theorem run_batch {responses : List Response} (proper : ∀ response ∈ responses, Proper response) :
    Reader.readValue.run (RpcReply.batch responses).write =
      .ok (.array (responses.map (fun response => response.tree.reread.normal))) := by
  have writable : (RpcReply.batch responses).tree.Writable fullDepth :=
    List.forall_mem_map.mpr (fun response member => (proper response member).writable 124)
  rw [RpcReply.write_eq, Reader.run_readValue_reread writable, RpcReply.tree, Value.reread, Value.normal,
    Value.rereadItems_eq_map, normalItems_eq_map, List.map_map, List.map_map]
  rfl

end Texts

end LedgerNode.Rpc
