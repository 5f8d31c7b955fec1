import LedgerNode.Proofs.Json.Normal
import LedgerNode.Proofs.Json.Shapes
import LedgerNode.Proofs.Query.Spelling
import LedgerNode.Rpc.Request

set_option autoImplicit false

namespace LedgerNode.Rpc

open Json

structure Envelope (members : List (String × Value)) (id : Value) (method : Method) : Prop where
  version : Value.member? "jsonrpc" members = some (.string "2.0")
  identified : Value.member? "id" members = some id
  scalar : (∃ text, id = .string text) ∨ (∃ number, id = .number number) ∨ id = .null
  named : Value.member? "method" members = some (.string method.name)

def NamesHeight (params : List (String × Value)) : Option UInt64 → Prop
  | none => Value.member? "height" params = none ∨ Value.member? "height" params = some .null
  | some height => ∃ text, Value.member? "height" params = some (.string text) ∧
      readHeight text = .ok height

def AsksAccount (method : Method) (value id : Value) (address : Address) (height : Option UInt64) :
    Prop :=
  ∃ (members params : List (String × Value)) (text : String), value = .object members ∧
    Envelope members id method ∧ Value.member? "params" members = some (.object params) ∧
    Value.member? "address" params = some (.string text) ∧ Address.read text = .ok address ∧
    NamesHeight params height

def AsksHeight (value id : Value) : Prop :=
  ∃ members, value = .object members ∧ Envelope members id .lastHeight ∧
    (Value.member? "params" members = none ∨ Value.member? "params" members = some .null ∨
      Value.member? "params" members = some (.object []))

section Params

variable {params : List (String × Value)} {address : String}

theorem readAccountParams_eq (nodup : (params.map Prod.fst).Nodup) {account : Address}
    {asked : Option UInt64} (named : Value.member? "address" params = some (.string address))
    (read : Address.read address = .ok account) (height : NamesHeight params asked) :
    readAccountParams (some params) = .ok { address := account, height := asked } := by
  have found : (Field.required "address" Shape.string).Finds params address :=
    Field.finds_of_some named rfl
  have spelled (text : Option String)
      (heighted : (Field.optional "height" Shape.string).Finds params text) :
      SpelledParams.shape.ofTree (.object params) = .ok { address, height := text } :=
    Shape.ofTree_map (Shape.ofTree_record _
      (Fields.finds_cons found (Fields.finds_cons heighted Fields.finds_nil)) (by decide) nodup) _
  have address : readAddress address = .ok account := by
    rw [readAddress, read]
    rfl
  unfold readAccountParams
  cases asked with
  | none =>
    have heighted : (Field.optional "height" Shape.string).Finds params none := by
      rcases height with absent | null
      · exact Field.finds_of_none absent rfl
      · exact Field.finds_of_some null rfl
    simp only [spelled none heighted]
    change (readAddress _ >>= _) = _
    rw [address]
    rfl
  | some asked =>
    obtain ⟨text, there, reads⟩ := height
    simp only [spelled (some text) (Field.finds_of_some there rfl)]
    change (readAddress _ >>= _) = _
    rw [address]
    change (readHeight text >>= _) = _
    rw [reads]
    rfl

end Params

section Requests

variable {value id : Value} {members : List (String × Value)} {method : Method}

theorem Envelope.responseId (envelope : Envelope members id method) :
    responseId (.object members) = id := by
  rcases envelope.scalar with ⟨text, rfl⟩ | ⟨number, rfl⟩ | rfl <;>
    simp [Rpc.responseId, envelope.identified]

theorem Envelope.readRequest (envelope : Envelope members id method)
    {params : Option (List (String × Value))} (read : readParams members = .ok params) :
    readRequest (.object members) = readQuery method params := by
  have checkedVersion : checkVersion members = .ok () := by
    simp [checkVersion, envelope.version, Value.asString?, Rpc.version]
  have checkedId : checkId members = .ok () := by
    rcases envelope.scalar with ⟨text, rfl⟩ | ⟨number, rfl⟩ | rfl <;>
      simp [checkId, envelope.identified]
  have readsMethod : readMethod members = .ok method := by
    simp [readMethod, envelope.named, Value.asString?, Method.ofName?_name]
  unfold Rpc.readRequest
  simp only [checkedVersion, checkedId, readsMethod, read]
  rfl

theorem AsksAccount.readRequest {written : Value} {address : Address} {height : Option UInt64}
    (asks : AsksAccount method value id address height) (normal : written.normal = value) :
    Rpc.responseId value = id ∧ ∃ params, Rpc.readRequest value = readQuery method (some params) ∧
      readAccountParams (some params) = .ok { address, height } := by
  obtain ⟨members, params, text, rfl, envelope, found, named, read, asked⟩ := asks
  -- Parameters with a name twice would be refused, but what was read is in normal form.
  obtain ⟨inner, same⟩ := normal_of_member? normal found
  have nodup := names_nodup same.symm
  have reads : readParams members = .ok (some params) := by simp [readParams, found]
  exact ⟨envelope.responseId, params, envelope.readRequest reads,
    readAccountParams_eq nodup named read asked⟩

theorem AsksHeight.readRequest (asks : AsksHeight value id) :
    Rpc.responseId value = id ∧ Rpc.readRequest value = .ok .lastHeight := by
  obtain ⟨members, rfl, envelope, params⟩ := asks
  refine ⟨envelope.responseId, ?_⟩
  rcases params with absent | null | empty
  · have reads : readParams members = .ok none := by simp [readParams, absent]
    rw [envelope.readRequest reads]
    rfl
  · have reads : readParams members = .ok none := by simp [readParams, null]
    rw [envelope.readRequest reads]
    rfl
  · have reads : readParams members = .ok (some []) := by simp [readParams, empty]
    rw [envelope.readRequest reads]
    rfl

end Requests

section Refusals

def validationCodes : List Int :=
  [QueryError.invalidRequestCode, QueryError.methodNotFoundCode, QueryError.invalidParamsCode]

def Validates {α : Type} (result : Except RpcError α) : Prop :=
  ∀ error, result = .error error → error.code ∈ validationCodes

theorem Validates.ok {α : Type} (value : α) : Validates (.ok value) :=
  nofun

theorem Validates.bind {α β : Type} {first : Except RpcError α} {next : α → Except RpcError β}
    (here : Validates first) (there : ∀ value, Validates (next value)) :
    Validates (first >>= next) := by
  cases first with
  | error error => exact fun other same => here other (by cases same; rfl)
  | ok value => exact there value

theorem Validates.mapError {ε α : Type} (result : Except ε α) {wrap : ε → RpcError}
    (codes : ∀ fault, (wrap fault).code ∈ validationCodes) : Validates (result.mapError wrap) := by
  cases result with
  | ok value => exact nofun
  | error fault =>
    intro error same
    cases same
    exact codes fault

theorem validates_throw {α : Type} {error : RpcError} (code : error.code ∈ validationCodes) :
    Validates (.error error : Except RpcError α) := by
  intro other same
  cases same
  exact code

theorem validates_readAccountParams (params : Option (List (String × Value))) :
    Validates (readAccountParams params) := by
  have faulty (text : String) : (RpcError.invalidParams text).code ∈ validationCodes := by
    simp [validationCodes, RpcError.code]
  unfold readAccountParams
  split
  next => exact validates_throw (faulty _)
  next members =>
    refine .bind (.mapError _ fun _ => faulty _) fun spelled => ?_
    refine .bind (.mapError _ fun _ => faulty _) fun address => ?_
    split
    next => exact .ok _
    next text =>
      refine .bind ?_ fun height => .ok _
      unfold readHeight
      split
      next => exact .mapError _ fun _ => faulty _
      next => exact validates_throw (faulty _)

theorem validates_readRequest (value : Value) : Validates (readRequest value) := by
  have refused (text : String) : (RpcError.invalidRequest text).code ∈ validationCodes := by
    simp [validationCodes, RpcError.code]
  unfold readRequest
  split
  next members =>
    refine .bind ?_ fun _ => .bind ?_ fun _ => .bind ?_ fun method => .bind ?_ fun params => ?_
    · unfold checkVersion
      split
      next => exact .ok _
      next => exact validates_throw (refused _)
    · unfold checkId
      split <;> first | exact .ok _ | exact validates_throw (refused _)
    · unfold readMethod
      split
      next => exact validates_throw (refused _)
      next name _ =>
        split
        next => exact .ok _
        next =>
          have code : (RpcError.query (.methodNotFound name)).code ∈ validationCodes := by
            simp [validationCodes, RpcError.code, QueryError.code]
          exact validates_throw code
    · unfold readParams
      split <;> first | exact .ok _ | exact validates_throw (refused _)
    · unfold readQuery
      split
      next => exact .bind (validates_readAccountParams params) fun _ => .ok _
      next => exact .bind (validates_readAccountParams params) fun _ => .ok _
      next =>
        split
        next => exact .ok _
        next =>
          have code (text : String) : (RpcError.invalidParams text).code ∈ validationCodes := by
            simp [validationCodes, RpcError.code]
          exact validates_throw (code _)
  next => exact validates_throw (refused _)

end Refusals

section Spelling

def accountParams (address : Address) (height : Option UInt64) : Value :=
  .object (("address", .string address.text) ::
    (height.map (fun height => ("height", Value.string (Quantity.toHex height.toNat)))).toList)

def accountRequest (method : Method) (id : Value) (address : Address) (height : Option UInt64) :
    Value :=
  .object [("id", id), ("jsonrpc", .string version), ("method", .string method.name),
    ("params", accountParams address height)]

variable (method : Method) {id : Value}

omit method in
theorem readHeight_toHex (height : UInt64) :
    readHeight (Quantity.toHex height.toNat) = .ok height := by
  rw [readHeight, Quantity.stripHexMark_toHex, Quantity.readWord_toHex]
  rfl

theorem asksAccount_accountRequest (address : Address) (height : Option UInt64)
    (scalar : (∃ text, id = .string text) ∨ (∃ number, id = .number number) ∨ id = .null) :
    AsksAccount method (accountRequest method id address height) id address height := by
  refine ⟨_, _, address.text, rfl, ⟨?_, ?_, scalar, ?_⟩, rfl, rfl, address.read_text, ?_⟩
  · rfl
  · rfl
  · rfl
  · cases height with
    | none => exact .inl rfl
    | some height => exact ⟨Quantity.toHex height.toNat, rfl, readHeight_toHex height⟩

theorem normal_accountRequest (same : id.normal = id) (address : Address) (height : Option UInt64) :
    (accountRequest method id address height).normal = accountRequest method id address height := by
  have params : (accountParams address height).normal = accountParams address height := by
    apply normal_object
    · cases height with
      | none => exact List.pairwise_singleton _ _
      | some height =>
        have names : ["address", "height"].Pairwise (· < ·) := by decide
        exact List.pairwise_map.mp names
    · cases height <;> simp [Value.normal]
  apply normal_object
  · have names : ["id", "jsonrpc", "method", "params"].Pairwise (· < ·) := by decide
    exact List.pairwise_map.mp names
  · simp [Value.normal, same, params]

theorem readValue_accountRequest (address : Address) (height : Option UInt64)
    (fits : id.Fits 0) :
    Reader.readValue.run (accountRequest method id address height).write =
      .ok (accountRequest method id address height) := by
  have whole : (accountRequest method id address height).Fits fullDepth := by
    intro member there
    simp only [List.mem_cons, List.not_mem_nil, or_false] at there
    rcases there with rfl | rfl | rfl | rfl
    · exact (fits.scalar _).1
    · trivial
    · trivial
    · intro member there
      cases height with
      | none =>
        obtain rfl := List.mem_singleton.mp there
        trivial
      | some height =>
        simp only [Option.map_some, Option.toList_some, List.mem_cons, List.not_mem_nil, or_false]
          at there
        obtain rfl | rfl := there <;> trivial
  rw [Reader.run_readValue_write whole, normal_accountRequest method (fits.scalar 0).2]

end Spelling

end LedgerNode.Rpc
