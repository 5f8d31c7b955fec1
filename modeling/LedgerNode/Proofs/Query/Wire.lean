import LedgerNode.Proofs.Json.Shapes
import LedgerNode.Proofs.Query.Spelling
import LedgerNode.Query.Evaluation

set_option autoImplicit false

namespace LedgerNode

open Json Reader

variable {depth : Depth} {rest : Bytes}

theorem Address.reads_shape (address : Address) (rest : Bytes) :
    Reads (Address.shape.ofText depth) (writeString address.text ++ rest) address rest :=
  Shape.reads_refine (Shape.reads_string _ rest) (by rw [read_text]; rfl)

theorem Address.ofTree_read {text : String} {address : Address} (reads : read text = .ok address) :
    shape.ofTree (.string text) = .ok address :=
  Shape.ofTree_refine rfl (by rw [reads]; rfl)

theorem Quantity.ofTree_read {text : String} {value : Balance} (reads : readBalance text = .ok value) :
    balanceShape.ofTree (.string text) = .ok value :=
  Shape.ofTree_refine rfl (by rw [reads]; rfl)

namespace AccountParams

theorem reads_height (height : Option UInt64) (rest : Bytes) :
    Reads (Shape.word.optional.ofText depth)
      ((height.map writeWord).getD (Bytes.ofString "null") ++ 0x7D :: rest) height
      (0x7D :: rest) := by
  cases height with
  | none => exact Shape.reads_optional_null _
  | some height =>
    have read : Reads (Shape.word.ofText depth) _ _ _ := Shape.reads_word height (ends_brace rest)
    obtain ⟨byte, digits, same, digit⟩ := digits_head height.toNat
    have text : Bytes.ofString (Number.integer height.toNat).text = byte :: digits :=
      (text_ofNat height.toNat).trans same
    have token := not_isBlank_of_isDigit digit
    have other : byte ≠ 0x6E := ne_of_isDigit digit (by decide)
    rw [text] at read
    rw [Option.map_some, Option.getD_some, writeWord, text]
    exact Shape.reads_optional_some token other read

theorem reads_shape (params : AccountParams) (rest : Bytes) :
    Reads (shape.ofText (depth + 1)) (params.write ++ rest) params rest := by
  rw [write, writeObject_append, joinWith_cons, List.flatMap_cons, List.flatMap_nil,
    List.append_nil, List.append_assoc, List.cons_append, writeMember_append, writeMember_append]
  refine Reads.map _ (?_ : Reads _ _ (params.address, params.height, ()) _)
  refine .placed ((reads_firstOfValue _ (by decide)).bind ?_)
  refine reads_readContainer rest ?_ (reads_closeObject rest)
  refine Reads.budget (fun steps enough => ?_)
  obtain ⟨steps, rfl⟩ : ∃ more, steps = more + 3 := by
    simp only [List.length_cons, List.length_append] at enough
    exact ⟨steps - 3, by omega⟩
  refine Fields.reads_first (Fields.reads_here rfl (params.address.reads_shape _)) ?_
  refine Fields.reads_later (Fields.reads_there (by decide)
    (Fields.reads_here rfl (reads_height _ rest))) ?_
  exact Fields.reads_end rfl rest

end AccountParams

theorem Query.read_write (query : Query) : Query.read query.write = .ok query := by
  apply run_of_reads
  rw [← List.append_nil query.write]
  cases query with
  | balance params =>
    exact Adjacent.reads_content rfl (by decide) ((params.reads_shape _).map _)
  | account params =>
    exact Adjacent.reads_content rfl (by decide) ((params.reads_shape _).map _)
  | lastHeight => exact Adjacent.reads_bare rfl rfl []

namespace QueryError

theorem reads_form (error : QueryError) (rest : Bytes) :
    Reads (form.read (depth + 1)) (error.write ++ rest) error rest := by
  have different : form.contentName ≠ form.tagName := by decide
  cases error with
  | invalidRequest reason =>
    exact Adjacent.reads_content rfl different ((Shape.reads_string reason _).map _)
  | methodNotFound name =>
    exact Adjacent.reads_content rfl different ((Shape.reads_string name _).map _)
  | invalidParams reason =>
    exact Adjacent.reads_content rfl different ((Shape.reads_string reason _).map _)
  | stateUnavailable height =>
    exact Adjacent.reads_content rfl different ((Shape.reads_word height (ends_brace rest)).map _)
  | storage reason =>
    exact Adjacent.reads_content rfl different ((Shape.reads_string reason _).map _)
  | internal reason =>
    exact Adjacent.reads_content rfl different ((Shape.reads_string reason _).map _)

end QueryError

namespace AccountSummary

def spelledTree (address balance : String) (isContract : Bool) : Value :=
  .object [
    ("address", .string address),
    ("balance", .string balance),
    ("isContract", .boolean isContract)]

theorem ofTree_spelledTree {summary : AccountSummary} {address balance : String}
    (named : Address.read address = .ok summary.address)
    (counted : Quantity.readBalance balance = .ok summary.balance) :
    shape.ofTree (spelledTree address balance summary.isContract) = .ok summary := by
  let members : List (String × Value) := [
    ("address", .string address),
    ("balance", .string balance),
    ("isContract", .boolean summary.isContract)]
  have address : (Field.required "address" Address.shape).Finds members summary.address :=
    Field.finds_of_some rfl (Address.ofTree_read named)
  have balance : (Field.required "balance" Quantity.balanceShape).Finds members summary.balance :=
    Field.finds_of_some rfl (Quantity.ofTree_read counted)
  have contract : (Field.required "isContract" Shape.boolean).Finds members summary.isContract :=
    Field.finds_of_some rfl rfl
  have names : ["address", "balance", "isContract"].Nodup := by decide
  have finds := Fields.finds_cons address (Fields.finds_cons balance
    (Fields.finds_cons contract Fields.finds_nil))
  exact Shape.ofTree_map (Shape.ofTree_record _ finds names names) _

end AccountSummary

namespace Answer

/-- The one field of an answer besides its tag, with its addresses and balances spelled in any way in
which they can be read. -/
inductive Spelled : Answer → String × Value → Prop where
  | balance {value : Balance} {text : String} (counted : Quantity.readBalance text = .ok value) :
      Spelled (.balance value) ("value", .string text)
  | account {summary : AccountSummary} {address balance : String}
      (named : Address.read address = .ok summary.address)
      (counted : Quantity.readBalance balance = .ok summary.balance) :
      Spelled (.account summary)
        ("account", AccountSummary.spelledTree address balance summary.isContract)
  | height (value : UInt64) : Spelled (.height value) ("height", .number (.integer value.toNat))

def writeSpelled (answer : Answer) (field : String × Value) : Bytes :=
  writeObject [writeMember form.tagName (writeString answer.tag), Value.writePair field]

theorem exists_spelled (answer : Answer) :
    ∃ field, Spelled answer field ∧ answer.write = answer.writeSpelled field := by
  cases answer with
  | balance value => exact ⟨_, .balance (Quantity.readBalance_toHex value), rfl⟩
  | account summary =>
    exact ⟨_, .account summary.address.read_text (Quantity.readBalance_toHex summary.balance), rfl⟩
  | height value => exact ⟨_, .height value, rfl⟩

theorem ofTree_singleField {α : Type} {expected name : String} {shape : Shape α} {tree : Value}
    {value : α} (taken : shape.ofTree tree = .ok value) (wrap : α → Answer) :
    ((singleField expected name shape).map wrap).ofTree (.object [(name, tree)]) =
      .ok (wrap value) := by
  have found : (Field.required name shape).Finds [(name, tree)] value := by
    refine Field.finds_of_some ?_ taken
    exact List.lookup_cons_self
  have finds := Fields.finds_cons found Fields.finds_nil
  have distinct : [name].Nodup := List.pairwise_singleton _ _
  exact Shape.ofTree_map (Shape.ofTree_map (Shape.ofTree_record _ finds distinct distinct) _) wrap

variable {answer : Answer} {field : String × Value}

theorem Spelled.take (spelled : Spelled answer field) :
    form.take answer.tag (.object [field]) = .ok answer := by
  cases spelled with
  | balance counted => exact ofTree_singleField (Quantity.ofTree_read counted) _
  | account named counted =>
    exact ofTree_singleField (AccountSummary.ofTree_spelledTree named counted) _
  | height value =>
    have taken : Shape.word.ofTree (.number (.integer value.toNat)) = .ok value :=
      Shape.wordOfNumber_ofNat value
    exact ofTree_singleField taken _

theorem Spelled.fits (spelled : Spelled answer field) : field.2.Fits (depth + 1) := by
  cases spelled with
  | balance => trivial
  | account => simp [AccountSummary.spelledTree, Value.Fits]
  | height value =>
    have small : value.toNat < 2 ^ 64 := value.toNat_lt_size
    have bounds : -2 ^ 63 ≤ (value.toNat : Int) ∧ (value.toNat : Int) < 2 ^ 64 := by omega
    exact bounds

theorem Spelled.reads_form (spelled : Spelled answer field) (rest : Bytes) :
    Reads (form.read (depth + 2)) (answer.writeSpelled field ++ rest) answer rest := by
  refine Internal.reads_field ?_ ?_ spelled.fits spelled.take rest
  · cases answer <;> rfl
  · cases spelled <;> simp [form]

end Answer

theorem Answer.Spelled.read {answer : Answer} {field : String × Value}
    (spelled : Spelled answer field) :
    Reply.read (writeObject [writeMember "Ok" (answer.writeSpelled field)]) = .ok (.ok answer) := by
  apply run_of_reads
  rw [← List.append_nil (writeObject _)]
  have known : ["Ok", "Err"].contains "Ok" = true := by decide
  exact reads_readNamed known ((spelled.reads_form _).bind (.pure _ _))

theorem Reply.read_write (reply : Reply) : Reply.read reply.write = .ok reply := by
  cases reply with
  | ok answer =>
    obtain ⟨field, spelled, written⟩ := answer.exists_spelled
    rw [write, written]
    exact spelled.read
  | error error =>
    apply run_of_reads
    rw [← List.append_nil (Reply.write _)]
    have known : ["Ok", "Err"].contains "Err" = true := by decide
    exact reads_readNamed known ((error.reads_form _).bind (.pure _ _))

end LedgerNode
