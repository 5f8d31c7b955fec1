import LedgerNode.Json.Printer
import LedgerNode.Json.Shape
import LedgerNode.Proofs.Json.Reader

set_option autoImplicit false

namespace LedgerNode.Json.Reader

variable {α β : Type}

def Reads (reader : Reader α) (text : Bytes) (value : α) (rest : Bytes) : Prop :=
  ∀ cursor : Cursor, cursor.rest = text →
    ∃ after, reader cursor = .ok value after ∧ after.rest = rest

def Ends (rest : Bytes) : Prop :=
  ∀ byte ∈ rest.head?, isDigit byte = false ∧ byte ≠ 0x2E ∧ byte ≠ 0x65 ∧ byte ≠ 0x45

theorem tryCatch_of_ok {reader : Reader α} {handler : Fault → Reader α} {cursor after : Cursor}
    {value : α} (read : reader cursor = .ok value after) :
    tryCatch reader handler cursor = .ok value after := by
  change EStateM.tryCatch reader handler cursor = _
  delta EStateM.tryCatch
  simp only [read]

section Rules

variable {reader : Reader α} {further : α → Reader β} {text middle rest : Bytes} {value : α}
  {result : β}

theorem Reads.bind (first : Reads reader text value middle)
    (second : Reads (further value) middle result rest) :
    Reads (reader >>= further) text result rest := by
  intro cursor at_text
  obtain ⟨between, read, at_middle⟩ := first cursor at_text
  obtain ⟨after, read', at_rest⟩ := second between at_middle
  exact ⟨after, bind_eq_ok.mpr ⟨value, between, read, read'⟩, at_rest⟩

theorem Reads.pure (value : α) (text : Bytes) : Reads (pure value) text value text :=
  fun cursor at_text => ⟨cursor, rfl, at_text⟩

theorem Reads.map (change : α → β) (first : Reads reader text value rest) :
    Reads (change <$> reader) text (change value) rest := by
  rw [map_eq_pure_bind]
  exact first.bind (.pure _ _)

theorem Reads.ofResult (value : α) (text : Bytes) : Reads (ofResult (.ok value)) text value text :=
  .pure value text

theorem Reads.placed (first : Reads reader text value rest) :
    Reads reader.placed text value rest := by
  intro cursor at_text
  obtain ⟨after, read, at_rest⟩ := first cursor at_text
  refine ⟨after, ?_, at_rest⟩
  exact tryCatch_of_ok read

theorem Reads.closedBy {close : Reader Unit} (content : Reads reader text value middle)
    (closes : Reads close middle () rest) : Reads (closedBy reader close) text value rest := by
  apply Reads.placed
  refine Reads.bind ?_ (closes.bind (.pure value rest))
  intro cursor at_text
  obtain ⟨after, read, at_middle⟩ := content cursor at_text
  refine ⟨after, ?_, at_middle⟩
  exact tryCatch_of_ok read

theorem Reads.budget {further : Nat → Reader β}
    (enough : ∀ steps, text.length < steps → Reads (further steps) text result rest) :
    Reads (Reader.budget >>= further) text result rest := by
  intro cursor at_text
  obtain ⟨after, read, at_rest⟩ := enough (cursor.rest.length + 1) (by simp [at_text]) cursor at_text
  exact ⟨after, bind_eq_ok.mpr ⟨_, cursor, rfl, read⟩, at_rest⟩

theorem Reads.peek (text : Bytes) : Reads peek text text.head? text := by
  intro cursor at_text
  exact ⟨cursor, by rw [peek_apply, at_text], at_text⟩

theorem Reads.advance (byte : UInt8) (rest : Bytes) : Reads advance (byte :: rest) () rest := by
  intro cursor at_text
  exact ⟨cursor.advance, rfl, by rw [rest_advance, at_text, List.tail_cons]⟩

theorem Reads.next (byte : UInt8) (rest : Bytes) :
    Reads Reader.next (byte :: rest) (some byte) rest :=
  (Reads.peek _).bind ((Reads.advance byte rest).bind (.pure _ _))

theorem Reads.peekToken {byte : UInt8} (token : isBlank byte = false) (rest : Bytes) :
    Reads peekToken (byte :: rest) (some byte) (byte :: rest) := by
  intro cursor at_text
  have stays : (skipBlanksFrom cursor.rest cursor).rest = byte :: rest := by
    rw [rest_skipBlanksFrom cursor.rest cursor rfl, at_text,
      List.dropWhile_cons_of_neg (by simp [token])]
  exact ⟨_, by rw [peekToken_apply, stays, List.head?_cons], stays⟩

theorem run_of_reads (read : Reads reader text value []) :
    reader.run text = .ok value := by
  obtain ⟨after, read, at_end⟩ := read (Cursor.start text) rfl
  have nothing : (skipBlanksFrom after.rest after).rest = [] := by
    rw [rest_skipBlanksFrom after.rest after rfl, at_end, List.dropWhile_nil]
  have ended : (Reader.peekToken after) = .ok none (skipBlanksFrom after.rest after) := by
    rw [peekToken_apply, nothing, List.head?_nil]
  unfold run
  simp only [bind_of_ok read, bind_of_ok ended]
  rfl

end Rules

section Tokens

variable (rest : Bytes)

theorem reads_firstOfValue {byte : UInt8} (token : isBlank byte = false) :
    Reads firstOfValue (byte :: rest) byte (byte :: rest) :=
  (Reads.peekToken token rest).bind (.pure _ _)

theorem reads_takeColon : Reads takeColon (0x3A :: rest) () rest :=
  (Reads.peekToken (by decide) rest).bind (.advance _ _)

theorem reads_closeObject : Reads closeObject (0x7D :: rest) () rest :=
  (Reads.peekToken (by decide) rest).bind (.advance _ _)

theorem reads_nextName_first : Reads (nextName true) (0x22 :: rest) true rest :=
  (Reads.peekToken (by decide) rest).bind ((Reads.advance _ _).bind (.pure _ _))

theorem reads_nextName_later : Reads (nextName false) (0x2C :: 0x22 :: rest) true rest := by
  refine (Reads.peekToken (by decide) _).bind ((Reads.advance _ _).bind ?_)
  exact (Reads.peekToken (by decide) rest).bind ((Reads.advance _ _).bind (.pure _ _))

theorem reads_nextName_end (isFirst : Bool) :
    Reads (nextName isFirst) (0x7D :: rest) false (0x7D :: rest) :=
  (Reads.peekToken (by decide) rest).bind (.pure _ _)

theorem reads_takeWord (word : Bytes) : Reads (takeWord word) (word ++ rest) () rest := by
  induction word with
  | nil => exact .pure _ _
  | cons letter word ih =>
    refine (Reads.next letter (word ++ rest)).bind ?_
    simpa using ih

theorem reads_readContainer {α : Type} {depth : Depth} {content : Depth → Reader α}
    {close : Reader Unit} {opening : UInt8} {text middle : Bytes} {value : α}
    (reads : Reads (content depth) text value middle) (closes : Reads close middle () rest) :
    Reads (readContainer (depth + 1) content close) (opening :: text) value rest :=
  (Reads.advance opening text).bind (reads.closedBy closes)

end Tokens

end LedgerNode.Json.Reader
