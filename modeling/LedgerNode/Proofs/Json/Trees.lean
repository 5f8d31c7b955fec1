import LedgerNode.Proofs.Json.Floats
import LedgerNode.Proofs.Json.Strings
import Mathlib.Algebra.Group.Int.Defs

set_option autoImplicit false

namespace LedgerNode.Json

def Value.Fits : Depth → Value → Prop
  | depth + 1, .object members => ∀ member ∈ members, Fits depth member.2
  | _, .null | _, .boolean _ | _, .string _ => True
  | _, .number (.integer value) => -2 ^ 63 ≤ value ∧ value < 2 ^ 64
  | _, _ => False

def Number.Sound : Number → Prop
  | .integer value => -2 ^ 63 ≤ value ∧ value < 2 ^ 64
  | .float value => value.Finite

def Value.Writable : Depth → Value → Prop
  | depth + 1, .array items => ∀ item ∈ items, Writable depth item
  | depth + 1, .object members => ∀ member ∈ members, Writable depth member.2
  | _, .null | _, .boolean _ | _, .string _ => True
  | _, .number numeral => numeral.Sound
  | _, _ => False

section Scalars

variable {depth : Depth}

@[simp]
theorem Value.writable_null : Value.null.Writable depth := by
  cases depth <;> trivial

@[simp]
theorem Value.writable_boolean (value : Bool) : (Value.boolean value).Writable depth := by
  cases depth <;> trivial

@[simp]
theorem Value.writable_string (text : String) : (Value.string text).Writable depth := by
  cases depth <;> trivial

@[simp]
theorem Value.writable_number {numeral : Number} :
    (Value.number numeral).Writable depth ↔ numeral.Sound := by
  cases depth <;> exact Iff.rfl

end Scalars

def rereadFloat (value : Binary64) : Binary64 :=
  match (Reader.readNumber value.negative).run ((Reader.unsignedCharacters value).map asciiByte) with
  | .ok (.float seen) => seen
  | _ => value

namespace Value

mutual

def reread : Value → Value
  | .number (.float value) => .number (.float (rereadFloat value))
  | .array items => .array (rereadItems items)
  | .object members => .object (rereadMembers members)
  | value => value

def rereadItems : List Value → List Value
  | [] => []
  | item :: rest => item.reread :: rereadItems rest

def rereadMembers : List (String × Value) → List (String × Value)
  | [] => []
  | member :: rest => rereadMember member :: rereadMembers rest

def rereadMember : String × Value → String × Value
  | (name, value) => (name, value.reread)

end

theorem rereadItems_eq_map (items : List Value) : rereadItems items = items.map reread := by
  induction items with
  | nil => rfl
  | cons item rest ih => rw [rereadItems, ih, List.map_cons]

theorem rereadMembers_eq_map (members : List (String × Value)) :
    rereadMembers members = members.map (fun member => (member.1, member.2.reread)) := by
  induction members with
  | nil => rfl
  | cons member rest ih =>
    obtain ⟨name, value⟩ := member
    rw [rereadMembers, rereadMember, ih, List.map_cons]

end Value

theorem Value.Fits.scalar {value : Value} (fits : value.Fits 0) (depth : Depth) :
    value.Fits depth ∧ value.normal = value := by
  cases value with
  | null | boolean | string => cases depth <;> exact ⟨trivial, rfl⟩
  | number number =>
    cases number with
    | integer => cases depth <;> exact ⟨fits, rfl⟩
    | float => exact fits.elim
  | array | object => exact fits.elim

theorem joinWith_cons (separator : UInt8) (first : Bytes) (rest : List Bytes) :
    joinWith separator (first :: rest) = first ++ rest.flatMap (fun part => separator :: part) := by
  unfold joinWith
  induction rest generalizing first with
  | nil => simp
  | cons second rest ih =>
    have later := ih second
    rw [List.intersperse_cons_cons, List.flatten_cons, List.flatten_cons, later,
      List.flatMap_cons, List.singleton_append, List.cons_append]

theorem writeItems_eq_map (items : List Value) : Value.writeItems items = items.map Value.write := by
  induction items with
  | nil => rfl
  | cons item rest ih => rw [Value.writeItems, ih, List.map_cons]

theorem writeMembers_eq_map (members : List (String × Value)) :
    Value.writeMembers members = members.map (fun member => writeMember member.1 member.2.write) := by
  induction members with
  | nil => rfl
  | cons member rest ih =>
    obtain ⟨name, value⟩ := member
    rw [Value.writeMembers, Value.writePair, ih, List.map_cons]

theorem Value.Fits.writable {depth : Depth} {value : Value} (fits : value.Fits depth) :
    value.Writable depth ∧ value.reread = value := by
  induction depth generalizing value with
  | zero =>
    cases value with
    | null | boolean | string => exact ⟨trivial, rfl⟩
    | number number =>
      cases number with
      | integer => exact ⟨fits, rfl⟩
      | float => exact fits.elim
    | array | object => exact fits.elim
  | succ depth ih =>
    cases value with
    | null | boolean | string => exact ⟨trivial, rfl⟩
    | number number =>
      cases number with
      | integer => exact ⟨fits, rfl⟩
      | float => exact fits.elim
    | array => exact fits.elim
    | object members =>
      have fits : ∀ member ∈ members, member.2.Fits depth := fits
      refine ⟨fun member there => (ih (fits member there)).1, ?_⟩
      rw [reread, rereadMembers_eq_map, List.map_congr_left (g := id), List.map_id]
      intro member there
      rw [(ih (fits member there)).2]
      rfl

namespace Reader

theorem ends_cons {byte : UInt8} (rest : Bytes)
    (other : isDigit byte = false ∧ byte ≠ 0x2E ∧ byte ≠ 0x65 ∧ byte ≠ 0x45) :
    Ends (byte :: rest) := by
  intro found same
  obtain rfl := Option.some.inj same
  exact other

theorem ascii_toDigits (value : Nat) :
    ∀ character ∈ Nat.toDigits 10 value, character.toNat < 128 := by
  intro character member
  have digit := Nat.isDigit_of_mem_toDigits (by decide) (by decide) member
  have ⟨_, high⟩ := toNat_of_isDigit digit
  omega

theorem text_ofNat (value : Nat) :
    Bytes.ofString (Number.integer value).text = (Nat.toDigits 10 value).map asciiByte :=
  Bytes.ofString_ofList (ascii_toDigits value)

theorem text_negSucc (value : Nat) :
    Bytes.ofString (Number.integer (.negSucc value)).text =
      0x2D :: (Nat.toDigits 10 (value + 1)).map asciiByte := by
  refine Bytes.ofString_ofList ?_
  intro character member
  rcases List.mem_cons.mp member with rfl | there
  · decide
  · exact ascii_toDigits (value + 1) character there

theorem ne_of_isDigit {byte other : UInt8} (digit : isDigit byte = true)
    (letter : isDigit other = false) : byte ≠ other := by
  rintro rfl
  rw [digit] at letter
  cases letter

theorem not_isBlank_of_isDigit {byte : UInt8} (digit : isDigit byte = true) :
    isBlank byte = false := by
  have space : byte ≠ 0x20 := ne_of_isDigit digit (by decide)
  have tab : byte ≠ 0x09 := ne_of_isDigit digit (by decide)
  have line : byte ≠ 0x0A := ne_of_isDigit digit (by decide)
  have feed : byte ≠ 0x0D := ne_of_isDigit digit (by decide)
  simp [isBlank, space, tab, line, feed]

theorem digits_head (value : Nat) :
    ∃ byte rest, (Nat.toDigits 10 value).map asciiByte = byte :: rest ∧ isDigit byte = true := by
  cases same : Nat.toDigits 10 value with
  | nil => exact absurd same Nat.toDigits_ne_nil
  | cons first rest =>
    have member : first ∈ Nat.toDigits 10 value := by
      rw [same]
      exact List.mem_cons_self
    have digit := Nat.isDigit_of_mem_toDigits (by decide) (by decide) member
    exact ⟨asciiByte first, rest.map asciiByte, rfl, (isDigit_asciiByte digit).1⟩

section Values

variable {depth : Depth} {text rest : Bytes} {value : Value}

theorem reads_readTree_scalar {first : UInt8} (token : isBlank first = false)
    (list : first ≠ 0x5B) (object : first ≠ 0x7B)
    (reads : Reads (readScalar first) (first :: text) value rest) :
    Reads (readTree depth) (first :: text) value rest := by
  cases depth with
  | zero =>
    rw [readTree]
    refine (Reads.peekToken token text).bind ?_
    simpa using reads
  | succ depth =>
    rw [readTree_succ]
    refine (Reads.peekToken token text).bind ?_
    simpa [list, object] using reads

theorem reads_readTree_string (text : String) (rest : Bytes) :
    Reads (readTree depth) (writeString text ++ rest) (.string text) rest := by
  have quoted : writeString text ++ rest =
      0x22 :: ((Bytes.ofString text).flatMap escapeByte ++ 0x22 :: rest) := by
    simp [writeString]
  rw [quoted]
  apply reads_readTree_scalar (by decide) (by decide) (by decide)
  exact (Reads.advance _ _).bind ((reads_readText text rest).bind (.pure _ _))

theorem reads_readScalar_digit {first : UInt8} {number : Number} (digit : isDigit first = true)
    (reads : Reads (readNumber false) (first :: text) number rest) :
    Reads (readScalar first) (first :: text) (.number number) rest := by
  have n : first ≠ 0x6E := ne_of_isDigit digit (by decide)
  have t : first ≠ 0x74 := ne_of_isDigit digit (by decide)
  have f : first ≠ 0x66 := ne_of_isDigit digit (by decide)
  have quote : first ≠ 0x22 := ne_of_isDigit digit (by decide)
  have minus : first ≠ 0x2D := ne_of_isDigit digit (by decide)
  unfold readScalar
  simp only [digit, if_true]
  exact reads.bind (.pure _ _)

theorem reads_readTree_integer {number : Int} (fits : -2 ^ 63 ≤ number ∧ number < 2 ^ 64)
    (ends : Ends rest) :
    Reads (readTree depth) (Bytes.ofString (Number.integer number).text ++ rest)
      (.number (.integer number)) rest := by
  cases number with
  | ofNat number =>
    have small : number < UInt64.size := Int.ofNat_lt.mp fits.2
    have read := reads_readNumber false small ends
    obtain ⟨byte, digits, same, digit⟩ := digits_head number
    have text : Bytes.ofString (Number.integer (.ofNat number)).text = byte :: digits :=
      (text_ofNat number).trans same
    rw [same] at read
    rw [text]
    exact reads_readTree_scalar (not_isBlank_of_isDigit digit) (ne_of_isDigit digit (by decide))
      (ne_of_isDigit digit (by decide)) (reads_readScalar_digit digit read)
  | negSucc number =>
    have least : number + 1 ≤ signedLimit := by
      have bound : -2 ^ 63 ≤ Int.negSucc number := fits.1
      rw [signedLimit]
      omega
    have small : number + 1 < UInt64.size := by
      rw [signedLimit] at least
      rw [UInt64.size]
      omega
    have value : integerNumber true (number + 1) = .integer (.negSucc number) := by
      have kept : ¬signedLimit < number + 1 := Nat.not_lt.mpr least
      simp [integerNumber, kept, Int.negSucc_eq]
    have read := reads_readNumber true small ends
    rw [value] at read
    rw [text_negSucc]
    refine reads_readTree_scalar (by decide) (by decide) (by decide) ?_
    exact (Reads.advance _ _).bind (read.bind (.pure _ _))

theorem reads_readTree_null (rest : Bytes) :
    Reads (readTree depth) (Bytes.ofString "null" ++ rest) .null rest := by
  have word : Bytes.ofString "null" ++ rest = 0x6E :: (Bytes.ofString "ull" ++ rest) := rfl
  rw [word]
  refine reads_readTree_scalar (by decide) (by decide) (by decide) ?_
  exact ((Reads.advance _ _).bind (reads_takeWord rest _)).bind (.pure _ _)

theorem reads_readTree_boolean (value : Bool) (rest : Bytes) :
    Reads (readTree depth) ((Value.boolean value).write ++ rest) (.boolean value) rest := by
  cases value with
  | true =>
    have word : (Value.boolean true).write ++ rest = 0x74 :: (Bytes.ofString "rue" ++ rest) := rfl
    rw [word]
    refine reads_readTree_scalar (by decide) (by decide) (by decide) ?_
    exact ((Reads.advance _ _).bind (reads_takeWord rest _)).bind (.pure _ _)
  | false =>
    have word : (Value.boolean false).write ++ rest = 0x66 :: (Bytes.ofString "alse" ++ rest) := rfl
    rw [word]
    refine reads_readTree_scalar (by decide) (by decide) (by decide) ?_
    exact ((Reads.advance _ _).bind (reads_takeWord rest _)).bind (.pure _ _)

end Values

section Members

theorem writeMember_append (name : String) (text rest : Bytes) :
    writeMember name text ++ rest =
      0x22 :: ((Bytes.ofString name).flatMap escapeByte ++ 0x22 :: 0x3A :: (text ++ rest)) := by
  simp [writeMember, writeString]

theorem writeObject_append (members : List Bytes) (rest : Bytes) :
    writeObject members ++ rest = 0x7B :: (joinWith 0x2C members ++ 0x7D :: rest) := by
  simp [writeObject]

theorem length_le_flatMap_cons (separator : UInt8) (parts : List Bytes) :
    parts.length ≤ (parts.flatMap (fun part => separator :: part)).length := by
  induction parts with
  | nil => exact Nat.le_refl _
  | cons part rest ih =>
    rw [List.flatMap_cons, List.length_append, List.length_cons, List.length_cons]
    omega

theorem length_le_joinWith (separator : UInt8) (parts : List Bytes) :
    parts.length ≤ (joinWith separator parts).length + 1 := by
  cases parts with
  | nil => exact Nat.zero_le _
  | cons first rest =>
    have more := length_le_flatMap_cons separator rest
    rw [joinWith_cons, List.length_append, List.length_cons]
    omega

theorem few_parts {α : Type} {parts : List α} {steps : Nat} (text : α → Bytes) {close : UInt8}
    {rest : Bytes} (enough : (joinWith 0x2C (parts.map text) ++ close :: rest).length < steps) :
    parts.length < steps := by
  have more := length_le_joinWith 0x2C (parts.map text)
  rw [List.length_map] at more
  rw [List.length_append, List.length_cons] at enough
  omega

theorem ends_parts (texts : List Bytes) {close : UInt8} (closes : close = 0x7D ∨ close = 0x5D)
    (rest : Bytes) : Ends (texts.flatMap (fun text => 0x2C :: text) ++ close :: rest) := by
  -- Behind a value stands a comma or the closing bracket, and no number goes on with either.
  cases texts with
  | nil => rcases closes with rfl | rfl <;> exact ends_cons _ (by decide)
  | cons => exact ends_cons _ (by decide)

variable {α : Type} {value : Reader α} {steps : Nat}

theorem reads_readMembers_later (gathered : List (String × α)) (parts : List (String × Bytes × α))
    (rest : Bytes)
    (each : ∀ part ∈ parts, ∀ rest, Ends rest → Reads value (part.2.1 ++ rest) part.2.2 rest)
    (enough : parts.length < steps) :
    Reads (readMembers value steps false gathered)
      ((parts.map (fun part => writeMember part.1 part.2.1)).flatMap (fun text => 0x2C :: text) ++
        0x7D :: rest)
      (gathered.reverse ++ parts.map (fun part => (part.1, part.2.2))) (0x7D :: rest) := by
  induction parts generalizing steps gathered with
  | nil =>
    obtain ⟨steps, rfl⟩ := Nat.exists_eq_add_one.mpr (Nat.zero_lt_of_lt enough)
    rw [List.map_nil, List.map_nil, List.append_nil]
    exact (reads_nextName_end rest false).bind (.pure _ _)
  | cons part parts ih =>
    obtain ⟨steps, rfl⟩ := Nat.exists_eq_add_one.mpr (Nat.zero_lt_of_lt enough)
    obtain ⟨name, text, found⟩ := part
    have later := ih ((name, found) :: gathered)
      (fun other there => each other (List.mem_cons_of_mem _ there)) (Nat.lt_of_succ_lt_succ enough)
    rw [List.reverse_cons, List.append_assoc, List.singleton_append] at later
    have first := each (name, text, found) List.mem_cons_self _
      (ends_parts (parts.map (fun part => writeMember part.1 part.2.1)) (.inl rfl) rest)
    rw [List.map_cons, List.flatMap_cons, List.cons_append, List.cons_append, List.append_assoc,
      writeMember_append]
    refine (reads_nextName_later _).bind ?_
    exact (reads_readText name _).bind ((reads_takeColon _).bind (first.bind later))

theorem reads_readMembers (parts : List (String × Bytes × α)) (rest : Bytes)
    (each : ∀ part ∈ parts, ∀ rest, Ends rest → Reads value (part.2.1 ++ rest) part.2.2 rest)
    (enough : parts.length < steps) :
    Reads (readMembers value steps true [])
      (joinWith 0x2C (parts.map (fun part => writeMember part.1 part.2.1)) ++ 0x7D :: rest)
      (parts.map (fun part => (part.1, part.2.2))) (0x7D :: rest) := by
  obtain ⟨steps, rfl⟩ := Nat.exists_eq_add_one.mpr (Nat.zero_lt_of_lt enough)
  cases parts with
  | nil => exact (reads_nextName_end rest true).bind (.pure _ _)
  | cons part parts =>
    obtain ⟨name, text, found⟩ := part
    have later := reads_readMembers_later [(name, found)] parts rest
      (fun other there => each other (List.mem_cons_of_mem _ there)) (Nat.lt_of_succ_lt_succ enough)
    have first := each (name, text, found) List.mem_cons_self _
      (ends_parts (parts.map (fun part => writeMember part.1 part.2.1)) (.inl rfl) rest)
    rw [List.map_cons, joinWith_cons, List.append_assoc, writeMember_append]
    refine (reads_nextName_first _).bind ?_
    exact (reads_readText name _).bind ((reads_takeColon _).bind (first.bind later))

end Members

section Items

variable {α : Type} {item : Reader α} {steps : Nat}

def Opens (text : Bytes) : Prop :=
  ∃ byte rest, text = byte :: rest ∧ isBlank byte = false ∧ byte ≠ 0x5D

theorem reads_nextItem_first {text : Bytes} (opens : Opens text) (rest : Bytes) :
    Reads (nextItem true) (text ++ rest) true (text ++ rest) := by
  obtain ⟨byte, behind, rfl, token, other⟩ := opens
  refine (Reads.peekToken token _).bind ?_
  simpa [other] using Reads.pure true _

theorem reads_nextItem_later {text : Bytes} (opens : Opens text) (rest : Bytes) :
    Reads (nextItem false) (0x2C :: (text ++ rest)) true (text ++ rest) := by
  obtain ⟨byte, behind, rfl, token, other⟩ := opens
  refine (Reads.peekToken (by decide) _).bind ((Reads.advance _ _).bind ?_)
  refine (Reads.peekToken token _).bind ?_
  simpa [other] using Reads.pure true _

theorem reads_nextItem_end (isFirst : Bool) (rest : Bytes) :
    Reads (nextItem isFirst) (0x5D :: rest) false (0x5D :: rest) :=
  (Reads.peekToken (by decide) rest).bind (.pure _ _)

theorem reads_readItems_later (gathered : List α) (parts : List (Bytes × α)) (rest : Bytes)
    (each : ∀ part ∈ parts, Opens part.1 ∧ ∀ rest, Ends rest → Reads item (part.1 ++ rest) part.2 rest)
    (enough : parts.length < steps) :
    Reads (readItems item steps false gathered)
      ((parts.map Prod.fst).flatMap (fun text => 0x2C :: text) ++ 0x5D :: rest)
      (gathered.reverse ++ parts.map Prod.snd) (0x5D :: rest) := by
  induction parts generalizing steps gathered with
  | nil =>
    obtain ⟨steps, rfl⟩ := Nat.exists_eq_add_one.mpr (Nat.zero_lt_of_lt enough)
    rw [List.map_nil, List.map_nil, List.append_nil]
    exact (reads_nextItem_end false rest).bind (.pure _ _)
  | cons part parts ih =>
    obtain ⟨steps, rfl⟩ := Nat.exists_eq_add_one.mpr (Nat.zero_lt_of_lt enough)
    have later := ih (part.2 :: gathered)
      (fun other there => each other (List.mem_cons_of_mem _ there)) (Nat.lt_of_succ_lt_succ enough)
    rw [List.reverse_cons, List.append_assoc, List.singleton_append] at later
    obtain ⟨opens, reads⟩ := each part List.mem_cons_self
    rw [List.map_cons, List.flatMap_cons, List.cons_append, List.cons_append, List.append_assoc]
    refine (reads_nextItem_later opens _).bind ?_
    exact (reads _ (ends_parts (parts.map Prod.fst) (.inr rfl) rest)).bind later

theorem reads_readItems (parts : List (Bytes × α)) (rest : Bytes)
    (each : ∀ part ∈ parts, Opens part.1 ∧ ∀ rest, Ends rest → Reads item (part.1 ++ rest) part.2 rest)
    (enough : parts.length < steps) :
    Reads (readItems item steps true []) (joinWith 0x2C (parts.map Prod.fst) ++ 0x5D :: rest)
      (parts.map Prod.snd) (0x5D :: rest) := by
  obtain ⟨steps, rfl⟩ := Nat.exists_eq_add_one.mpr (Nat.zero_lt_of_lt enough)
  cases parts with
  | nil => exact (reads_nextItem_end true rest).bind (.pure _ _)
  | cons part parts =>
    have later := reads_readItems_later [part.2] parts rest
      (fun other there => each other (List.mem_cons_of_mem _ there)) (Nat.lt_of_succ_lt_succ enough)
    obtain ⟨opens, reads⟩ := each part List.mem_cons_self
    rw [List.map_cons, joinWith_cons, List.append_assoc]
    refine (reads_nextItem_first opens _).bind ?_
    exact (reads _ (ends_parts (parts.map Prod.fst) (.inr rfl) rest)).bind later

theorem reads_closeList (rest : Bytes) : Reads closeList (0x5D :: rest) () rest :=
  (Reads.peekToken (by decide) rest).bind (.advance _ _)

theorem writeArray_append (items : List Bytes) (rest : Bytes) :
    writeArray items ++ rest = 0x5B :: (joinWith 0x2C items ++ 0x5D :: rest) := by
  simp [writeArray]

end Items

section Floats

variable {depth : Depth} {value : Binary64}

theorem ends_nil : Ends [] := by
  intro byte none
  cases none

theorem reads_unsigned (finite : value.Finite) {rest : Bytes} (ends : Ends rest) :
    Reads (readNumber value.negative) ((unsignedCharacters value).map asciiByte ++ rest)
      (.float (rereadFloat value)) rest := by
  obtain ⟨seen, reads⟩ := reads_readNumber_unsigned value.negative finite
  have alone := reads [] ends_nil
  rw [List.append_nil] at alone
  have same : rereadFloat value = seen := by
    rw [rereadFloat, run_of_reads alone]
  rw [same]
  exact reads rest ends

theorem reads_readTree_float (finite : value.Finite) {rest : Bytes} (ends : Ends rest) :
    Reads (readTree depth) (Bytes.ofString (Number.float value).text ++ rest)
      (.number (.float (rereadFloat value))) rest := by
  have reads := reads_unsigned finite ends
  obtain ⟨⟨first, later, same, digit⟩, -⟩ := unsignedCharacters_spec value
  rw [text_float]
  cases sign : value.negative with
  | true =>
    rw [sign] at reads
    refine reads_readTree_scalar (by decide) (by decide) (by decide) ?_
    exact (Reads.advance _ _).bind (reads.bind (.pure _ _))
  | false =>
    have digit := (isDigit_asciiByte digit).1
    rw [sign, same] at reads
    rw [same]
    exact reads_readTree_scalar (not_isBlank_of_isDigit digit) (ne_of_isDigit digit (by decide))
      (ne_of_isDigit digit (by decide)) (reads_readScalar_digit digit reads)

theorem reads_readTree_number {number : Number} (sound : number.Sound) {rest : Bytes} (ends : Ends rest) :
    Reads (readTree depth) ((Value.number number).write ++ rest) (Value.number number).reread rest := by
  cases number with
  | integer number => exact reads_readTree_integer sound ends
  | float number => exact reads_readTree_float sound ends

theorem opens_of_digit {byte : UInt8} (digit : isDigit byte = true) (rest : Bytes) :
    Opens (byte :: rest) :=
  ⟨byte, rest, rfl, not_isBlank_of_isDigit digit, ne_of_isDigit digit (by decide)⟩

theorem opens_number (number : Number) : Opens (Value.number number).write := by
  have minus (rest : Bytes) : Opens (0x2D :: rest) := ⟨0x2D, rest, rfl, by decide, by decide⟩
  cases number with
  | integer number =>
    cases number with
    | ofNat number =>
      obtain ⟨byte, digits, same, digit⟩ := digits_head number
      have text : (Value.number (.integer (.ofNat number))).write = byte :: digits :=
        (text_ofNat number).trans same
      rw [text]
      exact opens_of_digit digit digits
    | negSucc number =>
      rw [Value.write, text_negSucc]
      exact minus _
  | float value =>
    obtain ⟨⟨first, later, same, digit⟩, -⟩ := unsignedCharacters_spec value
    rw [Value.write, text_float, same]
    cases value.negative with
    | true => exact minus _
    | false => exact opens_of_digit (isDigit_asciiByte digit).1 _

end Floats

section Written

variable {depth : Depth} {value : Value}

theorem opens_write (value : Value) : Opens value.write := by
  cases value with
  | null => exact ⟨0x6E, _, rfl, by decide, by decide⟩
  | boolean value =>
    cases value with
    | true => exact ⟨0x74, _, rfl, by decide, by decide⟩
    | false => exact ⟨0x66, _, rfl, by decide, by decide⟩
  | number number => exact opens_number number
  | string text => exact ⟨0x22, _, rfl, by decide, by decide⟩
  | array items => exact ⟨0x5B, _, rfl, by decide, by decide⟩
  | object members => exact ⟨0x7B, _, rfl, by decide, by decide⟩

theorem reads_readTree_array {items : List Value}
    (read : ∀ item ∈ items, ∀ rest, Ends rest →
      Reads (readTree depth) (item.write ++ rest) item.reread rest) (rest : Bytes) :
    Reads (readTree (depth + 1)) ((Value.array items).write ++ rest) (Value.array items).reread rest := by
  let parts := items.map (fun item => (item.write, item.reread))
  have texts : Value.writeItems items = parts.map Prod.fst := by
    rw [writeItems_eq_map, List.map_map]
    rfl
  have seen : Value.rereadItems items = parts.map Prod.snd := by
    rw [Value.rereadItems_eq_map, List.map_map]
    rfl
  have each : ∀ part ∈ parts, Opens part.1 ∧
      ∀ rest, Ends rest → Reads (readTree depth) (part.1 ++ rest) part.2 rest := by
    intro part there
    obtain ⟨item, member, rfl⟩ := List.mem_map.mp there
    exact ⟨opens_write item, read item member⟩
  rw [Value.write, Value.reread, texts, seen, writeArray_append, readTree_succ]
  refine (Reads.peekToken (by decide) _).bind ((Reads.advance _ _).bind ?_)
  refine Reads.budget (fun steps enough => ?_)
  exact (reads_readItems parts rest each (few_parts _ enough)).bind
    ((reads_closeList rest).bind (.pure _ _))

theorem reads_readTree_object {members : List (String × Value)}
    (read : ∀ member ∈ members, ∀ rest, Ends rest →
      Reads (readTree depth) (member.2.write ++ rest) member.2.reread rest) (rest : Bytes) :
    Reads (readTree (depth + 1)) ((Value.object members).write ++ rest) (Value.object members).reread
      rest := by
  let parts := members.map (fun member => (member.1, member.2.write, member.2.reread))
  have texts : Value.writeMembers members = parts.map (fun part => writeMember part.1 part.2.1) := by
    rw [writeMembers_eq_map, List.map_map]
    rfl
  have seen : Value.rereadMembers members = parts.map (fun part => (part.1, part.2.2)) := by
    rw [Value.rereadMembers_eq_map, List.map_map]
    rfl
  have each : ∀ part ∈ parts,
      ∀ rest, Ends rest → Reads (readTree depth) (part.2.1 ++ rest) part.2.2 rest := by
    intro part there
    obtain ⟨member, found, rfl⟩ := List.mem_map.mp there
    exact read member found
  rw [Value.write, Value.reread, texts, seen, writeObject_append, readTree_succ]
  refine (Reads.peekToken (by decide) _).bind ((Reads.advance _ _).bind ?_)
  refine Reads.budget (fun steps enough => ?_)
  exact (reads_readMembers parts rest each (few_parts _ enough)).bind
    ((reads_closeObject rest).bind (.pure _ _))

/-- A written value is read as itself, but for the values of its floats. -/
theorem reads_readTree_reread (writable : value.Writable depth) {rest : Bytes} (ends : Ends rest) :
    Reads (readTree depth) (value.write ++ rest) value.reread rest := by
  -- On the depth: what a list or an object holds is read one container further down.
  induction depth generalizing value rest with
  | zero =>
    cases value with
    | null => exact reads_readTree_null rest
    | boolean value => exact reads_readTree_boolean value rest
    | number number => exact reads_readTree_number writable ends
    | string text => exact reads_readTree_string text rest
    | array | object => exact writable.elim
  | succ depth ih =>
    cases value with
    | null => exact reads_readTree_null rest
    | boolean value => exact reads_readTree_boolean value rest
    | number number => exact reads_readTree_number writable ends
    | string text => exact reads_readTree_string text rest
    | array items => exact reads_readTree_array (fun item member _ => ih (writable item member)) rest
    | object members => exact reads_readTree_object (fun member found _ => ih (writable member found)) rest

theorem reads_readTree (fits : value.Fits depth) {rest : Bytes} (ends : Ends rest) :
    Reads (readTree depth) (value.write ++ rest) value rest := by
  obtain ⟨writable, same⟩ := fits.writable
  have reads := reads_readTree_reread writable ends
  rwa [same] at reads

end Written

theorem run_readValue_reread {value : Value} (writable : value.Writable fullDepth) :
    readValue.run value.write = .ok value.reread.normal := by
  apply run_of_reads
  have read := reads_readTree_reread writable ends_nil
  rw [List.append_nil] at read
  exact read.bind (.pure _ _)

theorem run_readValue_write {value : Value} (fits : value.Fits fullDepth) :
    readValue.run value.write = .ok value.normal := by
  obtain ⟨writable, same⟩ := fits.writable
  rw [run_readValue_reread writable, same]

end Reader

end LedgerNode.Json
