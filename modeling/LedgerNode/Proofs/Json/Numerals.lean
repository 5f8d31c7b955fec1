import LedgerNode.Proofs.Json.Reading
import Mathlib.Algebra.Group.Nat.Defs

set_option autoImplicit false

namespace LedgerNode

def asciiByte (character : Char) : UInt8 :=
  UInt8.ofNat character.toNat

theorem Bytes.ofString_ofList {characters : List Char}
    (ascii : ∀ character ∈ characters, character.toNat < 128) :
    Bytes.ofString (String.ofList characters) = characters.map asciiByte := by
  have bytes : Bytes.ofString (String.ofList characters) =
      characters.flatMap String.utf8EncodeChar := by
    rw [Bytes.ofString, String.toByteArray_ofList, List.utf8Encode, List.toList_data_toByteArray]
  rw [bytes]
  induction characters with
  | nil => rfl
  | cons first rest ih =>
    have small : first.val.toNat ≤ 0x7F := Nat.le_of_lt_succ (ascii first List.mem_cons_self)
    have alone : String.utf8EncodeChar first = [asciiByte first] := if_pos small
    have later := ih (fun other member => ascii other (List.mem_cons_of_mem _ member)) (by
      rw [Bytes.ofString, String.toByteArray_ofList, List.utf8Encode, List.toList_data_toByteArray])
    rw [List.flatMap_cons, later, alone, List.map_cons, List.singleton_append]

namespace Json.Reader

theorem toNat_of_isDigit {character : Char} (digit : character.isDigit = true) :
    48 ≤ character.toNat ∧ character.toNat < 58 := by
  simp only [Char.isDigit, Bool.and_eq_true, decide_eq_true_eq] at digit
  have low : (48 : UInt32).toNat ≤ character.val.toNat := digit.1
  have high : character.val.toNat ≤ (57 : UInt32).toNat := digit.2
  exact ⟨low, Nat.lt_succ_of_le high⟩

theorem isDigit_asciiByte {character : Char} (digit : character.isDigit = true) :
    isDigit (asciiByte character) = true ∧
      digitValue (asciiByte character) = character.toNat - '0'.toNat := by
  have all : ∀ number, number < 58 → 48 ≤ number →
      isDigit (UInt8.ofNat number) = true ∧ digitValue (UInt8.ofNat number) = number - 48 := by
    decide
  have ⟨low, high⟩ := toNat_of_isDigit digit
  exact all character.toNat high low

theorem le_ofDigitChars (characters : List Char) (value : Nat) :
    value ≤ Nat.ofDigitChars 10 characters value := by
  induction characters generalizing value with
  | nil => simp
  | cons first rest ih =>
    rw [Nat.ofDigitChars_cons]
    have later := ih (10 * value + (first.toNat - '0'.toNat))
    omega

theorem ofDigitChars_lt {characters : List Char}
    (digits : ∀ character ∈ characters, character.isDigit = true) (value : Nat) :
    Nat.ofDigitChars 10 characters value < (value + 1) * 10 ^ characters.length := by
  induction characters generalizing value with
  | nil => simp
  | cons first rest ih =>
    have ⟨low, high⟩ := toNat_of_isDigit (digits first List.mem_cons_self)
    have later := ih (fun other member => digits other (List.mem_cons_of_mem _ member))
      (10 * value + (first.toNat - '0'.toNat))
    have small : 10 * value + (first.toNat - '0'.toNat) + 1 ≤ (value + 1) * 10 := by
      have zero : '0'.toNat = 48 := rfl
      omega
    rw [Nat.ofDigitChars_cons, List.length_cons, Nat.pow_succ']
    calc Nat.ofDigitChars 10 rest (10 * value + (first.toNat - '0'.toNat))
        < (10 * value + (first.toNat - '0'.toNat) + 1) * 10 ^ rest.length := later
      _ ≤ (value + 1) * 10 * 10 ^ rest.length := Nat.mul_le_mul_right _ small
      _ = (value + 1) * (10 * 10 ^ rest.length) := Nat.mul_assoc ..

theorem Ends.not_isDigit {rest : Bytes} (ends : Ends rest) : rest.head?.any isDigit = false := by
  cases rest with
  | nil => rfl
  | cons byte rest => exact (ends byte rfl).1

theorem reads_peekIsDigit {rest : Bytes} (stops : rest.head?.any isDigit = false) :
    Reads peekIsDigit rest false rest := by
  refine (Reads.peek rest).bind ?_
  rw [stops]
  exact .pure _ _

theorem Reads.digitBudget {α : Type} {further : Nat → Reader α} {characters : List Char}
    {middle rest : Bytes} {value : α} (digits : ∀ character ∈ characters, character.isDigit = true)
    (enough : ∀ steps, characters.length < steps →
      Reads (further steps) (characters.map asciiByte ++ middle) value rest) :
    Reads (Reader.digitBudget >>= further) (characters.map asciiByte ++ middle) value rest := by
  -- The budget that stands in front of digits is enough for them.
  intro cursor at_text
  have all : ∀ byte ∈ characters.map asciiByte, isDigit byte = true := by
    intro byte member
    obtain ⟨character, there, rfl⟩ := List.mem_map.mp member
    exact (isDigit_asciiByte (digits character there)).1
  have long : characters.length < (cursor.rest.takeWhile isDigit).length + 1 := by
    rw [at_text, List.takeWhile_append_of_pos all, List.length_append, List.length_map]
    omega
  obtain ⟨after, read, at_rest⟩ := enough _ long cursor at_text
  exact ⟨after, bind_eq_ok.mpr ⟨_, cursor, rfl, read⟩, at_rest⟩

theorem reads_takeDigits {characters : List Char} {steps value : Nat} (count : Nat) {rest : Bytes}
    (digits : ∀ character ∈ characters, character.isDigit = true)
    (enough : characters.length < steps)
    (fits : Nat.ofDigitChars 10 characters value < UInt64.size)
    (stops : rest.head?.any isDigit = false) :
    Reads (takeDigits steps value count) (characters.map asciiByte ++ rest)
      (Nat.ofDigitChars 10 characters value, count + characters.length) rest := by
  induction characters generalizing steps value count with
  | nil =>
    obtain ⟨steps, rfl⟩ := Nat.exists_eq_add_one.mpr (Nat.zero_lt_of_lt enough)
    refine (Reads.peek rest).bind ?_
    cases rest with
    | nil => exact .pure _ _
    | cons byte rest =>
      have stop : isDigit byte = false := stops
      simp only [List.head?_cons, stop, Bool.false_and, Bool.false_eq_true, if_false]
      exact .pure _ _
  | cons first characters ih =>
    obtain ⟨steps, rfl⟩ := Nat.exists_eq_add_one.mpr (Nat.zero_lt_of_lt enough)
    have ⟨digit, worth⟩ := isDigit_asciiByte (digits first List.mem_cons_self)
    rw [Nat.ofDigitChars_cons, Nat.mul_comm] at fits ⊢
    -- Further digits only add to the sum, so it fits a word here as well.
    have small := Nat.lt_of_le_of_lt (le_ofDigitChars characters _) fits
    have later := ih (count + 1) (fun other member => digits other (List.mem_cons_of_mem _ member))
      (Nat.lt_of_succ_lt_succ enough) fits
    refine (Reads.peek _).bind ?_
    simp only [List.map_cons, List.cons_append, List.head?_cons, digit, worth, small, decide_true,
      Bool.and_self, if_true]
    refine (Reads.advance _ _).bind ?_
    rw [List.length_cons, Nat.add_comm characters.length 1, ← Nat.add_assoc]
    exact later

theorem reads_readNumberEnd (negative : Bool) (value : Nat) {rest : Bytes} (ends : Ends rest) :
    Reads (readNumberEnd negative value) rest (integerNumber negative value) rest := by
  refine (Reads.peek rest).bind ?_
  cases rest with
  | nil => exact .pure _ _
  | cons byte rest =>
    obtain ⟨-, point, small, big⟩ := ends byte rfl
    simpa [point, small, big] using Reads.pure (integerNumber negative value) (byte :: rest)

theorem toDigits_head {value : Nat} (positive : 0 < value) :
    ∃ digit rest, 0 < digit ∧ digit < 10 ∧ Nat.toDigits 10 value = digit.digitChar :: rest := by
  induction value using Nat.base_induction 10 (by decide) with
  | single value small => exact ⟨value, [], positive, small, Nat.toDigits_of_lt_base small⟩
  | digit value digit small some ih =>
    obtain ⟨first, rest, some', small', same⟩ := ih some
    refine ⟨first, rest ++ Nat.toDigits 10 digit, some', small', ?_⟩
    rw [← Nat.toDigits_append_toDigits (by decide) some small, same, List.cons_append]

inductive Whole : List Char → Prop where
  | zero : Whole ['0']
  | digits {digit : Nat} {rest : List Char} (positive : 0 < digit) (small : digit < 10)
      (later : ∀ character ∈ rest, character.isDigit = true) : Whole (digit.digitChar :: rest)

theorem whole_toDigits (value : Nat) : Whole (Nat.toDigits 10 value) := by
  rcases Nat.eq_zero_or_pos value with rfl | positive
  · rw [Nat.toDigits_zero]
    exact .zero
  · obtain ⟨digit, rest, least, small, same⟩ := toDigits_head positive
    have digits : ∀ character ∈ Nat.toDigits 10 value, character.isDigit = true :=
      fun character member => Nat.isDigit_of_mem_toDigits (by decide) (by decide) member
    rw [same] at digits ⊢
    exact .digits least small (fun other member => digits other (List.mem_cons_of_mem _ member))

theorem digitValue_digitChar {digit : Nat} (small : digit < 10) :
    isDigit (asciiByte digit.digitChar) = true ∧ digitValue (asciiByte digit.digitChar) = digit ∧
      digit.digitChar.toNat - '0'.toNat = digit ∧ (digit ≠ 0 → asciiByte digit.digitChar ≠ 0x30) := by
  have all : ∀ number, number < 10 →
      isDigit (asciiByte number.digitChar) = true ∧ digitValue (asciiByte number.digitChar) = number ∧
        number.digitChar.toNat - '0'.toNat = number ∧
        (number ≠ 0 → asciiByte number.digitChar ≠ 0x30) := by
    decide
  exact all digit small

theorem reads_readNumber_whole (negative : Bool) {characters : List Char} (whole : Whole characters)
    (fits : Nat.ofDigitChars 10 characters 0 < UInt64.size) {middle rest : Bytes} {number : Number}
    (stops : middle.head?.any isDigit = false)
    (ends : Reads (readNumberEnd negative (Nat.ofDigitChars 10 characters 0)) middle number rest) :
    Reads (readNumber negative) (characters.map asciiByte ++ middle) number rest := by
  cases whole with
  | zero => exact (Reads.next 0x30 middle).bind ((reads_peekIsDigit stops).bind ends)
  | @digits digit characters positive small later =>
    obtain ⟨first, worth, value, nonzero⟩ := digitValue_digitChar small
    have nonzero := nonzero (Nat.ne_of_gt positive)
    rw [Nat.ofDigitChars_cons, Nat.mul_zero, Nat.zero_add, value] at fits ends
    rw [List.map_cons, List.cons_append]
    refine (Reads.next _ _).bind ?_
    simp only [first, if_true]
    refine Reads.digitBudget later (fun steps enough => ?_)
    rw [worth]
    refine (reads_takeDigits 0 later enough fits stops).bind ?_
    exact (reads_peekIsDigit stops).bind ends

theorem reads_readNumber (negative : Bool) {value : Nat} (fits : value < UInt64.size)
    {rest : Bytes} (ends : Ends rest) :
    Reads (readNumber negative) ((Nat.toDigits 10 value).map asciiByte ++ rest)
      (integerNumber negative value) rest := by
  have same : Nat.ofDigitChars 10 (Nat.toDigits 10 value) 0 = value := Nat.ofDigitChars_ten_toDigits
  refine reads_readNumber_whole negative (whole_toDigits value) (same.symm ▸ fits) ends.not_isDigit ?_
  rw [same]
  exact reads_readNumberEnd negative value ends

end Json.Reader

end LedgerNode
