import LedgerNode.Address
import LedgerNode.Proofs.Json.Numerals
import LedgerNode.Quantity

set_option autoImplicit false

namespace LedgerNode

theorem digitChar_ascii {value : Nat} (small : value < 16) : (Nat.digitChar value).toNat < 128 := by
  have all : ∀ number, number < 16 → (Nat.digitChar number).toNat < 128 := by decide
  exact all value small

theorem isUpper_digitChar {value : Nat} (small : value < 16) :
    (Nat.digitChar value).isUpper = false := by
  have all : ∀ number, number < 16 → (Nat.digitChar number).isUpper = false := by decide
  exact all value small

theorem utf8ByteSize_ofList {characters : List Char}
    (ascii : ∀ character ∈ characters, character.toNat < 128) :
    (String.ofList characters).utf8ByteSize = characters.length := by
  have bytes := congrArg List.length (Bytes.ofString_ofList ascii)
  rw [List.length_map] at bytes
  exact bytes

namespace Address

theorem ascii_text (address : Address) :
    ∀ character ∈ address.kind.mark ++ Digits.hex address.body, character.toNat < 128 := by
  intro character member
  rcases List.mem_append.mp member with mark | digit
  · have letter : character = 'h' ∨ character = 'c' ∨ character = 'x' := by
      cases kind : address.kind <;> simp only [kind, AddressKind.mark, List.mem_cons] at mark <;> grind
    obtain rfl | rfl | rfl := letter <;> decide
  · obtain ⟨byte, -, pair⟩ := List.mem_flatMap.mp digit
    have bound := byte.toNat_lt
    simp only [Digits.hexPair, List.mem_cons, List.not_mem_nil, or_false] at pair
    rcases pair with rfl | rfl
    · exact digitChar_ascii (by omega)
    · exact digitChar_ascii (by omega)

theorem isUpper_text (address : Address) :
    ∀ character ∈ address.text.toList, character.isUpper = false := by
  intro character member
  rw [text, String.toList_ofList] at member
  rcases List.mem_append.mp member with mark | digit
  · cases kind : address.kind <;> simp only [kind, AddressKind.mark, List.mem_cons,
      List.not_mem_nil, or_false] at mark <;> rcases mark with rfl | rfl <;> decide
  · obtain ⟨byte, -, pair⟩ := List.mem_flatMap.mp digit
    have bound := byte.toNat_lt
    simp only [Digits.hexPair, List.mem_cons, List.not_mem_nil, or_false] at pair
    rcases pair with rfl | rfl
    · exact isUpper_digitChar (by omega)
    · exact isUpper_digitChar (by omega)

theorem read_text (address : Address) : read address.text = .ok address := by
  have length : address.text.utf8ByteSize = textLength := by
    rw [text, utf8ByteSize_ofList address.ascii_text, List.length_append, Digits.length_hex,
      address.length_body]
    cases address.kind <;> rfl
  have mark : splitMark? address.text.toList = some (address.kind, Digits.hex address.body) := by
    rw [text, String.toList_ofList]
    cases address.kind <;> rfl
  have body : ofBody? address.kind address.body = some address := by
    rw [ofBody?, dif_pos address.length_body]
  unfold read
  rw [if_pos length, mark]
  simp only [Digits.ofHex?_hex, Option.bind_some, body]

end Address

namespace Quantity

theorem accumulate_append (base limit value : Nat) (front back : List Char) :
    accumulate base limit value (front ++ back) =
      (accumulate base limit value front).bind (fun sum => accumulate base limit sum back) := by
  induction front generalizing value with
  | nil => rfl
  | cons digit rest ih =>
    rw [List.cons_append, accumulate, accumulate]
    cases Digits.value? base digit with
    | none => rfl
    | some next =>
      simp only
      split
      next => exact ih _
      next => rfl

theorem accumulate_toDigits {base limit value : Nat} (some : 1 < base) (small : base ≤ 16)
    (fits : value < limit) : accumulate base limit 0 (Nat.toDigits base value) = .ok value := by
  have digit {value : Nat} (within : value < base) : Nat.toDigits base value = [value.digitChar] :=
    Nat.toDigits_of_lt_base within
  -- On the digits from the first on: the sum so far is the number that they write.
  induction value using Nat.base_induction base some with
  | single value within =>
    rw [digit within, accumulate, Digits.value?_digitChar small within]
    simp [accumulate, fits]
  | digit value last within positive ih =>
    have shorter : value ≤ base * value := Nat.le_mul_of_pos_left value (by omega)
    rw [← Nat.toDigits_append_toDigits some positive within, accumulate_append, ih (by omega),
      digit within]
    simp [Except.bind, accumulate, Digits.value?_digitChar small within, fits, Nat.mul_comm value]

theorem readNumber_toHex {value : Nat} (fits : value < balanceLimit) :
    readNumber (toHex value) = .ok value := by
  have characters : (toHex value).toList = '0' :: 'x' :: Nat.toDigits 16 value := by
    simp [toHex, Digits.write]
  have some : 1 < 16 := by decide
  have read := accumulate_toDigits some (Nat.le_refl 16) fits
  unfold readNumber
  simp only [characters, stripHexMark, Option.getD_some]
  cases digits : Nat.toDigits 16 value with
  | nil => exact absurd digits Nat.toDigits_ne_nil
  | cons first rest =>
    rw [digits] at read
    have sign : first ≠ '+' := by
      rintro rfl
      cases read
    simp only [List.head?_cons, Option.some.injEq, sign, if_false, readDigits, read]
    rfl

theorem stripHexMark_toHex (value : Nat) :
    stripHexMark (toHex value).toList = some (Nat.toDigits 16 value) := by
  simp [toHex, Digits.write, stripHexMark]

theorem readWord_toHex (value : UInt64) : readWord (toHex value.toNat) = .ok value := by
  have small : value.toNat < UInt64.size := value.toNat_lt_size
  have fits : value.toNat < balanceLimit := Nat.lt_trans small (by decide)
  rw [readWord, readNumber_toHex fits]
  change (if value.toNat < UInt64.size then _ else _) = _
  rw [if_pos small, UInt64.ofNat_toNat]
  rfl

theorem readBalance_toHex (value : Balance) : readBalance (toHex value.toNat) = .ok value := by
  have fits : value.toNat < balanceLimit := value.isLt
  rw [readBalance, readNumber_toHex fits]
  simp [Except.map]

/-- A hex mark and lower-case digits, the first of which is a zero only if it stands alone. -/
def Canonical (text : String) : Prop :=
  ∃ digits, text.toList = '0' :: 'x' :: digits ∧ digits ≠ [] ∧
    (∀ digit ∈ digits, digit ∈ "0123456789abcdef".toList) ∧
    (digits.head? = some '0' → digits = ['0'])

theorem mem_digitChar {value : Nat} (small : value < 16) :
    value.digitChar ∈ "0123456789abcdef".toList := by
  have all : ∀ number, number < 16 → number.digitChar ∈ "0123456789abcdef".toList := by decide
  exact all value small

theorem digits_toDigits (value : Nat) :
    (∀ digit ∈ Nat.toDigits 16 value, digit ∈ "0123456789abcdef".toList) ∧
      (0 < value → (Nat.toDigits 16 value).head? ≠ some '0') := by
  have some : 1 < 16 := by decide
  induction value using Nat.base_induction 16 some with
  | single value within =>
    rw [Nat.toDigits_of_lt_base within]
    have zero : ∀ number, number < 16 → 0 < number → number.digitChar ≠ '0' := by decide
    refine ⟨by simpa using mem_digitChar within, fun positive => ?_⟩
    simpa using zero value within positive
  | digit value last within positive ih =>
    rw [← Nat.toDigits_append_toDigits some positive within, Nat.toDigits_of_lt_base within]
    refine ⟨fun digit member => ?_, fun _ => ?_⟩
    · rcases List.mem_append.mp member with earlier | same
      · exact ih.1 digit earlier
      · obtain rfl := List.mem_singleton.mp same
        exact mem_digitChar within
    · -- The leading digit is that of the number without its last digit.
      cases digits : Nat.toDigits 16 value with
      | nil => exact absurd digits Nat.toDigits_ne_nil
      | cons first rest =>
        have leading := ih.2 positive
        rw [digits] at leading
        exact leading

theorem canonical_toHex (value : Nat) : Canonical (toHex value) := by
  refine ⟨Nat.toDigits 16 value, by simp [toHex, Digits.write], Nat.toDigits_ne_nil,
    (digits_toDigits value).1, fun leading => ?_⟩
  rcases Nat.eq_zero_or_pos value with rfl | positive
  · rfl
  · exact absurd leading ((digits_toDigits value).2 positive)

end Quantity

end LedgerNode
