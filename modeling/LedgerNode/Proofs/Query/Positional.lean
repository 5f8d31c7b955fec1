import LedgerNode.Proofs.Query.Notation
import Mathlib.Data.Nat.Digits.Defs

set_option autoImplicit false

namespace LedgerNode

namespace Digits

def numerals (base : Nat) : List Char :=
  "0123456789".toList.take base ++
    ("abcdef".toList.take (base - 10) ++ "ABCDEF".toList.take (base - 10))

example : numerals 10 = "0123456789".toList := by decide

example : numerals 16 = "0123456789abcdefABCDEF".toList := by decide

def worth (digit : Char) : Nat :=
  "0123456789abcdef".toList.idxOf digit.toLower

def weigh (base : Nat) (digits : List Char) : Nat :=
  Nat.ofDigits base (digits.reverse.map worth)

structure Writes (base : Nat) (digits : List Char) (value : Nat) : Prop where
  nonempty : digits ≠ []
  each : ∀ digit ∈ digits, digit ∈ numerals base
  value : weigh base digits = value

instance (base : Nat) (digits : List Char) (value : Nat) : Decidable (Writes base digits value) :=
  decidable_of_iff
    (digits ≠ [] ∧ digits.all (· ∈ numerals base) ∧ weigh base digits = value)
    ⟨fun ⟨nonempty, all, weight⟩ => ⟨nonempty, by simpa using all, weight⟩,
      fun ⟨nonempty, each, weight⟩ => ⟨nonempty, by simpa using each, weight⟩⟩

example : Writes 16 "00fF".toList 255 := by decide

section Values

variable {base : Nat} {digit : Char}

theorem ascii_of_mem (numeral : digit ∈ numerals base) : digit.toNat < 128 := by
  -- A list is gone through from its start, since there are too many characters to try each of them.
  have all : ("0123456789".toList ++ ("abcdef".toList ++ "ABCDEF".toList)).all (·.toNat < 128) := by
    decide
  refine of_decide_eq_true (List.all_eq_true.mp all digit ?_)
  rcases List.mem_append.mp numeral with decimal | letter
  · exact List.mem_append_left _ (List.mem_of_mem_take decimal)
  · refine List.mem_append_right _ (List.mem_append.mpr ?_)
    exact (List.mem_append.mp letter).imp List.mem_of_mem_take List.mem_of_mem_take

theorem value?_eq (small : base ≤ 16) (digit : Char) :
    value? base digit = if digit ∈ numerals base then some (worth digit) else none := by
  have all : ∀ code, code < 128 → ∀ radix, radix ≤ 16 →
      value? radix (Char.ofNat code) =
        if Char.ofNat code ∈ numerals radix then some (worth (Char.ofNat code)) else none := by
    decide +kernel
  by_cases ascii : digit.toNat < 128
  · exact forall_ascii all ascii base small
  · -- Nothing beyond ASCII is a digit.
    rw [if_neg fun numeral => ascii (ascii_of_mem numeral)]
    cases read : value? base digit with
    | none => rfl
    | some => exact absurd (value?_ascii read) ascii

theorem value?_of_mem (small : base ≤ 16) (numeral : digit ∈ numerals base) :
    value? base digit = some (worth digit) := by
  rw [value?_eq small, if_pos numeral]

theorem mem_numerals_iff (small : base ≤ 16) : digit ∈ numerals base ↔ (value? base digit).isSome := by
  rw [value?_eq small]
  split
  next numeral => exact iff_of_true numeral rfl
  next other => exact iff_of_false other nofun

end Values

end Digits

namespace Quantity

section Weights

variable {base limit : Nat} {digits : List Char}

open Digits

theorem weigh_concat (front : List Char) (digit : Char) :
    weigh base (front ++ [digit]) = weigh base front * base + worth digit := by
  rw [weigh, List.reverse_append, List.reverse_singleton, List.singleton_append, List.map_cons,
    Nat.ofDigits_cons, ← weigh, Nat.mul_comm, Nat.add_comm]

theorem accumulate_numerals (more : 0 < base) (small : base ≤ 16) (positive : 0 < limit)
    (each : ∀ digit ∈ digits, digit ∈ numerals base) :
    accumulate base limit 0 digits =
      if weigh base digits < limit then .ok (weigh base digits) else .error .tooLarge := by
  -- The sum of the digits so far only grows, so where it leaves the range it does not come back.
  induction digits using List.reverseRecOn with
  | nil => exact (if_pos positive).symm
  | append_singleton front digit ih =>
    have last := value?_of_mem small (each digit (by simp))
    have sofar := ih fun digit member => each digit (List.mem_append_left _ member)
    have grows : weigh base front ≤ weigh base front * base := Nat.le_mul_of_pos_right _ more
    rw [accumulate_append, sofar, weigh_concat]
    by_cases within : weigh base front < limit
    · rw [if_pos within, Except.bind, accumulate, last]
      rfl
    · rw [if_neg within, if_neg (by omega)]
      rfl

theorem spell_weigh (more : 1 < base) (small : base ≤ 16) (nonempty : digits ≠ [])
    (each : ∀ digit ∈ digits, digit ∈ numerals base) : Digits.Spell base digits (weigh base digits) := by
  have read := accumulate_numerals (by omega) small (Nat.succ_pos (weigh base digits)) each
  rw [if_pos (Nat.lt_succ_self _)] at read
  exact spell_of_accumulate more small nonempty read

theorem writes_iff_spell (more : 1 < base) (small : base ≤ 16) {value : Nat} :
    Writes base digits value ↔ Digits.Spell base digits value := by
  constructor
  · rintro ⟨nonempty, each, rfl⟩
    exact spell_weigh more small nonempty each
  · intro spelled
    have nonempty : digits ≠ [] := by
      rintro rfl
      exact not_spell_nil spelled
    have each : ∀ digit ∈ digits, digit ∈ numerals base := fun digit member =>
      (mem_numerals_iff small).mpr (isSome_of_spell more small spelled digit member)
    exact ⟨nonempty, each, spell_unique more small (spell_weigh more small nonempty each) spelled⟩

theorem readDigits_of_writes (more : 0 < base) (small : base ≤ 16) (positive : 0 < limit) {value : Nat}
    (writes : Writes base digits value) (beyond : limit ≤ value) :
    readDigits base limit digits = .error .tooLarge := by
  obtain ⟨nonempty, each, rfl⟩ := writes
  obtain ⟨first, rest, rfl⟩ := List.exists_cons_of_ne_nil nonempty
  change accumulate base limit 0 (first :: rest) = _
  rw [accumulate_numerals more small positive each, if_neg (Nat.not_lt.mpr beyond)]

end Weights

end Quantity

end LedgerNode
