import LedgerNode.Number.Shortest
import LedgerNode.Proofs.Json.Numerals
import LedgerNode.Proofs.Number.Rounding
import Mathlib.Data.List.TakeWhile

set_option autoImplicit false

namespace LedgerNode

namespace Decimal

def word (decimal : Decimal) : Nat :=
  Nat.ofDigitChars 10 decimal.digits 0

def lastExponent (decimal : Decimal) : Int :=
  decimal.exponent + 1 - decimal.digits.length

def value (decimal : Decimal) : ℚ :=
  decimal.word * 10 ^ decimal.lastExponent

structure Proper (decimal : Decimal) : Prop where
  digits : ∀ character ∈ decimal.digits, character.isDigit = true
  first : ∃ digit rest, 0 < digit ∧ digit < 10 ∧ decimal.digits = Nat.digitChar digit :: rest
  short : decimal.digits.length ≤ 18

end Decimal

theorem exists_trailing_zeros {point : Nat} (some : 0 < point) :
    ∃ digits zeros, (Nat.toDigits 10 point).length = digits.length + zeros ∧
      ((Nat.toDigits 10 point).reverse.dropWhile (· = '0')).reverse = digits ∧
      (∀ character ∈ digits, character.isDigit = true) ∧
      (∃ digit rest, 0 < digit ∧ digit < 10 ∧ digits = Nat.digitChar digit :: rest) ∧
      Nat.ofDigitChars 10 digits 0 * 10 ^ zeros = point := by
  let behind := ((Nat.toDigits 10 point).reverse.takeWhile (· = '0')).reverse
  let digits := ((Nat.toDigits 10 point).reverse.dropWhile (· = '0')).reverse
  have split : digits ++ behind = Nat.toDigits 10 point := by
    rw [← List.reverse_append, List.takeWhile_append_dropWhile, List.reverse_reverse]
  have zeros : behind = List.replicate behind.length '0' := by
    refine List.eq_replicate_of_mem (fun character member => ?_)
    simpa using List.mem_takeWhile_imp (List.mem_reverse.mp member)
  refine ⟨digits, behind.length, by rw [← split, List.length_append], rfl, ?_, ?_, ?_⟩
  · intro character member
    have member : character ∈ Nat.toDigits 10 point := split ▸ List.mem_append_left behind member
    exact Nat.isDigit_of_mem_toDigits (by decide) (by decide) member
  · obtain ⟨digit, rest, positive, small, same⟩ := Json.Reader.toDigits_head some
    rw [← split] at same
    refine ⟨digit, ?_⟩
    generalize digits = digits at same
    cases digits with
    | nil =>
      -- The first digit is not zero, so it stays.
      rw [List.nil_append] at same
      have zero := List.eq_of_mem_replicate (zeros ▸ same ▸ List.mem_cons_self)
      have other : ∀ number, number < 10 → 0 < number → Nat.digitChar number ≠ '0' := by decide
      exact absurd zero (other digit small positive)
    | cons first others =>
      rw [List.cons_append, List.cons.injEq] at same
      exact ⟨others, positive, small, by rw [same.1]⟩
  · rw [Nat.mul_comm, ← Nat.ofDigitChars_replicate_zero, ← zeros, ← Nat.ofDigitChars_append, split]
    exact Nat.ofDigitChars_ten_toDigits

namespace Binary64

theorem powerOfTen_eq (exponent : Int) :
    ((powerOfTen exponent).1 : ℚ) / (powerOfTen exponent).2 = 10 ^ exponent ∧
      0 < (powerOfTen exponent).1 ∧ 0 < (powerOfTen exponent).2 := by
  cases exponent with
  | ofNat exponent => simp [powerOfTen]
  | negSucc exponent => simp [powerOfTen, zpow_negSucc]

namespace Interval

structure Around (interval : Interval) (number : Binary64) : Prop where
  denominator : 0 < interval.denominator
  below : 0 < interval.below
  value : (interval.value / interval.denominator : ℚ) = number.size
  above : (interval.above / interval.denominator : ℚ) =
    (number.significand + 1 / 2) * 2 ^ number.exponent

theorem around_interval {number : Binary64} (some : 0 < number.significand) :
    number.interval.Around number := by
  let unit := (scale 1 1 (number.exponent - 2)).1
  let denominator := (scale 1 1 (number.exponent - 2)).2
  have bottom : 0 < denominator := scale_positive Nat.one_pos _
  have quarter : (unit / denominator : ℚ) = 2 ^ number.exponent / 4 := by
    rw [scale_eq, zpow_sub₀ two_ne_zero]
    norm_num
  have top : 0 < unit := by
    refine Nat.pos_of_ne_zero (fun none => ?_)
    have power : (0 : ℚ) < 2 ^ number.exponent := zpow_pos two_pos _
    rw [none, Nat.cast_zero, zero_div] at quarter
    linarith
  refine ⟨bottom, ?_, ?_, ?_⟩
  · refine Nat.mul_pos top (Nat.sub_pos_of_lt ?_)
    split <;> omega
  · change ((unit * (4 * number.significand) : Nat) / denominator : ℚ) = _
    rw [size, Nat.cast_mul, mul_comm, mul_div_assoc, quarter]
    push_cast
    ring
  · change ((unit * (4 * number.significand + 2) : Nat) / denominator : ℚ) = _
    rw [Nat.cast_mul, mul_comm, mul_div_assoc, quarter]
    push_cast
    ring

section Points

variable {interval : Interval} {number : Binary64} {numerator denominator count point : Nat}

theorem contains_bounds (around : interval.Around number) (some : 0 < denominator)
    (contained : interval.contains numerator denominator = true) :
    0 < numerator ∧
      (numerator / denominator : ℚ) ≤ (number.significand + 1 / 2) * 2 ^ number.exponent := by
  have within : interval.below * denominator ≤ numerator * interval.denominator ∧
      numerator * interval.denominator ≤ interval.above * denominator := by
    unfold contains at contained
    split at contained
    next => simpa using contained
    next =>
      have strict : interval.below * denominator < numerator * interval.denominator ∧
          numerator * interval.denominator < interval.above * denominator := by simpa using contained
      exact ⟨strict.1.le, strict.2.le⟩
  have positive := Nat.mul_pos around.below some
  refine ⟨Nat.pos_of_mul_pos_right (Nat.lt_of_lt_of_le positive within.1), ?_⟩
  have bottom : (0 : ℚ) < interval.denominator := by exact_mod_cast around.denominator
  have divisor : (0 : ℚ) < denominator := by exact_mod_cast some
  rw [← around.above, div_le_div_iff₀ divisor bottom]
  exact_mod_cast within.2

theorem div_lt_power {value divisor places digits : Nat} (some : 0 < divisor)
    (below : value * Nat.pow 10 places / divisor < 10 ^ digits) :
    (value / divisor : ℚ) < 10 ^ (digits - places : Int) := by
  have bottom : (0 : ℚ) < divisor := by exact_mod_cast some
  have whole : value * 10 ^ places < 10 ^ digits * divisor := (Nat.div_lt_iff_lt_mul some).mp below
  have whole : (value * 10 ^ places : ℚ) < 10 ^ digits * divisor := by exact_mod_cast whole
  rw [zpow_sub₀ (by norm_num), zpow_natCast, zpow_natCast, div_lt_div_iff₀ bottom (by positivity)]
  exact whole

theorem leading_eq (interval : Interval) : ∃ digits : Nat,
    digits = (Nat.toDigits 10
      (interval.value * Nat.pow 10 leadingPlaces / interval.denominator)).length ∧
    interval.leading = Int.ofNat digits - Int.ofNat (leadingPlaces + 1) :=
  ⟨_, rfl, rfl⟩

theorem size_lt_leading (around : interval.Around number) :
    number.size < 10 ^ (interval.leading + 1) := by
  obtain ⟨digits, length, leading⟩ := interval.leading_eq
  have some : 0 < digits := length ▸ List.length_pos_iff.mpr Nat.toDigits_ne_nil
  have below := (Nat.length_toDigits_le_iff (by decide) some).mp length.ge
  have exponent : interval.leading + 1 = (digits : Int) - (leadingPlaces : Nat) := by
    simp only [Int.ofNat_eq_natCast] at leading
    omega
  rw [← around.value, exponent]
  exact div_lt_power around.denominator below

theorem pointOfLength?_eq_some (found : interval.pointOfLength? count = some point) :
    ∃ power, power = powerOfTen (interval.leading + 1 - Int.ofNat count) ∧
      interval.contains (point * power.1) power.2 = true ∧
      point ≤ interval.value * power.2 / (interval.denominator * power.1) + 1 := by
  -- The function is opened as a whole: on an argument its power would be computed.
  have opened : @pointOfLength? = @pointOfLength? := rfl
  conv_rhs at opened => delta pointOfLength?
  rw [opened] at found
  clear opened
  beta_reduce at found
  refine ⟨_, rfl, ?_⟩
  generalize powerOfTen (interval.leading + 1 - Int.ofNat count) = power at found ⊢
  obtain ⟨numerator, denominator⟩ := power
  dsimp only at found ⊢
  generalize interval.value * denominator / (interval.denominator * numerator) = floor at found ⊢
  cases below : interval.contains (floor * numerator) denominator <;>
  cases above : interval.contains ((floor + 1) * numerator) denominator <;>
  rw [below, above] at found <;> dsimp only at found
  · cases found
  · cases found
    exact ⟨above, Nat.le_refl _⟩
  · cases found
    exact ⟨below, Nat.le_succ _⟩
  · split at found
    next =>
      cases found
      exact ⟨below, Nat.le_succ _⟩
    next =>
      cases found
      exact ⟨above, Nat.le_refl _⟩

theorem pointOfLength?_spec (around : interval.Around number)
    (found : interval.pointOfLength? count = some point) :
    0 < point ∧ point ≤ 10 ^ count ∧
      (point * 10 ^ (interval.leading + 1 - Int.ofNat count) : ℚ) ≤
        (number.significand + 1 / 2) * 2 ^ number.exponent := by
  obtain ⟨fraction, same, contained, near⟩ := pointOfLength?_eq_some found
  obtain ⟨power, top, bottom⟩ := powerOfTen_eq (interval.leading + 1 - Int.ofNat count)
  rw [← same] at power top bottom
  obtain ⟨positive, bound⟩ := contains_bounds around bottom contained
  refine ⟨Nat.pos_of_mul_pos_right positive, ?_, ?_⟩
  · refine Nat.le_trans near (Nat.succ_le_of_lt ?_)
    rw [Nat.div_lt_iff_lt_mul (Nat.mul_pos around.denominator top)]
    have lead := size_lt_leading around
    have places : (10 : ℚ) ^ (interval.leading + 1) =
        10 ^ count * 10 ^ (interval.leading + 1 - Int.ofNat count) := by
      rw [← zpow_natCast, ← zpow_add₀ (by norm_num)]
      congr 1
      simp only [Int.ofNat_eq_natCast]
      omega
    have divisor : (0 : ℚ) < interval.denominator := by exact_mod_cast around.denominator
    have bottom : (0 : ℚ) < fraction.2 := by exact_mod_cast bottom
    rw [← around.value, places, ← power, ← mul_div_assoc, div_lt_div_iff₀ divisor bottom] at lead
    have whole : interval.value * fraction.2 < 10 ^ count * fraction.1 * interval.denominator := by
      exact_mod_cast lead
    rwa [Nat.mul_assoc, Nat.mul_comm fraction.1] at whole
  · rw [← power, ← mul_div_assoc]
    exact_mod_cast bound

end Points

end Interval

/-- What is known of the shortest decimal of a positive number, unless the search for it failed. -/
structure ShortestOf (number : Binary64) (decimal : Decimal) : Prop where
  proper : decimal.Proper
  least : -420 ≤ decimal.exponent
  value : decimal.value ≤ (number.significand + 1 / 2) * 2 ^ number.exponent

theorem shortestOf_point {number : Binary64} {interval : Interval} {count point : Nat}
    (around : interval.Around number) (few : 1 ≤ count ∧ count ≤ 17)
    (found : interval.pointOfLength? count = some point) {decimal : Decimal}
    (digits : decimal.digits = ((Nat.toDigits 10 point).reverse.dropWhile (· = '0')).reverse)
    (exponent : decimal.exponent =
      interval.leading + Int.ofNat (Nat.toDigits 10 point).length - Int.ofNat count) :
    number.ShortestOf decimal := by
  obtain ⟨some, bound, near⟩ := Interval.pointOfLength?_spec around found
  obtain ⟨kept, zeros, length, stripped, each, first, worth⟩ := exists_trailing_zeros some
  rw [stripped] at digits
  have lead : -401 ≤ interval.leading := by
    obtain ⟨digits, -, leading⟩ := interval.leading_eq
    simp only [leading, leadingPlaces, Int.ofNat_eq_natCast]
    omega
  have short : (Nat.toDigits 10 point).length ≤ 18 := by
    rw [Nat.length_toDigits_le_iff (by decide) (by decide)]
    have power : 10 ^ count ≤ 10 ^ 17 := Nat.pow_le_pow_right (by decide) few.2
    omega
  refine ⟨⟨?_, ?_, ?_⟩, ?_, ?_⟩
  · rwa [digits]
  · rwa [digits]
  · rw [digits]
    omega
  · rw [exponent]
    have some : 0 < (Nat.toDigits 10 point).length := List.length_pos_iff.mpr Nat.toDigits_ne_nil
    simp only [Int.ofNat_eq_natCast]
    omega
  · -- The zeros at the end of the point have gone into the exponent.
    have last : decimal.lastExponent = zeros + (interval.leading + 1 - Int.ofNat count) := by
      rw [Decimal.lastExponent, exponent, digits, length]
      simp only [Int.ofNat_eq_natCast]
      omega
    have word : (decimal.word * 10 ^ zeros : ℚ) = point := by
      rw [Decimal.word, digits]
      exact_mod_cast worth
    rw [Decimal.value, last, zpow_add₀ (by norm_num), zpow_natCast, ← mul_assoc, word]
    exact near

theorem shortest_spec {number : Binary64} (some : 0 < number.significand) :
    number.shortest = { digits := ['0'], exponent := 0 } ∨ number.ShortestOf number.shortest := by
  have around := Interval.around_interval some
  have opened : @shortest = @shortest := rfl
  conv_rhs at opened => delta shortest
  rw [opened]
  clear opened
  beta_reduce
  extract_lets interval
  generalize search : List.findSome? _ _ = found
  rcases found with _ | ⟨count, point⟩
  · exact .inl rfl
  · obtain ⟨tried, member, taken⟩ := List.exists_of_findSome?_eq_some search
    obtain ⟨_, pointed, same⟩ := Option.map_eq_some_iff.mp taken
    cases same
    have few := List.mem_range'_1.mp member
    exact .inr (shortestOf_point around (by omega) pointed rfl rfl)

end Binary64

end LedgerNode
