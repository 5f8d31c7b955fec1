import LedgerNode.Json.Numeral
import LedgerNode.Proofs.Number.Rounding

set_option autoImplicit false

namespace LedgerNode

namespace Binary64

section Operations

variable {left right result : Binary64}

theorem size_nonneg (number : Binary64) : 0 ≤ number.size := by
  rw [size]
  positivity

theorem significand_pos_of_size {number : Binary64} (positive : 0 < number.size) :
    0 < number.significand := by
  refine Nat.pos_of_ne_zero (fun zero => ?_)
  rw [size, zero, Nat.cast_zero, zero_mul] at positive
  exact lt_irrefl _ positive

theorem multiply_eq (left right : Binary64) :
    ∃ numerator denominator : Nat, 0 < denominator ∧
      (numerator / denominator : ℚ) = left.size * right.size ∧
      left.multiply right = nearest (left.negative != right.negative) numerator denominator := by
  let fraction := scale (left.significand * right.significand) 1 (left.exponent + right.exponent)
  refine ⟨fraction.1, fraction.2, scale_positive Nat.one_pos _, ?_, rfl⟩
  rw [scale_eq, zpow_add₀ two_ne_zero, size, size]
  push_cast
  ring

theorem divide_eq (left : Binary64) (positive : 0 < right.size) :
    ∃ numerator denominator : Nat, 0 < denominator ∧
      (numerator / denominator : ℚ) = left.size / right.size ∧
      left.divide right = nearest (left.negative != right.negative) numerator denominator := by
  have some := significand_pos_of_size positive
  let fraction := scale left.significand right.significand (left.exponent - right.exponent)
  refine ⟨fraction.1, fraction.2, scale_positive some _, ?_, rfl⟩
  rw [scale_eq, zpow_sub₀ two_ne_zero, size, size]
  field_simp

theorem multiply_isSome (fits : left.size * right.size < overflow) :
    (left.multiply right).isSome = true := by
  obtain ⟨numerator, denominator, some, exact, same⟩ := multiply_eq left right
  rw [same]
  exact nearest_isSome _ some (exact ▸ fits)

theorem finite_of_multiply (multiplied : left.multiply right = some result) : result.Finite := by
  obtain ⟨numerator, denominator, some, -, same⟩ := multiply_eq left right
  exact finite_of_nearest some (same.symm.trans multiplied)

theorem divide_isSome (positive : 0 < right.size) (fits : left.size / right.size < overflow) :
    (left.divide right).isSome = true := by
  obtain ⟨numerator, denominator, some, exact, same⟩ := divide_eq left positive
  rw [same]
  exact nearest_isSome _ some (exact ▸ fits)

theorem finite_of_divide (positive : 0 < right.size) (divided : left.divide right = some result) :
    result.Finite := by
  obtain ⟨numerator, denominator, some, -, same⟩ := divide_eq left positive
  exact finite_of_nearest some (same.symm.trans divided)

end Operations

theorem Finite.size_lt {number : Binary64} (finite : number.Finite) : number.size < overflow := by
  have significand : (number.significand : ℚ) ≤ 2 ^ 53 - 1 := by
    have whole : number.significand + 1 ≤ 2 ^ 53 := finite.significand
    have whole : (number.significand + 1 : ℚ) ≤ 2 ^ 53 := by exact_mod_cast whole
    linarith
  have unit : (2 : ℚ) ^ number.exponent ≤ 2 ^ maxExponent :=
    zpow_le_zpow_right₀ one_le_two finite.most
  rw [size, overflow_eq]
  calc (number.significand : ℚ) * 2 ^ number.exponent ≤ (2 ^ 53 - 1) * 2 ^ maxExponent :=
      mul_le_mul significand unit (by positivity) (by norm_num)
    _ < (2 ^ 53 - 1 / 2) * 2 ^ maxExponent :=
      mul_lt_mul_of_pos_right (by norm_num) (zpow_pos two_pos _)

theorem least_le : (2 : ℚ) ^ minExponent ≤ 1 / 2 ^ 60 := by
  have bound : (2 : ℚ) ^ minExponent ≤ 2 ^ (-60 : Int) := zpow_le_zpow_right₀ one_le_two (by decide)
  simpa [zpow_neg] using bound

structure Near (exact : Nat) (number : Binary64) : Prop where
  above : number.size ≤ exact * (1 + 1 / 2 ^ 53 + 1 / 2 ^ 60)
  below : (exact / 2 : ℚ) ≤ number.size

theorem near_ofNat {exact : Nat} (some : 0 < exact) (fits : (exact : ℚ) < overflow) :
    ∃ number, ofNat exact = .some number ∧ Near exact number := by
  have whole : ((exact : ℚ) / (1 : Nat)) = exact := by simp
  have rounds : (nearest false exact 1).isSome = true :=
    nearest_isSome false Nat.one_pos (whole.symm ▸ fits)
  obtain ⟨number, rounds⟩ := Option.isSome_iff_exists.mp rounds
  obtain ⟨above, below⟩ := size_of_nearest Nat.one_pos rounds
  rw [whole] at above below
  have one : (1 : ℚ) ≤ exact := by exact_mod_cast some
  have least := least_le
  exact ⟨number, rounds, by linarith, by linarith⟩

theorem finite_ofNat {value : Nat} {number : Binary64} (rounds : ofNat value = some number) :
    number.Finite :=
  finite_of_nearest Nat.one_pos rounds

end Binary64

namespace Json

open Binary64

theorem power_lt_overflow : (10 : ℚ) ^ largestPower < overflow := by
  have whole : 10 ^ largestPower + 2 ^ 970 < 2 ^ 54 * 2 ^ 970 := by decide +kernel
  have whole : (10 : ℚ) ^ largestPower + 2 ^ 970 < 2 ^ 54 * 2 ^ 970 := by exact_mod_cast whole
  rw [overflow, sub_mul, one_mul]
  exact lt_sub_iff_add_lt.mpr whole

theorem overflow_lt_power : overflow < 10 ^ (largestPower + 1) := by
  have whole : 2 ^ 54 * 2 ^ 970 < 10 ^ (largestPower + 1) := by decide +kernel
  have whole : (2 : ℚ) ^ 54 * 2 ^ 970 < 10 ^ (largestPower + 1) := by exact_mod_cast whole
  refine lt_of_le_of_lt (mul_le_mul_of_nonneg_right ?_ (by positivity)) whole
  exact sub_le_self _ zero_le_one

theorem near_powerOfTen {exponent : Nat} (small : exponent ≤ largestPower) :
    Near (10 ^ exponent) (powerOfTen exponent) := by
  have power : (10 : ℚ) ^ exponent ≤ 10 ^ largestPower := pow_le_pow_right₀ (by norm_num) small
  have fits : ((10 ^ exponent : Nat) : ℚ) < overflow := by
    rw [Nat.cast_pow]
    exact lt_of_le_of_lt power power_lt_overflow
  obtain ⟨number, rounds, near⟩ := near_ofNat (Nat.pow_pos (by decide)) fits
  have same : powerOfTen exponent = number := by
    rw [powerOfTen, show Nat.pow 10 exponent = 10 ^ exponent from rfl, rounds]
    rfl
  rwa [same]

section Scaling

variable {value result : Binary64} {steps exponent : Nat}

theorem one_le_powerOfTen (some : exponent ≠ 0) (small : exponent ≤ largestPower) :
    1 ≤ (powerOfTen exponent).size := by
  have near := (near_powerOfTen small).below
  have ten : 10 ^ 1 ≤ 10 ^ exponent := Nat.pow_le_pow_right (by decide) (Nat.pos_of_ne_zero some)
  have ten : (10 : ℚ) ≤ (10 ^ exponent : Nat) := by exact_mod_cast ten
  linarith

theorem size_powerOfTen_pos (small : exponent ≤ largestPower) : 0 < (powerOfTen exponent).size := by
  have near := (near_powerOfTen small).below
  have positive : (0 : ℚ) < (10 ^ exponent : Nat) := by positivity
  linarith

theorem finite_of_scaleByTen {exponent : Int} (finite : value.Finite)
    (scaled : scaleByTen value steps exponent = some result) : result.Finite := by
  fun_induction scaleByTen value steps exponent with
  | case1 => exact finite_of_multiply scaled
  | case2 =>
    cases scaled
    exact finite
  | case3 => cases scaled
  | case4 value steps below small => exact finite_of_divide (size_powerOfTen_pos small) scaled
  | case5 =>
    cases scaled
    exact finite
  | case6 value below _ _ steps smaller divided ih =>
    exact ih (finite_of_divide (size_powerOfTen_pos (Nat.le_refl _)) divided) scaled
  | case7 =>
    cases scaled
    exact finite_zero _

theorem scaleByTen_isSome_of_neg {exponent : Int} (negative : exponent < 0)
    (finite : value.Finite) : (scaleByTen value steps exponent).isSome = true := by
  -- A negative power of ten takes no number out of the range.
  have divides {value : Binary64} {exponent : Nat} (finite : value.Finite) (some : exponent ≠ 0)
      (small : exponent ≤ largestPower) : (value.divide (powerOfTen exponent)).isSome = true := by
    refine divide_isSome (size_powerOfTen_pos small) ?_
    exact lt_of_le_of_lt (div_le_self value.size_nonneg (one_le_powerOfTen some small)) finite.size_lt
  fun_induction scaleByTen value steps exponent with
  | case1 | case2 | case3 => exact absurd negative (by simp)
  | case4 value steps below small => exact divides finite (Nat.succ_ne_zero _) small
  | case5 => rfl
  | case6 value below _ _ steps smaller divided ih =>
    exact ih (Int.negSucc_lt_zero _) (finite_of_divide (size_powerOfTen_pos (Nat.le_refl _)) divided)
  | case7 => rfl

theorem scaleByTen_isSome_of_near {exact : Nat} (near : Near exact value) (small : exponent ≤ largestPower)
    (fits : (exact * 10 ^ exponent : ℚ) ≤ (2 ^ 53 - 7 / 2) * 2 ^ maxExponent) :
    (scaleByTen value steps (.ofNat exponent)).isSome = true := by
  -- Three units below the largest number, two roundings cannot leave the range.
  have power := (near_powerOfTen small).above
  rw [Nat.cast_pow, Nat.cast_ofNat] at power
  have product : value.size * (powerOfTen exponent).size < overflow := by
    calc value.size * (powerOfTen exponent).size
        ≤ (exact * (1 + 1 / 2 ^ 53 + 1 / 2 ^ 60)) * (10 ^ exponent * (1 + 1 / 2 ^ 53 + 1 / 2 ^ 60)) :=
          mul_le_mul near.above power (size_nonneg _) (by positivity)
      _ = exact * 10 ^ exponent * (1 + 1 / 2 ^ 53 + 1 / 2 ^ 60) ^ 2 := by ring
      _ ≤ (2 ^ 53 - 7 / 2) * 2 ^ maxExponent * (1 + 1 / 2 ^ 53 + 1 / 2 ^ 60) ^ 2 :=
          mul_le_mul_of_nonneg_right fits (by positivity)
      _ = (2 ^ 53 - 7 / 2) * (1 + 1 / 2 ^ 53 + 1 / 2 ^ 60) ^ 2 * 2 ^ maxExponent := by ring
      _ < (2 ^ 53 - 1 / 2) * 2 ^ maxExponent :=
          mul_lt_mul_of_pos_right (by norm_num) (zpow_pos two_pos _)
      _ = overflow := overflow_eq.symm
  rw [scaleByTen, if_pos small]
  exact multiply_isSome product

end Scaling

namespace Scaled

variable {negative : Bool} {decimal : Scaled} {result : Binary64}

theorem finite_of_toFloat (scaled : decimal.toFloat negative = some result) : result.Finite := by
  unfold toFloat at scaled
  split at scaled
  next => cases scaled
  next value rounds =>
    obtain ⟨number, inner, rfl⟩ := Option.map_eq_some_iff.mp scaled
    have finite := finite_of_scaleByTen (finite_ofNat rounds) inner
    exact ⟨finite.significand, finite.least, finite.most⟩

theorem word_lt_overflow {word : Nat} (small : word < UInt64.size) : (word : ℚ) < overflow := by
  have power : UInt64.size ≤ 10 ^ largestPower := by decide +kernel
  have below : (word : ℚ) ≤ 10 ^ largestPower := by exact_mod_cast (Nat.le_trans small.le power)
  exact lt_of_le_of_lt below power_lt_overflow

theorem toFloat_isSome_of_neg (word : decimal.significand < UInt64.size) (below : decimal.exponent < 0) :
    (decimal.toFloat negative).isSome = true := by
  have rounds : (ofNat decimal.significand).isSome = true :=
    nearest_isSome false Nat.one_pos (by simpa using word_lt_overflow word)
  obtain ⟨value, rounds⟩ := Option.isSome_iff_exists.mp rounds
  simp only [toFloat, rounds, Option.isSome_map]
  exact scaleByTen_isSome_of_neg below (finite_ofNat rounds)

theorem toFloat_isSome (word : decimal.significand < UInt64.size) (some : 0 < decimal.significand)
    (fits : (decimal.significand * 10 ^ decimal.exponent : ℚ) ≤ (2 ^ 53 - 7 / 2) * 2 ^ maxExponent) :
    (decimal.toFloat negative).isSome = true := by
  obtain ⟨significand, exponent⟩ := decimal
  cases exponent with
  | negSucc below => exact toFloat_isSome_of_neg word (Int.negSucc_lt_zero below)
  | ofNat exponent =>
    simp only [Int.ofNat_eq_natCast, zpow_natCast] at word some fits
    obtain ⟨value, rounds, near⟩ := near_ofNat some (word_lt_overflow word)
    have small : exponent ≤ largestPower := by
      by_contra large
      have power : (10 : ℚ) ^ (largestPower + 1) ≤ 10 ^ exponent :=
        pow_le_pow_right₀ (by norm_num) (Nat.lt_of_not_le large)
      have one : (1 : ℚ) ≤ significand := by exact_mod_cast some
      have value : (10 : ℚ) ^ exponent ≤ significand * 10 ^ exponent :=
        le_mul_of_one_le_left (by positivity) one
      have limit : (2 ^ 53 - 7 / 2 : ℚ) * 2 ^ maxExponent < overflow := by
        rw [overflow_eq]
        exact mul_lt_mul_of_pos_right (by norm_num) (zpow_pos two_pos _)
      exact absurd (lt_of_lt_of_le overflow_lt_power power) (not_lt.mpr (by linarith))
    simp only [toFloat, rounds, Option.isSome_map]
    exact scaleByTen_isSome_of_near near small fits

end Scaled

end Json

end LedgerNode
