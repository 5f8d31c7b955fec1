import LedgerNode.Number.Binary64
import Mathlib.Algebra.Order.Field.Power
import Mathlib.Data.Nat.Log
import Mathlib.Tactic.FieldSimp
import Mathlib.Tactic.Linarith
import Mathlib.Tactic.NormNum
import Mathlib.Tactic.Positivity
import Mathlib.Tactic.Ring

set_option autoImplicit false

namespace LedgerNode.Binary64

def size (number : Binary64) : ℚ :=
  number.significand * 2 ^ number.exponent

structure Finite (number : Binary64) : Prop where
  significand : number.significand < significandLimit
  least : minExponent ≤ number.exponent
  most : number.exponent ≤ maxExponent

def unitExponent (numerator denominator : Nat) : Int :=
  let guess : Int := Int.ofNat numerator.log2 - Int.ofNat denominator.log2 - Int.ofNat precision
  let (top, bottom) := scale numerator denominator (-guess)
  max minExponent (if top / bottom < significandLimit then guess else guess + 1)

def roundedUnits (numerator denominator : Nat) : Nat :=
  let (top, bottom) := scale numerator denominator (-unitExponent numerator denominator)
  roundDivide top bottom

section Division

variable {numerator denominator : Nat}

theorem roundDivide_le (some : 0 < denominator) :
    (roundDivide numerator denominator : ℚ) ≤ numerator / denominator + 1 / 2 := by
  have positive : (0 : ℚ) < denominator := by exact_mod_cast some
  have parts := Nat.div_add_mod numerator denominator
  suffices whole : 2 * (denominator * roundDivide numerator denominator) ≤ 2 * numerator + denominator by
    have whole : (2 * (denominator * roundDivide numerator denominator) : ℚ) ≤
        2 * numerator + denominator := by exact_mod_cast whole
    rw [div_add_div _ _ positive.ne' two_ne_zero, le_div_iff₀ (by positivity)]
    linarith
  unfold roundDivide
  simp only [Bool.or_eq_true, Bool.and_eq_true, decide_eq_true_eq]
  split
  next up =>
    rw [Nat.mul_add, Nat.mul_one]
    omega
  next => omega

theorem le_roundDivide (some : 0 < denominator) :
    (numerator / denominator : ℚ) ≤ roundDivide numerator denominator + 1 / 2 := by
  have positive : (0 : ℚ) < denominator := by exact_mod_cast some
  have parts := Nat.div_add_mod numerator denominator
  have small := Nat.mod_lt numerator some
  suffices whole : 2 * numerator ≤ 2 * (denominator * roundDivide numerator denominator) + denominator by
    have whole : (2 * numerator : ℚ) ≤
        2 * (denominator * roundDivide numerator denominator) + denominator := by exact_mod_cast whole
    rw [div_le_iff₀ positive]
    linarith
  unfold roundDivide
  simp only [Bool.or_eq_true, Bool.and_eq_true, decide_eq_true_eq]
  split
  next =>
    rw [Nat.mul_add, Nat.mul_one]
    omega
  next => omega

theorem scale_positive (some : 0 < denominator) (shift : Int) :
    0 < (scale numerator denominator shift).2 := by
  cases shift with
  | ofNat shift => exact some
  | negSucc shift =>
    rw [scale, Nat.shiftLeft_eq]
    positivity

theorem scale_eq (numerator denominator : Nat) (shift : Int) :
    ((scale numerator denominator shift).1 : ℚ) / (scale numerator denominator shift).2 =
      numerator / denominator * 2 ^ shift := by
  cases shift with
  | ofNat shift =>
    simp only [scale, Nat.shiftLeft_eq, Int.ofNat_eq_natCast, zpow_natCast]
    push_cast
    ring
  | negSucc shift =>
    simp only [scale, Nat.shiftLeft_eq, zpow_negSucc]
    push_cast
    rw [div_mul_eq_div_div]
    ring

theorem log2_le_cast {value : Nat} (some : value ≠ 0) : (2 : ℚ) ^ (value.log2 : Int) ≤ value := by
  rw [zpow_natCast]
  exact_mod_cast Nat.log2_self_le some

theorem cast_lt_log2 (value : Nat) : (value : ℚ) < 2 ^ ((value.log2 : Int) + 1) := by
  have bound : value < 2 ^ (value.log2 + 1) := Nat.lt_log2_self
  have bound : (value : ℚ) < 2 ^ (value.log2 + 1) := by exact_mod_cast bound
  rwa [← zpow_natCast, Nat.cast_add, Nat.cast_one] at bound

end Division

section Units

variable {numerator denominator : Nat}

theorem div_lt_two_zpow (some : 0 < denominator) :
    (numerator / denominator : ℚ) < 2 ^ (Int.ofNat numerator.log2 - Int.ofNat denominator.log2 + 1) := by
  have positive : (0 : ℚ) < denominator := by exact_mod_cast some
  have above := cast_lt_log2 numerator
  have below := log2_le_cast some.ne'
  rw [div_lt_iff₀ positive]
  calc (numerator : ℚ) < 2 ^ ((numerator.log2 : Int) + 1) := above
    _ = 2 ^ (Int.ofNat numerator.log2 - Int.ofNat denominator.log2 + 1) * 2 ^ (denominator.log2 : Int) := by
      rw [← zpow_add₀ two_ne_zero]
      congr 1
      simp only [Int.ofNat_eq_natCast]
      omega
    _ ≤ _ := by gcongr

theorem two_zpow_lt_div (some : 0 < denominator) (more : numerator ≠ 0) :
    (2 : ℚ) ^ (Int.ofNat numerator.log2 - Int.ofNat denominator.log2 - 1) < numerator / denominator := by
  have positive : (0 : ℚ) < denominator := by exact_mod_cast some
  have above := cast_lt_log2 denominator
  have below := log2_le_cast more
  rw [lt_div_iff₀ positive]
  calc (2 : ℚ) ^ (Int.ofNat numerator.log2 - Int.ofNat denominator.log2 - 1) * denominator
      < 2 ^ (Int.ofNat numerator.log2 - Int.ofNat denominator.log2 - 1) *
          2 ^ ((denominator.log2 : Int) + 1) := by gcongr
    _ = 2 ^ (numerator.log2 : Int) := by
      rw [← zpow_add₀ two_ne_zero]
      congr 1
      simp only [Int.ofNat_eq_natCast]
      omega
    _ ≤ numerator := below

theorem lt_of_div_lt {limit : Nat} {shift : Int} (some : 0 < denominator)
    (small : (scale numerator denominator (-shift)).1 / (scale numerator denominator (-shift)).2 < limit) :
    (numerator / denominator : ℚ) < limit * 2 ^ shift := by
  have bottom : 0 < (scale numerator denominator (-shift)).2 := scale_positive some _
  have whole := (Nat.div_lt_iff_lt_mul bottom).mp small
  have whole : ((scale numerator denominator (-shift)).1 : ℚ) <
      limit * (scale numerator denominator (-shift)).2 := by exact_mod_cast whole
  rw [← div_lt_iff₀ (by exact_mod_cast bottom), scale_eq, zpow_neg, ← div_eq_mul_inv,
    div_lt_iff₀ (by positivity)] at whole
  exact whole

theorem le_of_le_div {limit : Nat} {shift : Int} (some : 0 < denominator)
    (large : limit ≤ (scale numerator denominator (-shift)).1 / (scale numerator denominator (-shift)).2) :
    (limit * 2 ^ shift : ℚ) ≤ numerator / denominator := by
  have bottom : 0 < (scale numerator denominator (-shift)).2 := scale_positive some _
  have whole := (Nat.le_div_iff_mul_le bottom).mp large
  have whole : (limit * (scale numerator denominator (-shift)).2 : ℚ) ≤
      (scale numerator denominator (-shift)).1 := by exact_mod_cast whole
  rw [← le_div_iff₀ (by exact_mod_cast bottom), scale_eq, zpow_neg, ← div_eq_mul_inv,
    le_div_iff₀ (by positivity)] at whole
  exact whole

theorem div_lt_units (numerator : Nat) (some : 0 < denominator) :
    (numerator / denominator : ℚ) < 2 ^ 53 * 2 ^ unitExponent numerator denominator := by
  have raise {low high : Int} (under : low ≤ high) : (2 ^ 53 * 2 ^ low : ℚ) ≤ 2 ^ 53 * 2 ^ high := by
    gcongr
    exact one_le_two
  unfold unitExponent
  simp only
  split
  next small =>
    have below := lt_of_div_lt some small
    have limit : (significandLimit : ℚ) = 2 ^ 53 := by norm_num [significandLimit]
    rw [limit] at below
    exact lt_of_lt_of_le below (raise (le_max_right _ _))
  next =>
    refine lt_of_lt_of_le (div_lt_two_zpow some) (le_trans (le_of_eq ?_) (raise (le_max_right _ _)))
    rw [show (2 : ℚ) ^ 53 = 2 ^ (53 : Int) from rfl, ← zpow_add₀ two_ne_zero]
    congr 1
    simp only [precision, Int.ofNat_eq_natCast]
    omega

theorem units_le_div (some : 0 < denominator) (more : numerator ≠ 0)
    (above : minExponent < unitExponent numerator denominator) :
    (2 ^ 52 * 2 ^ unitExponent numerator denominator : ℚ) ≤ numerator / denominator := by
  unfold unitExponent at above ⊢
  simp only at above ⊢
  split
  next small =>
    rw [if_pos small] at above
    rw [max_eq_right (by omega)]
    refine le_of_eq_of_le ?_ (two_zpow_lt_div some more).le
    rw [show (2 : ℚ) ^ 52 = 2 ^ (52 : Int) from rfl, ← zpow_add₀ two_ne_zero]
    congr 1
    simp only [precision, Int.ofNat_eq_natCast]
    omega
  next large =>
    rw [if_neg large] at above
    rw [max_eq_right (by omega)]
    refine le_of_eq_of_le ?_ (le_of_le_div some (Nat.le_of_not_lt large))
    rw [significandLimit, zpow_add₀ two_ne_zero]
    norm_num
    ring

theorem roundedUnits_bounds (numerator : Nat) (some : 0 < denominator) :
    (roundedUnits numerator denominator : ℚ) ≤
        numerator / denominator / 2 ^ unitExponent numerator denominator + 1 / 2 ∧
      (numerator / denominator / 2 ^ unitExponent numerator denominator : ℚ) ≤
        roundedUnits numerator denominator + 1 / 2 := by
  have bottom : 0 < (scale numerator denominator (-unitExponent numerator denominator)).2 :=
    scale_positive some _
  have exact := scale_eq numerator denominator (-unitExponent numerator denominator)
  rw [zpow_neg, ← div_eq_mul_inv] at exact
  rw [← exact]
  exact ⟨roundDivide_le bottom, le_roundDivide bottom⟩

theorem roundedUnits_le (numerator : Nat) (some : 0 < denominator) :
    roundedUnits numerator denominator ≤ significandLimit := by
  have below := div_lt_units numerator some
  rw [← div_lt_iff₀ (by positivity)] at below
  have rounded : (roundedUnits numerator denominator : ℚ) < 2 ^ 53 + 1 := by
    linarith [(roundedUnits_bounds numerator some).1]
  exact Nat.lt_succ_iff.mp (by exact_mod_cast rounded)

theorem nearest_eq (negative : Bool) (more : numerator ≠ 0) :
    nearest negative numerator denominator =
      if roundedUnits numerator denominator = significandLimit then
        if maxExponent < unitExponent numerator denominator + 1 then none
        else some {
          negative
          significand := leastNormal
          exponent := unitExponent numerator denominator + 1 }
      else if maxExponent < unitExponent numerator denominator then none
      else some {
        negative
        significand := roundedUnits numerator denominator
        exponent := unitExponent numerator denominator } := by
  -- A carry into the next power of two moves the unit.
  let placed (significand : Nat) (exponent : Int) : Option Binary64 :=
    if maxExponent < exponent then none else some { negative, significand, exponent }
  have carried : nearest negative numerator denominator =
      Function.uncurry placed (if roundedUnits numerator denominator = significandLimit then
        (leastNormal, unitExponent numerator denominator + 1)
      else (roundedUnits numerator denominator, unitExponent numerator denominator)) := by
    rw [nearest, if_neg more]
    rfl
  rw [carried]
  by_cases carry : roundedUnits numerator denominator = significandLimit
  · rw [if_pos carry, if_pos carry]
    rfl
  · rw [if_neg carry, if_neg carry]
    rfl

end Units

section Nearest

variable {numerator denominator : Nat} {number : Binary64}

def overflow : ℚ :=
  (2 ^ 54 - 1) * 2 ^ 970

theorem overflow_eq : overflow = (2 ^ 53 - 1 / 2) * 2 ^ maxExponent := by
  have unit : (2 : ℚ) ^ maxExponent = 2 * 2 ^ 970 :=
    (zpow_natCast 2 971).trans (pow_succ' 2 970)
  rw [overflow, unit]
  generalize (2 : ℚ) ^ 970 = half
  ring

theorem nearest_isSome (negative : Bool) (some : 0 < denominator)
    (fits : (numerator / denominator : ℚ) < overflow) :
    (nearest negative numerator denominator).isSome = true := by
  by_cases more : numerator = 0
  · rw [nearest, if_pos more]
    rfl
  have within : unitExponent numerator denominator ≤ maxExponent := by
    by_contra beyond
    have least := units_le_div some more (lt_trans (by decide) (Int.not_le.mp beyond))
    have unit : (2 : ℚ) ^ (maxExponent + 1) ≤ 2 ^ unitExponent numerator denominator :=
      zpow_le_zpow_right₀ one_le_two (Int.not_le.mp beyond)
    have positive : (0 : ℚ) < 2 ^ maxExponent := by positivity
    rw [zpow_add_one₀ two_ne_zero] at unit
    rw [overflow_eq] at fits
    linarith
  rw [nearest_eq negative more]
  split
  next carry =>
    -- A carry at the largest exponent takes a fraction that is half a unit below the next power.
    have below : unitExponent numerator denominator ≠ maxExponent := by
      intro last
      have bound := (roundedUnits_bounds numerator some).1
      rw [carry, last, ← sub_le_iff_le_add, le_div_iff₀ (by positivity)] at bound
      have limit : (significandLimit : ℚ) = 2 ^ 53 := by norm_num [significandLimit]
      rw [limit, ← overflow_eq] at bound
      exact absurd bound (not_le.mpr fits)
    rw [if_neg (by omega)]
    rfl
  next =>
    rw [if_neg (by omega)]
    rfl

theorem finite_zero (negative : Bool) : (zero negative).Finite where
  significand := Nat.two_pow_pos 53
  least := le_refl minExponent
  most := show minExponent ≤ maxExponent by decide

theorem finite_of_nearest {negative : Bool} (some : 0 < denominator)
    (rounds : nearest negative numerator denominator = .some number) : number.Finite := by
  by_cases more : numerator = 0
  · rw [nearest, if_pos more] at rounds
    cases rounds
    exact finite_zero negative
  have least : minExponent ≤ unitExponent numerator denominator := by
    rw [unitExponent]
    exact le_max_left _ _
  have rounded := roundedUnits_le numerator some
  rw [nearest_eq negative more] at rounds
  split at rounds
  next =>
    split at rounds
    next => cases rounds
    next within =>
      cases rounds
      have normal : leastNormal < significandLimit := by decide
      exact ⟨normal, by simp only; omega, Int.not_lt.mp within⟩
  next =>
    split at rounds
    next => cases rounds
    next within =>
      cases rounds
      exact ⟨by simp only; omega, least, Int.not_lt.mp within⟩

theorem size_eq_roundedUnits {negative : Bool} (more : numerator ≠ 0)
    (rounds : nearest negative numerator denominator = .some number) :
    number.size = roundedUnits numerator denominator * 2 ^ unitExponent numerator denominator := by
  rw [nearest_eq negative more] at rounds
  split at rounds
  next carry =>
    split at rounds
    next => cases rounds
    next =>
      cases rounds
      rw [carry, size, zpow_add_one₀ two_ne_zero, leastNormal, significandLimit]
      push_cast
      ring
  next =>
    split at rounds
    next => cases rounds
    next =>
      cases rounds
      rfl

theorem half_unit_le (some : 0 < denominator) (more : numerator ≠ 0) :
    (2 ^ unitExponent numerator denominator / 2 : ℚ) ≤
      numerator / denominator / 2 ^ 53 + 2 ^ minExponent := by
  -- Half a unit is small against the fraction, or it is half of the least unit of all.
  have positive : (0 : ℚ) ≤ numerator / denominator := by positivity
  have least : (0 : ℚ) < 2 ^ minExponent := by positivity
  by_cases above : minExponent < unitExponent numerator denominator
  · have bound := units_le_div some more above
    linarith
  · have bound : (2 : ℚ) ^ unitExponent numerator denominator ≤ 2 ^ minExponent :=
      zpow_le_zpow_right₀ one_le_two (Int.not_lt.mp above)
    have unit : (0 : ℚ) < 2 ^ unitExponent numerator denominator := by positivity
    linarith

theorem size_of_nearest {negative : Bool} (some : 0 < denominator)
    (rounds : nearest negative numerator denominator = .some number) :
    number.size ≤ numerator / denominator + (numerator / denominator / 2 ^ 53 + 2 ^ minExponent) ∧
      (numerator / denominator : ℚ) ≤
        number.size + (numerator / denominator / 2 ^ 53 + 2 ^ minExponent) := by
  by_cases more : numerator = 0
  · rw [nearest, if_pos more] at rounds
    cases rounds
    simp [size, zero, more, zpow_nonneg]
  obtain ⟨above, below⟩ := roundedUnits_bounds numerator some
  have half := half_unit_le some more
  have unit : (0 : ℚ) < 2 ^ unitExponent numerator denominator := by positivity
  rw [← sub_le_iff_le_add, le_div_iff₀ unit] at above
  rw [div_le_iff₀ unit] at below
  rw [size_eq_roundedUnits more rounds]
  constructor <;> linarith

end Nearest

end LedgerNode.Binary64
