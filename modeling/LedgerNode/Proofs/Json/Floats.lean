import LedgerNode.Proofs.Json.Numerals
import LedgerNode.Proofs.Number.Scaling
import LedgerNode.Proofs.Number.Shortest

set_option autoImplicit false

namespace LedgerNode

namespace Decimal

variable {decimal : Decimal}

theorem Proper.word_lt (proper : decimal.Proper) : decimal.word < 10 ^ 18 := by
  have bound := Json.Reader.ofDigitChars_lt proper.digits 0
  rw [Nat.zero_add, Nat.one_mul] at bound
  exact Nat.lt_of_lt_of_le bound (Nat.pow_le_pow_right (by decide) proper.short)

theorem Proper.word_pos (proper : decimal.Proper) : 0 < decimal.word := by
  obtain ⟨digit, rest, some, small, same⟩ := proper.first
  rw [word, same, Nat.ofDigitChars_cons_digitChar_of_lt_ten small]
  exact Nat.lt_of_lt_of_le (by omega) (Json.Reader.le_ofDigitChars rest _)

def scaled (decimal : Decimal) : Json.Scaled where
  significand := decimal.word
  exponent := decimal.lastExponent

end Decimal

namespace Binary64

variable {number : Binary64}

theorem topmost_scaled_isSome (negative sign : Bool) {top : Nat} (few : top < 3) :
    (({ negative := sign, significand := significandLimit - 1 - top, exponent := maxExponent } :
      Binary64).shortest.scaled.toFloat negative).isSome = true := by
  -- The numbers whose digits have to be looked at, since rounding them up twice might overflow.
  have all : ∀ negative sign : Bool, ∀ top, top < 3 →
      (({ negative := sign, significand := significandLimit - 1 - top, exponent := maxExponent } :
        Binary64).shortest.scaled.toFloat negative).isSome = true := by
    decide +kernel
  exact all negative sign top few

theorem above_le_of_not_topmost (finite : number.Finite)
    (below : number.significand + 4 ≤ significandLimit ∨ number.exponent < maxExponent) :
    ((number.significand + 1 / 2) * 2 ^ number.exponent : ℚ) ≤ (2 ^ 53 - 7 / 2) * 2 ^ maxExponent := by
  have unit : (0 : ℚ) < 2 ^ maxExponent := zpow_pos two_pos _
  rcases below with low | less
  · have low : (number.significand + 4 : ℚ) ≤ 2 ^ 53 := by exact_mod_cast low
    have power : (2 : ℚ) ^ number.exponent ≤ 2 ^ maxExponent :=
      zpow_le_zpow_right₀ one_le_two finite.most
    exact mul_le_mul (by linarith) power (zpow_pos two_pos _).le (by norm_num)
  · have low : number.significand + 1 ≤ 2 ^ 53 := finite.significand
    have low : (number.significand + 1 : ℚ) ≤ 2 ^ 53 := by exact_mod_cast low
    have power : (2 : ℚ) ^ number.exponent ≤ 2 ^ (maxExponent - 1) :=
      zpow_le_zpow_right₀ one_le_two (Int.le_sub_one_of_lt less)
    have half : (2 : ℚ) ^ (maxExponent - 1) = 2 ^ maxExponent / 2 := by
      rw [zpow_sub_one₀ two_ne_zero, div_eq_mul_inv]
    calc ((number.significand + 1 / 2) * 2 ^ number.exponent : ℚ)
        ≤ 2 ^ 53 * (2 ^ maxExponent / 2) :=
          mul_le_mul (by linarith) (half ▸ power) (zpow_pos two_pos _).le (by norm_num)
      _ ≤ (2 ^ 53 - 7 / 2) * 2 ^ maxExponent := by
        rw [mul_div_assoc', div_le_iff₀ two_pos]
        linarith

theorem scaled_isSome (negative : Bool) (finite : number.Finite)
    (shortest : number.ShortestOf number.shortest) :
    (number.shortest.scaled.toFloat negative).isSome = true := by
  by_cases below : number.significand + 4 ≤ significandLimit ∨ number.exponent < maxExponent
  · refine Json.Scaled.toFloat_isSome ?_ shortest.proper.word_pos ?_
    · exact Nat.lt_trans shortest.proper.word_lt (by decide)
    · exact le_trans shortest.value (above_le_of_not_topmost finite below)
  · obtain ⟨high, most⟩ := not_or.mp below
    have top := finite.significand
    have few : significandLimit - 1 - number.significand < 3 := by omega
    have checked := topmost_scaled_isSome negative number.negative few
    have same : ({
        negative := number.negative
        significand := significandLimit - 1 - (significandLimit - 1 - number.significand)
        exponent := maxExponent } : Binary64) = number := by
      have exponent := le_antisymm finite.most (not_lt.mp most)
      have significand : significandLimit - 1 - (significandLimit - 1 - number.significand) =
          number.significand := by omega
      rw [significand, ← exponent]
    rwa [same] at checked

theorem ShortestOf.lastExponent_lt (finite : number.Finite) {decimal : Decimal}
    (shortest : number.ShortestOf decimal) : decimal.lastExponent < 309 := by
  have one : (1 : ℚ) ≤ decimal.word := by exact_mod_cast shortest.proper.word_pos
  have low : number.significand + 1 ≤ 2 ^ 53 := finite.significand
  have low : (number.significand + 1 : ℚ) ≤ 2 ^ 53 := by exact_mod_cast low
  have power : (2 : ℚ) ^ number.exponent ≤ 2 ^ maxExponent :=
    zpow_le_zpow_right₀ one_le_two finite.most
  have bound : (10 : ℚ) ^ decimal.lastExponent < 10 ^ (309 : Int) := by
    calc (10 : ℚ) ^ decimal.lastExponent ≤ decimal.value :=
          le_mul_of_one_le_left (zpow_pos (by norm_num) _).le one
      _ ≤ (number.significand + 1 / 2) * 2 ^ number.exponent := shortest.value
      _ ≤ (2 ^ 53 - 1 / 2) * 2 ^ maxExponent :=
          mul_le_mul (by linarith) power (zpow_pos two_pos _).le (by norm_num)
      _ = overflow := overflow_eq.symm
      _ < 10 ^ (Json.largestPower + 1) := Json.overflow_lt_power
      _ = 10 ^ (309 : Int) := (zpow_natCast 10 309).symm
  exact (zpow_lt_zpow_iff_right₀ (by norm_num)).mp bound

end Binary64

namespace Json.Reader

section Parts

variable {negative : Bool} {decimal : Scaled} {result : Binary64} {number : Number}
  {characters : List Char} {text middle rest : Bytes}

theorem isDigit_head_of_cons {byte : UInt8} (letter : isDigit byte = false) (rest : Bytes) :
    (byte :: rest).head?.any isDigit = false := by
  simp [letter]

theorem reads_toFloat (scaled : decimal.toFloat negative = some result) (rest : Bytes) :
    Reads (toFloat negative decimal) rest result rest := by
  rw [toFloat, scaled]
  exact .pure _ _

theorem reads_readFloatEnd (scaled : decimal.toFloat negative = some result) (ends : Ends rest) :
    Reads (readFloatEnd negative decimal) rest result rest := by
  refine (Reads.peek rest).bind ?_
  cases rest with
  | nil => exact reads_toFloat scaled []
  | cons byte rest =>
    obtain ⟨-, -, small, big⟩ := ends byte rfl
    simpa [small, big] using reads_toFloat scaled (byte :: rest)

theorem reads_takeExponent {steps value : Nat}
    (digits : ∀ character ∈ characters, character.isDigit = true) (enough : characters.length < steps)
    (fits : Nat.ofDigitChars 10 characters value ≤ exponentLimit)
    (stops : rest.head?.any isDigit = false) :
    Reads (takeExponent steps value) (characters.map asciiByte ++ rest)
      (some (Nat.ofDigitChars 10 characters value)) rest := by
  induction characters generalizing steps value with
  | nil =>
    obtain ⟨steps, rfl⟩ := Nat.exists_eq_add_one.mpr (Nat.zero_lt_of_lt enough)
    refine (Reads.peek rest).bind ?_
    cases rest with
    | nil => exact .pure _ _
    | cons byte rest =>
      have stop : isDigit byte = false := stops
      simp only [List.head?_cons, stop, Bool.false_eq_true, if_false]
      exact .pure _ _
  | cons first characters ih =>
    obtain ⟨steps, rfl⟩ := Nat.exists_eq_add_one.mpr (Nat.zero_lt_of_lt enough)
    have ⟨digit, worth⟩ := isDigit_asciiByte (digits first List.mem_cons_self)
    rw [Nat.ofDigitChars_cons, Nat.mul_comm] at fits ⊢
    have small := Nat.le_trans (le_ofDigitChars characters _) fits
    have later := ih (fun other member => digits other (List.mem_cons_of_mem _ member))
      (Nat.lt_of_succ_lt_succ enough) fits
    refine (Reads.peek _).bind ?_
    simp only [List.map_cons, List.cons_append, List.head?_cons, digit, if_true]
    refine (Reads.advance _ _).bind ?_
    rw [worth, if_neg (Nat.not_lt.mpr small)]
    exact later

def signByte (raises : Bool) : UInt8 :=
  if raises then 0x2B else 0x2D

theorem reads_readExponent (raises : Bool) {exponent : Nat} (small : exponent ≤ exponentLimit)
    (scaled : ({ decimal with
      exponent := decimal.exponent + if raises then (exponent : Int) else -exponent } : Scaled).toFloat
        negative = some result) (ends : Ends rest) :
    Reads (readExponent negative decimal)
      (0x65 :: signByte raises :: ((Nat.toDigits 10 exponent).map asciiByte ++ rest)) result rest := by
  have all : ∀ character ∈ Nat.toDigits 10 exponent, character.isDigit = true :=
    fun character member => Nat.isDigit_of_mem_toDigits (by decide) (by decide) member
  have worth : Nat.ofDigitChars 10 (Nat.toDigits 10 exponent) 0 = exponent :=
    Nat.ofDigitChars_ten_toDigits
  cases same : Nat.toDigits 10 exponent with
  | nil => exact absurd same Nat.toDigits_ne_nil
  | cons first later =>
    rw [same] at all worth
    have ⟨digit, value⟩ := isDigit_asciiByte (all first List.mem_cons_self)
    have later : ∀ character ∈ later, character.isDigit = true :=
      fun other member => all other (List.mem_cons_of_mem _ member)
    rw [Nat.ofDigitChars_cons, Nat.mul_zero, Nat.zero_add, ← value] at worth
    refine (Reads.advance _ _).bind ((Reads.peek _).bind ?_)
    -- Either sign is taken, and the digits behind it are then read alike.
    cases raises <;> refine (Reads.advance _ _).bind ((Reads.pure _ _).bind ?_)
    all_goals
      refine (Reads.next _ _).bind ?_
      simp only [digit, if_true]
      refine Reads.digitBudget later (fun steps enough => ?_)
      refine (reads_takeExponent later enough (worth.symm ▸ small) ends.not_isDigit).bind ?_
      rw [worth]
      exact reads_toFloat scaled rest

theorem reads_readFraction {whole : Scaled} (some : characters ≠ [])
    (digits : ∀ character ∈ characters, character.isDigit = true)
    (fits : Nat.ofDigitChars 10 characters whole.significand < UInt64.size)
    (stops : middle.head?.any isDigit = false)
    (ends : Reads (readFloatEnd negative {
      significand := Nat.ofDigitChars 10 characters whole.significand
      exponent := whole.exponent - characters.length }) middle result rest) :
    Reads (readFraction negative whole) (0x2E :: (characters.map asciiByte ++ middle)) result rest := by
  refine (Reads.advance _ _).bind ?_
  refine Reads.digitBudget digits (fun steps enough => ?_)
  refine (reads_takeDigits 0 digits enough fits stops).bind ?_
  refine (reads_peekIsDigit stops).bind ?_
  have count : 0 + characters.length ≠ 0 := by simpa using some
  simp only [Bool.false_eq_true, if_false, count]
  simpa using ends

theorem reads_readNumber_plain {whole fraction : List Char} (leads : Whole whole)
    (some : fraction ≠ []) (digits : ∀ character ∈ fraction, character.isDigit = true)
    (fits : Nat.ofDigitChars 10 (whole ++ fraction) 0 < UInt64.size) :
    ∃ seen, ∀ rest, Ends rest →
      Reads (readNumber negative) ((whole ++ '.' :: fraction).map asciiByte ++ rest) (.float seen) rest := by
  let decimal : Scaled := {
    significand := Nat.ofDigitChars 10 (whole ++ fraction) 0
    exponent := 0 - fraction.length }
  have below : decimal.exponent < 0 := by
    have counted := List.length_pos_iff.mpr some
    change (0 - fraction.length : Int) < 0
    omega
  have range : (decimal.toFloat negative).isSome = true := Scaled.toFloat_isSome_of_neg fits below
  obtain ⟨seen, scaled⟩ := Option.isSome_iff_exists.mp range
  refine ⟨seen, fun rest ends => ?_⟩
  simp only [decimal, Nat.ofDigitChars_append] at fits scaled
  rw [List.map_append, List.map_cons, List.append_assoc, List.cons_append]
  have small := Nat.lt_of_le_of_lt (le_ofDigitChars fraction _) fits
  refine reads_readNumber_whole negative leads small (isDigit_head_of_cons (by decide) _) ?_
  refine (Reads.peek _).bind ?_
  refine Reads.bind (reads_readFraction some digits fits ends.not_isDigit ?_) (.pure _ _)
  exact reads_readFloatEnd scaled ends

theorem reads_readNumber_digit {digit : Nat} (positive : 0 < digit) (small : digit < 10)
    (stops : middle.head?.any isDigit = false)
    (ends : Reads (readNumberEnd negative digit) middle number rest) :
    Reads (readNumber negative) (asciiByte digit.digitChar :: middle) number rest := by
  have one : Nat.ofDigitChars 10 [digit.digitChar] 0 = digit := by
    rw [Nat.ofDigitChars_cons_digitChar_of_lt_ten small, Nat.mul_zero, Nat.zero_add, Nat.ofDigitChars_nil]
  have word : digit < UInt64.size := Nat.lt_trans small (by decide)
  refine reads_readNumber_whole negative (.digits positive small (List.forall_mem_nil _)) ?_ stops ?_
  · rwa [one]
  · rwa [one]

def exponentPart (raises : Bool) (exponent : Nat) (rest : Bytes) : Bytes :=
  0x65 :: signByte raises :: ((Nat.toDigits 10 exponent).map asciiByte ++ rest)

theorem scientific_text {decimal : Decimal} {digit : Nat} {later : List Char}
    (digits : decimal.digits = digit.digitChar :: later) (raises : Bool) (exponent : Nat) (rest : Bytes) :
    (floatCharacters.scientific decimal (if raises then '+' else '-') exponent).map asciiByte ++ rest =
      asciiByte digit.digitChar :: (if later = [] then exponentPart raises exponent rest
        else 0x2E :: (later.map asciiByte ++ exponentPart raises exponent rest)) := by
  have sign : asciiByte (if raises then '+' else '-') = signByte raises := by
    cases raises <;> rfl
  have letter : asciiByte 'e' = 0x65 := rfl
  have point : asciiByte '.' = 0x2E := rfl
  cases later <;> simp [floatCharacters.scientific, digits, exponentPart, sign, letter, point]

theorem reads_readNumber_scientific {decimal : Decimal} (proper : decimal.Proper) {exponent : Nat}
    (raises : Bool) (small : exponent ≤ exponentLimit)
    (same : decimal.exponent = if raises then (exponent : Int) else -exponent)
    (range : (decimal.scaled.toFloat negative).isSome = true) :
    ∃ seen, ∀ rest, Ends rest →
      Reads (readNumber negative)
        ((floatCharacters.scientific decimal (if raises then '+' else '-') exponent).map asciiByte ++ rest)
        (.float seen) rest := by
  obtain ⟨seen, scaled⟩ := Option.isSome_iff_exists.mp range
  refine ⟨seen, fun rest ends => ?_⟩
  obtain ⟨digit, later, positive, few, digits⟩ := proper.first
  have word : decimal.word = Nat.ofDigitChars 10 later digit := by
    rw [Decimal.word, digits, Nat.ofDigitChars_cons_digitChar_of_lt_ten few, Nat.mul_zero, Nat.zero_add]
  have stops : (exponentPart raises exponent rest).head?.any isDigit = false :=
    isDigit_head_of_cons (by decide) _
  -- The places behind the point lower the exponent again.
  have ending (point : Scaled) (significand : point.significand = Nat.ofDigitChars 10 later digit)
      (places : point.exponent = 0 - later.length) :
      Reads (readExponent negative point) (exponentPart raises exponent rest) seen rest := by
    refine reads_readExponent raises small ?_ ends
    have last : point.exponent + decimal.exponent = decimal.lastExponent := by
      rw [Decimal.lastExponent, digits, places, List.length_cons]
      push_cast
      omega
    rwa [← same, significand, last, ← word]
  rw [scientific_text digits]
  split
  next none =>
    obtain rfl := none
    refine reads_readNumber_digit positive few stops ((Reads.peek _).bind ?_)
    exact (ending ⟨digit, 0⟩ rfl rfl).bind (.pure _ _)
  next some =>
    refine reads_readNumber_digit positive few (isDigit_head_of_cons (by decide) _)
      ((Reads.peek _).bind ?_)
    have each : ∀ character ∈ later, character.isDigit = true := by
      have all := proper.digits
      rw [digits] at all
      exact fun other member => all other (List.mem_cons_of_mem _ member)
    refine Reads.bind (reads_readFraction some each ?_ stops ?_) (.pure _ _)
    · exact word ▸ Nat.lt_trans proper.word_lt (by decide)
    · exact (Reads.peek _).bind (ending _ rfl rfl)

theorem whole_plain {decimal : Decimal} (proper : decimal.Proper) (places : Nat) :
    let whole := decimal.digits.take (places + 1)
    let padded := whole ++ List.replicate (places + 1 - whole.length) '0'
    Whole padded ∧ padded.length = places + 1 ∧ ∀ character ∈ padded, character.isDigit = true := by
  obtain ⟨digit, rest, positive, small, digits⟩ := proper.first
  have each := proper.digits
  have all : ∀ character ∈ decimal.digits.take (places + 1) ++
      List.replicate (places + 1 - (decimal.digits.take (places + 1)).length) '0',
      character.isDigit = true := by
    intro character member
    rcases List.mem_append.mp member with kept | zero
    · exact each character (List.mem_of_mem_take kept)
    · obtain rfl := List.eq_of_mem_replicate zero
      rfl
  refine ⟨?_, ?_, all⟩
  · rw [digits, List.take_succ_cons, List.cons_append] at all ⊢
    exact .digits positive small (fun other member => all other (List.mem_cons_of_mem _ member))
  · rw [List.length_append, List.length_replicate, List.length_take]
    omega

theorem fraction_plain {decimal : Decimal} (proper : decimal.Proper) (places : Nat) :
    let fraction := decimal.digits.drop (places + 1)
    let shown := if fraction.isEmpty then ['0'] else fraction
    shown ≠ [] ∧ shown.length ≤ max 1 (18 - (places + 1)) ∧
      ∀ character ∈ shown, character.isDigit = true := by
  have short := proper.short
  intro fraction shown
  have length : fraction.length = decimal.digits.length - (places + 1) := List.length_drop
  simp only [shown]
  split
  next => exact ⟨List.cons_ne_nil _ _, le_max_left _ _, by simp⟩
  next some =>
    refine ⟨fun none => some (List.isEmpty_iff.mpr none), by omega, fun character member => ?_⟩
    exact proper.digits character (List.mem_of_mem_drop member)

theorem reads_readNumber_above {decimal : Decimal} (proper : decimal.Proper) {places : Nat}
    (few : places ≤ 15) :
    let whole := decimal.digits.take (places + 1)
    let fraction := decimal.digits.drop (places + 1)
    ∃ seen, ∀ rest, Ends rest →
      Reads (readNumber negative)
        ((whole ++ List.replicate (places + 1 - whole.length) '0' ++ ['.'] ++
          if fraction.isEmpty then ['0'] else fraction).map asciiByte ++ rest) (.float seen) rest := by
  obtain ⟨leads, long, whole⟩ := whole_plain proper places
  obtain ⟨some, short, fraction⟩ := fraction_plain proper places
  simp only at leads long whole some short fraction ⊢
  rw [List.append_assoc, List.singleton_append]
  -- There are 18 digits at most, so they are all kept.
  refine reads_readNumber_plain leads some fraction ?_
  refine Nat.lt_of_lt_of_le (ofDigitChars_lt (List.forall_mem_append.mpr ⟨whole, fraction⟩) 0) ?_
  rw [Nat.zero_add, Nat.one_mul, List.length_append]
  refine Nat.le_trans (Nat.pow_le_pow_right (by decide) (?_ : _ ≤ 18)) (by decide)
  omega

theorem reads_readNumber_below {decimal : Decimal} (proper : decimal.Proper) (zeros : Nat) :
    ∃ seen, ∀ rest, Ends rest →
      Reads (readNumber negative)
        ((['0', '.'] ++ List.replicate zeros '0' ++ decimal.digits).map asciiByte ++ rest)
        (.float seen) rest := by
  have digits : ∀ character ∈ List.replicate zeros '0' ++ decimal.digits, character.isDigit = true := by
    refine List.forall_mem_append.mpr ⟨fun character member => ?_, proper.digits⟩
    obtain rfl := List.eq_of_mem_replicate member
    rfl
  have some : List.replicate zeros '0' ++ decimal.digits ≠ [] := by
    obtain ⟨digit, rest, -, -, same⟩ := proper.first
    simp [same]
  have text : ['0', '.'] ++ List.replicate zeros '0' ++ decimal.digits =
      ['0'] ++ '.' :: (List.replicate zeros '0' ++ decimal.digits) := List.append_assoc ..
  -- The zeros take up no room in the word that the digits are collected in.
  have word : Nat.ofDigitChars 10 (['0'] ++ (List.replicate zeros '0' ++ decimal.digits)) 0 =
      decimal.word := by
    rw [← List.append_assoc, Nat.ofDigitChars_append, List.singleton_append, ← List.replicate_succ,
      Nat.ofDigitChars_replicate_zero, Nat.mul_zero]
    rfl
  rw [text]
  refine reads_readNumber_plain .zero some digits ?_
  exact word ▸ Nat.lt_trans proper.word_lt (by decide)

theorem reads_readNumber_floatCharacters {decimal : Decimal} (proper : decimal.Proper)
    (least : -420 ≤ decimal.exponent) (most : decimal.lastExponent < 309)
    (range : (decimal.scaled.toFloat negative).isSome = true) :
    ∃ seen, ∀ rest, Ends rest →
      Reads (readNumber negative) ((floatCharacters decimal).map asciiByte ++ rest) (.float seen) rest := by
  have limit : decimal.exponent ≤ exponentLimit := by
    have short := proper.short
    rw [Decimal.lastExponent] at most
    rw [exponentLimit]
    omega
  obtain ⟨characters, exponent⟩ := decimal
  cases exponent with
  | ofNat exponent =>
    simp only [floatCharacters]
    split
    next few => exact reads_readNumber_above proper few
    next => exact reads_readNumber_scientific proper true (Int.ofNat_le.mp limit) rfl range
  | negSucc below =>
    simp only [floatCharacters]
    split
    next => exact reads_readNumber_below proper below
    next =>
      have small : below + 1 ≤ exponentLimit := by
        simp only at least
        rw [exponentLimit]
        omega
      exact reads_readNumber_scientific proper false small rfl range

theorem floatCharacters_zero :
    floatCharacters { digits := ['0'], exponent := 0 } = ['0', '.', '0'] :=
  rfl

def unsignedCharacters (value : Binary64) : List Char :=
  if value.isZero then ['0', '.', '0'] else floatCharacters value.shortest

theorem reads_readNumber_unsigned (negative : Bool) {value : Binary64} (finite : value.Finite) :
    ∃ seen, ∀ rest, Ends rest →
      Reads (readNumber negative) ((unsignedCharacters value).map asciiByte ++ rest) (.float seen) rest := by
  have nothing : ∃ seen, ∀ rest, Ends rest →
      Reads (readNumber negative) ((['0'] ++ '.' :: ['0']).map asciiByte ++ rest) (.float seen) rest :=
    reads_readNumber_plain .zero (List.cons_ne_nil _ _) (by simp) (by decide)
  unfold unsignedCharacters
  split
  next => exact nothing
  next some =>
    have some : 0 < value.significand := Nat.pos_of_ne_zero (fun zero => some (decide_eq_true zero))
    rcases Binary64.shortest_spec some with failed | shortest
    · rw [failed, floatCharacters_zero]
      exact nothing
    · exact reads_readNumber_floatCharacters shortest.proper shortest.least
        (shortest.lastExponent_lt finite) (Binary64.scaled_isSome negative finite shortest)

theorem floatCharacters_head {decimal : Decimal} (proper : decimal.Proper) :
    ∃ first rest, floatCharacters decimal = first :: rest ∧ first.isDigit = true := by
  obtain ⟨digit, later, positive, small, same⟩ := proper.first
  have first := proper.digits digit.digitChar (same ▸ List.mem_cons_self)
  have scientific (sign : Char) (exponent : Nat) : ∃ rest,
      floatCharacters.scientific decimal sign exponent = digit.digitChar :: rest := by
    cases later <;> exact ⟨_, by simp only [floatCharacters.scientific, same]; rfl⟩
  unfold floatCharacters
  split
  next exponent _ =>
    split
    next => exact ⟨digit.digitChar, _, by rw [same]; rfl, first⟩
    next =>
      obtain ⟨rest, text⟩ := scientific '+' exponent
      exact ⟨_, rest, text, first⟩
  next below _ =>
    split
    next => exact ⟨'0', _, rfl, rfl⟩
    next =>
      obtain ⟨rest, text⟩ := scientific '-' (below + 1)
      exact ⟨_, rest, text, first⟩

theorem ascii_of_isDigit {characters : List Char}
    (digits : ∀ character ∈ characters, character.isDigit = true) :
    ∀ character ∈ characters, character.toNat < 128 := by
  intro character member
  have ⟨_, high⟩ := toNat_of_isDigit (digits character member)
  omega

theorem ascii_scientific {decimal : Decimal} (proper : decimal.Proper) {sign : Char}
    (small : sign.toNat < 128) (exponent : Nat) :
    ∀ character ∈ floatCharacters.scientific decimal sign exponent, character.toNat < 128 := by
  have exponent := ascii_of_isDigit (fun character member =>
    Nat.isDigit_of_mem_toDigits (c := character) (n := exponent) (b := 10) (by decide) (by decide) member)
  have digits := ascii_of_isDigit proper.digits
  have letter : 'e'.toNat < 128 := by decide
  have point : '.'.toNat < 128 := by decide
  obtain ⟨digit, later, -, -, same⟩ := proper.first
  rw [same] at digits
  cases later <;> simp_all [floatCharacters.scientific, or_imp, forall_and]

theorem ascii_floatCharacters {decimal : Decimal} (proper : decimal.Proper) :
    ∀ character ∈ floatCharacters decimal, character.toNat < 128 := by
  have point : '.'.toNat < 128 := by decide
  have zero : '0'.toNat < 128 := by decide
  have digits := ascii_of_isDigit proper.digits
  unfold floatCharacters
  split
  next exponent _ =>
    split
    next =>
      have whole := ascii_of_isDigit (whole_plain proper exponent).2.2
      have fraction := ascii_of_isDigit (fraction_plain proper exponent).2.2
      refine List.forall_mem_append.mpr ⟨List.forall_mem_append.mpr ⟨whole, ?_⟩, fraction⟩
      exact List.forall_mem_singleton.mpr point
    next => exact ascii_scientific proper (by decide) exponent
  next below _ =>
    split
    next =>
      have leading : ∀ character ∈ ['0', '.'], character.toNat < 128 :=
        List.forall_mem_cons.mpr ⟨zero, List.forall_mem_singleton.mpr point⟩
      refine List.forall_mem_append.mpr ⟨List.forall_mem_append.mpr ⟨leading, ?_⟩, digits⟩
      intro character member
      exact List.eq_of_mem_replicate member ▸ zero
    next => exact ascii_scientific proper (by decide) (below + 1)

theorem unsignedCharacters_spec (value : Binary64) :
    (∃ first rest, unsignedCharacters value = first :: rest ∧ first.isDigit = true) ∧
      ∀ character ∈ unsignedCharacters value, character.toNat < 128 := by
  have nothing : (∃ first rest, ['0', '.', '0'] = first :: rest ∧ first.isDigit = true) ∧
      ∀ character ∈ ['0', '.', '0'], character.toNat < 128 :=
    ⟨⟨_, _, rfl, rfl⟩, by simp⟩
  unfold unsignedCharacters
  split
  next => exact nothing
  next some =>
    have some : 0 < value.significand := Nat.pos_of_ne_zero (fun zero => some (decide_eq_true zero))
    rcases Binary64.shortest_spec some with failed | shortest
    · rw [failed, floatCharacters_zero]
      exact nothing
    · exact ⟨floatCharacters_head shortest.proper, ascii_floatCharacters shortest.proper⟩

theorem text_float (value : Binary64) :
    Bytes.ofString (Number.float value).text =
      (if value.negative then [0x2D] else []) ++ (unsignedCharacters value).map asciiByte := by
  have ascii := (unsignedCharacters_spec value).2
  have signed : ∀ character ∈ '-' :: unsignedCharacters value, character.toNat < 128 :=
    List.forall_mem_cons.mpr ⟨by decide, ascii⟩
  change Bytes.ofString (String.ofList (if value.negative then '-' :: unsignedCharacters value
    else unsignedCharacters value)) = _
  split
  next => exact Bytes.ofString_ofList signed
  next => exact Bytes.ofString_ofList ascii

end Parts

end Json.Reader

end LedgerNode
