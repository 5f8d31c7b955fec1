import LedgerNode.Proofs.Failure
import LedgerNode.Proofs.Query.Spelling
import Mathlib.Data.List.Induction

set_option autoImplicit false

namespace LedgerNode

theorem ascii_of_toLower {character : Char} (ascii : character.toLower.toNat < 128) :
    character.toNat < 128 := by
  unfold Char.toLower at ascii
  split at ascii
  next upper => exact Nat.lt_of_le_of_lt upper.2 (by decide)
  next => exact ascii

@[elab_as_elim]
theorem forall_ascii {holds : Char → Prop} {character : Char}
    (all : ∀ code, code < 128 → holds (Char.ofNat code)) (ascii : character.toNat < 128) :
    holds character := by
  have here := all character.toNat ascii
  rwa [Char.ofNat_toNat] at here

theorem toLower_toLower (character : Char) : character.toLower.toLower = character.toLower := by
  have all : ∀ code, code < 128 → (Char.ofNat code).toLower.toLower = (Char.ofNat code).toLower := by
    decide +kernel
  by_cases ascii : character.toNat < 128
  · exact forall_ascii all ascii
  · -- Nothing beyond ASCII changes.
    have same : character.toLower = character := by
      unfold Char.toLower
      split
      next upper => exact absurd (Nat.lt_of_le_of_lt upper.2 (by decide)) ascii
      next => rfl
    rw [same, same]

namespace Digits

theorem value?_ascii {base value : Nat} {digit : Char} (read : value? base digit = some value) :
    digit.toNat < 128 := by
  have upTo {first last : Char} (ascii : last.toNat < 128)
      (within : (decide (first ≤ digit) && decide (digit ≤ last)) = true) : digit.toNat < 128 :=
    Nat.lt_of_le_of_lt (of_decide_eq_true (Bool.and_eq_true_iff.mp within).2) ascii
  unfold value? at read
  split at read
  next decimal => exact upTo (by decide) decimal
  next =>
    split at read
    next lower => exact upTo (by decide) lower
    next =>
      split at read
      next upper => exact upTo (by decide) upper
      next => simp at read

theorem value?_eq_filter {base : Nat} (small : base ≤ 16) (digit : Char) :
    value? base digit = (value? 16 digit).filter (· < base) := by
  have smaller : (fun value => decide (value < base)) =
      fun value => decide (value < 16) && decide (value < base) := by
    funext value
    by_cases within : value < base <;> simp [within]
    omega
  unfold value?
  rw [Option.filter_filter, ← smaller]

theorem value?_eq_some_iff {base value : Nat} {digit : Char} (small : base ≤ 16) :
    value? base digit = some value ↔ value < base ∧ digit.toLower = Nat.digitChar value := by
  have all : ∀ code, code < 128 → ∀ value, value < 16 →
      (value? 16 (Char.ofNat code) = some value ↔
        (Char.ofNat code).toLower = Nat.digitChar value) := by
    decide +kernel
  have hex (ascii : digit.toNat < 128) : ∀ value, value < 16 →
      (value? 16 digit = some value ↔ digit.toLower = Nat.digitChar value) :=
    forall_ascii all ascii
  rw [value?_eq_filter small, Option.filter_eq_some_iff, decide_eq_true_iff]
  constructor
  · rintro ⟨read, within⟩
    exact ⟨within, (hex (value?_ascii read) value (by omega)).mp read⟩
  · rintro ⟨within, lower⟩
    have bound : value < 16 := by omega
    have ascii := digitChar_ascii bound
    rw [← lower] at ascii
    exact ⟨(hex (ascii_of_toLower ascii) value bound).mpr lower, within⟩

theorem value?_toLower {base : Nat} (small : base ≤ 16) (digit : Char) :
    value? base digit.toLower = value? base digit := by
  apply Option.ext
  intro value
  rw [value?_eq_some_iff small, value?_eq_some_iff small, toLower_toLower]

theorem hex_of_ofHex? {digits : List Char} {bytes : Bytes} (read : ofHex? digits = some bytes) :
    digits.map Char.toLower = hex bytes := by
  fun_induction ofHex? digits generalizing bytes with
  | case1 => cases read; rfl
  | case2 high low rest first second tail found there here ih =>
    cases read
    obtain ⟨small, one⟩ := (value?_eq_some_iff (Nat.le_refl 16)).mp here
    obtain ⟨within, other⟩ := (value?_eq_some_iff (Nat.le_refl 16)).mp there
    have byte : (UInt8.ofNat (16 * first + second)).toNat = 16 * first + second := by
      rw [UInt8.toNat_ofNat']
      omega
    have high : (16 * first + second) / 16 = first := by omega
    have low : (16 * first + second) % 16 = second := by omega
    simp only [List.map_cons, one, other, ih found, hex, List.flatMap_cons, hexPair, byte, high, low,
      List.cons_append, List.nil_append]
  | case3 => cases read
  | case4 => cases read

theorem ofHex?_of_lower {digits : List Char} {bytes : Bytes}
    (lower : digits.map Char.toLower = hex bytes) : ofHex? digits = some bytes := by
  induction bytes generalizing digits with
  | nil =>
    obtain rfl := List.map_eq_nil_iff.mp lower
    rfl
  | cons byte rest ih =>
    have bound := byte.toNat_lt
    have whole : hex (byte :: rest) = Nat.digitChar (byte.toNat / 16) ::
      Nat.digitChar (byte.toNat % 16) :: hex rest := rfl
    rw [whole] at lower
    obtain ⟨high, more, rfl, first, lower⟩ := List.map_eq_cons_iff.mp lower
    obtain ⟨low, digits, rfl, second, lower⟩ := List.map_eq_cons_iff.mp lower
    have high := (value?_eq_some_iff (Nat.le_refl 16)).mpr ⟨by omega, first⟩
    have low := (value?_eq_some_iff (Nat.le_refl 16)).mpr ⟨by omega, second⟩
    have same : 16 * (byte.toNat / 16) + byte.toNat % 16 = byte.toNat := by omega
    simp only [ofHex?, high, low, ih lower, same, UInt8.ofNat_toNat]

/-- Digits in either case: behind any number of zeros, the digits of a number. -/
def Spell (base : Nat) (digits : List Char) (value : Nat) : Prop :=
  ∃ zeros, digits.map Char.toLower = List.replicate zeros '0' ++ Nat.toDigits base value

end Digits

namespace Address

def Spells (text : String) (address : Address) : Prop :=
  ∃ digits, text.toList = address.kind.mark ++ digits ∧
    digits.map Char.toLower = Digits.hex address.body

end Address

namespace Quantity

def HexSpells (text : String) (value : Nat) : Prop :=
  ∃ digits, text.toList = '0' :: 'x' :: digits ∧ Digits.Spell 16 digits value

def Spells (text : String) (value : Nat) : Prop :=
  HexSpells text value ∨ Digits.Spell 10 text.toList value

section Reading

variable {base limit : Nat}

theorem accumulate_toLower (small : base ≤ 16) (value : Nat) (digits : List Char) :
    accumulate base limit value (digits.map Char.toLower) = accumulate base limit value digits := by
  induction digits generalizing value with
  | nil => rfl
  | cons digit rest ih =>
    rw [List.map_cons, accumulate, accumulate, Digits.value?_toLower small]
    cases Digits.value? base digit with
    | none => rfl
    | some next => simp only [ih]

theorem accumulate_zeros (more : 0 < base) (fits : 0 < limit) (zeros : Nat) (digits : List Char) :
    accumulate base limit 0 (List.replicate zeros '0' ++ digits) = accumulate base limit 0 digits := by
  have zero : Digits.value? base '0' = some 0 := by simp [Digits.value?, more]
  induction zeros with
  | zero => rfl
  | succ zeros ih =>
    rw [List.replicate_succ, List.cons_append, accumulate, zero]
    simpa [fits] using ih

theorem accumulate_lt {value sum : Nat} {digits : List Char} (fits : value < limit)
    (read : accumulate base limit value digits = .ok sum) : sum < limit := by
  induction digits generalizing value with
  | nil =>
    cases read
    exact fits
  | cons digit rest ih =>
    rw [accumulate] at read
    split at read
    next => cases read
    next next _ =>
      split at read
      next within => exact ih within read
      next => cases read

theorem accumulate_singleton {value sum : Nat} {digit : Char}
    (read : accumulate base limit value [digit] = .ok sum) :
    ∃ last, Digits.value? base digit = some last ∧ sum = value * base + last ∧ sum < limit := by
  rw [accumulate] at read
  split at read
  next => cases read
  next last found =>
    split at read
    next within =>
      cases read
      exact ⟨last, found, rfl, within⟩
    next => cases read

theorem spell_of_accumulate (more : 1 < base) (small : base ≤ 16) {value : Nat} {digits : List Char}
    (nonempty : digits ≠ []) (read : accumulate base limit 0 digits = .ok value) :
    Digits.Spell base digits value := by
  -- On the digits from the last back: the sum so far is what those in front of it spell.
  induction digits using List.reverseRecOn generalizing value with
  | nil => exact absurd rfl nonempty
  | append_singleton front digit ih =>
    rw [accumulate_append] at read
    cases sum : accumulate base limit 0 front with
    | error => rw [sum] at read; cases read
    | ok sofar =>
      rw [sum] at read
      obtain ⟨last, found, rfl, -⟩ := accumulate_singleton read
      obtain ⟨within, lower⟩ := (Digits.value?_eq_some_iff small).mp found
      have single := Nat.toDigits_of_lt_base within
      cases front with
      | nil =>
        cases sum
        exact ⟨0, by simp [lower, single]⟩
      | cons first rest =>
        obtain ⟨zeros, spelled⟩ := ih (List.cons_ne_nil _ _) sum
        rw [Digits.Spell, List.map_append, spelled, List.map_singleton, lower, ← single]
        rcases Nat.eq_zero_or_pos sofar with rfl | positive
        · refine ⟨zeros + 1, ?_⟩
          simp [List.replicate_succ']
        · refine ⟨zeros, ?_⟩
          rw [List.append_assoc, Nat.toDigits_append_toDigits more positive within,
            Nat.mul_comm]

theorem not_spell_nil {value : Nat} : ¬Digits.Spell base [] value := by
  rintro ⟨zeros, lower⟩
  have none := (List.append_eq_nil_iff.mp lower.symm).2
  exact Nat.toDigits_ne_nil none

theorem accumulate_of_spell (more : 1 < base) (small : base ≤ 16) {value : Nat} {digits : List Char}
    (spelled : Digits.Spell base digits value) (fits : value < limit) :
    accumulate base limit 0 digits = .ok value := by
  obtain ⟨zeros, lower⟩ := spelled
  rw [← accumulate_toLower small, lower, accumulate_zeros (by omega) (by omega)]
  exact accumulate_toDigits more small fits

theorem spell_unique (more : 1 < base) (small : base ≤ 16) {value other : Nat} {digits : List Char}
    (one : Digits.Spell base digits value) (two : Digits.Spell base digits other) : value = other := by
  have bounded : value < value + other + 1 := by omega
  have within : other < value + other + 1 := by omega
  have read := accumulate_of_spell more small one bounded
  exact Except.ok.inj (read.symm.trans (accumulate_of_spell more small two within))

theorem readDigits_eq_ok_iff (more : 1 < base) (small : base ≤ 16) (positive : 0 < limit) {value : Nat}
    {digits : List Char} :
    readDigits base limit digits = .ok value ↔ value < limit ∧ Digits.Spell base digits value := by
  cases digits with
  | nil => exact iff_of_false error_ne_ok (fun spelled => not_spell_nil spelled.2)
  | cons first rest =>
    constructor
    · intro read
      exact ⟨accumulate_lt positive read, spell_of_accumulate more small (List.cons_ne_nil _ _) read⟩
    · rintro ⟨fits, spelled⟩
      exact accumulate_of_spell more small spelled fits

theorem isSome_of_accumulate {value sum : Nat} {digits : List Char}
    (read : accumulate base limit value digits = .ok sum) :
    ∀ digit ∈ digits, (Digits.value? base digit).isSome := by
  induction digits generalizing value with
  | nil => simp
  | cons first rest ih =>
    rw [accumulate] at read
    split at read
    next => cases read
    next found =>
      split at read
      next => exact List.forall_mem_cons.mpr ⟨by simp [found], ih read⟩
      next => cases read

theorem isSome_of_spell (more : 1 < base) (small : base ≤ 16) {value : Nat} {digits : List Char}
    (spelled : Digits.Spell base digits value) :
    ∀ digit ∈ digits, (Digits.value? base digit).isSome := by
  exact isSome_of_accumulate (accumulate_of_spell more small spelled (Nat.lt_succ_self value))

end Reading

section Numbers

variable {text : String} {digits : List Char} {value : Nat}

theorem stripHexMark_eq_some_iff {characters : List Char} :
    stripHexMark characters = some digits ↔ characters = '0' :: 'x' :: digits := by
  unfold stripHexMark
  split
  next => simp [eq_comm]
  next unmarked => exact iff_of_false (Option.some_ne_none _).symm (unmarked digits)

theorem hexSpells_of_mark (marked : stripHexMark text.toList = some digits) :
    HexSpells text value ↔ Digits.Spell 16 digits value := by
  have characters := stripHexMark_eq_some_iff.mp marked
  refine ⟨?_, fun spelled => ⟨digits, characters, spelled⟩⟩
  rintro ⟨others, same, spelled⟩
  rw [characters] at same
  cases same
  exact spelled

theorem unmarked_of_spell (decimal : Digits.Spell 10 text.toList value) :
    stripHexMark text.toList = none := by
  -- The mark has a letter, and no decimal digit is one.
  cases marked : stripHexMark text.toList with
  | none => rfl
  | some digits =>
    have characters := stripHexMark_eq_some_iff.mp marked
    have letter := isSome_of_spell (by decide) (by decide) decimal 'x' (by simp [characters])
    cases letter

theorem spells_of_mark (marked : stripHexMark text.toList = some digits) :
    Spells text value ↔ HexSpells text value := by
  refine ⟨?_, .inl⟩
  rintro (hex | decimal)
  · exact hex
  · rw [unmarked_of_spell decimal] at marked
    cases marked

theorem spells_of_unmarked (unmarked : stripHexMark text.toList = none) :
    Spells text value ↔ Digits.Spell 10 text.toList value := by
  refine ⟨?_, .inr⟩
  rintro (⟨digits, same, -⟩ | decimal)
  · rw [stripHexMark_eq_some_iff.mpr same] at unmarked
    cases unmarked
  · exact decimal

theorem HexSpells.unique {other : Nat} (one : HexSpells text value) (two : HexSpells text other) :
    value = other := by
  obtain ⟨digits, characters, spelled⟩ := one
  have also := (hexSpells_of_mark (stripHexMark_eq_some_iff.mpr characters)).mp two
  exact spell_unique (by decide) (by decide) spelled also

theorem Spells.unique {other : Nat} (one : Spells text value) (two : Spells text other) :
    value = other := by
  cases marked : stripHexMark text.toList with
  | none =>
    rw [spells_of_unmarked marked] at one two
    exact spell_unique (by decide) (by decide) one two
  | some digits =>
    rw [spells_of_mark marked] at one two
    exact one.unique two

theorem unsigned_of_spell {base : Nat} (more : 1 < base) (small : base ≤ 16)
    (spelled : Digits.Spell base digits value) : digits.head? ≠ some '+' := by
  intro signed
  have digit := isSome_of_spell more small spelled '+' (List.mem_of_mem_head? signed)
  have none : Digits.value? base '+' = none := by rfl
  simp [none] at digit

theorem readNumber_eq_ok_iff :
    readNumber text = .ok value ↔ value < balanceLimit ∧ Spells text value := by
  have positive : 0 < balanceLimit := by decide
  unfold readNumber
  cases marked : stripHexMark text.toList with
  | none =>
    rw [spells_of_unmarked marked]
    simp only [marked, Option.getD_none]
    split
    next signed =>
      exact iff_of_false error_ne_ok fun fits => unsigned_of_spell (by decide) (by decide) fits.2 signed
    next => rw [mapError_eq_ok_iff, readDigits_eq_ok_iff (by decide) (by decide) positive]
  | some digits =>
    rw [spells_of_mark marked, hexSpells_of_mark marked]
    simp only [marked, Option.getD_some]
    split
    next signed =>
      exact iff_of_false error_ne_ok fun fits => unsigned_of_spell (by decide) (by decide) fits.2 signed
    next =>
      cases digits with
      | nil => exact iff_of_false error_ne_ok fun fits => not_spell_nil fits.2
      | cons first rest => 
        simp only [mapError_eq_ok_iff]
        exact readDigits_eq_ok_iff (by decide) (by decide) positive

theorem readBalance_eq_ok_iff {value : Balance} :
    readBalance text = .ok value ↔ Spells text value.toNat := by
  unfold readBalance
  constructor
  · intro read
    cases number : readNumber text with
    | error => rw [number] at read; cases read
    | ok found =>
      obtain ⟨fits, spelled⟩ := readNumber_eq_ok_iff.mp number
      rw [number] at read
      cases read
      rwa [BitVec.toNat_ofNat, Nat.mod_eq_of_lt (show found < 2 ^ 128 from fits)]
  · intro spelled
    rw [readNumber_eq_ok_iff.mpr ⟨value.isLt, spelled⟩]
    simp [Except.map]

theorem readWord_eq_ok_iff {value : UInt64} :
    readWord text = .ok value ↔ Spells text value.toNat := by
  unfold readWord
  constructor
  · intro read
    cases number : readNumber text with
    | error => rw [number] at read; cases read
    | ok found =>
      obtain ⟨-, spelled⟩ := readNumber_eq_ok_iff.mp number
      rw [number] at read
      change (if found < UInt64.size then _ else _) = _ at read
      split at read
      next fits =>
        cases read
        rwa [UInt64.toNat_ofNat', Nat.mod_eq_of_lt fits]
      next => cases read
  · intro spelled
    have small : value.toNat < UInt64.size := value.toNat_lt_size
    have fits : value.toNat < balanceLimit := Nat.lt_trans small (by decide)
    rw [readNumber_eq_ok_iff.mpr ⟨fits, spelled⟩]
    change (if value.toNat < UInt64.size then _ else _) = _
    rw [if_pos small, UInt64.ofNat_toNat]
    rfl

end Numbers

end Quantity

namespace Address

theorem splitMark?_eq_some_iff {characters digits : List Char} {kind : AddressKind} :
    splitMark? characters = some (kind, digits) ↔ characters = kind.mark ++ digits := by
  unfold splitMark?
  split
  next => cases kind <;> simp [AddressKind.mark, eq_comm]
  next => cases kind <;> simp [AddressKind.mark, eq_comm]
  next eoa contract =>
    refine iff_of_false (Option.some_ne_none _).symm fun same => ?_
    cases kind with
    | eoa => exact eoa digits same
    | contract => exact contract digits same

theorem ofBody?_eq_some_iff {kind : AddressKind} {body : Bytes} {address : Address} :
    ofBody? kind body = some address ↔ address.kind = kind ∧ address.body = body := by
  unfold ofBody?
  split
  next => rw [Option.some.injEq, eq_comm, Address.mk.injEq]
  next length =>
    refine iff_of_false (Option.some_ne_none _).symm ?_
    rintro ⟨-, rfl⟩
    exact length address.length_body

variable {text : String} {address : Address}

theorem Spells.size (spelled : Spells text address) : text.utf8ByteSize = textLength := by
  -- The characters are ASCII, and so many that their bytes pass as an address.
  obtain ⟨digits, characters, lower⟩ := spelled
  have ascii : ∀ character ∈ address.kind.mark ++ digits, character.toNat < 128 := by
    intro character there
    rcases List.mem_append.mp there with mark | digit
    · exact address.ascii_text character (List.mem_append_left _ mark)
    · have lowered : character.toLower ∈ Digits.hex address.body :=
        lower ▸ List.mem_map_of_mem digit
      exact ascii_of_toLower (address.ascii_text _ (List.mem_append_right _ lowered))
  have count : digits.length = 40 := by
    rw [← List.length_map Char.toLower, lower, Digits.length_hex, address.length_body]
  rw [← @String.ofList_toList text, characters, utf8ByteSize_ofList ascii,
    List.length_append, count]
  cases address.kind <;> rfl

theorem read_eq_ok_iff : read text = .ok address ↔ Spells text address := by
  unfold read
  constructor
  · intro read
    split at read
    next =>
      split at read
      next => cases read
      next kind digits marked =>
        split at read
        next => cases read
        next found spelled =>
          cases read
          obtain ⟨body, hex, kept⟩ := Option.bind_eq_some_iff.mp spelled
          obtain ⟨rfl, rfl⟩ := ofBody?_eq_some_iff.mp kept
          exact ⟨digits, splitMark?_eq_some_iff.mp marked, Digits.hex_of_ofHex? hex⟩
    next => cases read
  · intro spelled
    rw [if_pos spelled.size]
    obtain ⟨digits, characters, lower⟩ := spelled
    have body : ofBody? address.kind address.body = some address := ofBody?_eq_some_iff.mpr ⟨rfl, rfl⟩
    rw [splitMark?_eq_some_iff.mpr characters]
    simp only [Digits.ofHex?_of_lower lower, Option.bind_some, body]

def Recased (first second : String) : Prop :=
  ∃ mark digits others, first.toList = mark ++ digits ∧ second.toList = mark ++ others ∧
    mark.length = 2 ∧ digits.map Char.toLower = others.map Char.toLower

theorem hex_inj {one other : Bytes} (same : Digits.hex one = Digits.hex other) : one = other := by
  have read := Digits.ofHex?_hex one
  rw [same, Digits.ofHex?_hex other] at read
  exact (Option.some.inj read).symm

theorem mark_inj {one other : AddressKind} (same : one.mark = other.mark) : one = other := by
  cases one <;> cases other <;> first | rfl | cases same

theorem Spells.of_mark {text : String} {address : Address} (spelled : Spells text address)
    {mark digits : List Char} (characters : text.toList = mark ++ digits) (two : mark.length = 2) :
    mark = address.kind.mark ∧ digits.map Char.toLower = Digits.hex address.body := by
  obtain ⟨own, same, lower⟩ := spelled
  have length : mark.length = address.kind.mark.length := by
    rw [two]
    cases address.kind <;> rfl
  obtain ⟨rfl, rfl⟩ := List.append_inj (characters.symm.trans same) length
  exact ⟨rfl, lower⟩

theorem Recased.address_eq {first second : String} {address other : Address}
    (recased : Recased first second) (one : Spells first address) (two : Spells second other) :
    address = other := by
  obtain ⟨mark, digits, others, characters, alike, length, lower⟩ := recased
  obtain ⟨own, digits⟩ := one.of_mark characters length
  obtain ⟨same, others⟩ := two.of_mark alike length
  have body : address.body = other.body := hex_inj (digits.symm.trans (lower.trans others))
  have kind : address.kind = other.kind := mark_inj (own.symm.trans same)
  cases address
  cases other
  congr

theorem Spells.unique {text : String} {address other : Address} (one : Spells text address)
    (two : Spells text other) : address = other :=
  Except.ok.inj ((read_eq_ok_iff.mpr one).symm.trans (read_eq_ok_iff.mpr two))

theorem recased_of_spells {first second : String} {address : Address} (one : Spells first address)
    (two : Spells second address) : Recased first second := by
  obtain ⟨digits, characters, lower⟩ := one
  obtain ⟨others, alike, low⟩ := two
  refine ⟨_, digits, others, characters, alike, ?_, lower.trans low.symm⟩
  cases address.kind <;> rfl

end Address

end LedgerNode
