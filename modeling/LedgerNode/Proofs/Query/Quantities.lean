import LedgerNode.Proofs.Query.Positional

set_option autoImplicit false

namespace LedgerNode.Quantity

open Digits

/-- Hex digits behind a mark or decimal digits alone, with the number that they write. -/
def Denotes (text : String) (number : Nat) : Prop :=
  (∃ digits, text.toList = '0' :: 'x' :: digits ∧ Writes 16 digits number) ∨ Writes 10 text.toList number

section Texts

variable {text : String} {number : Nat}

theorem denotes_iff_spells : Denotes text number ↔ Spells text number := by
  have hex (digits : List Char) : Writes 16 digits number ↔ Digits.Spell 16 digits number :=
    writes_iff_spell (by decide) (by decide)
  have decimal : Writes 10 text.toList number ↔ Digits.Spell 10 text.toList number :=
    writes_iff_spell (by decide) (by decide)
  simp only [Denotes, Spells, HexSpells, hex, decimal]

theorem Denotes.unique {other : Nat} (one : Denotes text number) (two : Denotes text other) :
    number = other :=
  (denotes_iff_spells.mp one).unique (denotes_iff_spells.mp two)

theorem readBalance_iff_denotes {value : Balance} :
    readBalance text = .ok value ↔ Denotes text value.toNat := by
  rw [readBalance_eq_ok_iff, denotes_iff_spells]

theorem readWord_iff_denotes {word : UInt64} : readWord text = .ok word ↔ Denotes text word.toNat := by
  rw [readWord_eq_ok_iff, denotes_iff_spells]

theorem Denotes.ne_empty (denotes : Denotes text number) : text ≠ "" := by
  rintro rfl
  rcases denotes with ⟨digits, characters, -⟩ | writes
  · cases characters
  · exact writes.nonempty rfl

theorem Denotes.ne_mark (denotes : Denotes text number) : text ≠ "0x" := by
  rintro rfl
  rcases denotes with ⟨digits, characters, writes⟩ | writes
  · cases characters
    exact writes.nonempty rfl
  · exact absurd (writes.each 'x' (by decide)) (by decide)

theorem Denotes.mem (denotes : Denotes text number) :
    ∀ character ∈ text.toList, character ∈ 'x' :: numerals 16 := by
  rcases denotes with ⟨digits, characters, writes⟩ | writes
  · rw [characters]
    intro character member
    rcases List.mem_cons.mp member with rfl | member
    · decide
    · rcases List.mem_cons.mp member with rfl | member
      · decide
      · exact List.mem_cons_of_mem _ (writes.each character member)
  · have all : (numerals 10).all (· ∈ 'x' :: numerals 16) := by decide
    intro character member
    exact of_decide_eq_true (List.all_eq_true.mp all character (writes.each character member))

theorem readNumber_of_beyond (denotes : Denotes text number) (beyond : balanceLimit ≤ number) :
    readNumber text = .error (.badDigits text .tooLarge) := by
  -- A numeral does not start with a sign, so that the fault is one of its digits.
  have positive : 0 < balanceLimit := by decide
  rcases denotes with ⟨digits, characters, writes⟩ | writes
  · have marked := stripHexMark_eq_some_iff.mpr characters
    have unsigned := unsigned_of_spell (by decide) (by decide)
      ((writes_iff_spell (by decide) (by decide)).mp writes)
    have fault := readDigits_of_writes (by decide) (by decide) positive writes beyond
    obtain ⟨first, rest, rfl⟩ := List.exists_cons_of_ne_nil writes.nonempty
    simp only [readNumber, marked, Option.getD_some, unsigned, if_false, fault]
    rfl
  · have spelled := (writes_iff_spell (by decide) (by decide)).mp writes
    have unmarked := unmarked_of_spell spelled
    have unsigned := unsigned_of_spell (by decide) (by decide) spelled
    have fault := readDigits_of_writes (by decide) (by decide) positive writes beyond
    simp only [readNumber, unmarked, Option.getD_none, unsigned, if_false, fault]
    rfl

theorem readBalance_of_beyond (denotes : Denotes text number) (beyond : 2 ^ 128 ≤ number) :
    readBalance text = .error (.badDigits text .tooLarge) := by
  rw [readBalance, readNumber_of_beyond denotes beyond]
  rfl

theorem readWord_iff_readBalance {word : UInt64} : readWord text = .ok word ↔
    ∃ value, readBalance text = .ok value ∧ value.toNat = word.toNat := by
  rw [readWord_iff_denotes]
  simp only [readBalance_iff_denotes]
  constructor
  · intro denotes
    have fits : word.toNat < 2 ^ 128 := Nat.lt_trans word.toNat_lt_size (by decide)
    have same : (BitVec.ofNat 128 word.toNat).toNat = word.toNat := by
      rw [BitVec.toNat_ofNat, Nat.mod_eq_of_lt fits]
    exact ⟨BitVec.ofNat 128 word.toNat, same.symm ▸ denotes, same⟩
  · rintro ⟨value, denotes, same⟩
    exact same ▸ denotes

theorem exists_readWord_iff : (∃ word, readWord text = .ok word) ↔
    ∃ value, readBalance text = .ok value ∧ value.toNat < 2 ^ 64 := by
  constructor
  · rintro ⟨word, read⟩
    obtain ⟨value, balance, same⟩ := readWord_iff_readBalance.mp read
    exact ⟨value, balance, same ▸ word.toNat_lt_size⟩
  · rintro ⟨value, balance, small⟩
    have same : (UInt64.ofNat value.toNat).toNat = value.toNat := UInt64.toNat_ofNat_of_lt' small
    exact ⟨UInt64.ofNat value.toNat, readWord_iff_readBalance.mpr ⟨value, balance, same.symm⟩⟩

theorem denotes_toHex (value : Balance) : Denotes (toHex value.toNat) value.toNat :=
  readBalance_iff_denotes.mp (readBalance_toHex value)

theorem toLower_of_canonical {digits : List Char}
    (lower : ∀ digit ∈ digits, digit ∈ "0123456789abcdef".toList) : digits.map Char.toLower = digits := by
  have all : "0123456789abcdef".toList.all fun digit => digit.toLower = digit := by decide
  have same (digit : Char) (member : digit ∈ digits) : digit.toLower = digit :=
    of_decide_eq_true (List.all_eq_true.mp all digit (lower digit member))
  rw [List.map_congr_left same, List.map_id']

theorem eq_toHex_of_canonical (canonical : Canonical text) (denotes : Denotes text number) :
    text = toHex number := by
  obtain ⟨digits, characters, nonempty, lower, single⟩ := canonical
  have hex := (hexSpells_of_mark (stripHexMark_eq_some_iff.mpr characters)).mp
    ((spells_of_mark (stripHexMark_eq_some_iff.mpr characters)).mp (denotes_iff_spells.mp denotes))
  obtain ⟨zeros, spelled⟩ := hex
  rw [toLower_of_canonical lower] at spelled
  -- Zeros in front are all that digits of one case could still differ in, and digits of a number stand behind them.
  have plain : digits = Nat.toDigits 16 number := by
    cases zeros with
    | zero => simpa using spelled
    | succ zeros =>
      have leading : digits.head? = some '0' := by
        rw [spelled, List.replicate_succ, List.cons_append, List.head?_cons]
      have length := congrArg List.length spelled
      have some : 0 < (Nat.toDigits 16 number).length := List.length_pos_iff.mpr Nat.toDigits_ne_nil
      rw [single leading, List.length_append, List.length_replicate, List.length_singleton] at length
      omega
  apply String.toList_inj.mp
  rw [characters, plain]
  simp [toHex, Digits.write]

theorem canonical_iff (value : Balance) (spelling : String) :
    Canonical spelling ∧ Denotes spelling value.toNat ↔ spelling = toHex value.toNat := by
  constructor
  · rintro ⟨canonical, denotes⟩
    exact eq_toHex_of_canonical canonical denotes
  · rintro rfl
    exact ⟨canonical_toHex _, denotes_toHex value⟩

end Texts

/--
A text is read as a balance exactly if it is a numeral of a number below `2 ^ 128`, and as a word as far as
words go. Each balance is written in the one canonical numeral of its number.
-/
theorem quantities_are_their_numerals :
    (∀ (text : String) (value : Balance), readBalance text = .ok value ↔ Denotes text value.toNat) ∧
    (∀ (text : String) (value : Balance), readBalance text = .ok value →
      text ≠ "" ∧ text ≠ "0x" ∧ ∀ character ∈ text.toList, character ∈ 'x' :: numerals 16) ∧
    (∀ (text : String) (number : Nat), Denotes text number → 2 ^ 128 ≤ number →
      readBalance text = .error (.badDigits text .tooLarge)) ∧
    (∀ text : String,
      ((∃ word, readWord text = .ok word) ↔
        ∃ value, readBalance text = .ok value ∧ value.toNat < 2 ^ 64) ∧
      ∀ word, readWord text = .ok word ↔
        ∃ value, readBalance text = .ok value ∧ value.toNat = word.toNat) ∧
    (∀ value : Balance,
      Canonical (toHex value.toNat) ∧ Denotes (toHex value.toNat) value.toNat ∧
      readBalance (toHex value.toNat) = .ok value) ∧
    ∀ (text : String) (number : Nat) (value : Balance),
      Denotes text number → readBalance text = .ok value →
        ∀ spelling, Canonical spelling ∧ Denotes spelling number ↔ spelling = toHex value.toNat := by
  refine ⟨fun _ _ => readBalance_iff_denotes, fun text value read => ?_,
    fun _ _ => readBalance_of_beyond, fun text => ⟨exists_readWord_iff, fun _ => readWord_iff_readBalance⟩,
    fun value => ⟨canonical_toHex _, denotes_toHex value, readBalance_toHex value⟩, ?_⟩
  · have denotes := readBalance_iff_denotes.mp read
    exact ⟨denotes.ne_empty, denotes.ne_mark, denotes.mem⟩
  · intro text number value denotes read spelling
    rw [denotes.unique (readBalance_iff_denotes.mp read)]
    exact canonical_iff value spelling

def paddedWord : String := "0x00fFfFffffFFFFffff"

def firstBeyond : String := "340282366920938463463374607431768211456"

theorem denotes_paddedWord : Denotes paddedWord (2 ^ 64 - 1) :=
  .inl ⟨_, rfl, by decide⟩

theorem denotes_firstBeyond : Denotes firstBeyond (2 ^ 128) :=
  .inr (by decide)

theorem paddedWord_and_firstBeyond_read :
    (readBalance paddedWord = .ok (BitVec.ofNat 128 (2 ^ 64 - 1)) ∧ paddedWord ≠ "0x") ∧
    (Denotes firstBeyond (2 ^ 128) ∧
      readBalance firstBeyond = .error (.badDigits firstBeyond .tooLarge)) ∧
    readWord paddedWord = .ok (UInt64.ofNat (2 ^ 64 - 1)) ∧
    (Denotes paddedWord (2 ^ 64 - 1) ∧ "0xffffffffffffffff" = toHex (BitVec.ofNat 128 (2 ^ 64 - 1)).toNat) := by
  obtain ⟨read, plain, beyond, words, -, canonical⟩ := quantities_are_their_numerals
  have whole : readBalance paddedWord = .ok (BitVec.ofNat 128 (2 ^ 64 - 1)) :=
    (read _ _).mpr denotes_paddedWord
  have digits : "0xffffffffffffffff".toList = '0' :: 'x' :: List.replicate 16 'f' := rfl
  have shortest : Canonical "0xffffffffffffffff" := by
    refine ⟨_, digits, by decide, fun digit member => ?_, by decide⟩
    rw [List.eq_of_mem_replicate member]
    decide
  exact ⟨⟨whole, (plain _ _ whole).2.1⟩, ⟨denotes_firstBeyond, beyond _ _ denotes_firstBeyond (by decide)⟩,
    ((words _).2 _).mpr ⟨_, whole, by decide⟩, denotes_paddedWord,
    (canonical _ _ _ denotes_paddedWord whole _).mp ⟨shortest, .inl ⟨_, digits, by decide⟩⟩⟩

end LedgerNode.Quantity
