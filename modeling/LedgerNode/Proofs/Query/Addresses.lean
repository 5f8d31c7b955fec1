import LedgerNode.Proofs.Json.Refinement
import LedgerNode.Proofs.Query.Positional
import LedgerNode.Proofs.Query.Wire
import LedgerNode.Proofs.Storage.Records

set_option autoImplicit false

namespace LedgerNode

namespace Digits

theorem mem_of_ofHex? {digits : List Char} {bytes : Bytes} (read : ofHex? digits = some bytes) :
    ∀ digit ∈ digits, digit ∈ numerals 16 := by
  fun_induction ofHex? digits generalizing bytes with
  | case1 => simp
  | case2 high low rest first second tail found there here ih =>
    have one := (mem_numerals_iff (Nat.le_refl 16)).mpr (Option.isSome_of_eq_some here)
    have other := (mem_numerals_iff (Nat.le_refl 16)).mpr (Option.isSome_of_eq_some there)
    exact List.forall_mem_cons.mpr ⟨one, List.forall_mem_cons.mpr ⟨other, ih found⟩⟩
  | case3 => cases read
  | case4 => cases read

theorem exists_ofHex? {digits : List Char} {count : Nat} (long : digits.length = 2 * count)
    (each : ∀ digit ∈ digits, digit ∈ numerals 16) :
    ∃ bytes, ofHex? digits = some bytes ∧ bytes.length = count := by
  -- Two digits make a byte, so the steps are those of the bytes.
  induction count generalizing digits with
  | zero =>
    obtain rfl := List.length_eq_zero_iff.mp long
    exact ⟨[], rfl, rfl⟩
  | succ count ih =>
    obtain ⟨high, digits, rfl⟩ := List.exists_cons_of_length_eq_add_one long
    obtain ⟨low, digits, rfl⟩ := List.exists_cons_of_length_eq_add_one (Nat.succ.inj long)
    obtain ⟨first, each⟩ := List.forall_mem_cons.mp each
    obtain ⟨second, each⟩ := List.forall_mem_cons.mp each
    obtain ⟨bytes, read, length⟩ := ih (by simpa [Nat.mul_add] using long) each
    have first := value?_of_mem (Nat.le_refl 16) first
    have second := value?_of_mem (Nat.le_refl 16) second
    refine ⟨UInt8.ofNat (16 * worth high + worth low) :: bytes, ?_, by rw [List.length_cons, length]⟩
    simp only [ofHex?, first, second, read]

end Digits

namespace Bytes

def characters (bytes : Bytes) : List Char :=
  bytes.map Char.ofUInt8

theorem asciiByte_ofUInt8 (byte : UInt8) : asciiByte (Char.ofUInt8 byte) = byte := by
  have same : (Char.ofUInt8 byte).toNat = byte.toNat := UInt8.toNat_toUInt32 byte
  rw [asciiByte, same, UInt8.ofNat_toNat]

theorem ofString_inj {first second : String} (same : ofString first = ofString second) :
    first = second := by
  have read := text?_ofString first
  rw [same, text?_ofString] at read
  exact (Option.some.inj read).symm

theorem characters_ofString {text : String} (ascii : ∀ character ∈ text.toList, character.toNat < 128) :
    characters (ofString text) = text.toList := by
  have bytes := ofString_ofList ascii
  rw [String.ofList_toList] at bytes
  rw [bytes, characters, List.map_map]
  refine (List.map_congr_left fun character member => ?_).trans (List.map_id _)
  have all : ∀ code, code < 128 →
      Char.ofUInt8 (asciiByte (Char.ofNat code)) = Char.ofNat code := by
    decide +kernel
  exact forall_ascii all (ascii character member)

theorem ascii_of_characters {text : String}
    (ascii : ∀ character ∈ characters (ofString text), character.toNat < 128) :
    ∀ character ∈ text.toList, character.toNat < 128 := by
  -- A text with a character beyond ASCII has a byte beyond it, too.
  have same : ofString (String.ofList (characters (ofString text))) = ofString text := by
    rw [ofString_ofList ascii, characters, List.map_map]
    exact (List.map_congr_left fun byte _ => asciiByte_ofUInt8 byte).trans (List.map_id _)
  rw [← ofString_inj same, String.toList_ofList]
  exact ascii

theorem ofHex?_characters (text : String) :
    Digits.ofHex? (characters (ofString text)) = Digits.ofHex? text.toList := by
  apply Option.ext
  intro bytes
  constructor
  · intro read
    have ascii := ascii_of_characters fun character member =>
      Digits.ascii_of_mem (Digits.mem_of_ofHex? read character member)
    rwa [characters_ofString ascii] at read
  · intro read
    have ascii : ∀ character ∈ text.toList, character.toNat < 128 := fun character member =>
      Digits.ascii_of_mem (Digits.mem_of_ofHex? read character member)
    rwa [characters_ofString ascii]

end Bytes

namespace Address

def WellFormed (text : String) : Prop :=
  ∃ mark ∈ ["hx", "cx"], ∃ digits, text.toList = mark.toList ++ digits ∧ digits.length = 40 ∧
    ∀ digit ∈ digits, digit ∈ Digits.numerals 16

def Marked (text : String) : Prop :=
  ∃ mark ∈ ["hx", "cx"], mark.toList <+: text.toList

section Reading

variable {text first second : String} {address : Address}

theorem exists_mark_iff {mark : List Char} :
    (∃ named ∈ ["hx", "cx"], mark = named.toList) ↔ ∃ kind : AddressKind, mark = kind.mark := by
  constructor
  · rintro ⟨named, known, rfl⟩
    simp only [List.mem_cons, List.not_mem_nil, or_false] at known
    rcases known with rfl | rfl
    · exact ⟨.eoa, by decide⟩
    · exact ⟨.contract, by decide⟩
  · rintro ⟨kind, rfl⟩
    cases kind with
    | eoa => exact ⟨"hx", by decide, by decide⟩
    | contract => exact ⟨"cx", by decide, by decide⟩

theorem exists_spells_iff : (∃ address, Spells text address) ↔ WellFormed text := by
  constructor
  · rintro ⟨address, digits, characters, lower⟩
    obtain ⟨mark, known, same⟩ := exists_mark_iff.mpr ⟨address.kind, rfl⟩
    have read := Digits.ofHex?_of_lower lower
    have length := Digits.length_of_ofHex? read
    rw [address.length_body] at length
    exact ⟨mark, known, digits, same ▸ characters, length, Digits.mem_of_ofHex? read⟩
  · rintro ⟨mark, known, digits, characters, length, each⟩
    obtain ⟨kind, same⟩ := exists_mark_iff.mp ⟨mark, known, rfl⟩
    have pairs : digits.length = 2 * 20 := length
    obtain ⟨body, read, many⟩ := Digits.exists_ofHex? pairs each
    exact ⟨{ kind, body, length_body := many }, digits, same ▸ characters, Digits.hex_of_ofHex? read⟩

theorem exists_read_iff : (∃ address, read text = .ok address) ↔ WellFormed text := by
  simp only [read_eq_ok_iff, exists_spells_iff]

theorem text_of_read (reads : read text = .ok address) : address.text = text.toLower := by
  obtain ⟨digits, characters, lower⟩ := read_eq_ok_iff.mp reads
  have mark : address.kind.mark.map Char.toLower = address.kind.mark := by
    cases address.kind <;> decide
  have lowered : text.toLower.toList = text.toList.map Char.toLower := String.toList_map
  apply String.toList_inj.mp
  rw [Address.text, String.toList_ofList, lowered, characters, List.map_append, mark, lower]

theorem read_iff_recased (reads : read first = .ok address) :
    read second = .ok address ↔ Recased first second := by
  have own := read_eq_ok_iff.mp reads
  rw [read_eq_ok_iff]
  constructor
  · exact recased_of_spells own
  · rintro ⟨mark, digits, others, characters, alike, two, lower⟩
    obtain ⟨rfl, spelled⟩ := own.of_mark characters two
    exact ⟨others, alike, lower.symm.trans spelled⟩

theorem marked_iff : Marked text ↔ ∃ kind digits, splitMark? text.toList = some (kind, digits) := by
  simp only [splitMark?_eq_some_iff]
  constructor
  · rintro ⟨mark, known, digits, same⟩
    obtain ⟨kind, own⟩ := exists_mark_iff.mp ⟨mark, known, rfl⟩
    exact ⟨kind, digits, own ▸ same.symm⟩
  · rintro ⟨kind, digits, same⟩
    obtain ⟨mark, known, own⟩ := exists_mark_iff.mpr ⟨kind, rfl⟩
    exact ⟨mark, known, digits, own ▸ same.symm⟩

theorem read_of_unmarked (long : text.utf8ByteSize = textLength)
    (unmarked : splitMark? text.toList = none) : read text = .error (.mark text) := by
  rw [read, if_pos long, unmarked]

theorem read_of_marked {kind : AddressKind} {digits : List Char} (long : text.utf8ByteSize = textLength)
    (marked : splitMark? text.toList = some (kind, digits)) :
    read text = ((Digits.ofHex? digits).bind (ofBody? kind)).elim (.error (.digits text)) .ok := by
  simp only [read, long, if_true, marked]
  cases (Digits.ofHex? digits).bind (ofBody? kind) <;> rfl

/-- What is wrong with a text that is no address: the first of its length, its mark and its digits. -/
inductive Misspelled (text : String) : AddressFault → Prop where
  | length (other : text.utf8ByteSize ≠ 42) : Misspelled text (.length text.utf8ByteSize)
  | mark (long : text.utf8ByteSize = 42) (unmarked : ¬Marked text) : Misspelled text (.mark text)
  | digits (long : text.utf8ByteSize = 42) (marked : Marked text) (ill : ¬WellFormed text) :
      Misspelled text (.digits text)

theorem read_of_misspelled {fault : AddressFault} (misspelled : Misspelled text fault) :
    read text = .error fault := by
  cases misspelled with
  | length other => exact if_neg other
  | mark long unmarked =>
    refine read_of_unmarked long ?_
    by_contra some
    obtain ⟨⟨kind, digits⟩, marked⟩ := Option.ne_none_iff_exists'.mp some
    exact unmarked (marked_iff.mpr ⟨kind, digits, marked⟩)
  | digits long marked ill =>
    obtain ⟨kind, digits, marked⟩ := marked_iff.mp marked
    have reads := read_of_marked long marked
    cases found : (Digits.ofHex? digits).bind (ofBody? kind) with
    | none =>
      rw [found] at reads
      exact reads
    | some address =>
      rw [found] at reads
      exact absurd (exists_read_iff.mp ⟨address, reads⟩) ill

theorem misspelled_or_read (text : String) :
    (∃ fault, Misspelled text fault) ∨ ∃ address, read text = .ok address := by
  by_cases long : text.utf8ByteSize = 42
  · by_cases marked : Marked text
    · by_cases formed : WellFormed text
      · exact .inr (exists_read_iff.mpr formed)
      · exact .inl ⟨_, .digits long marked formed⟩
    · exact .inl ⟨_, .mark long marked⟩
  · exact .inl ⟨_, .length long⟩

theorem read_eq_error_iff {fault : AddressFault} : read text = .error fault ↔ Misspelled text fault := by
  refine ⟨fun failed => ?_, read_of_misspelled⟩
  rcases misspelled_or_read text with ⟨other, misspelled⟩ | ⟨address, reads⟩
  · cases (read_of_misspelled misspelled).symm.trans failed
    exact misspelled
  · cases reads.symm.trans failed

end Reading

section Cutting

variable {text front back : String} {offset : Nat}

def cutAt? (text : String) (offset : Nat) : Option (String × String) :=
  if valid : (String.Pos.Raw.mk offset).IsValid text then
    some ((text.sliceTo (text.pos _ valid)).copy, (text.sliceFrom (text.pos _ valid)).copy)
  else
    none

theorem cutAt?_eq_some_iff :
    cutAt? text offset = some (front, back) ↔ text = front ++ back ∧ front.utf8ByteSize = offset := by
  unfold cutAt?
  constructor
  · intro cut
    split at cut
    next valid =>
      cases cut
      have splits := (text.pos _ valid).splits
      exact ⟨splits.eq_append, (congrArg String.Pos.Raw.byteIdx splits.offset_eq_rawEndPos).symm⟩
    next => cases cut
  · rintro ⟨rfl, rfl⟩
    -- The end of the front is a place to cut, and no other cut there has other parts.
    have valid : (String.Pos.Raw.mk front.utf8ByteSize).IsValid (front ++ back) :=
      String.Pos.Raw.isValid_iff_exists_append.mpr ⟨front, back, rfl, rfl⟩
    have splits : ((front ++ back).pos _ valid).Splits front back := ⟨rfl, rfl⟩
    obtain ⟨one, other⟩ := splits.eq ((front ++ back).pos _ valid).splits
    rw [dif_pos valid, ← one, ← other]

def readDigits? (text : String) (kind : AddressKind) : Option (Except AddressFault Address) :=
  (cutAt? text 2).map fun (_, digits) =>
    ((Digits.ofHex? (Bytes.characters (Bytes.ofString digits))).bind (ofBody? kind)).elim
      (.error (.digits text)) .ok

/--
The reader on the bytes of a text, which looks for the mark in front of the third byte and cuts the text there
to get at its digits. It would have no answer if it came to cut inside a character.
-/
def readBytes? (text : String) : Option (Except AddressFault Address) :=
  if text.utf8ByteSize ≠ textLength then
    some (.error (.length text.utf8ByteSize))
  else
    match (cutAt? text 2).map Prod.fst with
    | some "hx" => readDigits? text .eoa
    | some "cx" => readDigits? text .contract
    | _ => some (.error (.mark text))

theorem cutAt?_of_marked {kind : AddressKind} {digits : List Char}
    (marked : splitMark? text.toList = some (kind, digits)) :
    cutAt? text 2 = some (String.ofList kind.mark, String.ofList digits) := by
  refine cutAt?_eq_some_iff.mpr ⟨?_, ?_⟩
  · rw [← String.ofList_append, ← splitMark?_eq_some_iff.mp marked, String.ofList_toList]
  · cases kind <;> rfl

theorem not_cut_of_unmarked (unmarked : splitMark? text.toList = none) (kind : AddressKind) :
    (cutAt? text 2).map Prod.fst ≠ some (String.ofList kind.mark) := by
  intro cut
  obtain ⟨⟨front, back⟩, parts, rfl⟩ := Option.map_eq_some_iff.mp cut
  obtain ⟨rfl, -⟩ := cutAt?_eq_some_iff.mp parts
  rw [String.toList_append, String.toList_ofList, splitMark?_eq_some_iff.mpr rfl] at unmarked
  cases unmarked

theorem readDigits?_of_marked {kind : AddressKind} {digits : List Char}
    (long : text.utf8ByteSize = textLength) (marked : splitMark? text.toList = some (kind, digits)) :
    readDigits? text kind = some (read text) := by
  have decoded := Bytes.ofHex?_characters (String.ofList digits)
  rw [String.toList_ofList] at decoded
  rw [readDigits?, cutAt?_of_marked marked, read_of_marked long marked, Option.map_some]
  simp only [decoded]

theorem readBytes?_eq (text : String) : readBytes? text = some (read text) := by
  unfold readBytes?
  by_cases long : text.utf8ByteSize = textLength
  · rw [if_neg (not_not_intro long)]
    cases marked : splitMark? text.toList with
    | none =>
      -- There may be no place to cut, but if there is one, no mark stands in front of it.
      rw [read_of_unmarked long marked]
      split
      next cut => exact absurd cut (not_cut_of_unmarked marked .eoa)
      next cut => exact absurd cut (not_cut_of_unmarked marked .contract)
      next => rfl
    | some parts =>
      obtain ⟨kind, digits⟩ := parts
      rw [← readDigits?_of_marked long marked, cutAt?_of_marked marked]
      cases kind <;> rfl
  · rw [if_pos long, read, if_neg long]

end Cutting

open Json

section Json

def refusal (fault : AddressFault) : Fault where
  cause := .mismatch (.refused fault.message)
  position := none

theorem run_shape_writeString (depth : Depth) (text : String) :
    (shape.ofText depth).run (writeString text) = (read text).mapError refusal := by
  have reads : Reader.Reads (Shape.string.ofText depth) (writeString text ++ []) text [] :=
    Shape.reads_string text []
  rw [List.append_nil] at reads
  cases result : read text with
  | ok address => exact Reader.run_of_reads (Shape.reads_refine reads (by rw [result]; rfl))
  | error fault => exact Shape.run_refine_refused reads (by rw [result]; rfl)

theorem run_shape_iff {depth : Depth} {bytes : Bytes} {address : Address} :
    (shape.ofText depth).run bytes = .ok address ↔
      ∃ text, (Shape.string.ofText depth).run bytes = .ok text ∧ read text = .ok address := by
  rw [shape, Shape.run_refine_iff]
  simp only [mapError_eq_ok_iff]

theorem ofTree_shape_iff {value : Value} {address : Address} :
    shape.ofTree value = .ok address ↔ ∃ text, value = .string text ∧ read text = .ok address := by
  constructor
  · intro taken
    obtain ⟨text, string, passes⟩ := bind_eq_ok_iff.mp taken
    cases value with
    | string =>
      cases string
      exact ⟨text, rfl, mapError_eq_ok_iff.mp (mapError_eq_ok_iff.mp passes)⟩
    | _ => cases string
  · rintro ⟨text, rfl, reads⟩
    exact ofTree_read reads

end Json

/--
A text is read exactly if it is well formed, and told its first fault otherwise. Texts of one address differ
in the case of their digits only, and no text is cut inside a character.
-/
theorem addresses_are_their_texts :
    (∀ text : String,
      ((∃ address, read text = .ok address) ↔ WellFormed text) ∧
      (∀ address, read text = .ok address →
        address.text = text.toLower ∧ ∀ other, read other = .ok address ↔ Recased text other) ∧
      (∀ fault, read text = .error fault ↔ Misspelled text fault) ∧
      readBytes? text = some (read text)) ∧
    (∀ address : Address, read address.text = .ok address) ∧
    (∀ address : Address, (shape.ofText fullDepth).run (writeString address.text) = .ok address) ∧
    (∀ text : String,
      (shape.ofText fullDepth).run (writeString text) = (read text).mapError refusal) ∧
    (∀ (bytes : Bytes) (address : Address), (shape.ofText fullDepth).run bytes = .ok address ↔
      ∃ text, (Shape.string.ofText fullDepth).run bytes = .ok text ∧ read text = .ok address) ∧
    ∀ (value : Value) (address : Address), shape.ofTree value = .ok address ↔
      ∃ text, value = .string text ∧ read text = .ok address := by
  refine ⟨fun text => ⟨exists_read_iff, fun address reads => ⟨text_of_read reads, fun other => ?_⟩,
    fun _ => read_eq_error_iff, readBytes?_eq text⟩, read_text, fun address => ?_,
    run_shape_writeString fullDepth, fun _ _ => run_shape_iff, fun _ _ => ofTree_shape_iff⟩
  · exact read_iff_recased reads
  · rw [run_shape_writeString, read_text]
    rfl

def shoutedText : String := "cxABABABABABABABABABABABABABABABABABABABAB"

/-- As long as an address in bytes, with a character of two bytes across the end of the mark. -/
def straddledText : String := "hé000000000000000000000000000000000000000"

theorem shouted_read_and_straddled_refused :
    (read shoutedText = .ok (filled .contract 171) ∧
      (filled .contract 171).text = shoutedText.toLower ∧
      read "cxabababababababababababababababababababab" = .ok (filled .contract 171)) ∧
    readBytes? straddledText = some (.error (.mark straddledText)) := by
  obtain ⟨texts, -⟩ := addresses_are_their_texts
  have shouted : read shoutedText = .ok (filled .contract 171) :=
    read_eq_ok_iff.mpr ⟨_, rfl, by decide⟩
  obtain ⟨written, recased⟩ := (texts shoutedText).2.1 _ shouted
  obtain ⟨-, -, faults, bytes⟩ := texts straddledText
  have straddled : read straddledText = .error (.mark straddledText) := by
    refine (faults _).mpr (.mark (by decide) ?_)
    rw [marked_iff]
    rintro ⟨kind, digits, marked⟩
    cases marked
  refine ⟨⟨shouted, written, (recased _).mpr ?_⟩, bytes.trans (congrArg some straddled)⟩
  exact ⟨['c', 'x'], _, _, rfl, rfl, rfl, by decide⟩

end Address

end LedgerNode
