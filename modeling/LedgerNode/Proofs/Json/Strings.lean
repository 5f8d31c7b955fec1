import LedgerNode.Proofs.Json.Reading

set_option autoImplicit false

namespace LedgerNode.Json.Reader

theorem reads_readEscape {letter byte : UInt8} (known : escapedByte? letter = some byte)
    (rest : Bytes) : Reads readEscape (letter :: rest) [byte] rest := by
  refine (Reads.next letter rest).bind ?_
  simp only [known]
  exact .pure _ _

theorem control_digits :
    ∀ byte : UInt8, byte < 0x20 →
      hexWord [0x30, 0x30, hexDigitByte (byte / 16), hexDigitByte (byte % 16)] = some byte.toNat ∧
        encoded byte.toNat = [byte] := by
  have all : ∀ number, number < 32 →
      hexWord [0x30, 0x30, hexDigitByte (UInt8.ofNat number / 16),
        hexDigitByte (UInt8.ofNat number % 16)] = some number ∧
        encoded number = [UInt8.ofNat number] := by
    decide
  intro byte control
  have bound : byte.toNat < 32 := UInt8.lt_iff_toNat_lt.mp control
  have known := all byte.toNat bound
  rwa [UInt8.ofNat_toNat] at known

theorem reads_readHexWord {a b c d : UInt8} {value : Nat} (known : hexWord [a, b, c, d] = some value)
    (rest : Bytes) : Reads readHexWord (a :: b :: c :: d :: rest) value rest := by
  intro cursor at_text
  have digits : cursor.rest.take 4 = [a, b, c, d] := by rw [at_text]; rfl
  have taken : Reads ([a, b, c, d].forM (fun _ => advance)) (a :: b :: c :: d :: rest) () rest :=
    (Reads.advance a _).bind ((Reads.advance b _).bind ((Reads.advance c _).bind
      ((Reads.advance d rest).bind (.pure _ _))))
  obtain ⟨after, taken, at_rest⟩ := taken cursor at_text
  refine ⟨after, bind_eq_ok.mpr ⟨cursor, cursor, rfl, ?_⟩, at_rest⟩
  simp only [digits]
  refine bind_eq_ok.mpr ⟨(), after, taken, ?_⟩
  simp only [known]
  rfl

theorem reads_readCodePoint {byte : UInt8} (control : byte < 0x20) (rest : Bytes) :
    Reads readCodePoint
      (0x30 :: 0x30 :: hexDigitByte (byte / 16) :: hexDigitByte (byte % 16) :: rest) [byte] rest := by
  obtain ⟨word, alone⟩ := control_digits byte control
  have small : byte.toNat < 0x20 := UInt8.lt_iff_toNat_lt.mp control
  refine (reads_readHexWord word rest).bind ?_
  rw [if_neg (by simp; omega), if_neg (by simp; omega), alone]
  exact .pure _ _

section Content

variable {steps : Nat} {gathered escaped text middle result rest : Bytes} {byte : UInt8}

theorem reads_readContent_plain (quote : byte ≠ 0x22) (backslash : byte ≠ 0x5C)
    (shown : ¬byte < 0x20)
    (later : Reads (readContent steps (byte :: gathered)) text result rest) :
    Reads (readContent (steps + 1) gathered) (byte :: text) result rest := by
  refine (Reads.next byte text).bind ?_
  simpa [quote, backslash, shown] using later

theorem reads_readContent_escape (escape : Reads readEscape text escaped middle)
    (later : Reads (readContent steps (escaped.reverse ++ gathered)) middle result rest) :
    Reads (readContent (steps + 1) gathered) (0x5C :: text) result rest :=
  (Reads.next 0x5C text).bind (escape.bind later)

theorem reads_readContent_escapeByte
    (later : Reads (readContent steps (byte :: gathered)) text result rest) :
    Reads (readContent (steps + 1) gathered) (escapeByte byte ++ text) result rest := by
  have letter {sign : UInt8} (known : escapedByte? sign = some byte) :
      Reads (readContent (steps + 1) gathered) (0x5C :: sign :: text) result rest :=
    reads_readContent_escape (reads_readEscape known text) later
  -- The cases are those of the printer; all but the last two have a letter of their own.
  unfold escapeByte
  split
  next quote => exact letter (by rw [quote]; rfl)
  next quote =>
    split
    next backslash => exact letter (by rw [backslash]; rfl)
    next backslash =>
      split
      next same => exact letter (by rw [same]; rfl)
      split
      next same => exact letter (by rw [same]; rfl)
      split
      next same => exact letter (by rw [same]; rfl)
      split
      next same => exact letter (by rw [same]; rfl)
      split
      next same => exact letter (by rw [same]; rfl)
      split
      next control =>
        have escape : Reads readEscape
            (0x75 :: 0x30 :: 0x30 :: hexDigitByte (byte / 16) :: hexDigitByte (byte % 16) :: text)
            [byte] text :=
          (Reads.next 0x75 _).bind (reads_readCodePoint control text)
        exact reads_readContent_escape escape later
      next shown => exact reads_readContent_plain quote backslash shown later

end Content

theorem reads_readContent (bytes : Bytes) {steps : Nat} (enough : bytes.length < steps)
    (gathered rest : Bytes) :
    Reads (readContent steps gathered) (bytes.flatMap escapeByte ++ 0x22 :: rest)
      (gathered.reverse ++ bytes) rest := by
  -- On the bytes: whatever the escape of a byte is, it takes one step.
  induction bytes generalizing steps gathered with
  | nil =>
    obtain ⟨steps, rfl⟩ := Nat.exists_eq_add_one.mpr (Nat.zero_lt_of_lt enough)
    refine (Reads.next 0x22 rest).bind ?_
    rw [List.append_nil]
    exact .pure _ _
  | cons byte bytes ih =>
    obtain ⟨steps, rfl⟩ := Nat.exists_eq_add_one.mpr (Nat.zero_lt_of_lt enough)
    have later := ih (Nat.lt_of_succ_lt_succ enough) (byte :: gathered)
    rw [List.reverse_cons, List.append_assoc, List.singleton_append] at later
    rw [List.flatMap_cons, List.append_assoc]
    exact reads_readContent_escapeByte later

theorem length_le_flatMap_escapeByte (bytes : Bytes) :
    bytes.length ≤ (bytes.flatMap escapeByte).length := by
  induction bytes with
  | nil => exact Nat.le_refl _
  | cons byte bytes ih =>
    have some : 1 ≤ (escapeByte byte).length := by
      unfold escapeByte
      repeat' split
      all_goals simp
    rw [List.flatMap_cons, List.length_append, List.length_cons]
    omega

theorem reads_readText (text : String) (rest : Bytes) :
    Reads readText ((Bytes.ofString text).flatMap escapeByte ++ 0x22 :: rest) text rest := by
  refine Reads.budget (fun steps enough => ?_)
  have longer := length_le_flatMap_escapeByte (Bytes.ofString text)
  rw [List.length_append] at enough
  refine (reads_readContent (Bytes.ofString text) (by omega) [] rest).bind ?_
  simp only [List.reverse_nil, List.nil_append, Bytes.text?_ofString]
  exact .pure _ _

end LedgerNode.Json.Reader
