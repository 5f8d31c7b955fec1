set_option autoImplicit false

namespace LedgerNode

abbrev Bytes := List UInt8

namespace Bytes

def ofString (text : String) : Bytes :=
  text.toByteArray.data.toList

def toArray (bytes : Bytes) : ByteArray :=
  ⟨List.toArray bytes⟩

def text? (bytes : Bytes) : Option String :=
  String.fromUTF8? bytes.toArray

theorem text?_ofString (text : String) : text? (ofString text) = some text := by
  have bytes : toArray (ofString text) = text.toByteArray := rfl
  simp only [text?, bytes, String.fromUTF8?, text.isValidUTF8, dif_pos, String.fromUTF8]

def isContinuation (byte : UInt8) : Bool :=
  0x80 ≤ byte && byte ≤ 0xBF

/--
How many bytes at the front spell whole characters: the length of the longest well-formed start,
where a text cut inside a character counts up to that character.
-/
def wellFormedLength : Bytes → Nat
  | [] => 0
  | first :: rest =>
    if first ≤ 0x7F then
      1 + wellFormedLength rest
    else
      match rest with
      | [] => 0
      | second :: rest =>
        if 0xC2 ≤ first && first ≤ 0xDF && isContinuation second then
          2 + wellFormedLength rest
        else
          match rest with
          | [] => 0
          | third :: rest =>
            if secondOfThree first second && isContinuation third then
              3 + wellFormedLength rest
            else
              match rest with
              | [] => 0
              | fourth :: rest =>
                if secondOfFour first second && isContinuation third && isContinuation fourth then
                  4 + wellFormedLength rest
                else
                  0
where
  -- No overlong form and no surrogate begins so.
  secondOfThree (first second : UInt8) : Bool :=
    (first == 0xE0 && 0xA0 ≤ second && second ≤ 0xBF)
      || (first == 0xED && 0x80 ≤ second && second ≤ 0x9F)
      || (0xE1 ≤ first && first ≤ 0xEF && first != 0xED && isContinuation second)
  -- No overlong form and nothing above the last code point begins so.
  secondOfFour (first second : UInt8) : Bool :=
    (first == 0xF0 && 0x90 ≤ second && second ≤ 0xBF)
      || (first == 0xF4 && 0x80 ≤ second && second ≤ 0x8F)
      || (0xF1 ≤ first && first ≤ 0xF3 && isContinuation second)

def bigEndian : Nat → Nat → Bytes
  | 0, _ => []
  | count + 1, value => bigEndian count (value / 256) ++ [UInt8.ofNat (value % 256)]

def ofBigEndian (bytes : Bytes) : Nat :=
  bytes.foldl (fun value byte => 256 * value + byte.toNat) 0

@[simp]
theorem length_bigEndian (count value : Nat) : (bigEndian count value).length = count := by
  induction count generalizing value with
  | zero => rfl
  | succ count ih => simp [bigEndian, ih]

theorem ofBigEndian_append (front : Bytes) (last : UInt8) :
    ofBigEndian (front ++ [last]) = 256 * ofBigEndian front + last.toNat := by
  simp [ofBigEndian]

end Bytes

end LedgerNode
