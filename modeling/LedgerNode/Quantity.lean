import LedgerNode.Text.Digits

set_option autoImplicit false

namespace LedgerNode

abbrev Balance := BitVec 128

namespace Quantity

inductive DigitsFault where
  | empty
  | invalidDigit
  | tooLarge
  deriving DecidableEq, Repr

def DigitsFault.message : DigitsFault → String
  | .empty => "cannot parse integer from empty string"
  | .invalidDigit => "invalid digit found in string"
  | .tooLarge => "number too large to fit in target type"

inductive Fault where
  | unexpectedSign (text : String)
  | emptyHex (text : String)
  | badDigits (text : String) (fault : DigitsFault)
  | tooWide (text : String)
  deriving DecidableEq, Repr

def Fault.message : Fault → String
  | .unexpectedSign text => s!"`{text}`: unexpected sign"
  | .emptyHex text => s!"empty hex quantity `{text}`"
  | .badDigits text fault => s!"`{text}`: " ++ fault.message
  | .tooWide text => s!"`{text}` does not fit in 64 bits"

/--
Reads digits from the left into a number below `limit`. The first fault wins, and a character that
is no digit is reported as such even where the number would have left its range.
-/
def accumulate (base limit : Nat) : Nat → List Char → Except DigitsFault Nat
  | value, [] => .ok value
  | value, digit :: rest =>
    match Digits.value? base digit with
    | none => .error .invalidDigit
    | some next =>
      if value * base + next < limit then
        accumulate base limit (value * base + next) rest
      else
        .error .tooLarge

def readDigits (base limit : Nat) : List Char → Except DigitsFault Nat
  | [] => .error .empty
  | digits => accumulate base limit 0 digits

def stripHexMark : List Char → Option (List Char)
  | '0' :: 'x' :: digits => some digits
  | _ => none

def balanceLimit : Nat := 0x100000000000000000000000000000000

def readNumber (text : String) : Except Fault Nat :=
  let characters := text.toList
  let marked := stripHexMark characters
  if (marked.getD characters).head? = some '+' then
    .error (.unexpectedSign text)
  else
    match marked with
    | some [] => .error (.emptyHex text)
    | some digits => (readDigits 16 balanceLimit digits).mapError (.badDigits text)
    | none => (readDigits 10 balanceLimit characters).mapError (.badDigits text)

def readBalance (text : String) : Except Fault Balance :=
  (readNumber text).map (BitVec.ofNat 128)

def readWord (text : String) : Except Fault UInt64 := do
  let value ← readNumber text
  if value < UInt64.size then
    return UInt64.ofNat value
  else
    throw (.tooWide text)

def toHex (value : Nat) : String :=
  "0x" ++ String.ofList (Digits.write 16 value)

end Quantity

end LedgerNode
