import LedgerNode.Json.Reader

set_option autoImplicit false

/-!
Numbers in a JSON text. A number without fraction and exponent that fits a word of 64 bits, or with
a minus sign a signed one, is an integer. Any other is a float: its digits make up a word as long as
they fit, later digits of the whole part only raise the exponent, later digits of the fraction are
dropped, and the word is then scaled by a power of ten in one rounded operation.
-/

namespace LedgerNode.Json

structure Scaled where
  significand : Nat
  exponent : Int
  deriving DecidableEq, Repr

def isDigit (byte : UInt8) : Bool :=
  0x30 ≤ byte && byte ≤ 0x39

def digitValue (byte : UInt8) : Nat :=
  (byte - 0x30).toNat

def exponentLimit : Nat := 2147483647

def powerOfTen (exponent : Nat) : Binary64 :=
  (Binary64.ofNat (Nat.pow 10 exponent)).getD (Binary64.zero false)

def largestPower : Nat := 308

def scaleByTen (value : Binary64) : Nat → Int → Option Binary64
  | _, .ofNat exponent =>
    if exponent ≤ largestPower then value.multiply (powerOfTen exponent)
    else if value.isZero then some value
    else none
  | steps, .negSucc below =>
    if below + 1 ≤ largestPower then value.divide (powerOfTen (below + 1))
    else if value.isZero then some value
    else
      match steps, value.divide (powerOfTen largestPower) with
      | steps + 1, some smaller => scaleByTen smaller steps (.negSucc (below - largestPower))
      | _, _ => some (Binary64.zero value.negative)

-- The float that a decimal rounds to; three divisions take any word to zero.
def Scaled.toFloat (negative : Bool) (decimal : Scaled) : Option Binary64 :=
  match Binary64.ofNat decimal.significand with
  | none => none
  | some value =>
    (scaleByTen value 4 decimal.exponent).map (fun result => { result with negative })

namespace Reader

def peekIsDigit : Reader Bool := do
  return (← peek).any isDigit

def digitBudget : Reader Nat := do
  return ((← get).rest.takeWhile isDigit).length + 1

def skipDigits : Nat → Reader Unit
  | 0 => pure ()
  | steps + 1 => do
    if ← peekIsDigit then
      advance
      skipDigits steps

def takeDigits : Nat → Nat → Nat → Reader (Nat × Nat)
  | 0, value, count => pure (value, count)
  | steps + 1, value, count => do
    match ← peek with
    | some byte =>
      if isDigit byte && value * 10 + digitValue byte < UInt64.size then
        advance
        takeDigits steps (value * 10 + digitValue byte) (count + 1)
      else
        pure (value, count)
    | none => pure (value, count)

def countDigits : Nat → Nat → Reader Nat
  | 0, count => pure count
  | steps + 1, count => do
    if ← peekIsDigit then
      advance
      countDigits steps (count + 1)
    else
      pure count

def takeExponent : Nat → Nat → Reader (Option Nat)
  | 0, value => pure (some value)
  | steps + 1, value => do
    match ← peek with
    | some byte =>
      if isDigit byte then
        advance
        let raised := value * 10 + digitValue byte
        if exponentLimit < raised then pure none else takeExponent steps raised
      else
        pure (some value)
    | none => pure (some value)

def toFloat (negative : Bool) (decimal : Scaled) : Reader Binary64 :=
  match decimal.toFloat negative with
  | some value => pure value
  | none => malformed .numberOutOfRange

def readExponent (negative : Bool) (decimal : Scaled) : Reader Binary64 := do
  advance
  let raises ← do
    match ← peek with
    | some 0x2B => do advance; pure true
    | some 0x2D => do advance; pure false
    | _ => pure true
  match ← next with
  | none => malformed .valueCutShort
  | some byte =>
    if isDigit byte then
      match ← takeExponent (← digitBudget) (digitValue byte) with
      | some exponent =>
        let shift : Int := if raises then exponent else -exponent
        toFloat negative { decimal with exponent := decimal.exponent + shift }
      -- No word reaches back from an exponent of that size.
      | none =>
        if decimal.significand ≠ 0 && raises then
          malformed .numberOutOfRange
        else
          skipDigits (← digitBudget)
          return Binary64.zero negative
    else
      malformed .invalidNumber

def readFloatEnd (negative : Bool) (decimal : Scaled) : Reader Binary64 := do
  match ← peek with
  | some 0x65 | some 0x45 => readExponent negative decimal
  | _ => toFloat negative decimal

def readFraction (negative : Bool) (whole : Scaled) : Reader Binary64 := do
  advance
  let (significand, count) ← takeDigits (← digitBudget) whole.significand 0
  let decimal : Scaled := { significand, exponent := whole.exponent - count }
  -- A digit that is left would not fit the word any more.
  if ← peekIsDigit then
    skipDigits (← digitBudget)
    readFloatEnd negative decimal
  else if count = 0 then
    match ← peek with
    | some _ => malformedNext .invalidNumber
    | none => malformedNext .valueCutShort
  else
    readFloatEnd negative decimal

def signedLimit : Nat := 0x8000000000000000

def integerNumber (negative : Bool) (value : Nat) : Number :=
  if !negative then .integer value
  else if value = 0 || signedLimit < value then
    .float ((Binary64.ofNat value).getD (Binary64.zero false)).negate
  else .integer (-value)

def readNumberEnd (negative : Bool) (significand : Nat) : Reader Number := do
  match ← peek with
  | some 0x2E => return .float (← readFraction negative { significand, exponent := 0 })
  | some 0x65 | some 0x45 => return .float (← readExponent negative { significand, exponent := 0 })
  | _ => return integerNumber negative significand

def readNumber (negative : Bool) : Reader Number := do
  match ← next with
  | none => malformed .valueCutShort
  | some 0x30 =>
    if ← peekIsDigit then malformedNext .invalidNumber else readNumberEnd negative 0
  | some byte =>
    if isDigit byte then
      let (significand, _) ← takeDigits (← digitBudget) (digitValue byte) 0
      if ← peekIsDigit then
        let dropped ← countDigits (← digitBudget) 0
        let decimal : Scaled := { significand, exponent := dropped }
        match ← peek with
        | some 0x2E => return .float (← readFraction negative decimal)
        | _ => return .float (← readFloatEnd negative decimal)
      else
        readNumberEnd negative significand
    else
      malformed .invalidNumber

def skipNumber : Reader Unit := do
  match ← next with
  | some 0x30 => if ← peekIsDigit then malformedNext .invalidNumber
  | some byte =>
    if isDigit byte then skipDigits (← digitBudget) else malformed .invalidNumber
  | none => malformed .invalidNumber
  if (← peek) = some 0x2E then
    advance
    if ← peekIsDigit then skipDigits (← digitBudget) else malformedNext .invalidNumber
  match ← peek with
  | some 0x65 | some 0x45 =>
    advance
    match ← peek with
    | some 0x2B | some 0x2D => advance
    | _ => pure ()
    match ← next with
    | some byte => if isDigit byte then skipDigits (← digitBudget) else malformed .invalidNumber
    | none => malformed .invalidNumber
  | _ => pure ()

end Reader

end LedgerNode.Json
