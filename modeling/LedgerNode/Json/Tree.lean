import LedgerNode.Json.Numeral
import LedgerNode.Json.StringLiteral

set_option autoImplicit false

namespace LedgerNode.Json

abbrev Depth := Nat

def fullDepth : Depth := 127

namespace Reader

variable {α : Type}

def takeWord : List UInt8 → Reader Unit
  | [] => pure ()
  | letter :: rest => do
    match ← next with
    | none => malformed .valueCutShort
    | some byte => if byte = letter then takeWord rest else malformed .wordExpected

def takeNull : Reader Unit := do
  advance
  takeWord (Bytes.ofString "ull")

def takeTrue : Reader Unit := do
  advance
  takeWord (Bytes.ofString "rue")

def takeFalse : Reader Unit := do
  advance
  takeWord (Bytes.ofString "alse")

def nextItem (isFirst : Bool) : Reader Bool := do
  match ← peekToken with
  | none => malformedNext .listCutShort
  | some 0x5D => return false
  | some byte =>
    if isFirst then
      return true
    else if byte = 0x2C then
      advance
      match ← peekToken with
      | none => malformedNext .valueCutShort
      | some 0x5D => malformedNext .trailingComma
      | some _ => return true
    else
      malformedNext .listEndExpected

def nextName (isFirst : Bool) : Reader Bool := do
  match ← peekToken with
  | none => malformedNext .objectCutShort
  | some 0x7D => return false
  | some byte =>
    if isFirst then
      openName byte
    else if byte = 0x2C then
      advance
      match ← peekToken with
      | none => malformedNext .valueCutShort
      | some 0x7D => malformedNext .trailingComma
      | some byte => openName byte
    else
      malformedNext .objectEndExpected
where
  openName (byte : UInt8) : Reader Bool := do
    if byte = 0x22 then
      advance
      return true
    else
      malformedNext .nameNotString

def takeColon : Reader Unit := do
  match ← peekToken with
  | none => malformedNext .objectCutShort
  | some 0x3A => advance
  | some _ => malformedNext .colonExpected

def closeList : Reader Unit := do
  match ← peekToken with
  | none => malformedNext .listCutShort
  | some 0x5D => advance
  | some 0x2C =>
    advance
    match ← peekToken with
    | some 0x5D => malformedNext .trailingComma
    | _ => malformedNext .trailingCharacters
  | some _ => malformedNext .trailingCharacters

def closeObject : Reader Unit := do
  match ← peekToken with
  | none => malformedNext .objectCutShort
  | some 0x7D => advance
  | some 0x2C => malformedNext .trailingComma
  | some _ => malformedNext .trailingCharacters

def readItems (item : Reader α) : Nat → Bool → List α → Reader (List α)
  | 0, _, gathered => pure gathered.reverse
  | steps + 1, isFirst, gathered => do
    if ← nextItem isFirst then
      let value ← item
      readItems item steps false (value :: gathered)
    else
      return gathered.reverse

def readMembers (value : Reader α) :
    Nat → Bool → List (String × α) → Reader (List (String × α))
  | 0, _, gathered => pure gathered.reverse
  | steps + 1, isFirst, gathered => do
    if ← nextName isFirst then
      let name ← readText
      takeColon
      let member ← value
      readMembers value steps false ((name, member) :: gathered)
    else
      return gathered.reverse

def readContainer (depth : Depth) (content : Depth → Reader α) (close : Reader Unit) : Reader α :=
  match depth with
  | 0 => malformedNext .nestedTooDeep
  | depth + 1 => do
    advance
    closedBy (content depth) close

def readScalar (first : UInt8) : Reader Value := do
  match first with
  | 0x6E => do takeNull; return .null
  | 0x74 => do takeTrue; return .boolean true
  | 0x66 => do takeFalse; return .boolean false
  | 0x22 => do advance; return .string (← readText)
  | 0x2D => do advance; return .number (← readNumber true)
  | _ => if isDigit first then return .number (← readNumber false) else malformedNext .valueExpected

def readTree : Depth → Reader Value
  | 0 => do
    match ← peekToken with
    | none => malformedNext .valueCutShort
    | some 0x5B | some 0x7B => malformedNext .nestedTooDeep
    | some first => readScalar first
  | depth + 1 => do
    match ← peekToken with
    | none => malformedNext .valueCutShort
    | some 0x5B => do
      advance
      let items ← readItems (readTree depth) (← budget) true []
      closeList
      return .array items
    | some 0x7B => do
      advance
      let members ← readMembers (readTree depth) (← budget) true []
      closeObject
      return .object members
    | some first => readScalar first

def readValue : Reader Value := do
  return (← readTree fullDepth).normal

inductive Bracket where
  | list
  | object
  deriving DecidableEq, Repr

namespace Bracket

def close : Bracket → UInt8
  | list => 0x5D
  | object => 0x7D

def cutShort : Bracket → Malformed
  | list => .listCutShort
  | object => .objectCutShort

def endExpected : Bracket → Malformed
  | list => .listEndExpected
  | object => .objectEndExpected

end Bracket

/-- Where the skipping of a value stands: before a value, behind an opening bracket, or behind a
value inside the brackets that are open. -/
inductive SkipStage where
  | value
  | opened
  | after
  deriving DecidableEq, Repr

def skipName : Reader Unit := do
  match ← peekToken with
  | none => malformedNext .objectCutShort
  | some 0x22 => do
    advance
    skipText (← budget)
    takeColon
  | some _ => malformedNext .nameNotString

def skipNameIn : Bracket → Reader Unit
  | .list => pure ()
  | .object => skipName

def skipScalar (first : UInt8) : Reader Unit := do
  match first with
  | 0x6E => takeNull
  | 0x74 => takeTrue
  | 0x66 => takeFalse
  | 0x22 => do advance; skipText (← budget)
  | 0x2D => do advance; skipNumber
  | _ => if isDigit first then skipNumber else malformedNext .valueExpected

def skipFrom : Nat → SkipStage → List Bracket → Reader Unit
  | 0, _, _ => pure ()
  | _, .after, [] => pure ()
  | steps + 1, .after, bracket :: opened => do
    match ← peekToken with
    | none => malformedNext bracket.cutShort
    | some byte =>
      if byte = 0x2C then
        advance
        skipNameIn bracket
        skipFrom steps .value (bracket :: opened)
      else if byte = bracket.close then
        advance
        skipFrom steps .after opened
      else
        malformedNext bracket.endExpected
  | _, .opened, [] => pure ()
  | steps + 1, .opened, bracket :: opened => do
    match ← peekToken with
    | none => malformedNext bracket.cutShort
    | some byte =>
      if byte = bracket.close then
        advance
        skipFrom steps .after opened
      else
        skipNameIn bracket
        skipFrom steps .value (bracket :: opened)
  | steps + 1, .value, opened => do
    match ← peekToken with
    | none => malformedNext .valueCutShort
    | some 0x5B => do
      advance
      skipFrom steps .opened (.list :: opened)
    | some 0x7B => do
      advance
      skipFrom steps .opened (.object :: opened)
    | some first => do
      skipScalar first
      skipFrom steps .after opened

def skipValue : Reader Unit := do
  skipFrom (2 * (← budget)) .value []

end Reader

end LedgerNode.Json
