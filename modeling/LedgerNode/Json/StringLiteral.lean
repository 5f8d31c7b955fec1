import LedgerNode.Json.Reader
import LedgerNode.Text.Digits

set_option autoImplicit false

namespace LedgerNode.Json.Reader

def hexWord (digits : Bytes) : Option Nat :=
  Digits.number? 16 (digits.map (fun byte => Char.ofNat byte.toNat))

def readHexWord : Reader Nat := do
  let digits := (← get).rest.take 4
  digits.forM (fun _ => advance)
  if digits.length < 4 then
    malformed .stringCutShort
  else
    match hexWord digits with
    | some value => return value
    | none => malformed .invalidEscape

def expectInPair (byte : UInt8) : Reader Unit := do
  match ← peek with
  | none => malformed .stringCutShort
  | some found =>
    advance
    if found ≠ byte then malformed .escapeCutShort

def encoded (codePoint : Nat) : Bytes :=
  String.utf8EncodeChar (Char.ofNat codePoint)

def readCodePoint : Reader Bytes := do
  let high ← readHexWord
  if 0xDC00 ≤ high && high ≤ 0xDFFF then
    malformed .loneSurrogate
  else if 0xD800 ≤ high && high ≤ 0xDBFF then
    expectInPair 0x5C
    expectInPair 0x75
    let low ← readHexWord
    if 0xDC00 ≤ low && low ≤ 0xDFFF then
      return encoded ((high - 0xD800) * 0x400 + (low - 0xDC00) + 0x10000)
    else
      malformed .loneSurrogate
  else
    return encoded high

def escapedByte? (letter : UInt8) : Option UInt8 :=
  match letter with
  | 0x22 => some 0x22
  | 0x5C => some 0x5C
  | 0x2F => some 0x2F
  | 0x62 => some 0x08
  | 0x66 => some 0x0C
  | 0x6E => some 0x0A
  | 0x72 => some 0x0D
  | 0x74 => some 0x09
  | _ => none

def readEscape : Reader Bytes := do
  match ← next with
  | none => malformed .stringCutShort
  | some letter =>
    match escapedByte? letter with
    | some byte => return [byte]
    | none => if letter = 0x75 then readCodePoint else malformed .invalidEscape

def readContent : Nat → Bytes → Reader Bytes
  | 0, _ => malformed .stringCutShort
  | steps + 1, gathered => do
    match ← next with
    | none => malformed .stringCutShort
    | some 0x22 => return gathered.reverse
    | some 0x5C =>
      let escaped ← readEscape
      readContent steps (escaped.reverse ++ gathered)
    | some byte =>
      if byte < 0x20 then malformed .controlCharacter else readContent steps (byte :: gathered)

def readText : Reader String := do
  let content ← readContent (← budget) []
  match Bytes.text? content with
  | some text => return text
  | none =>
    let cursor ← get
    let back := content.length - Bytes.wellFormedLength content
    throw {
      cause := .malformed .invalidCodePoint
      position := some { line := cursor.line, column := cursor.column - back } }

def skipEscape : Reader Unit := do
  match ← next with
  | none => malformed .stringCutShort
  | some letter =>
    if letter = 0x75 then
      discard readHexWord
    else if (escapedByte? letter).isNone then
      malformed .invalidEscape

def skipText : Nat → Reader Unit
  | 0 => malformed .stringCutShort
  | steps + 1 => do
    match ← peek with
    | none => malformed .stringCutShort
    | some 0x22 => advance
    | some 0x5C =>
      advance
      skipEscape
      skipText steps
    | some byte =>
      if byte < 0x20 then
        malformed .controlCharacter
      else
        advance
        skipText steps

end LedgerNode.Json.Reader
