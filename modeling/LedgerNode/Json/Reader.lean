import LedgerNode.Json.Fault

set_option autoImplicit false

namespace LedgerNode.Json

structure Cursor where
  rest : Bytes
  line : Nat
  column : Nat
  deriving DecidableEq, Repr

namespace Cursor

def start (bytes : Bytes) : Cursor where
  rest := bytes
  line := 1
  column := 0

def position (cursor : Cursor) : Position where
  line := cursor.line
  column := cursor.column

def advance (cursor : Cursor) : Cursor :=
  match cursor.rest with
  | [] => cursor
  | byte :: rest =>
    if byte = 0x0A then { rest, line := cursor.line + 1, column := 0 }
    else { rest, line := cursor.line, column := cursor.column + 1 }

end Cursor

abbrev Reader (α : Type) := EStateM Fault Cursor α

namespace Reader

variable {α : Type}

def peek : Reader (Option UInt8) := do
  return (← get).rest.head?

def advance : Reader Unit :=
  modify Cursor.advance

def next : Reader (Option UInt8) := do
  let byte ← peek
  advance
  return byte

-- A fault at the byte that was taken last.
def malformed (fault : Malformed) : Reader α := do
  throw { cause := .malformed fault, position := some (← get).position }

-- A fault at the byte that comes next, or at the end of the text.
def malformedNext (fault : Malformed) : Reader α := do
  throw { cause := .malformed fault, position := some (← get).advance.position }

/-- A fault whose place the enclosing reader is to tell. -/
def mismatch (fault : Mismatch) : Reader α :=
  throw { cause := .mismatch fault, position := none }

def placed (reader : Reader α) : Reader α :=
  tryCatch reader (fun fault => do throw (fault.atPosition (← get).position))

/--
Reads a container's content and then its end. The end is read also after a fault in the content,
which is then the fault that counts, placed behind whatever was read.
-/
def closedBy (content : Reader α) (close : Reader Unit) : Reader α :=
  placed do
    -- The cursor stays where the fault arose, and the end is looked for from there.
    let value ← tryCatch content (fun fault => do
      tryCatch close (fun _ => pure ())
      throw fault)
    close
    return value

def budget : Reader Nat := do
  return (← get).rest.length + 1

def isBlank (byte : UInt8) : Bool :=
  byte = 0x20 || byte = 0x09 || byte = 0x0A || byte = 0x0D

def skipBlanksFrom : Bytes → Cursor → Cursor
  | [], cursor => cursor
  | byte :: rest, cursor =>
    if isBlank byte then skipBlanksFrom rest cursor.advance else cursor

def peekToken : Reader (Option UInt8) := do
  modify (fun cursor => skipBlanksFrom cursor.rest cursor)
  peek

def run (reader : Reader α) (bytes : Bytes) : Except Fault α :=
  let whole : Reader α := do
    let value ← reader
    match ← peekToken with
    | none => return value
    | some _ => malformedNext .trailingCharacters
  match whole (Cursor.start bytes) with
  | .ok value _ => .ok value
  | .error fault _ => .error fault

end Reader

end LedgerNode.Json
