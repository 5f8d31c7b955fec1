import LedgerNode.Json.Value
import LedgerNode.Text.Quoted

set_option autoImplicit false

namespace LedgerNode.Json

/-- The place behind the last byte taken: its line from one, and the bytes taken of that line. -/
structure Position where
  line : Nat
  column : Nat
  deriving DecidableEq, Repr

inductive Malformed where
  | valueCutShort
  | listCutShort
  | objectCutShort
  | stringCutShort
  | colonExpected
  | listEndExpected
  | objectEndExpected
  | wordExpected
  | valueExpected
  | invalidEscape
  | invalidNumber
  | numberOutOfRange
  | invalidCodePoint
  | controlCharacter
  | nameNotString
  | loneSurrogate
  | trailingComma
  | trailingCharacters
  | escapeCutShort
  | nestedTooDeep
  deriving DecidableEq, Repr

namespace Malformed

def message : Malformed → String
  | valueCutShort => "EOF while parsing a value"
  | listCutShort => "EOF while parsing a list"
  | objectCutShort => "EOF while parsing an object"
  | stringCutShort => "EOF while parsing a string"
  | colonExpected => "expected `:`"
  | listEndExpected => "expected `,` or `]`"
  | objectEndExpected => "expected `,` or `\x7d`"
  | wordExpected => "expected ident"
  | valueExpected => "expected value"
  | invalidEscape => "invalid escape"
  | invalidNumber => "invalid number"
  | numberOutOfRange => "number out of range"
  | invalidCodePoint => "invalid unicode code point"
  | controlCharacter => "control character (\\u0000-\\u001F) found while parsing a string"
  | nameNotString => "key must be a string"
  | loneSurrogate => "lone leading surrogate in hex escape"
  | trailingComma => "trailing comma"
  | trailingCharacters => "trailing characters"
  | escapeCutShort => "unexpected end of hex escape"
  | nestedTooDeep => "recursion limit exceeded"

def isCutShort : Malformed → Bool
  | valueCutShort | listCutShort | objectCutShort | stringCutShort => true
  | _ => false

end Malformed

inductive Found where
  | null
  | boolean (value : Bool)
  | number (value : Number)
  | string (text : String)
  | sequence
  | map
  | unitVariant
  deriving DecidableEq, Repr

def Found.message : Found → String
  | .null => "null"
  | .boolean value => s!"boolean `{value}`"
  | .number (.integer value) => "integer `" ++ (Number.integer value).text ++ "`"
  | .number (.float value) => "floating point `" ++ floatText value ++ "`"
  | .string text => "string " ++ Text.quoted text
  | .sequence => "sequence"
  | .map => "map"
  | .unitVariant => "unit variant"

def Value.found : Value → Found
  | .null => .null
  | .boolean value => .boolean value
  | .number value => .number value
  | .string text => .string text
  | .array _ => .sequence
  | .object _ => .map

inductive Mismatch where
  | type (found : Found) (expected : String)
  | value (found : Found) (expected : String)
  | length (count : Nat) (expected : String)
  | unknownVariant (name : String) (known : List String)
  | missingField (name : String)
  | duplicateField (name : String)
  | refused (reason : String)
  deriving DecidableEq, Repr

def oneOf : List String → String
  | [] => "there are no variants"
  | [name] => s!"expected `{name}`"
  | [first, second] => s!"expected `{first}` or `{second}`"
  | names => "expected one of " ++ String.intercalate ", " (names.map (fun name => s!"`{name}`"))

def Mismatch.message : Mismatch → String
  | .type found expected => "invalid type: " ++ found.message ++ ", expected " ++ expected
  | .value found expected => "invalid value: " ++ found.message ++ ", expected " ++ expected
  | .length count expected => s!"invalid length {count}, expected {expected}"
  | .unknownVariant name known => s!"unknown variant `{name}`, " ++ oneOf known
  | .missingField name => s!"missing field `{name}`"
  | .duplicateField name => s!"duplicate field `{name}`"
  | .refused reason => reason

inductive Cause where
  | malformed (fault : Malformed)
  | mismatch (fault : Mismatch)
  deriving DecidableEq, Repr

structure Fault where
  cause : Cause
  position : Option Position
  deriving DecidableEq, Repr

namespace Fault

def text (fault : Fault) : String :=
  match fault.cause with
  | .malformed cause => cause.message
  | .mismatch cause => cause.message

def message (fault : Fault) : String :=
  match fault.position with
  | some position =>
    fault.text ++ " at line " ++ toString position.line ++ " column " ++ toString position.column
  | none => fault.text

def atPosition (fault : Fault) (position : Position) : Fault :=
  { fault with position := some (fault.position.getD position) }

end Fault

end LedgerNode.Json
