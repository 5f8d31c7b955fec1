import LedgerNode.Json.Value

set_option autoImplicit false

namespace LedgerNode.Json

def hexDigitByte (value : UInt8) : UInt8 :=
  if value < 10 then 0x30 + value else 0x57 + value

def escapeByte (byte : UInt8) : Bytes :=
  if byte = 0x22 then [0x5C, 0x22]
  else if byte = 0x5C then [0x5C, 0x5C]
  else if byte = 0x08 then [0x5C, 0x62]
  else if byte = 0x09 then [0x5C, 0x74]
  else if byte = 0x0A then [0x5C, 0x6E]
  else if byte = 0x0C then [0x5C, 0x66]
  else if byte = 0x0D then [0x5C, 0x72]
  else if byte < 0x20 then
    [0x5C, 0x75, 0x30, 0x30, hexDigitByte (byte / 16), hexDigitByte (byte % 16)]
  else [byte]

def writeString (text : String) : Bytes :=
  0x22 :: ((Bytes.ofString text).flatMap escapeByte ++ [0x22])

def joinWith (separator : UInt8) (parts : List Bytes) : Bytes :=
  (parts.intersperse [separator]).flatten

def writeArray (items : List Bytes) : Bytes :=
  0x5B :: (joinWith 0x2C items ++ [0x5D])

def writeMember (name : String) (value : Bytes) : Bytes :=
  writeString name ++ 0x3A :: value

def writeObject (members : List Bytes) : Bytes :=
  0x7B :: (joinWith 0x2C members ++ [0x7D])

namespace Value

mutual

def write : Value → Bytes
  | .null => Bytes.ofString "null"
  | .boolean true => Bytes.ofString "true"
  | .boolean false => Bytes.ofString "false"
  | .number value => Bytes.ofString value.text
  | .string text => writeString text
  | .array items => writeArray (writeItems items)
  | .object members => writeObject (writeMembers members)

def writeItems : List Value → List Bytes
  | [] => []
  | item :: rest => item.write :: writeItems rest

def writeMembers : List (String × Value) → List Bytes
  | [] => []
  | member :: rest => writePair member :: writeMembers rest

def writePair : String × Value → Bytes
  | (name, value) => writeMember name value.write

end

end Value

end LedgerNode.Json
