import LedgerNode.Text.Digits

set_option autoImplicit false

namespace LedgerNode

inductive AddressKind where
  | eoa
  | contract
  deriving DecidableEq, Repr

namespace AddressKind

def mark : AddressKind → List Char
  | .eoa => ['h', 'x']
  | .contract => ['c', 'x']

def tag : AddressKind → UInt8
  | .eoa => 0
  | .contract => 1

def ofTag? : UInt8 → Option AddressKind
  | 0 => some .eoa
  | 1 => some .contract
  | _ => none

protected def lt (left right : AddressKind) : Prop :=
  left = .eoa ∧ right = .contract

instance : LT AddressKind := ⟨AddressKind.lt⟩

instance (left right : AddressKind) : Decidable (left < right) :=
  inferInstanceAs (Decidable (_ ∧ _))

end AddressKind

inductive AddressFault where
  | length (bytes : Nat)
  | mark (text : String)
  | digits (text : String)
  | key
  deriving DecidableEq, Repr

def AddressFault.message : AddressFault → String
  | .length bytes => s!"Invalid address length `{bytes}`"
  | .mark text => s!"Invalid address prefix in `{text}`"
  | .digits text => s!"Invalid hex in address `{text}`"
  | .key => "Invalid address bytes"

structure Address where
  kind : AddressKind
  body : Bytes
  length_body : body.length = 20
  deriving DecidableEq, Repr

namespace Address

def textLength : Nat := 42

def isContract (address : Address) : Bool :=
  address.kind = .contract

def ofBody? (kind : AddressKind) (body : Bytes) : Option Address :=
  if length : body.length = 20 then
    some { kind, body, length_body := length }
  else
    none

def splitMark? : List Char → Option (AddressKind × List Char)
  | 'h' :: 'x' :: digits => some (.eoa, digits)
  | 'c' :: 'x' :: digits => some (.contract, digits)
  | _ => none

-- The length is counted in bytes, before anything else is looked at.
def read (text : String) : Except AddressFault Address :=
  if text.utf8ByteSize = textLength then
    match splitMark? text.toList with
    | none => .error (.mark text)
    | some (kind, digits) =>
      match (Digits.ofHex? digits).bind (ofBody? kind) with
      | none => .error (.digits text)
      | some address => .ok address
  else
    .error (.length text.utf8ByteSize)

def text (address : Address) : String :=
  String.ofList (address.kind.mark ++ Digits.hex address.body)

def key (address : Address) : Bytes :=
  address.kind.tag :: address.body

def ofKey : Bytes → Except AddressFault Address
  | [] => .error .key
  | tag :: body =>
    if length : body.length = 20 then
      match AddressKind.ofTag? tag with
      | some kind => .ok { kind, body, length_body := length }
      | none => .error .key
    else
      .error .key

protected def lt (left right : Address) : Prop :=
  left.kind < right.kind ∨ left.kind = right.kind ∧ left.body < right.body

instance : LT Address := ⟨Address.lt⟩

instance (left right : Address) : Decidable (left < right) :=
  inferInstanceAs (Decidable (_ ∨ _))

def insertInOrder (address : Address) : List Address → List Address
  | [] => [address]
  | head :: rest =>
    if address < head then address :: head :: rest
    else if address = head then head :: rest
    else head :: insertInOrder address rest

def inOrder (addresses : List Address) : List Address :=
  addresses.foldr insertInOrder []

end Address

end LedgerNode
