import LedgerNode.Address
import LedgerNode.Quantity

set_option autoImplicit false

namespace LedgerNode

structure Account where
  address : Address
  balance : Balance
  flags : UInt8
  deriving DecidableEq, Repr

inductive RecordFault where
  | length (bytes : Nat)
  | version (byte : UInt8)
  | kind (byte : UInt8) (address : Address)
  | balanceOverflow
  | height
  deriving DecidableEq, Repr

namespace Account

def recordVersion : UInt8 := 0

def recordLength : Nat := 35

def unused (address : Address) : Account where
  address := address
  balance := 0
  flags := 0

def record (account : Account) : Bytes :=
  [recordVersion, account.address.kind.tag, account.flags] ++
    Bytes.bigEndian 32 account.balance.toNat

def ofRecord (address : Address) (bytes : Bytes) : Except RecordFault Account :=
  if bytes.length ≠ recordLength then
    .error (.length bytes.length)
  else
    match bytes with
    | version :: kind :: flags :: balance =>
      if version ≠ recordVersion then .error (.version version)
      else if kind ≠ address.kind.tag then .error (.kind kind address)
      else if (balance.take 16).any (· ≠ 0) then .error .balanceOverflow
      -- The upper half is zero, so the lower half is the whole balance.
      else
        .ok { address, flags, balance := BitVec.ofNat 128 (Bytes.ofBigEndian (balance.drop 16)) }
    | _ => .error (.length bytes.length)

end Account

def RecordFault.message : RecordFault → String
  | .length bytes => s!"expected 35 bytes, got {bytes}"
  | .version byte => s!"unknown version {byte}"
  | .kind byte address => s!"kind {byte} does not match " ++ address.text
  | .balanceOverflow => "balance overflows u128"
  | .height => "invalid block height"

end LedgerNode
