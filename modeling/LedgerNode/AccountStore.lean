import LedgerNode.Account
import LedgerNode.Store

set_option autoImplicit false

namespace LedgerNode

inductive StorageError where
  | codec (reason : String)
  | lockPoisoned
  | backend (reason : String)
  | genesis (reason : String)
  deriving DecidableEq, Repr

namespace StorageError

def message : StorageError → String
  | codec reason => "Invalid account record: " ++ reason
  | lockPoisoned => "Storage lock poisoned"
  | backend reason => "Backend error: " ++ reason
  | genesis reason => "Genesis error: " ++ reason

def ofRecordFault (fault : RecordFault) : StorageError :=
  codec fault.message

end StorageError

namespace Store

def heightKey : Bytes :=
  Bytes.ofString "last_block_height"

def account (store : Store) (address : Address) : Except StorageError Account :=
  match store.get? address.key with
  | some bytes => (Account.ofRecord address bytes).mapError .ofRecordFault
  | none => .ok (.unused address)

def balance (store : Store) (address : Address) : Except StorageError Balance :=
  (store.account address).map Account.balance

def readHeight (bytes : Bytes) : Except RecordFault UInt64 :=
  if bytes.length = 8 then .ok (UInt64.ofNat (Bytes.ofBigEndian bytes)) else .error .height

def lastHeight (store : Store) : Except StorageError (Option UInt64) :=
  match store.get? heightKey with
  | some bytes => ((readHeight bytes).map some).mapError .ofRecordFault
  | none => .ok none

def accountChange (account : Account) : Change :=
  .put account.address.key account.record

def heightChange (height : UInt64) : Change :=
  .put heightKey (Bytes.bigEndian 8 height.toNat)

def putAccount (store : Store) (account : Account) : Store :=
  store.change (accountChange account)

def putHeight (store : Store) (height : UInt64) : Store :=
  store.change (heightChange height)

def putAccounts (store : Store) (accounts : List Account) (height : Option UInt64) : Store :=
  store.changeAll (accounts.map accountChange ++ (height.map heightChange).toList)

end Store

end LedgerNode
