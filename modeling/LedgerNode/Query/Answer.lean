import LedgerNode.Query.Error

set_option autoImplicit false

namespace LedgerNode

open Json

structure AccountSummary where
  address : Address
  balance : Balance
  isContract : Bool
  deriving DecidableEq, Repr

inductive Answer where
  | balance (value : Balance)
  | account (summary : AccountSummary)
  | height (value : UInt64)
  deriving DecidableEq, Repr

def writeBalance (value : Balance) : Bytes :=
  writeString (Quantity.toHex value.toNat)

namespace AccountSummary

def ofAccount (account : Account) : AccountSummary where
  address := account.address
  balance := account.balance
  isContract := account.address.isContract

def shape : Shape AccountSummary :=
  (Shape.record "struct AccountInfo"
    (.cons (.required "address" Address.shape)
      (.cons (.required "balance" Quantity.balanceShape)
        (.cons (.required "isContract" Shape.boolean) .nil)))).map
    (fun (address, balance, isContract, _) => { address, balance, isContract })

def write (summary : AccountSummary) : Bytes :=
  writeObject [
    writeMember "address" (writeString summary.address.text),
    writeMember "balance" (writeBalance summary.balance),
    writeMember "isContract" (Value.boolean summary.isContract).write]

end AccountSummary

namespace Answer

def tag : Answer → String
  | balance _ => "Balance"
  | account _ => "Account"
  | height _ => "BlockHeight"

def writeContent : Answer → Bytes
  | balance value => writeMember "value" (writeBalance value)
  | account summary => writeMember "account" summary.write
  | height value => writeMember "height" (writeWord value)

def write (answer : Answer) : Bytes :=
  writeObject [writeMember "type" (writeString answer.tag), answer.writeContent]

def singleField {α : Type} (expected name : String) (shape : Shape α) : Shape α :=
  (Shape.record expected (.cons (.required name shape) .nil)).map Prod.fst

def form : Internal Answer where
  expected := "internally tagged enum QueryResult"
  tagName := "type"
  variants := [
    { tag := "Balance"
      content :=
        (singleField "struct variant QueryResult::Balance" "value" Quantity.balanceShape).map
          balance
      bare := none },
    { tag := "Account"
      content :=
        (singleField "struct variant QueryResult::Account" "account" AccountSummary.shape).map
          account
      bare := none },
    { tag := "BlockHeight"
      content :=
        (singleField "struct variant QueryResult::BlockHeight" "height" Shape.word).map height
      bare := none }]

def read (bytes : Bytes) : Except Fault Answer :=
  (form.read fullDepth).run bytes

end Answer

abbrev Reply := Except QueryError Answer

namespace Reply

def write : Reply → Bytes
  | .ok answer => writeObject [writeMember "Ok" answer.write]
  | .error error => writeObject [writeMember "Err" error.write]

def outcomes : List String :=
  ["Ok", "Err"]

def readOutcome (outcome : String) (depth : Depth) : Reader Reply := do
  if outcome = "Ok" then
    return .ok (← Answer.form.read depth)
  else
    return .error (← QueryError.form.read depth)

def read (bytes : Bytes) : Except Fault Reply :=
  Reader.run
    (Reader.readNamed fullDepth outcomes
      (fun _ => Reader.mismatch (.type .unitVariant "newtype variant")) readOutcome)
    bytes

end Reply

end LedgerNode
