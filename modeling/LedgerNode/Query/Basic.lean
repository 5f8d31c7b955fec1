import LedgerNode.Address
import LedgerNode.Json.Printer
import LedgerNode.Json.Variant
import LedgerNode.Quantity
import LedgerNode.Query.Method

set_option autoImplicit false

namespace LedgerNode

open Json

structure AccountParams where
  address : Address
  height : Option UInt64
  deriving DecidableEq, Repr

inductive Query where
  | balance (params : AccountParams)
  | account (params : AccountParams)
  | lastHeight
  deriving DecidableEq, Repr

namespace Address

def shape : Shape Address :=
  Shape.string.refine (fun text => (read text).mapError AddressFault.message)

end Address

namespace Quantity

def balanceShape : Shape Balance :=
  Shape.string.refine (fun text => (readBalance text).mapError Fault.message)

end Quantity

def writeWord (value : UInt64) : Bytes :=
  Bytes.ofString (Number.integer value.toNat).text

namespace AccountParams

def shape : Shape AccountParams :=
  (Shape.record "struct BalanceParams"
    (.cons (.required "address" Address.shape)
      (.cons (.optional "height" Shape.word) .nil))).map
    (fun (address, height, _) => { address, height })

def write (params : AccountParams) : Bytes :=
  writeObject [
    writeMember "address" (writeString params.address.text),
    writeMember "height" ((params.height.map writeWord).getD (Bytes.ofString "null"))]

end AccountParams

namespace Query

def method : Query → Method
  | balance _ => .balance
  | account _ => .account
  | lastHeight => .lastHeight

def height : Query → Option UInt64
  | balance params => params.height
  | account params => params.height
  | lastHeight => none

def writeParams : Query → List Bytes
  | balance params => [writeMember "params" params.write]
  | account params => [writeMember "params" params.write]
  | lastHeight => []

def write (query : Query) : Bytes :=
  writeObject (writeMember "method" (writeString query.method.name) :: query.writeParams)

def form : Adjacent Query where
  expected := "adjacently tagged enum ServiceRequest"
  tagName := "method"
  contentName := "params"
  variants := [
    { tag := Method.balance.name, content := AccountParams.shape.map balance, bare := none },
    { tag := Method.account.name, content := AccountParams.shape.map account, bare := none },
    { tag := Method.lastHeight.name
      content := Shape.nothing "unit variant ServiceRequest::GetLastBlockHeight" lastHeight
      bare := some lastHeight }]

def read (bytes : Bytes) : Except Fault Query :=
  (form.read fullDepth).run bytes

end Query

end LedgerNode
