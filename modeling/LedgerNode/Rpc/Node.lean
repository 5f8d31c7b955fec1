import LedgerNode.Rpc.FrontEnd

set_option autoImplicit false

namespace LedgerNode.Rpc

open Bus

structure Node where
  store : Store
  frontEnd : FrontEnd

namespace Node

def start (store : Store) (channel : String) (capacity : Nat) (timeout : Duration) :
    Except BusError Node :=
  (FrontEnd.start channel capacity timeout).map (fun frontEnd => { store, frontEnd })

def handle (node : Node) (body : Bytes) : RpcReply × Node :=
  let (reply, frontEnd) := node.frontEnd.answerBody (storeResponder node.store) body
  (reply, { node with frontEnd })

end Node

end LedgerNode.Rpc
