import LedgerNode.Proofs.Bus.Serving
import LedgerNode.Rpc.FrontEnd

set_option autoImplicit false

namespace LedgerNode.Rpc

open Bus Network

section Service

variable {store : Store} {respond : Responder} {server : ServerId} {queue : QueueId}
  {network : Network}

/-- Four messages for a service: one is garbage and names a queue that is missing, two with the same id
name a queue with one slot, and one names the route itself. -/
def asked : Option (List Step × Network) :=
  record (storeResponder Store.empty)
    [.declare "icon_score.dex" 4, .declare "replies" 1,
      .publish "icon_score.dex" { correlationId := 5, replyTo := some "missing", payload := [1] } none,
      .publish "icon_score.dex"
        { correlationId := 7, replyTo := some "replies", payload := Query.lastHeight.write } none,
      .publish "icon_score.dex" { correlationId := 7, replyTo := some "replies", payload := [] } none,
      .publish "icon_score.dex"
        { correlationId := 9, replyTo := some "icon_score.dex", payload := [] } none] empty

end Service

end LedgerNode.Rpc
