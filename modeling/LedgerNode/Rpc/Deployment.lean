import LedgerNode.Rpc.FrontEnd
import Mathlib.Logic.Function.Basic

set_option autoImplicit false

namespace LedgerNode.Rpc

open Bus

/-- A bus that several channels share: the queue that the service of a channel consumes, and the client of its
front end, once they are started. -/
structure Deployment where
  network : Network
  services : String → Option QueueId
  frontEnds : String → Option ClientId

namespace Deployment

def empty : Deployment where
  network := Network.empty
  services := fun _ => none
  frontEnds := fun _ => none

def serve (deployment : Deployment) (channel : String) (queue : QueueId) (network : Network) :
    Deployment :=
  { deployment with
    network, services := Function.update deployment.services channel (some queue) }

def join (deployment : Deployment) (channel : String) (frontEnd : FrontEnd) : Deployment :=
  { deployment with
    network := frontEnd.network
    frontEnds := Function.update deployment.frontEnds channel (some frontEnd.client) }

end Deployment

end LedgerNode.Rpc
