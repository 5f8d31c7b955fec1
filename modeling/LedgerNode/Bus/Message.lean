import LedgerNode.Json.Fault
import LedgerNode.Text.Duration

set_option autoImplicit false

namespace LedgerNode.Bus

abbrev CorrelationId := UInt64

structure Message where
  correlationId : CorrelationId
  replyTo : Option String
  payload : Bytes
  deriving DecidableEq, Repr

abbrev PostId := Nat

structure Parcel where
  post : PostId
  -- The parcel that this one was made in reply to, which no party looks at.
  answers : Option PostId
  message : Message
  deriving DecidableEq, Repr

inductive BusError where
  | noSuchQueue (name : String)
  | queueExists (name : String)
  | queueClosed (name : String)
  | timeout (after : Duration)
  | disconnected
  | codec (fault : Json.Fault)
  deriving DecidableEq, Repr

def BusError.message : BusError → String
  | .noSuchQueue name => s!"Queue `{name}` does not exist"
  | .queueExists name => s!"Queue `{name}` already has a consumer"
  | .queueClosed name => s!"Queue `{name}` is closed"
  | .timeout after => "No reply within " ++ after.text
  | .disconnected => "Reply channel dropped"
  | .codec fault => fault.message

end LedgerNode.Bus
