import LedgerNode.Bus.Schedule
import LedgerNode.Query.Evaluation
import LedgerNode.Rpc.Request

set_option autoImplicit false

namespace LedgerNode.Rpc

open Json Bus

structure FrontEnd where
  network : Network
  client : ClientId
  route : String
  timeout : Duration

def routeOf (channel : String) : String :=
  "icon_score." ++ channel

inductive Submission where
  | rejected (error : RpcError)
  | sent (call : CallId)
  deriving DecidableEq, Repr

def resultValue : Answer → Value
  | .balance value => .string (Quantity.toHex value.toNat)
  | .height value => .string (Quantity.toHex value.toNat)
  | .account summary => .object [
      ("address", .string summary.address.text),
      ("balance", .string (Quantity.toHex summary.balance.toNat)),
      ("isContract", .boolean summary.isContract)]

def replyResult : Reply → Except RpcError Value
  | .error error => .error (.query error)
  | .ok answer => .ok (resultValue answer)

namespace FrontEnd

def connect (network : Network) (channel : String) (capacity : Nat) (timeout : Duration) :
    Except BusError FrontEnd :=
  let route := routeOf channel
  match network.connect (route ++ ".reply") capacity with
  | .ok (client, network) => .ok { network, client, route, timeout }
  | .error error => .error error

def start (channel : String) (capacity : Nat) (timeout : Duration) : Except BusError FrontEnd :=
  match Network.empty.declare (routeOf channel) capacity with
  | .ok (inbox, network) => connect (network.serve inbox).2 channel capacity timeout
  | .error error => .error error

def submit (frontEnd : FrontEnd) (value : Value) : Submission × FrontEnd :=
  match readRequest value with
  | .error error => (.rejected error, frontEnd)
  | .ok query =>
    let network := frontEnd.network
    let started :=
      network.startCall frontEnd.client frontEnd.route query.write frontEnd.timeout
    (.sent network.calls.length, { frontEnd with network := started })

/--
Requests are submitted in their order, each with its id and its publish in one step. A scheduler that sets tasks
aside in between, or a registry that is contended, could let a later publish go first; neither is modelled.
-/
def submitAll (frontEnd : FrontEnd) : List Value → List Submission × FrontEnd
  | [] => ([], frontEnd)
  | value :: rest =>
    let (submission, next) := frontEnd.submit value
    let (submissions, last) := next.submitAll rest
    (submission :: submissions, last)

def collect (network : Network) : Submission → Except RpcError Value
  | .rejected error => .error error
  | .sent call =>
    match network.outcomeRead? Reply.read call with
    | some (.ok reply) => replyResult reply
    | some (.error error) => .error (.bus error)
    | none => .error (.bus .disconnected)

def calls (submissions : List Submission) : List CallId :=
  submissions.filterMap (fun submission =>
    match submission with
    | .sent call => some call
    | .rejected _ => none)

def answerBatch (respond : Responder) (frontEnd : FrontEnd) (values : List Value) :
    List Response × FrontEnd :=
  -- All requests are on their way before the first reply is waited for.
  let (submissions, sent) := frontEnd.submitAll values
  let network := sent.network.await respond (calls submissions)
  let responses := (values.zip submissions).map (fun (value, submission) =>
    { id := responseId value, outcome := collect network submission })
  (responses, { sent with network })

def answerSingle (respond : Responder) (frontEnd : FrontEnd) (value : Value) :
    Response × FrontEnd :=
  let (submission, sent) := frontEnd.submit value
  let network := sent.network.await respond (calls [submission])
  ({ id := responseId value, outcome := collect network submission }, { sent with network })

def answerBody (respond : Responder) (frontEnd : FrontEnd) (body : Bytes) :
    RpcReply × FrontEnd :=
  match Reader.readValue.run body with
  | .error fault => (.single (.failure .null (.parse fault.message)), frontEnd)
  | .ok (.array []) => (.single (.failure .null (.invalidRequest "empty batch")), frontEnd)
  | .ok (.array items) =>
    let (responses, after) := frontEnd.answerBatch respond items
    (.batch responses, after)
  | .ok value =>
    let (response, after) := frontEnd.answerSingle respond value
    (.single response, after)

end FrontEnd

def storeResponder (store : Store) : Responder :=
  fun _ _ payload => some (Query.answerPayload store payload).write

end LedgerNode.Rpc
