import LedgerNode.Bus.Broker

set_option autoImplicit false

/-!
A bus with its clients and servers as one state. A client owns a reply queue, sends requests under
ids of its own, and hands each reply to the call that waits under the reply's id. A server takes
messages from a queue and answers each in a job of its own. Every action below is one atomic step of
one party; a run is any sequence of them, and nothing but `tick` moves the clock.
-/

namespace LedgerNode.Bus

abbrev ClientId := Nat
abbrev CallId := Nat
abbrev ServerId := Nat
abbrev JobId := Nat

inductive CallState where
  -- The message waits for a slot, or was accepted and has no reply.
  | outstanding
  -- A reply was handed over, and the caller has not looked yet or still waits for a slot.
  | answered (payload : Bytes)
  -- The sending half was dropped and the caller has not looked yet.
  | disconnected
  | returned (payload : Bytes)
  | failed (error : BusError)
  | aborted
  deriving DecidableEq, Repr

def CallState.isLive : CallState → Bool
  | outstanding | answered _ | disconnected => true
  | returned _ | failed _ | aborted => false

structure Call where
  client : ClientId
  correlationId : CorrelationId
  route : String
  post : PostId
  timeout : Duration
  deadline : Nat
  state : CallState
  deriving DecidableEq, Repr

structure Client where
  replyQueue : String
  inbox : QueueId
  nextId : CorrelationId
  pending : List (CorrelationId × CallId)
  -- Whether somebody still holds the client, apart from its calls.
  held : Bool
  deriving DecidableEq, Repr

structure Server where
  inbox : QueueId
  deriving DecidableEq, Repr

inductive JobState where
  | ready
  -- The reply waits for a slot, or was accepted meanwhile.
  | posted (post : PostId)
  | done
  deriving DecidableEq, Repr

structure Job where
  server : ServerId
  -- How many messages the server took before this one.
  index : Nat
  request : Parcel
  state : JobState
  deriving DecidableEq, Repr

/-- What a server answers to a payload, given how many messages it took before. -/
abbrev Responder := ServerId → Nat → Bytes → Option Bytes

inductive Warning where
  | unclaimed (id : CorrelationId) (queue : String)
  | undelivered (id : CorrelationId) (error : BusError)
  deriving DecidableEq, Repr

def Warning.message : Warning → String
  | .unclaimed id queue => s!"dropping reply {id} on `{queue}`: no caller waiting"
  | .undelivered id error => s!"reply {id} not delivered: " ++ error.message

structure Network where
  broker : Broker
  nextPost : PostId
  clients : List Client
  calls : List Call
  servers : List Server
  jobs : List Job
  clock : Nat
  -- The warnings so far, the latest first.
  warnings : List Warning
  deriving DecidableEq, Repr

inductive Action where
  | declare (name : String) (capacity : Nat)
  | publish (name : String) (message : Message) (answers : Option PostId)
  | abandon (post : PostId)
  | receive (queue : QueueId)
  | dropConsumer (queue : QueueId)
  | delete (name : String)
  | connect (replyQueue : String) (capacity : Nat)
  | call (client : ClientId) (route : String) (payload : Bytes) (timeout : Duration)
  | abort (call : CallId)
  | dropClient (client : ClientId)
  | serve (queue : QueueId)
  | tick (nanoseconds : Nat)
  | expire (call : CallId)
  | dispatch (client : ClientId)
  | finish (call : CallId)
  | retire (client : ClientId)
  | take (server : ServerId)
  | answer (job : JobId)
  | conclude (job : JobId)
  deriving DecidableEq, Repr

namespace Network

def empty : Network where
  broker := Broker.empty
  nextPost := 0
  clients := []
  calls := []
  servers := []
  jobs := []
  clock := 0
  warnings := []

def warn (network : Network) (warning : Warning) : Network :=
  { network with warnings := warning :: network.warnings }

def updateClient (network : Network) (id : ClientId) (change : Client → Client) : Network :=
  { network with clients := network.clients.modify id change }

def setCall (network : Network) (id : CallId) (state : CallState) : Network :=
  { network with calls := network.calls.modify id (fun call => { call with state }) }

def setJob (network : Network) (id : JobId) (state : JobState) : Network :=
  { network with jobs := network.jobs.modify id (fun job => { job with state }) }

def isOutside (network : Network) (queue : QueueId) : Bool :=
  network.clients.all (fun client => client.inbox != queue) &&
    network.servers.all (fun server => server.inbox != queue)

def declare (network : Network) (name : String) (capacity : Nat) :
    Except BusError (QueueId × Network) :=
  match network.broker.declare name capacity with
  | .ok (id, broker) => .ok (id, { network with broker })
  | .error error => .error error

def post (network : Network) (name : String) (message : Message) (answers : Option PostId) :
    Except BusError Network :=
  match network.broker.publish name { post := network.nextPost, answers, message } with
  | .ok broker => .ok { network with broker, nextPost := network.nextPost + 1 }
  | .error error => .error error

def abandon (network : Network) (post : PostId) : Network :=
  { network with broker := network.broker.abandon post }

def receive (network : Network) (queue : QueueId) : Reception × Network :=
  let (reception, broker) := network.broker.receive queue
  (reception, { network with broker })

def dropConsumer (network : Network) (queue : QueueId) : Network :=
  { network with broker := network.broker.dropConsumer queue }

def delete (network : Network) (name : String) : Bool × Network :=
  let (existed, broker) := network.broker.delete name
  (existed, { network with broker })

def connect (network : Network) (replyQueue : String) (capacity : Nat) :
    Except BusError (ClientId × Network) :=
  match network.declare replyQueue capacity with
  | .ok (inbox, network) =>
    let client : Client := { replyQueue, inbox, nextId := 0, pending := [], held := true }
    .ok (network.clients.length, { network with clients := network.clients ++ [client] })
  | .error error => .error error

def serve (network : Network) (queue : QueueId) : ServerId × Network :=
  (network.servers.length, { network with servers := network.servers ++ [{ inbox := queue }] })

def disconnect (network : Network) (id : CallId) : Network :=
  match network.calls[id]? with
  | some call =>
    if call.state = .outstanding then network.setCall id .disconnected else network
  | none => network

def removePending (id : CorrelationId) (pending : List (CorrelationId × CallId)) :
    List (CorrelationId × CallId) :=
  pending.filter (fun entry => entry.1 != id)

-- Registers a call under its id, in place of whichever call was there.
def register (network : Network) (client : ClientId) (id : CorrelationId) (call : CallId) :
    Network :=
  let before := (network.clients[client]?).bind (fun client => client.pending.lookup id)
  let cleared := match before with
    | some other => network.disconnect other
    | none => network
  cleared.updateClient client (fun client =>
    { client with nextId := id + 1, pending := (id, call) :: removePending id client.pending })

def unregister (network : Network) (client : ClientId) (id : CorrelationId) (call : CallId) :
    Network :=
  let found := (network.clients[client]?).bind (fun client => client.pending.lookup id)
  let cleared := match found with
    | some other => if other = call then network else network.disconnect other
    | none => network
  cleared.updateClient client (fun client =>
    { client with pending := removePending id client.pending })

def endCall (network : Network) (id : CallId) (state : CallState) : Network :=
  match network.calls[id]? with
  | some call =>
    ((network.abandon call.post).setCall id state).unregister call.client call.correlationId id
  | none => network

/--
A call whose message waits for a slot looks at nothing else, so a reply that is there early is taken when the
message is accepted, and is lost when it is refused.
-/
def finish (network : Network) (id : CallId) : Option Network :=
  match network.calls[id]? with
  | none => none
  | some call =>
    if !call.state.isLive then
      none
    else if network.broker.isRefused call.post then
      some (network.endCall id (.failed (.queueClosed call.route)))
    else if network.broker.isWaiting call.post then
      none
    else
      match call.state with
      | .answered payload => some (network.endCall id (.returned payload))
      | .disconnected => some (network.endCall id (.failed .disconnected))
      | _ => none

/-- A call whose time is up takes what came in time, and otherwise times out. -/
def giveUp (network : Network) (id : CallId) : Network :=
  match network.finish id with
  | some ended => ended
  | none =>
    match network.calls[id]? with
    | some call => network.endCall id (.failed (.timeout call.timeout))
    | none => network

def expire (network : Network) (id : CallId) : Option Network :=
  match network.calls[id]? with
  | some call =>
    if call.state.isLive && call.deadline ≤ network.clock then some (network.giveUp id) else none
  | none => none

def abort (network : Network) (id : CallId) : Option Network :=
  match network.calls[id]? with
  | some call => if call.state.isLive then some (network.endCall id .aborted) else none
  | none => none

/--
A call takes the client's next id, registers and publishes in one step, so a call without time to wait still
sends what finds room. Tasks that are set aside in between, or that wait for the registry, are not modelled.
-/
def startCall (network : Network) (client : ClientId) (route : String) (payload : Bytes)
    (timeout : Duration) : Network :=
  match network.clients[client]? with
  | none => network
  | some owner =>
    let id := owner.nextId
    let call := network.calls.length
    let message : Message :=
      { correlationId := id, replyTo := some owner.replyQueue, payload }
    let record : Call := {
      client, route, timeout
      correlationId := id
      post := network.nextPost
      deadline := network.clock + timeout.nanoseconds
      state := .outstanding }
    let registered :=
      ({ network with calls := network.calls ++ [record] } : Network).register client id call
    match registered.post route message none with
    -- The number is used up, so no later message is taken for this one.
    | .error error =>
      ({ registered with nextPost := registered.nextPost + 1 } : Network).endCall call
        (.failed error)
    -- Without time to wait the call ends before any other party can step.
    | .ok posted => if timeout.nanoseconds = 0 then posted.giveUp call else posted

def deliver (network : Network) (id : ClientId) (message : Message) : Network :=
  match network.clients[id]? with
  | none => network
  | some client =>
    match client.pending.lookup message.correlationId with
    | none => network.warn (.unclaimed message.correlationId client.replyQueue)
    | some call =>
      let removed := network.updateClient id (fun client =>
        { client with pending := removePending message.correlationId client.pending })
      -- A call that has been answered or has ended keeps what it has.
      match (removed.calls[call]?).map Call.state with
      | some .outstanding => removed.setCall call (.answered message.payload)
      | _ => removed

def dispatch (network : Network) (id : ClientId) : Option Network :=
  match network.clients[id]? with
  | none => none
  | some client =>
    if network.broker.isConsumed client.inbox then
      match network.receive client.inbox with
      | (.message parcel, rest) => some (rest.deliver id parcel.message)
      | (.empty, _) => none
      | (.closed, _) => some (network.dropConsumer client.inbox)
    else
      none

def hasLiveCall (network : Network) (id : ClientId) : Bool :=
  network.calls.any (fun call => call.client == id && call.state.isLive)

def retire (network : Network) (id : ClientId) : Option Network :=
  match network.clients[id]? with
  | none => none
  | some client =>
    if !client.held && !network.hasLiveCall id && network.broker.isConsumed client.inbox then
      some (network.dropConsumer client.inbox)
    else
      none

def receivedCount (network : Network) (queue : QueueId) : Nat :=
  ((network.broker.queue? queue).map (fun queue => queue.received.length)).getD 0

def take (network : Network) (id : ServerId) : Option Network :=
  match network.servers[id]? with
  | none => none
  | some server =>
    if network.broker.isConsumed server.inbox then
      match network.receive server.inbox with
      | (.message parcel, rest) =>
        let job : Job := {
          server := id
          index := network.receivedCount server.inbox
          request := parcel
          state := .ready }
        some { rest with jobs := rest.jobs ++ [job] }
      | (.empty, _) => none
      | (.closed, _) => some (network.dropConsumer server.inbox)
    else
      none

def replyTo (request : Message) (payload : Bytes) : Message where
  correlationId := request.correlationId
  replyTo := none
  payload := payload

def answer (respond : Responder) (network : Network) (id : JobId) : Option Network :=
  match network.jobs[id]? with
  | none => none
  | some job =>
    if job.state = .ready then
      let request := job.request.message
      match respond job.server job.index request.payload, request.replyTo with
      | some payload, some queue =>
        match network.post queue (replyTo request payload) (some job.request.post) with
        | .ok posted => some (posted.setJob id (.posted network.nextPost))
        | .error error =>
          some ((network.warn (.undelivered request.correlationId error)).setJob id .done)
      | _, _ => some (network.setJob id .done)
    else
      none

def conclude (network : Network) (id : JobId) : Option Network :=
  match network.jobs[id]? with
  | none => none
  | some job =>
    match job.state with
    | .posted post =>
      if network.broker.isRefused post then
        let request := job.request.message
        let error := BusError.queueClosed (request.replyTo.getD "")
        some ((network.warn (.undelivered request.correlationId error)).setJob id .done)
      else if network.broker.isWaiting post then
        none
      else
        some (network.setJob id .done)
    | _ => none

def perform (respond : Responder) (network : Network) : Action → Option Network
  | .declare name capacity => (network.declare name capacity).toOption.map Prod.snd
  | .publish name message answers => (network.post name message answers).toOption
  | .abandon post => some (network.abandon post)
  | .receive queue =>
    if network.isOutside queue && network.broker.isConsumed queue then
      some (network.receive queue).2
    else
      none
  | .dropConsumer queue =>
    if network.isOutside queue && network.broker.isConsumed queue then
      some (network.dropConsumer queue)
    else
      none
  | .delete name => some (network.delete name).2
  | .connect replyQueue capacity => (network.connect replyQueue capacity).toOption.map Prod.snd
  | .call client route payload timeout =>
    if (network.clients[client]?).any Client.held then
      some (network.startCall client route payload timeout)
    else
      none
  | .abort call => network.abort call
  | .dropClient client =>
    if (network.clients[client]?).any Client.held then
      some (network.updateClient client (fun client => { client with held := false }))
    else
      none
  | .serve queue =>
    if network.isOutside queue && network.broker.isConsumed queue then
      some (network.serve queue).2
    else
      none
  | .tick nanoseconds => some { network with clock := network.clock + nanoseconds }
  | .expire call => network.expire call
  | .dispatch client => network.dispatch client
  | .finish call => network.finish call
  | .retire client => network.retire client
  | .take server => network.take server
  | .answer job => network.answer respond job
  | .conclude job => network.conclude job

inductive Reachable (respond : Responder) : Network → Prop where
  | empty : Reachable respond empty
  | next {network after : Network} (action : Action) :
      Reachable respond network → network.perform respond action = some after →
      Reachable respond after

end Network

end LedgerNode.Bus
