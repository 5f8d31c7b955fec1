import LedgerNode.Bus.Network

set_option autoImplicit false

/-!
One schedule among all runs: parties step until none of them can, and only then does the clock move,
to the next time at which a call gives up. Each step lowers the work that is left, so the steps
between two moves of the clock come to an end.
-/

namespace LedgerNode.Bus.Network

def partyActions (network : Network) : List Action :=
  (List.range network.clients.length).map .dispatch ++
    (List.range network.servers.length).map .take ++
    (List.range network.jobs.length).flatMap (fun job => [.answer job, .conclude job]) ++
    (List.range network.calls.length).map .finish ++
    (List.range network.clients.length).map .retire

def total {α : Type} (measure : α → Nat) (items : List α) : Nat :=
  items.foldr (fun item rest => measure item + rest) 0

def parcelWork (parcel : Parcel) : Nat :=
  if parcel.message.replyTo.isSome then 5 else 2

def queueWork (queue : Queue) : Nat :=
  total parcelWork (queue.buffer ++ queue.waiting) + if queue.consumed then 1 else 0

def jobWork (job : Job) : Nat :=
  match job.state with
  | .ready => if job.request.message.replyTo.isSome then 4 else 1
  | .posted _ => 1
  | .done => 0

def callWork (call : Call) : Nat :=
  if call.state.isLive then 1 else 0

/-- More than the number of steps that the parties can still take. -/
def work (network : Network) : Nat :=
  total queueWork network.broker.queues + total jobWork network.jobs + total callWork network.calls + 1

def exhaustFor (respond : Responder) (action : Action) : Nat → Network → Network
  | 0, network => network
  | steps + 1, network =>
    match network.perform respond action with
    | some next => exhaustFor respond action steps next
    | none => network

def exhaust (respond : Responder) (network : Network) (action : Action) : Network :=
  exhaustFor respond action network.work network

def round (respond : Responder) (network : Network) : Network :=
  network.partyActions.foldl (exhaust respond) network

def settleFor (respond : Responder) : Nat → Network → Network
  | 0, network => network
  | rounds + 1, network =>
    -- Every action lowers the work, so a round that leaves it did nothing.
    let next := network.round respond
    if next.work < network.work then settleFor respond rounds next else next

def settle (respond : Responder) (network : Network) : Network :=
  settleFor respond network.work network

def liveCalls (network : Network) : List CallId :=
  (List.range network.calls.length).filter
    (fun id => (network.calls[id]?).any (fun call => call.state.isLive))

def expireDue (network : Network) : Network :=
  network.liveCalls.foldl (fun current id => (current.expire id).getD current) network

def advance (respond : Responder) (network : Network) (nanoseconds : Nat) : Network :=
  settle respond ({ network with clock := network.clock + nanoseconds } : Network).expireDue

def nextDeadline? (network : Network) : Option Nat :=
  (network.calls.filterMap (fun call =>
    if call.state.isLive then some call.deadline else none)).min?

def isLive (network : Network) (id : CallId) : Bool :=
  (network.calls[id]?).any (fun call => call.state.isLive)

def waitFor (respond : Responder) (waits : Network → Bool) : Nat → Network → Network
  | 0, network => network
  | steps + 1, network =>
    if waits network then
      match network.nextDeadline? with
      | none => network
      | some deadline =>
        waitFor respond waits steps (network.advance respond (deadline - network.clock))
    else
      network

/-- Waits for calls; each move of the clock ends at least one live call. -/
def await (respond : Responder) (network : Network) (calls : List CallId) : Network :=
  let settled := network.settle respond
  waitFor respond (fun current => calls.any current.isLive) settled.liveCalls.length settled

-- The outcome of a call that has ended, other than by being aborted.
def outcome? (network : Network) (id : CallId) : Option (Except BusError Bytes) :=
  match (network.calls[id]?).map Call.state with
  | some (.returned payload) => some (.ok payload)
  | some (.failed error) => some (.error error)
  | _ => none

def outcomeRead? {α : Type} (read : Bytes → Except Json.Fault α) (network : Network) (id : CallId) :
    Option (Except BusError α) :=
  (network.outcome? id).map (fun outcome =>
    match outcome with
    | .error error => .error error
    | .ok payload => (read payload).mapError .codec)

def tryPost (network : Network) (name : String) (message : Message) (answers : Option PostId) :
    Except BusError (Bool × Network) :=
  match network.post name message answers with
  | .error error => .error error
  | .ok posted =>
    if posted.broker.isWaiting network.nextPost then
      .ok (false, posted.abandon network.nextPost)
    else
      .ok (true, posted)

def takeWarnings (network : Network) : List Warning × Network :=
  (network.warnings.reverse, { network with warnings := [] })

end LedgerNode.Bus.Network
