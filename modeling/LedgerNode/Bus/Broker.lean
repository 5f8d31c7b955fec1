import LedgerNode.Bus.Queue

set_option autoImplicit false

namespace LedgerNode.Bus

abbrev QueueId := Nat

structure Broker where
  -- Every queue that was ever declared; its number is its place.
  queues : List Queue
  registry : List (String × QueueId)
  -- The posts that waited for a slot when the consumer of their queue went.
  refused : List PostId
  deriving DecidableEq, Repr

inductive Reception where
  | message (parcel : Parcel)
  | empty
  | closed
  deriving DecidableEq, Repr

namespace Broker

def empty : Broker where
  queues := []
  registry := []
  refused := []

def queue? (broker : Broker) (id : QueueId) : Option Queue :=
  broker.queues[id]?

def lookup? (broker : Broker) (name : String) : Option QueueId :=
  broker.registry.lookup name

def isConsumed (broker : Broker) (id : QueueId) : Bool :=
  (broker.queue? id).any Queue.consumed

def update (broker : Broker) (id : QueueId) (change : Queue → Queue) : Broker :=
  { broker with queues := broker.queues.modify id change }

def unbind (name : String) (registry : List (String × QueueId)) : List (String × QueueId) :=
  registry.filter (fun entry => entry.1 != name)

/-- A name whose queue has lost its consumer may be declared again. -/
def declare (broker : Broker) (name : String) (capacity : Nat) :
    Except BusError (QueueId × Broker) :=
  if (broker.lookup? name).any broker.isConsumed then
    .error (.queueExists name)
  else
    let id := broker.queues.length
    .ok (id, { broker with
      queues := broker.queues ++ [Queue.create name capacity]
      registry := (name, id) :: unbind name broker.registry })

def publish (broker : Broker) (name : String) (parcel : Parcel) : Except BusError Broker :=
  match broker.lookup? name with
  | none => .error (.noSuchQueue name)
  | some id =>
    if broker.isConsumed id then
      .ok (broker.update id (fun queue => queue.enqueue parcel))
    else
      .error (.queueClosed name)

def delete (broker : Broker) (name : String) : Bool × Broker :=
  ((broker.lookup? name).isSome, { broker with registry := unbind name broker.registry })

def hasSender (broker : Broker) (id : QueueId) : Bool :=
  broker.registry.any (fun entry => entry.2 == id) ||
    (broker.queue? id).any (fun queue => !queue.waiting.isEmpty)

def receive (broker : Broker) (id : QueueId) : Reception × Broker :=
  match broker.queue? id with
  | none => (.closed, broker)
  | some queue =>
    match queue.take? with
    | some (parcel, rest) => (.message parcel, broker.update id (fun _ => rest))
    | none => (if broker.hasSender id then .empty else .closed, broker)

def dropConsumer (broker : Broker) (id : QueueId) : Broker :=
  let posts := ((broker.queue? id).map (fun queue => queue.waiting.map Parcel.post)).getD []
  { broker.update id Queue.dropConsumer with refused := posts ++ broker.refused }

def abandon (broker : Broker) (post : PostId) : Broker :=
  { broker with queues := broker.queues.map (fun queue => queue.abandon post) }

def isWaiting (broker : Broker) (post : PostId) : Bool :=
  broker.queues.any (fun queue => queue.isWaiting post)

def isRefused (broker : Broker) (post : PostId) : Bool :=
  broker.refused.contains post

end Broker

end LedgerNode.Bus
