import LedgerNode.Bus.Message

set_option autoImplicit false

namespace LedgerNode.Bus

structure Queue where
  name : String
  capacity : Nat
  -- What the consumer has taken, the latest first.
  received : List Parcel
  buffer : List Parcel
  waiting : List Parcel
  consumed : Bool
  deriving DecidableEq, Repr

namespace Queue

/--
A capacity of zero is raised to one. Channels have a greatest capacity, and capacities are taken to be no
greater: beyond it no queue is made at all.
-/
def create (name : String) (capacity : Nat) : Queue where
  name := name
  capacity := max 1 capacity
  received := []
  buffer := []
  waiting := []
  consumed := true

def hasRoom (queue : Queue) : Bool :=
  queue.buffer.length < queue.capacity && queue.waiting.isEmpty

def accept (queue : Queue) (parcel : Parcel) : Queue :=
  { queue with buffer := queue.buffer ++ [parcel] }

def enqueue (queue : Queue) (parcel : Parcel) : Queue :=
  if queue.hasRoom then queue.accept parcel
  else { queue with waiting := queue.waiting ++ [parcel] }

def fillSlot (queue : Queue) : Queue :=
  match queue.waiting with
  | [] => queue
  | parcel :: rest =>
    -- Only one slot falls free at a time, so one sender is enough.
    if queue.buffer.length < queue.capacity then { queue with waiting := rest }.accept parcel
    else queue

def take? (queue : Queue) : Option (Parcel × Queue) :=
  match queue.buffer with
  | [] => none
  | parcel :: rest =>
    some (parcel, { queue with received := parcel :: queue.received, buffer := rest }.fillSlot)

def abandon (queue : Queue) (post : PostId) : Queue :=
  { queue with waiting := queue.waiting.filter (fun parcel => parcel.post != post) }

def dropConsumer (queue : Queue) : Queue :=
  { queue with buffer := [], waiting := [], consumed := false }

def isWaiting (queue : Queue) (post : PostId) : Bool :=
  queue.waiting.any (fun parcel => parcel.post == post)

def accepted (queue : Queue) : List Parcel :=
  queue.received.reverse ++ queue.buffer

end Queue

end LedgerNode.Bus
