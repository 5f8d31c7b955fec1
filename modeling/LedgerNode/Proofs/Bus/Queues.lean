import LedgerNode.Bus.Network
import LedgerNode.Proofs.Lookup
import Mathlib.Data.List.Basic
import Mathlib.Tactic.ByContra

set_option autoImplicit false

namespace LedgerNode.Bus

namespace Queue

def held (queue : Queue) : List Parcel :=
  queue.buffer ++ queue.waiting

def seen (queue : Queue) : List Parcel :=
  queue.received ++ queue.held

@[simp] theorem held_create (name : String) (capacity : Nat) : (create name capacity).held = [] := rfl

@[simp] theorem received_create (name : String) (capacity : Nat) :
    (create name capacity).received = [] := rfl

@[simp] theorem held_enqueue (queue : Queue) (parcel : Parcel) :
    (queue.enqueue parcel).held = queue.held ++ [parcel] := by
  unfold enqueue
  split
  next room =>
    have nobody : queue.waiting = [] := by
      simp only [hasRoom, Bool.and_eq_true, List.isEmpty_iff] at room
      exact room.2
    simp [held, accept, nobody]
  next => simp [held]

@[simp] theorem received_enqueue (queue : Queue) (parcel : Parcel) :
    (queue.enqueue parcel).received = queue.received := by
  unfold enqueue
  split <;> rfl

@[simp] theorem name_enqueue (queue : Queue) (parcel : Parcel) :
    (queue.enqueue parcel).name = queue.name := by
  unfold enqueue
  split <;> rfl

@[simp] theorem capacity_enqueue (queue : Queue) (parcel : Parcel) :
    (queue.enqueue parcel).capacity = queue.capacity := by
  unfold enqueue
  split <;> rfl

@[simp] theorem consumed_enqueue (queue : Queue) (parcel : Parcel) :
    (queue.enqueue parcel).consumed = queue.consumed := by
  unfold enqueue
  split <;> rfl

@[simp] theorem held_fillSlot (queue : Queue) : queue.fillSlot.held = queue.held := by
  unfold fillSlot
  cases waiting : queue.waiting with
  | nil => simp
  | cons parcel rest =>
    simp only
    split <;> simp [held, accept, waiting]

@[simp] theorem received_fillSlot (queue : Queue) : queue.fillSlot.received = queue.received := by
  unfold fillSlot
  split
  next => rfl
  next => split <;> rfl

@[simp] theorem name_fillSlot (queue : Queue) : queue.fillSlot.name = queue.name := by
  unfold fillSlot
  split
  next => rfl
  next => split <;> rfl

@[simp] theorem capacity_fillSlot (queue : Queue) : queue.fillSlot.capacity = queue.capacity := by
  unfold fillSlot
  split
  next => rfl
  next => split <;> rfl

@[simp] theorem consumed_fillSlot (queue : Queue) : queue.fillSlot.consumed = queue.consumed := by
  unfold fillSlot
  split
  next => rfl
  next => split <;> rfl

structure Takes (queue : Queue) (parcel : Parcel) (rest : Queue) : Prop where
  held : queue.held = parcel :: rest.held
  buffer : queue.buffer.head? = some parcel
  received : rest.received = parcel :: queue.received
  name : rest.name = queue.name
  capacity : rest.capacity = queue.capacity
  consumed : rest.consumed = queue.consumed

theorem takes_of_take? {queue rest : Queue} {parcel : Parcel}
    (taken : queue.take? = some (parcel, rest)) : queue.Takes parcel rest := by
  unfold take? at taken
  split at taken
  next => cases taken
  next head tail buffer =>
    cases taken
    constructor <;> simp [buffer]
    simp [held, buffer]

theorem take?_eq_none {queue : Queue} : queue.take? = none ↔ queue.buffer = [] := by
  unfold take?
  split <;> simp [*]

@[simp] theorem received_abandon (queue : Queue) (post : PostId) :
    (queue.abandon post).received = queue.received := rfl

@[simp] theorem name_abandon (queue : Queue) (post : PostId) :
    (queue.abandon post).name = queue.name := rfl

@[simp] theorem capacity_abandon (queue : Queue) (post : PostId) :
    (queue.abandon post).capacity = queue.capacity := rfl

@[simp] theorem consumed_abandon (queue : Queue) (post : PostId) :
    (queue.abandon post).consumed = queue.consumed := rfl

theorem held_abandon_sublist (queue : Queue) (post : PostId) :
    (queue.abandon post).held.Sublist queue.held :=
  (List.Sublist.refl _).append List.filter_sublist

theorem abandon_of_not_waiting {queue : Queue} {post : PostId}
    (absent : queue.isWaiting post = false) : queue.abandon post = queue := by
  have kept : queue.waiting.filter (fun parcel => parcel.post != post) = queue.waiting := by
    apply List.filter_eq_self.mpr
    intro parcel member
    have differs := List.any_eq_false.mp absent parcel member
    simpa using differs
  unfold abandon
  rw [kept]

theorem abandon_enqueue_of_hasRoom {queue : Queue} {parcel : Parcel}
    (room : queue.hasRoom = true) (post : PostId) :
    (queue.enqueue parcel).abandon post = queue.enqueue parcel := by
  apply abandon_of_not_waiting
  have nobody : queue.waiting = [] := by
    simp only [hasRoom, Bool.and_eq_true, List.isEmpty_iff] at room
    exact room.2
  simp [enqueue, room, accept, isWaiting, nobody]

theorem abandon_enqueue_of_crowded {queue : Queue} {parcel : Parcel}
    (crowded : queue.hasRoom = false) :
    (queue.enqueue parcel).abandon parcel.post = queue.abandon parcel.post := by
  simp [enqueue, crowded, abandon]

@[simp] theorem held_dropConsumer (queue : Queue) : queue.dropConsumer.held = [] := rfl

@[simp] theorem received_dropConsumer (queue : Queue) :
    queue.dropConsumer.received = queue.received := rfl

@[simp] theorem name_dropConsumer (queue : Queue) : queue.dropConsumer.name = queue.name := rfl

structure Sound (queue : Queue) : Prop where
  positive : 0 < queue.capacity
  within : queue.buffer.length ≤ queue.capacity
  busy : queue.waiting ≠ [] → queue.buffer.length = queue.capacity

theorem sound_create (name : String) (capacity : Nat) : (create name capacity).Sound where
  positive := by simp only [create]; omega
  within := by simp [create]
  busy := by simp [create]

theorem Sound.enqueue {queue : Queue} (sound : queue.Sound) (parcel : Parcel) :
    (queue.enqueue parcel).Sound := by
  have ⟨positive, within, busy⟩ := sound
  unfold Queue.enqueue
  split
  next room =>
    simp only [hasRoom, Bool.and_eq_true, decide_eq_true_eq, List.isEmpty_iff] at room
    constructor <;> simp [accept, room.2, positive]
    omega
  next crowded =>
    refine ⟨positive, within, fun _ => ?_⟩
    by_cases nobody : queue.waiting = []
    next =>
      simp only [hasRoom, nobody, List.isEmpty_nil, Bool.and_true, decide_eq_true_eq] at crowded
      simp only
      omega
    next => exact busy nobody

theorem Sound.take? {queue rest : Queue} {parcel : Parcel} (sound : queue.Sound)
    (taken : queue.take? = some (parcel, rest)) : rest.Sound := by
  have ⟨positive, within, busy⟩ := sound
  unfold Queue.take? at taken
  split at taken
  next => cases taken
  next head tail buffer =>
    cases taken
    simp only [buffer, List.length_cons] at within busy
    unfold fillSlot
    cases waiting : queue.waiting with
    | nil => exact ⟨positive, by simp only; omega, by simp⟩
    | cons next later =>
      have full := busy (by simp [waiting])
      have free : tail.length < queue.capacity := by omega
      simp only [if_pos free]
      constructor <;> simp [accept, positive]
      · omega
      · intro _; omega

theorem Sound.abandon {queue : Queue} (sound : queue.Sound) (post : PostId) :
    (queue.abandon post).Sound where
  positive := sound.positive
  within := sound.within
  busy := fun some => sound.busy (fun nobody => some (by simp [Queue.abandon, nobody]))

theorem Sound.dropConsumer {queue : Queue} (sound : queue.Sound) : queue.dropConsumer.Sound where
  positive := sound.positive
  within := Nat.zero_le _
  busy := by simp [Queue.dropConsumer]

theorem Sound.waiting_eq_nil {queue : Queue} (sound : queue.Sound) (empty : queue.buffer = []) :
    queue.waiting = [] := by
  -- A queue with nothing to read has room, so nothing waits for it.
  by_contra waits
  have full := sound.busy waits
  have positive := sound.positive
  rw [← full, empty] at positive
  cases positive

theorem Sound.held_eq_nil {queue : Queue} (sound : queue.Sound) (empty : queue.take? = none) :
    queue.held = [] := by
  have buffer := take?_eq_none.mp empty
  simp [held, buffer, sound.waiting_eq_nil buffer]

end Queue

namespace Broker

@[simp] theorem queue?_update (broker : Broker) (id other : QueueId) (change : Queue → Queue) :
    (broker.update id change).queue? other =
      if other = id then (broker.queue? other).map change else broker.queue? other := by
  simp only [queue?, update, List.getElem?_modify, eq_comm (a := id)]
  split <;> simp

@[simp] theorem registry_update (broker : Broker) (id : QueueId) (change : Queue → Queue) :
    (broker.update id change).registry = broker.registry := rfl

@[simp] theorem refused_update (broker : Broker) (id : QueueId) (change : Queue → Queue) :
    (broker.update id change).refused = broker.refused := rfl

@[simp] theorem lookup?_update (broker : Broker) (id : QueueId) (change : Queue → Queue)
    (name : String) : (broker.update id change).lookup? name = broker.lookup? name := rfl

@[simp] theorem queue?_abandon (broker : Broker) (post : PostId) (id : QueueId) :
    (broker.abandon post).queue? id = (broker.queue? id).map (fun queue => queue.abandon post) := by
  simp [queue?, abandon]

@[simp] theorem lookup?_abandon (broker : Broker) (post : PostId) (name : String) :
    (broker.abandon post).lookup? name = broker.lookup? name := rfl

@[simp] theorem queue?_dropConsumer (broker : Broker) (id other : QueueId) :
    (broker.dropConsumer id).queue? other =
      if other = id then (broker.queue? other).map Queue.dropConsumer else broker.queue? other :=
  queue?_update broker id other Queue.dropConsumer

@[simp] theorem lookup?_dropConsumer (broker : Broker) (id : QueueId) (name : String) :
    (broker.dropConsumer id).lookup? name = broker.lookup? name := rfl

@[simp] theorem queue?_delete (broker : Broker) (name : String) (id : QueueId) :
    (broker.delete name).2.queue? id = broker.queue? id := rfl

@[simp] theorem lookup?_delete (broker : Broker) (name other : String) :
    (broker.delete name).2.lookup? other = if other = name then none else broker.lookup? other :=
  lookup_filter_ne name other broker.registry

def opened (broker : Broker) (name : String) (capacity : Nat) : Broker :=
  { broker with
    queues := broker.queues ++ [Queue.create name capacity]
    registry := (name, broker.queues.length) :: unbind name broker.registry }

theorem declare_eq_ok {broker after : Broker} {name : String} {capacity : Nat} {id : QueueId}
    (declared : broker.declare name capacity = .ok (id, after)) :
    (broker.lookup? name).any broker.isConsumed = false ∧ id = broker.queues.length ∧
      after = broker.opened name capacity := by
  unfold declare at declared
  split at declared
  next => cases declared
  next free =>
    cases declared
    exact ⟨by simpa using free, rfl, rfl⟩

theorem queue?_opened (broker : Broker) (name : String) (capacity : Nat) (id : QueueId) :
    (broker.opened name capacity).queue? id =
      if id = broker.queues.length then some (Queue.create name capacity) else broker.queue? id := by
  simp only [queue?, opened, List.getElem?_append]
  grind

theorem lookup?_opened (broker : Broker) (name other : String) (capacity : Nat) :
    (broker.opened name capacity).lookup? other =
      if other = name then some broker.queues.length else broker.lookup? other := by
  simp only [lookup?, opened, unbind, lookup_cons_ite, lookup_filter_ne]
  by_cases same : other = name <;> simp [same]

theorem publish_eq_ok {broker after : Broker} {name : String} {parcel : Parcel} :
    broker.publish name parcel = .ok after ↔
      ∃ id, broker.lookup? name = some id ∧ broker.isConsumed id = true ∧
        after = broker.update id (fun queue => queue.enqueue parcel) := by
  unfold publish
  cases broker.lookup? name with
  | none => simp
  | some id => by_cases consumed : broker.isConsumed id <;> simp [consumed, eq_comm (a := after)]

theorem queue?_lt {broker : Broker} {id : QueueId} {queue : Queue}
    (found : broker.queue? id = some queue) : id < broker.queues.length :=
  (List.getElem?_eq_some_iff.mp found).1

end Broker

end LedgerNode.Bus
