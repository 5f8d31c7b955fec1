import LedgerNode.Proofs.Bus.Independence

set_option autoImplicit false

namespace LedgerNode.Bus

theorem Queue.Sound.crowded_iff {queue : Queue} (sound : queue.Sound) :
    queue.hasRoom = false ↔ queue.buffer.length = queue.capacity := by
  have within := sound.within
  by_cases nobody : queue.waiting = []
  · simp only [hasRoom, nobody, List.isEmpty_nil, Bool.and_true, decide_eq_false_iff_not]
    omega
  · simp [hasRoom, sound.busy nobody]

namespace Network

def Reaches (respond : Responder) (network : Network) (name : String) (id : QueueId) : Prop :=
  ∃ action parcel, network.publication? respond action = some (name, parcel) ∧
    network.handed? respond action id = some parcel

/-- What is published under a name waits exactly if the queue that it reaches is full, and no other queue
has a part in it. -/
structure Publishes (network : Network) (id : QueueId) (answers : Option PostId) (message : Message)
    (after : Network) : Prop where
  handed : ∃ queue, network.broker.queue? id = some queue ∧
    after.broker.queue? id =
      some (queue.enqueue { post := network.nextPost, answers, message }) ∧
    (after.broker.isWaiting network.nextPost = true ↔ queue.buffer.length = queue.capacity)
  others : ∀ other, other ≠ id → after.broker.queue? other = network.broker.queue? other

/-- The answers under a name are the same in two states of a run, and so is all that lies or waits in the
queues of that name. -/
structure Unaffected (respond : Responder) (name : String) (steps rest : List Step)
    (network later : Network) : Prop where
  declare : ∀ capacity, (later.declare name capacity).map (fun _ => ()) =
    (network.declare name capacity).map (fun _ => ())
  publish : ∀ message answers,
    (later.post name message answers).map (fun sent => sent.broker.isWaiting later.nextPost) =
      (network.post name message answers).map (fun sent => sent.broker.isWaiting network.nextPost)
  delete : (later.delete name).1 = (network.delete name).1
  receive : ∀ id, network.Named id name → (later.receive id).1 = (network.receive id).1
  queues : ∀ id, network.Named id name → later.broker.queue? id = network.broker.queue? id
  pending : ∀ id, network.Named id name → ∀ parcel ∈ (ledger respond steps id).arrived,
    later.broker.isWaiting parcel.post = network.broker.isWaiting parcel.post ∧
      later.broker.isRefused parcel.post = network.broker.isRefused parcel.post ∧
      (parcel ∈ (ledger respond (steps ++ rest) id).accepted ↔
        parcel ∈ (ledger respond steps id).accepted)

/-- The rules of the registry, for a name and a point of a run. An operation that fails returns no state
to go on with, so it is no step. -/
structure KeepsRegistry (respond : Responder) (steps : List Step) (network : Network)
    (name : String) : Prop where
  vacant : Vacant steps name → ∀ capacity, ∃ after,
    network.declare name capacity = .ok (network.broker.queues.length, after) ∧
      after.broker.queue? network.broker.queues.length = some (Queue.create name capacity) ∧
      ∀ id queue, network.broker.queue? id = some queue → after.broker.queue? id = some queue
  occupied : ¬Vacant steps name →
    (∀ capacity, network.declare name capacity = .error (.queueExists name)) ∧
      ∀ action, action.opens? = some name → network.perform respond action = none
  unknown : ∀ message answers, network.post name message answers = .error (.noSuchQueue name) ↔
    binding steps name = none
  closed : ∀ message answers, network.post name message answers = .error (.queueClosed name) ↔
    ∃ id, binding steps name = some id ∧ Dropped steps id
  served : ∀ id, Leads steps name id → ∀ message answers, ∃ after,
    network.post name message answers = .ok after ∧ network.Publishes id answers message after
  failed : (∀ id, ¬Leads steps name id) →
    (∀ message answers, network.perform respond (.publish name message answers) = none) ∧
      ∀ action parcel after, network.publication? respond action = some (name, parcel) →
        network.perform respond action = some after →
        ∀ id, after.broker.queue? id = network.broker.queue? id
  refused : ∀ step ∈ steps, ∀ id parcel,
    step.before.publication? respond step.action = some (name, parcel) →
    step.before.handed? respond step.action id = some parcel →
    (network.broker.isRefused parcel.post = true ↔ Dropped steps id ∧
      parcel ∉ (ledger respond steps id).accepted ∧
      (ledger respond steps id).abandoned parcel.post = false)
  vanished : ∀ post, network.broker.isRefused post = true → ∀ id parcel, network.Seen id parcel →
    parcel.post ≠ post
  deleted : (network.delete name).1 = (binding steps name).isSome ∧
    ∀ id, (network.delete name).2.broker.queue? id = network.broker.queue? id
  reached : ∀ id, network.Reaches respond name id ↔ Leads steps name id
  single : ∀ first second, network.Reaches respond name first →
    network.Reaches respond name second → first = second
  apart : ∀ id other, network.Reaches respond name id → network.Reaches respond other id →
    other = name
  own : binding (history respond name steps) name = binding steps name ∧
    ∀ id, network.Named id name →
      (Dropped (history respond name steps) id ↔ Dropped steps id) ∧
        ledger respond (history respond name steps) id = ledger respond steps id
  unaffected : ∀ rest later, Trace respond network rest later →
    (∀ step ∈ rest, step.concerns respond name = false) →
    Unaffected respond name steps rest network later

section Rules

variable {respond : Responder} {steps rest : List Step} {network later : Network} {name : String}
  {id : QueueId}

theorem Trace.reaches_iff (trace : Trace respond empty steps network) :
    network.Reaches respond name id ↔ Leads steps name id := by
  constructor
  · rintro ⟨action, parcel, published, handed⟩
    exact (trace.handed?_iff published).mp handed
  · intro leads
    let message : Message := { correlationId := 0, replyTo := none, payload := [] }
    exact ⟨.publish name message none, _, rfl, (trace.handed?_iff rfl).mpr leads⟩

theorem Trace.publishes (trace : Trace respond empty steps network) (leads : Leads steps name id)
    (message : Message) (answers : Option PostId) :
    network.Publishes id answers message (network.sent id answers message) := by
  obtain ⟨queue, found, -⟩ := trace.named leads.1
  refine ⟨⟨queue, found, queue?_sent answers message found, ?_⟩, ?_⟩
  · rw [trace.run.isWaiting_sent found, Bool.not_eq_true']
    exact (trace.ledger.1 id queue found).sound.crowded_iff
  · exact fun other different => queue?_sent_other answers message different

theorem Trace.unaffected (trace : Trace respond empty steps network)
    (more : Trace respond network rest later)
    (apart : ∀ step ∈ rest, step.concerns respond name = false) :
    Unaffected respond name steps rest network later := by
  have whole := trace.trans more
  have alike := trace.alike more apart
  -- What was told by the history of the name before is told by the same history now.
  have same : history respond name (steps ++ rest) = history respond name steps := by
    have nothing : rest.filter (Step.concerns respond name) = [] := by
      apply List.filter_eq_nil_iff.mpr
      intro step member
      simp [apart step member]
    simp [history, nothing]
  have queues (id : QueueId) (named : network.Named id name) :
      later.broker.queue? id = network.broker.queue? id := by
    obtain ⟨queue, found, own⟩ := named
    rw [found, alike.queues id queue found own]
  refine ⟨alike.declare trace.run.bound, alike.post trace.run whole.run, ?_,
    fun id => alike.receive trace.run whole.run, queues, ?_⟩
  · rw [whole.delete_eq, trace.delete_eq, ← binding_history respond (steps ++ rest), same,
      binding_history]
  · intro id named parcel arrived
    obtain ⟨queue, found, own⟩ := named
    have there := alike.queues id queue found own
    have before : network.Named id name := ⟨queue, found, own⟩
    have after : later.Named id name := ⟨queue, there, own⟩
    have ledgers : Network.ledger respond (steps ++ rest) id = Network.ledger respond steps id := by
      rw [← whole.ledger_history after, same, trace.ledger_history before]
    have still : parcel ∈ (Network.ledger respond (steps ++ rest) id).arrived := ledgers ▸ arrived
    refine ⟨?_, ?_, by rw [ledgers]⟩
    · rw [whole.isWaiting_eq still there, trace.isWaiting_eq arrived found]
    · rw [Bool.eq_iff_iff, whole.refused_iff still, trace.refused_iff arrived, ledgers,
        ← whole.dropped_history after, same, trace.dropped_history before]

/-- The registry keeps its rules in every run: each answer under a name is what the steps say that concern
the name, and nothing that happens under other names changes or delays it. -/
theorem registry_keeps_its_rules (trace : Trace respond empty steps network) (name : String) :
    KeepsRegistry respond steps network name where
  vacant vacant capacity := by
    refine ⟨_, trace.declare_of_vacant vacant capacity, ?_, ?_⟩
    · exact (Broker.queue?_opened ..).trans (if_pos rfl)
    · intro id queue found
      refine ((Broker.queue?_opened ..).trans (if_neg ?_)).trans found
      exact Nat.ne_of_lt (Broker.queue?_lt found)
  occupied occupied :=
    ⟨trace.declare_of_occupied occupied, fun _ opens => trace.unopened_of_occupied occupied opens⟩
  unknown _ _ := trace.post_eq_noSuchQueue_iff
  closed _ _ := trace.post_eq_queueClosed_iff
  served id leads message answers :=
    ⟨_, trace.post_eq_ok_iff.mpr ⟨id, leads, rfl⟩, trace.publishes leads message answers⟩
  failed closed := by
    refine ⟨fun message answers => ?_, fun _ _ _ => trace.unmoved_of_failed closed⟩
    cases posted : network.post name message answers with
    | error => simp [perform, posted, Except.toOption]
    | ok after =>
      obtain ⟨id, leads, -⟩ := trace.post_eq_ok_iff.mp posted
      exact absurd leads (closed id)
  refused step member id parcel _ handed :=
    trace.refused_iff (List.mem_filterMap.mpr ⟨step, member, handed⟩)
  vanished _ refused _ _ seen := trace.unseen_of_refused refused seen
  deleted := ⟨trace.delete_eq, fun _ => Broker.queue?_delete ..⟩
  reached _ := trace.reaches_iff
  single first second reaches again := by
    have one := (trace.reaches_iff.mp reaches).1
    have other := (trace.reaches_iff.mp again).1
    exact Option.some.inj (one.symm.trans other)
  apart id other reaches again :=
    (trace.named (trace.reaches_iff.mp again).1).eq (trace.named (trace.reaches_iff.mp reaches).1)
  own := ⟨binding_history respond steps name,
    fun _ named => ⟨trace.dropped_history named, trace.ledger_history named⟩⟩
  unaffected _ _ more apart := trace.unaffected more apart

/-- The consumer of the first of three queues of one name goes while messages wait there, and one of them
was given up; the second queue loses the name and keeps its consumer. Under another name, too, a message
waits. -/
def crowdedRegistry : Option (List Step × Network) :=
  let message : Message := { correlationId := 0, replyTo := none, payload := [] }
  record (fun _ _ _ => none)
    [.declare "jobs" 1, .publish "jobs" message none, .publish "jobs" message none,
      .publish "jobs" message none, .declare "mail" 1, .publish "mail" message none,
      .publish "mail" message none, .abandon 2, .dropConsumer 0, .declare "jobs" 2,
      .publish "jobs" message none, .delete "jobs", .declare "jobs" 1,
      .publish "jobs" message none, .publish "jobs" message none] empty

theorem crowdedRegistry_keeps_its_rules :
    ∃ steps network, crowdedRegistry = some (steps, network) ∧
      binding steps "jobs" = some 3 ∧ network.broker.isConsumed 2 = true ∧
      network.broker.isRefused 1 = true ∧ network.broker.isRefused 2 = false ∧
      network.broker.isWaiting 4 = true ∧ network.broker.isWaiting 7 = true ∧
      (history (fun _ _ _ => none) "jobs" steps).length = 12 ∧
      KeepsRegistry (fun _ _ _ => none) steps network "jobs" := by
  obtain ⟨⟨steps, network⟩, done⟩ :=
    Option.isSome_iff_exists.mp (by decide : crowdedRegistry.isSome = true)
  have computed : (steps, network) = crowdedRegistry.get (by decide) := by simp [done]
  have trace := trace_of_record done
  obtain ⟨bound, consumed, refused, given, mail, jobs, own⟩ :
      binding steps "jobs" = some 3 ∧ network.broker.isConsumed 2 = true ∧
      network.broker.isRefused 1 = true ∧ network.broker.isRefused 2 = false ∧
      network.broker.isWaiting 4 = true ∧ network.broker.isWaiting 7 = true ∧
      (history (fun _ _ _ => none) "jobs" steps).length = 12 := by
    cases computed
    exact ⟨rfl, rfl, rfl, rfl, rfl, rfl, rfl⟩
  exact ⟨steps, network, done, bound, consumed, refused, given, mail, jobs, own,
    registry_keeps_its_rules trace "jobs"⟩

end Rules

end Network

end LedgerNode.Bus
