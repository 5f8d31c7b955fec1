import LedgerNode.Proofs.Bus.Refusals

set_option autoImplicit false

namespace LedgerNode.Bus

namespace Network

def isNamed (network : Network) (id : QueueId) (name : String) : Bool :=
  (network.broker.queue? id).any (fun queue => queue.name == name)

def Step.concerns (respond : Responder) (name : String) (step : Step) : Bool :=
  step.action.opens? == some name || step.action == .delete name ||
    (step.before.publication? respond step.action).any (fun entry => entry.1 == name) ||
    (step.before.consumer? step.action).any (fun id => step.before.isNamed id name) ||
    (step.before.withdrawn? step.action).any (fun post =>
      step.before.broker.queues.any (fun queue => queue.name == name && queue.isWaiting post))

def history (respond : Responder) (name : String) (steps : List Step) : List Step :=
  steps.filter (Step.concerns respond name)

structure Spares (respond : Responder) (before : Network) (action : Action) (name : String) :
    Prop where
  unopened : action.opens? ≠ some name
  undeleted : action ≠ .delete name
  unpublished : ∀ parcel, before.publication? respond action ≠ some (name, parcel)
  untouched : ∀ id, before.consumer? action = some id → ¬before.Named id name
  unwithdrawn : ∀ post, before.withdrawn? action = some post → ∀ id queue,
    before.broker.queue? id = some queue → queue.name = name → queue.isWaiting post = false

/-- Two states that are the same to whoever knows one name only. -/
structure Alike (name : String) (before after : Network) : Prop where
  bound : after.broker.lookup? name = before.broker.lookup? name
  queues : ∀ id queue, before.broker.queue? id = some queue → queue.name = name →
    after.broker.queue? id = some queue
  named : ∀ id, after.Named id name → before.Named id name

section Steps

variable {respond : Responder} {before middle after : Network} {action : Action} {id : QueueId}
  {name : String} {was : Queue}

theorem Alike.refl (name : String) (network : Network) : Alike name network network :=
  ⟨rfl, fun _ _ found _ => found, fun _ named => named⟩

theorem Alike.trans (first : Alike name before middle) (second : Alike name middle after) :
    Alike name before after where
  bound := second.bound.trans first.bound
  queues id queue found named := second.queues id queue (first.queues id queue found named) named
  named id named := first.named id (second.named id named)

theorem spares_of_unconcerned {step : Step} (apart : step.concerns respond name = false) :
    Spares respond step.before step.action name := by
  simp only [Step.concerns, Bool.or_eq_false_iff, beq_eq_false_iff_ne] at apart
  obtain ⟨⟨⟨⟨unopened, undeleted⟩, unpublished⟩, untouched⟩, unwithdrawn⟩ := apart
  refine ⟨unopened, undeleted, ?_, ?_, ?_⟩
  · intro parcel published
    simp [published] at unpublished
  · rintro id acts ⟨queue, found, same⟩
    simp [acts, isNamed, found, same] at untouched
  · intro post given id queue found same
    rw [given, Option.any_some] at unwithdrawn
    simpa [same] using List.any_eq_false.mp unwithdrawn queue (List.mem_of_getElem? found)

theorem Spares.unhanded (spares : Spares respond before action name) (bound : before.Bound)
    (named : before.Named id name) : before.handed? respond action id = none := by
  refine Option.eq_none_iff_forall_ne_some.mpr (fun parcel handed => ?_)
  obtain ⟨other, published, leads, -⟩ := handed?_spec handed
  obtain rfl := Named.eq (bound.named other id leads) named
  exact spares.unpublished parcel published

theorem Spares.undrawn (spares : Spares respond before action name) (named : before.Named id name) :
    before.drawn? action id = none := by
  refine Option.eq_none_iff_forall_ne_some.mpr (fun parcel drawn => ?_)
  exact spares.untouched id (consumer?_of_reader? (drawn?_eq_some.mp drawn).1) named

theorem Spares.unwaited {steps : List Step} (spares : Spares respond before action name)
    (trace : Trace respond empty steps before)
    (performed : before.perform respond action = some after)
    (found : before.broker.queue? id = some was) (named : was.name = name) {post : PostId}
    (given : action = .abandon post ∨ after.isOver post = true) : was.isWaiting post = false := by
  by_contra waits
  have waits : was.isWaiting post = true := by simpa using waits
  have withdrawn : before.withdrawn? action = some post := by
    rcases given with rfl | past
    · rfl
    · obtain ⟨parcel, member, same⟩ := isWaiting_iff_mem.mp waits
      exact withdrawn?_of_over trace performed
        (isWaiting_iff.mpr ⟨id, was, found, parcel, member, same⟩) past
  cases waits.symm.trans (spares.unwithdrawn post withdrawn id was found named)

theorem Spares.alike {steps : List Step} (spares : Spares respond before action name)
    (trace : Trace respond empty steps before)
    (performed : before.perform respond action = some after) : Alike name before after where
  bound := by
    rw [lookup?_of_perform performed, Step.rebinds, if_neg spares.unopened,
      if_neg spares.undeleted]
  queues := by
    intro id was found same
    have named : before.Named id name := ⟨was, found, same⟩
    have unhanded := spares.unhanded trace.run.bound named
    have undrawn := spares.undrawn named
    obtain ⟨now, later, evolves⟩ := evolves_of_perform performed found
    -- Whatever changes a queue hands to it, acts for its consumer or withdraws what waits there.
    cases evolves with
    | kept => exact later
    | handed sends | overtaken sends => cases unhanded.symm.trans sends
    | drawn _ reads => cases undrawn.symm.trans reads
    | withdrawn _ _ given =>
      rw [later, Queue.abandon_of_not_waiting (spares.unwaited trace performed found same given)]
    | left leaving => exact absurd named (spares.untouched id leaving.consumer?)
  named id named := (named_of_perform performed named).resolve_right spares.unopened

end Steps

section Ledgers

variable {respond : Responder} {steps : List Step} {before after network : Network}
  {action : Action} {id : QueueId} {name : String}

theorem ledger_of_spares {was : Queue} (spares : Spares respond before action name)
    (trace : Trace respond empty steps before)
    (performed : before.perform respond action = some after)
    (found : before.broker.queue? id = some was) (named : was.name = name) :
    ledger respond (steps ++ [⟨before, action, after⟩]) id = ledger respond steps id := by
  have later := (spares.alike trace performed).queues id was found named
  have unhanded := spares.unhanded trace.run.bound ⟨was, found, named⟩
  have undrawn := spares.undrawn ⟨was, found, named⟩
  have nothing : Step.accepted ⟨before, action, after⟩ id = [] :=
    accepted_eq _ was.buffer [] found later (List.append_nil _).symm (fun _ there => there) (by simp)
  have none (post : PostId) : Step.abandons respond ⟨before, action, after⟩ id post = false := by
    by_contra abandons
    obtain ⟨given, waits | ⟨parcel, handed, -⟩, -⟩ :=
      (abandons_iff found later).mp (by simpa using abandons)
    · cases waits.symm.trans (spares.unwaited trace performed found named given)
    · cases unhanded.symm.trans handed
  simp [ledger_concat, unhanded, undrawn, nothing, none]

theorem history_concat (step : Step) : history respond name (steps ++ [step]) =
    history respond name steps ++ if step.concerns respond name then [step] else [] := by
  simp [history, List.filter_append, List.filter_cons]

theorem Trace.ledger_history_of_name (trace : Trace respond empty steps network)
    (named : ∀ queue, network.broker.queue? id = some queue → queue.name = name) :
    Network.ledger respond (history respond name steps) id = Network.ledger respond steps id := by
  induction trace with
  | start => rfl
  | @next steps before after action trace performed ih =>
    have earlier (queue : Queue) (found : before.broker.queue? id = some queue) : queue.name = name := by
      obtain ⟨now, later, same⟩ :=
        named_mono_of_perform performed (⟨queue, found, rfl⟩ : before.Named id queue.name)
      exact same.symm.trans (named now later)
    rw [history_concat]
    cases concerned : Step.concerns respond name ⟨before, action, after⟩ with
    | true => rw [if_pos rfl, ledger_concat, ledger_concat, ih earlier]
    | false =>
      have spares := spares_of_unconcerned concerned
      rw [if_neg Bool.false_ne_true, List.append_nil, ih earlier]
      -- A step that spares the name makes no queue of that name, so one that is not there stays away.
      cases found : before.broker.queue? id with
      | some was => exact (ledger_of_spares spares trace performed found (earlier was found)).symm
      | none =>
        have absent : after.broker.queue? id = none := by
          by_contra made
          obtain ⟨now, later⟩ := Option.ne_none_iff_exists'.mp made
          obtain ⟨_, there, -⟩ :=
            (spares.alike trace performed).named id ⟨now, later, named now later⟩
          cases found.symm.trans there
        rw [trace.ledger.2 id found, (trace.next action performed).ledger.2 id absent]

theorem Trace.ledger_history (trace : Trace respond empty steps network)
    (named : network.Named id name) :
    Network.ledger respond (history respond name steps) id = Network.ledger respond steps id := by
  obtain ⟨queue, found, rfl⟩ := named
  apply trace.ledger_history_of_name
  intro other known
  rw [Option.some.inj (known.symm.trans found)]

theorem binding_history (respond : Responder) (steps : List Step) (name : String) :
    binding (history respond name steps) name = binding steps name := by
  unfold binding history
  rw [List.foldl_filter]
  congr 1
  funext bound step
  split
  next => rfl
  next apart =>
    have apart : step.concerns respond name = false := by simpa using apart
    have spares := spares_of_unconcerned apart
    rw [Step.rebinds, if_neg spares.unopened, if_neg spares.undeleted]

theorem Trace.named_of_leaving (trace : Trace respond empty steps network) {step : Step}
    (member : step ∈ steps) (leaving : step.before.Leaving step.action id)
    (named : network.Named id name) : step.before.Named id name := by
  obtain ⟨front, back, -, -, performed, -⟩ := trace.split member
  obtain ⟨queue, found, -⟩ := (Option.any_eq_true _ _).mp (left_of_leaving performed leaving).1
  have there : step.before.Named id queue.name := ⟨queue, found, rfl⟩
  rwa [((trace.around member).2.named_mono there).eq named] at there

theorem Trace.dropped_history (trace : Trace respond empty steps network)
    (named : network.Named id name) :
    Dropped (history respond name steps) id ↔ Dropped steps id := by
  constructor
  · rintro ⟨step, member, leaving⟩
    exact ⟨step, (List.mem_filter.mp member).1, leaving⟩
  · rintro ⟨step, member, leaving⟩
    refine ⟨step, List.mem_filter.mpr ⟨member, ?_⟩, leaving⟩
    by_contra apart
    have apart : step.concerns respond name = false := by simpa using apart
    have spares := spares_of_unconcerned apart
    exact spares.untouched id leaving.consumer? (trace.named_of_leaving member leaving named)

end Ledgers

section Views

variable {respond : Responder} {allowed : Network → Action → Prop} {steps rest : List Step}
  {network later : Network} {id : QueueId} {name : String} {queue : Queue}

theorem Change.nodup_registry {before after : Network} {action : Action}
    (change : Change respond action before after)
    (nodup : (before.broker.registry.map Prod.fst).Nodup) :
    (after.broker.registry.map Prod.fst).Nodup := by
  have unbound (gone : String) : ((Broker.unbind gone before.broker.registry).map Prod.fst).Nodup :=
    nodup.sublist (List.filter_sublist.map _)
  rcases change.registry with same | ⟨gone, same⟩ | ⟨fresh, capacity, opened⟩
  · rwa [same]
  · rw [same]
    exact unbound gone
  · rw [opened]
    refine List.nodup_cons.mpr ⟨?_, unbound fresh⟩
    intro member
    obtain ⟨entry, there, same⟩ := List.mem_map.mp member
    have other := (List.mem_filter.mp there).2
    simp [same] at other

theorem Run.nodup_registry (run : Run respond allowed empty network) :
    (network.broker.registry.map Prod.fst).Nodup :=
  run.invariant (fun network => (network.broker.registry.map Prod.fst).Nodup) List.nodup_nil
    (fun change _ nodup => change.nodup_registry nodup)
    (fun ended nodup => (ended.change : Change respond _ _ _).nodup_registry nodup)

theorem Run.hasSender_iff (run : Run respond allowed empty network)
    (found : network.broker.queue? id = some queue) :
    network.broker.hasSender id = true ↔
      network.broker.lookup? queue.name = some id ∨ queue.waiting ≠ [] := by
  have entry : (∃ entry ∈ network.broker.registry, entry.2 = id) ↔
      network.broker.lookup? queue.name = some id := by
    constructor
    · rintro ⟨⟨own, _⟩, member, rfl⟩
      have leads := (mem_iff_lookup run.nodup_registry).mp member
      rwa [Named.eq (run.bound.named own _ leads) ⟨queue, found, rfl⟩] at leads
    · exact fun leads => ⟨_, (mem_iff_lookup run.nodup_registry).mpr leads, rfl⟩
  simp [Broker.hasSender, found, entry]

theorem Trace.isWaiting_eq (trace : Trace respond empty steps network) {parcel : Parcel}
    (arrived : parcel ∈ (Network.ledger respond steps id).arrived)
    (found : network.broker.queue? id = some queue) :
    network.broker.isWaiting parcel.post = queue.isWaiting parcel.post := by
  rw [Bool.eq_iff_iff, isWaiting_iff, isWaiting_iff_mem]
  constructor
  · rintro ⟨other, there, known, waiter, waits, same⟩
    obtain rfl := trace.arrived_once (trace.arrived_of_waiting known waits) arrived same
    obtain rfl := Option.some.inj (found.symm.trans known)
    exact ⟨waiter, waits, same⟩
  · exact fun waiting => ⟨id, queue, found, waiting⟩

theorem Run.isWaiting_sent (run : Run respond allowed empty network)
    (found : network.broker.queue? id = some queue) (answers : Option PostId) (message : Message) :
    (network.sent id answers message).broker.isWaiting network.nextPost = !queue.hasRoom := by
  have sent := queue?_sent answers message found
  rw [Bool.eq_iff_iff, isWaiting_iff, Bool.not_eq_true']
  constructor
  · rintro ⟨other, there, known, parcel, waits, same⟩
    by_cases own : other = id
    · subst own
      obtain rfl := Option.some.inj (sent.symm.trans known)
      by_contra room
      have room : queue.hasRoom = true := by simpa using room
      rw [Queue.enqueue, if_pos room] at waits
      exact Nat.ne_of_lt (run.waiting_below found waits) same
    · rw [queue?_sent_other answers message own] at known
      exact absurd same (Nat.ne_of_lt (run.waiting_below known waits))
  · intro crowded
    refine ⟨id, _, sent, { post := network.nextPost, answers, message }, ?_, rfl⟩
    simp [Queue.enqueue, crowded]

theorem Trace.alike (trace : Trace respond empty steps network)
    (more : Trace respond network rest later)
    (apart : ∀ step ∈ rest, step.concerns respond name = false) : Alike name network later := by
  induction more with
  | start => exact .refl name network
  | next action more performed ih =>
    have before := ih (fun step member => apart step (List.mem_append_left _ member))
    have spares := spares_of_unconcerned (apart _ (List.mem_append_right _ List.mem_cons_self))
    exact before.trans (spares.alike (trace.trans more) performed)

theorem Alike.isConsumed (alike : Alike name network later) (named : network.Named id name) :
    later.broker.isConsumed id = network.broker.isConsumed id := by
  obtain ⟨queue, found, same⟩ := named
  rw [Broker.isConsumed, Broker.isConsumed, found, alike.queues id queue found same]

theorem Alike.declare (alike : Alike name network later) (bound : network.Bound) (capacity : Nat) :
    (later.declare name capacity).map (fun _ => ()) =
      (network.declare name capacity).map (fun _ => ()) := by
  have same : (later.broker.lookup? name).any later.broker.isConsumed =
      (network.broker.lookup? name).any network.broker.isConsumed := by
    rw [alike.bound]
    cases leads : network.broker.lookup? name with
    | none => rfl
    | some id => exact alike.isConsumed (bound.named name id leads)
  cases taken : (network.broker.lookup? name).any network.broker.isConsumed with
  | true => rw [declare_of_taken taken, declare_of_taken (same.trans taken)]
  | false =>
    rw [declare_of_free taken, declare_of_free (same.trans taken)]
    rfl

theorem Alike.post (alike : Alike name network later) (run : Run respond allowed empty network)
    (again : Run respond allowed empty later) (message : Message) (answers : Option PostId) :
    (later.post name message answers).map (fun sent => sent.broker.isWaiting later.nextPost) =
      (network.post name message answers).map
        (fun sent => sent.broker.isWaiting network.nextPost) := by
  cases leads : network.broker.lookup? name with
  | none =>
    rw [post_of_unbound leads, post_of_unbound (alike.bound.trans leads)]
    rfl
  | some id =>
    have named := run.bound.named name id leads
    obtain ⟨queue, found, own⟩ := named
    have same := alike.isConsumed ⟨queue, found, own⟩
    cases consumed : network.broker.isConsumed id with
    | false =>
      rw [post_of_unconsumed leads consumed,
        post_of_unconsumed (alike.bound.trans leads) (same.trans consumed)]
      rfl
    | true =>
      rw [post_of_consumed leads consumed,
        post_of_consumed (alike.bound.trans leads) (same.trans consumed)]
      simp only [Except.map, run.isWaiting_sent found,
        again.isWaiting_sent (alike.queues id queue found own)]

theorem Alike.receive (alike : Alike name network later) (run : Run respond allowed empty network)
    (again : Run respond allowed empty later) (named : network.Named id name) :
    (later.receive id).1 = (network.receive id).1 := by
  obtain ⟨queue, found, rfl⟩ := named
  have there := alike.queues id queue found rfl
  have sender : later.broker.hasSender id = network.broker.hasSender id := by
    rw [Bool.eq_iff_iff, again.hasSender_iff there, run.hasSender_iff found, alike.bound]
  cases taken : queue.take? with
  | none => simp [Network.receive, Broker.receive, found, there, taken, sender]
  | some both => simp [Network.receive, Broker.receive, found, there, taken]

end Views

end Network

end LedgerNode.Bus
