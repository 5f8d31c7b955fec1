import LedgerNode.Proofs.Bus.Traces

set_option autoImplicit false

namespace LedgerNode.Bus

/-- What a queue was handed, accepted and gave away, and which posts were given up while they waited. -/
structure Ledger where
  arrived : List Parcel
  accepted : List Parcel
  received : List Parcel
  abandoned : PostId → Bool

namespace Ledger

def blank : Ledger where
  arrived := []
  accepted := []
  received := []
  abandoned := fun _ => false

def standing (ledger : Ledger) : List Parcel :=
  ledger.arrived.filter (fun parcel => !ledger.abandoned parcel.post)

/-- A queue holds what its ledger says, where posts from `next` on are still to come. -/
structure Balanced (ledger : Ledger) (queue : Queue) (next : PostId) : Prop where
  ordered : (ledger.arrived.map Parcel.post).Pairwise (· < ·)
  below : ∀ parcel ∈ ledger.arrived, parcel.post < next
  known : ∀ post, ledger.abandoned post = true → post ∈ ledger.arrived.map Parcel.post
  taken : ledger.received <+: ledger.accepted
  stock : queue.consumed = true → ledger.accepted = ledger.received ++ queue.buffer
  stays : (ledger.accepted ++ queue.waiting).Sublist ledger.arrived
  kept : queue.consumed = true → ledger.standing = ledger.accepted ++ queue.waiting
  within : ledger.accepted.length ≤ ledger.received.length + queue.capacity
  safe : ∀ parcel ∈ ledger.accepted ++ queue.waiting, ledger.abandoned parcel.post = false
  gone : queue.consumed = false → queue.buffer = [] ∧ queue.waiting = []
  sound : queue.Sound

theorem balanced_create (name : String) (capacity : Nat) (next : PostId) :
    blank.Balanced (Queue.create name capacity) next := by
  constructor <;> simp [blank, standing, Queue.create]
  exact Queue.sound_create name capacity

section Books

variable {ledger : Ledger} {queue : Queue} {next : PostId}

theorem Balanced.later (balanced : ledger.Balanced queue next) {later : PostId}
    (grown : next ≤ later) : ledger.Balanced queue later where
  __ := balanced
  below := fun parcel member => Nat.lt_of_lt_of_le (balanced.below parcel member) grown

theorem Balanced.distinct (balanced : ledger.Balanced queue next) :
    ((ledger.accepted ++ queue.waiting).map Parcel.post).Nodup :=
  (balanced.ordered.imp Nat.ne_of_lt).sublist (balanced.stays.map _)

theorem Balanced.buffered (balanced : ledger.Balanced queue next) {parcel : Parcel}
    (member : parcel ∈ queue.buffer) : parcel ∈ ledger.accepted := by
  by_cases consumed : queue.consumed = true
  · rw [balanced.stock consumed]
    exact List.mem_append_right _ member
  · rw [(balanced.gone (by simpa using consumed)).1] at member
    cases member

theorem Balanced.apart (balanced : ledger.Balanced queue next) {parcel other : Parcel}
    (member : parcel ∈ queue.buffer) (waits : other ∈ queue.waiting) :
    parcel.post ≠ other.post := by
  have distinct := balanced.distinct
  rw [List.map_append, List.nodup_append] at distinct
  exact distinct.2.2 _ (List.mem_map_of_mem (balanced.buffered member)) _
    (List.mem_map_of_mem waits)

theorem Balanced.held_below (balanced : ledger.Balanced queue next) {parcel : Parcel}
    (member : parcel ∈ queue.held) : parcel.post < next := by
  apply balanced.below parcel
  apply balanced.stays.subset
  rcases List.mem_append.mp member with buffered | waits
  · exact List.mem_append_left _ (balanced.buffered buffered)
  · exact List.mem_append_right _ waits

theorem Balanced.abandoned_next (balanced : ledger.Balanced queue next) :
    ledger.abandoned next = false := by
  by_contra given
  obtain ⟨parcel, member, same⟩ := List.mem_map.mp (balanced.known next (by simpa using given))
  exact Nat.ne_of_lt (balanced.below parcel member) same

theorem Balanced.ordered_handed (balanced : ledger.Balanced queue next) {parcel : Parcel}
    (post : parcel.post = next) :
    ((ledger.arrived ++ [parcel]).map Parcel.post).Pairwise (· < ·) := by
  rw [List.map_append, List.pairwise_append]
  refine ⟨balanced.ordered, List.pairwise_singleton _ _, ?_⟩
  intro earlier member last isLast
  obtain rfl := List.mem_singleton.mp isLast
  obtain ⟨old, there, rfl⟩ := List.mem_map.mp member
  exact post ▸ balanced.below old there

theorem Balanced.below_handed (balanced : ledger.Balanced queue next) {parcel : Parcel}
    (post : parcel.post = next) : ∀ other ∈ ledger.arrived ++ [parcel], other.post < next + 1 := by
  intro other member
  rcases List.mem_append.mp member with earlier | last
  · exact Nat.lt_succ_of_lt (balanced.below other earlier)
  · obtain rfl := List.mem_singleton.mp last
    exact post ▸ Nat.lt_succ_self _

theorem Balanced.known_handed (balanced : ledger.Balanced queue next) (parcel : Parcel) :
    ∀ post, ledger.abandoned post = true →
      post ∈ (ledger.arrived ++ [parcel]).map Parcel.post := by
  intro post given
  rw [List.map_append]
  exact List.mem_append_left _ (balanced.known post given)

theorem Balanced.standing_handed (balanced : ledger.Balanced queue next) {parcel : Parcel}
    (post : parcel.post = next) :
    ({ ledger with arrived := ledger.arrived ++ [parcel] } : Ledger).standing =
      ledger.standing ++ [parcel] := by
  simp [standing, post, balanced.abandoned_next]

theorem Balanced.safe_handed (balanced : ledger.Balanced queue next) {parcel : Parcel}
    (post : parcel.post = next) {items : List Parcel}
    (listed : ∀ other ∈ items, other ∈ ledger.accepted ++ queue.waiting ∨ other = parcel) :
    ∀ other ∈ items, ledger.abandoned other.post = false := by
  intro other member
  rcases listed other member with there | rfl
  · exact balanced.safe other there
  · exact post ▸ balanced.abandoned_next

theorem Balanced.admitted (balanced : ledger.Balanced queue next) {parcel : Parcel}
    (consumed : queue.consumed = true) (post : parcel.post = next)
    (room : queue.hasRoom = true) :
    ({ ledger with
        arrived := ledger.arrived ++ [parcel]
        accepted := ledger.accepted ++ [parcel] } : Ledger).Balanced
      (queue.enqueue parcel) (next + 1) := by
  have nobody : queue.waiting = [] := by
    simp only [Queue.hasRoom, Bool.and_eq_true, List.isEmpty_iff] at room
    exact room.2
  have sound := balanced.sound.enqueue parcel
  have accept : queue.enqueue parcel = queue.accept parcel := if_pos room
  rw [accept] at sound ⊢
  have stock := balanced.stock consumed
  have stays := balanced.stays
  rw [nobody, List.append_nil] at stays
  refine ⟨balanced.ordered_handed post, balanced.below_handed post, balanced.known_handed parcel,
    ?_, ?_, ?_, ?_, ?_, ?_, ?_, sound⟩
  · exact balanced.taken.trans (List.prefix_append _ _)
  · intro _
    simp [Queue.accept, stock]
  · simpa [Queue.accept, nobody] using stays.append_right [parcel]
  · intro _
    have standing := balanced.standing_handed post
    rw [balanced.kept consumed, nobody, List.append_nil] at standing
    rw [show (queue.accept parcel).waiting = [] from nobody, List.append_nil]
    exact standing
  · have bound := sound.within
    simp only [stock, Queue.accept, List.length_append, List.length_singleton] at bound ⊢
    omega
  · refine balanced.safe_handed post ?_
    intro other member
    simpa [Queue.accept, nobody] using member
  · intro lost
    exact absurd (consumed.symm.trans lost) (by simp)

theorem Balanced.queued (balanced : ledger.Balanced queue next) {parcel : Parcel}
    (consumed : queue.consumed = true) (post : parcel.post = next)
    (crowded : queue.hasRoom = false) :
    ({ ledger with arrived := ledger.arrived ++ [parcel] } : Ledger).Balanced
      (queue.enqueue parcel) (next + 1) := by
  have sound := balanced.sound.enqueue parcel
  have waits : queue.enqueue parcel = { queue with waiting := queue.waiting ++ [parcel] } :=
    if_neg (by simp [crowded])
  rw [waits] at sound ⊢
  refine ⟨balanced.ordered_handed post, balanced.below_handed post, balanced.known_handed parcel,
    balanced.taken, balanced.stock, ?_, ?_, balanced.within, ?_, ?_, sound⟩
  · simpa using balanced.stays.append_right [parcel]
  · intro _
    rw [balanced.standing_handed post, balanced.kept consumed, List.append_assoc]
  · refine balanced.safe_handed post ?_
    intro other member
    simpa [or_assoc] using member
  · intro lost
    exact absurd (consumed.symm.trans lost) (by simp)

theorem Balanced.turnedAway (balanced : ledger.Balanced queue next) {parcel : Parcel}
    (post : parcel.post = next) :
    ({ ledger with
        arrived := ledger.arrived ++ [parcel]
        abandoned := fun post => ledger.abandoned post || post == parcel.post } : Ledger).Balanced
      queue (next + 1) := by
  -- A message that had to wait, and was given up before anybody else could step.
  have other (earlier : Parcel) (member : earlier ∈ ledger.arrived) :
      (earlier.post == parcel.post) = false := by
    have less := balanced.below earlier member
    simp only [beq_eq_false_iff_ne, post]
    exact Nat.ne_of_lt less
  refine ⟨balanced.ordered_handed post, balanced.below_handed post, ?_, balanced.taken,
    balanced.stock, ?_, ?_, balanced.within, ?_, balanced.gone, balanced.sound⟩
  · intro given abandoned
    simp only [Bool.or_eq_true, beq_iff_eq] at abandoned
    rcases abandoned with before | rfl
    · exact balanced.known_handed parcel given before
    · simp
  · exact balanced.stays.trans (List.sublist_append_left _ _)
  · intro consumed
    rw [← balanced.kept consumed]
    unfold standing
    simp only [List.filter_append]
    have last : [parcel].filter (fun other =>
        !(ledger.abandoned other.post || other.post == parcel.post)) = [] := by simp
    rw [last, List.append_nil]
    apply List.filter_congr
    intro earlier member
    rw [other earlier member, Bool.or_false]
  · intro earlier member
    simp only [balanced.safe earlier member, other earlier (balanced.stays.subset member),
      Bool.or_false]

theorem take?_cases {rest : Queue} {parcel : Parcel} (sound : queue.Sound)
    (taken : queue.take? = some (parcel, rest)) :
    ∃ tail promoted, queue.buffer = parcel :: tail ∧ rest.buffer = tail ++ promoted ∧
      queue.waiting = promoted ++ rest.waiting := by
  unfold Queue.take? at taken
  split at taken
  next => cases taken
  next head tail buffer =>
    cases taken
    refine ⟨tail, ?_⟩
    unfold Queue.fillSlot
    cases waiting : queue.waiting with
    | nil => exact ⟨[], buffer, by simp, by simp⟩
    | cons first later =>
      -- Somebody waits, so the queue was full, and the slot that falls free is the only one.
      have full := sound.busy (by simp [waiting])
      have free : tail.length < queue.capacity := by simp [buffer] at full; omega
      exact ⟨[first], buffer, by simp [free, Queue.accept], by simp [free, Queue.accept]⟩

theorem Balanced.read (balanced : ledger.Balanced queue next) {rest : Queue}
    {parcel : Parcel} {tail promoted : List Parcel} (taken : queue.take? = some (parcel, rest))
    (buffer : queue.buffer = parcel :: tail) (left : rest.buffer = tail ++ promoted)
    (waiting : queue.waiting = promoted ++ rest.waiting) :
    ({ ledger with
        accepted := ledger.accepted ++ promoted
        received := ledger.received ++ [parcel] } : Ledger).Balanced rest next := by
  have sound := balanced.sound.take? taken
  have consumed : queue.consumed = true := by
    by_contra lost
    have empty := (balanced.gone (by simpa using lost)).1
    rw [buffer] at empty
    cases empty
  have same := (Queue.takes_of_take? taken).consumed
  have stock := balanced.stock consumed
  have restock : ledger.accepted ++ promoted = (ledger.received ++ [parcel]) ++ rest.buffer := by
    simp [stock, buffer, left]
  have moved : ledger.accepted ++ promoted ++ rest.waiting = ledger.accepted ++ queue.waiting := by
    rw [waiting, List.append_assoc]
  refine ⟨balanced.ordered, balanced.below, balanced.known, ?_, fun _ => restock, ?_, ?_, ?_, ?_, ?_,
    sound⟩
  · exact ⟨rest.buffer, restock.symm⟩
  · simpa only [moved] using balanced.stays
  · intro _
    rw [moved]
    exact balanced.kept consumed
  · have bound := sound.within
    simp only [restock, List.length_append] at bound ⊢
    omega
  · simpa only [moved] using balanced.safe
  · intro lost
    rw [same, consumed] at lost
    cases lost

theorem Balanced.withdrawn (balanced : ledger.Balanced queue next) (post : PostId) :
    ({ ledger with
        abandoned := fun other => ledger.abandoned other || other == post && queue.isWaiting post } :
      Ledger).Balanced (queue.abandon post) next := by
  have distinct := balanced.distinct
  rw [List.map_append, List.nodup_append] at distinct
  -- What is withdrawn waits, so it was not accepted.
  have waits (other : PostId) (given : (other == post && queue.isWaiting post) = true) :
      other ∈ queue.waiting.map Parcel.post := by
    simp only [Bool.and_eq_true, beq_iff_eq] at given
    obtain ⟨rfl, waiting⟩ := given
    obtain ⟨parcel, there, same⟩ := List.any_eq_true.mp waiting
    exact List.mem_map.mpr ⟨parcel, there, by simpa using same⟩
  have accepted (parcel : Parcel) (member : parcel ∈ ledger.accepted) :
      (parcel.post == post && queue.isWaiting post) = false := by
    by_contra given
    have there := waits parcel.post (by simpa using given)
    exact distinct.2.2 _ (List.mem_map_of_mem member) _ there rfl
  have waiting (parcel : Parcel) (member : parcel ∈ queue.waiting) :
      (parcel.post == post && queue.isWaiting post) = (parcel.post == post) := by
    by_cases same : parcel.post = post
    · have there : queue.isWaiting post = true :=
        List.any_eq_true.mpr ⟨parcel, member, by simpa using same⟩
      simp [there]
    · simp [same]
  refine ⟨balanced.ordered, balanced.below, ?_, balanced.taken, balanced.stock, ?_, ?_,
    balanced.within, ?_, ?_, balanced.sound.abandon post⟩
  · intro other given
    rw [Bool.or_eq_true] at given
    rcases given with before | now
    · exact balanced.known other before
    · obtain ⟨parcel, member, same⟩ := List.mem_map.mp (waits other now)
      exact List.mem_map.mpr ⟨parcel, balanced.stays.subset (List.mem_append_right _ member), same⟩
  · exact ((List.Sublist.refl _).append List.filter_sublist).trans balanced.stays
  · intro consumed
    have kept := balanced.kept consumed
    unfold standing at kept ⊢
    have split : ledger.arrived.filter (fun parcel =>
          !(ledger.abandoned parcel.post || parcel.post == post && queue.isWaiting post)) =
        (ledger.arrived.filter (fun parcel => !ledger.abandoned parcel.post)).filter
          (fun parcel => !(parcel.post == post && queue.isWaiting post)) := by
      rw [List.filter_filter]
      apply List.filter_congr
      intro parcel _
      rw [Bool.not_or, Bool.and_comm]
    rw [split, kept, List.filter_append]
    congr 1
    · apply List.filter_eq_self.mpr
      intro parcel member
      rw [accepted parcel member]
      rfl
    · apply List.filter_congr
      intro parcel member
      rw [waiting parcel member]
      rfl
  · intro parcel member
    rcases List.mem_append.mp member with there | there
    · simp only [balanced.safe parcel (List.mem_append_left _ there), accepted parcel there,
        Bool.or_false]
    · obtain ⟨there, other⟩ := List.mem_filter.mp there
      simp only [balanced.safe parcel (List.mem_append_right _ there), Bool.false_or]
      rw [waiting parcel there]
      simpa using other
  · intro lost
    have ⟨buffer, nobody⟩ := balanced.gone lost
    exact ⟨buffer, by simp [Queue.abandon, nobody]⟩

theorem Balanced.left (balanced : ledger.Balanced queue next) (given : PostId → Bool)
    (waits : ∀ post, given post = true → post ∈ queue.waiting.map Parcel.post) :
    ({ ledger with abandoned := fun post => ledger.abandoned post || given post } :
      Ledger).Balanced queue.dropConsumer next := by
  -- Once the consumer is gone, whatever else is given up was still waiting.
  have distinct := balanced.distinct
  rw [List.map_append, List.nodup_append] at distinct
  refine ⟨balanced.ordered, balanced.below, ?_, balanced.taken, ?_, ?_, ?_, balanced.within, ?_, ?_,
    balanced.sound.dropConsumer⟩
  · intro post abandoned
    rw [Bool.or_eq_true] at abandoned
    rcases abandoned with before | now
    · exact balanced.known post before
    · obtain ⟨parcel, member, same⟩ := List.mem_map.mp (waits post now)
      exact List.mem_map.mpr ⟨parcel, balanced.stays.subset (List.mem_append_right _ member), same⟩
  · intro lost
    cases lost
  · exact (List.Sublist.append (List.Sublist.refl _) (List.nil_sublist _)).trans balanced.stays
  · intro lost
    cases lost
  · intro parcel member
    have member : parcel ∈ ledger.accepted := by simpa [Queue.dropConsumer] using member
    simp only [balanced.safe parcel (List.mem_append_left _ member), Bool.false_or]
    by_contra now
    have there := waits parcel.post (by simpa using now)
    exact distinct.2.2 _ (List.mem_map_of_mem member) _ there rfl
  · intro _
    exact ⟨rfl, rfl⟩

end Books

end Ledger

namespace Network

def bufferOf (network : Network) (id : QueueId) : List Parcel :=
  ((network.broker.queue? id).map Queue.buffer).getD []

def waitingOf (network : Network) (id : QueueId) : List Parcel :=
  ((network.broker.queue? id).map Queue.waiting).getD []

def Step.accepted (step : Step) (id : QueueId) : List Parcel :=
  (step.after.bufferOf id).filter (fun parcel => parcel ∉ step.before.bufferOf id)

/-- Whether in a step a message was given up that waited at a queue, or was handed to it in the same
step and not accepted. -/
def Step.abandons (respond : Responder) (step : Step) (id : QueueId) (post : PostId) : Bool :=
  (step.action == .abandon post || step.after.isOver post) &&
    ((step.before.waitingOf id).any (fun parcel => parcel.post == post) ||
      (step.before.handed? respond step.action id).any (fun parcel => parcel.post == post)) &&
    !(step.after.bufferOf id).any (fun parcel => parcel.post == post)

def ledger (respond : Responder) (steps : List Step) (id : QueueId) : Ledger where
  arrived := steps.filterMap (fun step => step.before.handed? respond step.action id)
  accepted := steps.flatMap (fun step => step.accepted id)
  received := steps.filterMap (fun step => step.before.drawn? step.action id)
  abandoned := fun post => steps.any (fun step => step.abandons respond id post)

theorem ledger_concat (respond : Responder) (steps : List Step) (step : Step) (id : QueueId) :
    ledger respond (steps ++ [step]) id = {
      arrived := (ledger respond steps id).arrived ++
        (step.before.handed? respond step.action id).toList
      accepted := (ledger respond steps id).accepted ++ step.accepted id
      received := (ledger respond steps id).received ++
        (step.before.drawn? step.action id).toList
      abandoned := fun post =>
        (ledger respond steps id).abandoned post || step.abandons respond id post } := by
  cases handed : step.before.handed? respond step.action id <;>
    cases drawn : step.before.drawn? step.action id <;>
    simp [ledger, handed, drawn]

section Steps

variable {respond : Responder} {before after : Network} {action : Action} {id : QueueId}
  {was now : Queue}

theorem accepted_eq (step : Step) (earlier fresh : List Parcel)
    (found : step.before.broker.queue? id = some was)
    (later : step.after.broker.queue? id = some now) (buffer : now.buffer = earlier ++ fresh)
    (there : ∀ parcel ∈ earlier, parcel ∈ was.buffer)
    (absent : ∀ parcel ∈ fresh, parcel ∉ was.buffer) : step.accepted id = fresh := by
  have none : earlier.filter (fun parcel => parcel ∉ was.buffer) = [] := by
    apply List.filter_eq_nil_iff.mpr
    intro parcel member
    simpa using there parcel member
  have all : fresh.filter (fun parcel => parcel ∉ was.buffer) = fresh := by
    apply List.filter_eq_self.mpr
    intro parcel member
    simpa using absent parcel member
  simp only [Step.accepted, bufferOf, found, later, Option.map_some, Option.getD_some, buffer,
    List.filter_append, none, all, List.nil_append]

theorem abandons_iff {step : Step} {post : PostId}
    (found : step.before.broker.queue? id = some was)
    (later : step.after.broker.queue? id = some now) :
    step.abandons respond id post = true ↔
      (step.action = .abandon post ∨ step.after.isOver post = true) ∧
      (was.isWaiting post = true ∨
        ∃ parcel, step.before.handed? respond step.action id = some parcel ∧
          parcel.post = post) ∧
      ∀ parcel ∈ now.buffer, parcel.post ≠ post := by
  simp [Step.abandons, bufferOf, waitingOf, found, later, Queue.isWaiting, Option.any_eq_true,
    and_assoc]

theorem not_waiting_of_abandons {step : Step} {post : PostId} (withdrawn : step.after.Withdrawn)
    (performed : step.before.perform respond step.action = some step.after)
    (found : step.before.broker.queue? id = some was)
    (later : step.after.broker.queue? id = some now)
    (abandons : step.abandons respond id post = true) : now.isWaiting post = false := by
  have nowhere : step.after.broker.isWaiting post = false := by
    rcases ((abandons_iff found later).mp abandons).1 with given | past
    · rw [given] at performed
      have result : step.before.abandon post = step.after := Option.some.inj performed
      rw [← result]
      exact isWaiting_abandon step.before.broker post
    · exact withdrawn post past
  simpa using List.any_eq_false.mp nowhere _ (List.mem_of_getElem? later)

theorem isWaiting_iff_mem {queue : Queue} {post : PostId} :
    queue.isWaiting post = true ↔ ∃ parcel ∈ queue.waiting, parcel.post = post := by
  simp [Queue.isWaiting]

theorem abandons_eq_false (step : Step) (withdrawn : step.after.Withdrawn)
    (performed : step.before.perform respond step.action = some step.after)
    (found : step.before.broker.queue? id = some was)
    (later : step.after.broker.queue? id = some now)
    (stays : ∀ parcel ∈ was.waiting, parcel ∈ now.buffer ∨ parcel ∈ now.waiting)
    (enters : ∀ parcel, step.before.handed? respond step.action id = some parcel →
      parcel ∈ now.buffer ∨ parcel ∈ now.waiting) (post : PostId) :
    step.abandons respond id post = false := by
  -- A step in which nobody gives up anything that a queue holds.
  by_contra abandons
  have abandons : step.abandons respond id post = true := by simpa using abandons
  have absent := not_waiting_of_abandons withdrawn performed found later abandons
  have ⟨_, source, unaccepted⟩ := (abandons_iff found later).mp abandons
  have held : ∃ parcel, parcel.post = post ∧ (parcel ∈ now.buffer ∨ parcel ∈ now.waiting) := by
    rcases source with waited | ⟨parcel, handed, same⟩
    · obtain ⟨parcel, there, same⟩ := isWaiting_iff_mem.mp waited
      exact ⟨parcel, same, stays parcel there⟩
    · exact ⟨parcel, same, enters parcel handed⟩
  obtain ⟨parcel, same, there | there⟩ := held
  · exact unaccepted parcel there same
  · have waits := isWaiting_iff_mem.mpr ⟨parcel, there, same⟩
    cases waits.symm.trans absent

theorem abandons_of_withdrawn (step : Step) {post : PostId} (withdrawn : step.after.Withdrawn)
    (performed : step.before.perform respond step.action = some step.after)
    (found : step.before.broker.queue? id = some was)
    (later : step.after.broker.queue? id = some (was.abandon post))
    (silent : step.before.handed? respond step.action id = none)
    (given : step.action = .abandon post ∨ step.after.isOver post = true)
    (apart : ∀ parcel ∈ was.buffer, ∀ other ∈ was.waiting, parcel.post ≠ other.post)
    (other : PostId) :
    step.abandons respond id other = (other == post && was.isWaiting post) := by
  rw [Bool.eq_iff_iff, Bool.and_eq_true, beq_iff_eq]
  constructor
  · intro abandons
    have absent := not_waiting_of_abandons withdrawn performed found later abandons
    obtain ⟨-, waited | ⟨parcel, handed, -⟩, -⟩ := (abandons_iff found later).mp abandons
    · obtain ⟨parcel, there, rfl⟩ := isWaiting_iff_mem.mp waited
      by_cases same : parcel.post = post
      · exact ⟨same, same ▸ waited⟩
      · have stays : parcel ∈ (was.abandon post).waiting :=
          List.mem_filter.mpr ⟨there, by simpa using same⟩
        cases (isWaiting_iff_mem.mpr ⟨parcel, stays, rfl⟩).symm.trans absent
    · cases silent.symm.trans handed
  · rintro ⟨rfl, waited⟩
    refine (abandons_iff found later).mpr ⟨given, .inl waited, ?_⟩
    obtain ⟨waiter, there, same⟩ := isWaiting_iff_mem.mp waited
    exact fun parcel member => same ▸ apart parcel member waiter there

theorem abandons_of_overtaken (step : Step) {parcel : Parcel} (withdrawn : step.after.Withdrawn)
    (performed : step.before.perform respond step.action = some step.after)
    (found : step.before.broker.queue? id = some was)
    (later : step.after.broker.queue? id = some was)
    (sends : step.before.handed? respond step.action id = some parcel)
    (past : step.after.isOver parcel.post = true)
    (fresh : ∀ other ∈ was.buffer, other.post ≠ parcel.post) (post : PostId) :
    step.abandons respond id post = (post == parcel.post) := by
  rw [Bool.eq_iff_iff, beq_iff_eq]
  constructor
  · intro abandons
    have absent := not_waiting_of_abandons withdrawn performed found later abandons
    obtain ⟨-, waited | ⟨other, handed, rfl⟩, -⟩ := (abandons_iff found later).mp abandons
    · cases waited.symm.trans absent
    · obtain rfl := Option.some.inj (sends.symm.trans handed)
      rfl
  · rintro rfl
    exact (abandons_iff found later).mpr ⟨.inr past, .inr ⟨parcel, sends, rfl⟩, fresh⟩

theorem ledger_step {steps : List Step}
    (balanced : (ledger respond steps id).Balanced was before.nextPost)
    (withdrawn : after.Withdrawn) (performed : before.perform respond action = some after)
    (grown : before.nextPost ≤ after.nextPost) (found : before.broker.queue? id = some was) :
    ∃ now, after.broker.queue? id = some now ∧
      (ledger respond (steps ++ [⟨before, action, after⟩]) id).Balanced now after.nextPost := by
  obtain ⟨now, later, evolves⟩ := evolves_of_perform performed found
  refine ⟨now, later, ?_⟩
  have quiet := abandons_eq_false ⟨before, action, after⟩ withdrawn performed found later
  have accepted (earlier fresh : List Parcel) :=
    accepted_eq ⟨before, action, after⟩ earlier fresh found later
  rw [ledger_concat]
  cases evolves with
  | kept silent unread =>
    have none := quiet (fun _ there => .inr there) (by simp [silent])
    have nothing := accepted was.buffer [] (List.append_nil _).symm (fun _ there => there) (by simp)
    simp only [silent, unread, none, nothing, Option.toList_none, List.append_nil, Bool.or_false]
    exact balanced.later grown
  | handed sends unread counted =>
    next parcel =>
      obtain ⟨name, published, -, consumed⟩ := handed?_spec sends
      have post := post_of_publication? published
      have consumed : was.consumed = true := by simpa [Broker.isConsumed, found] using consumed
      have fresh : parcel ∉ was.buffer := fun member =>
        Nat.ne_of_lt (balanced.held_below (List.mem_append_left _ member)) post
      rw [counted]
      by_cases room : was.hasRoom = true
      · have enqueue : was.enqueue parcel = was.accept parcel := if_pos room
        have none := quiet (by simp +contextual [enqueue, Queue.accept])
          (by simp [sends, enqueue, Queue.accept])
        have new := accepted was.buffer [parcel] (congrArg Queue.buffer enqueue)
          (fun _ there => there) (by simpa using fresh)
        simp only [sends, unread, none, new, Option.toList_none, Option.toList_some,
          List.append_nil, Bool.or_false]
        exact balanced.admitted consumed post room
      · have crowded : was.hasRoom = false := by simpa using room
        have enqueue : was.enqueue parcel = { was with waiting := was.waiting ++ [parcel] } :=
          if_neg room
        have none := quiet (by simp +contextual [enqueue]) (by simp [sends, enqueue])
        have nothing := accepted was.buffer []
          ((congrArg Queue.buffer enqueue).trans (List.append_nil _).symm) (fun _ there => there)
          (by simp)
        simp only [sends, unread, none, nothing, Option.toList_none, Option.toList_some,
          List.append_nil, Bool.or_false]
        exact balanced.queued consumed post crowded
  | overtaken sends unread counted crowded past =>
    next parcel =>
      obtain ⟨name, published, -, -⟩ := handed?_spec sends
      have post := post_of_publication? published
      have fresh {other : Parcel} (member : other ∈ was.held) : other.post ≠ parcel.post :=
        fun same => Nat.ne_of_lt (balanced.held_below member) (same.trans post)
      have unchanged : was.abandon parcel.post = was := by
        apply Queue.abandon_of_not_waiting
        by_contra waited
        obtain ⟨other, there, same⟩ := isWaiting_iff_mem.mp (by simpa using waited)
        exact fresh (List.mem_append_right _ there) same
      rw [unchanged] at later ⊢
      have given := abandons_of_overtaken ⟨before, action, after⟩ withdrawn performed
        found later sends past (fun other member => fresh (List.mem_append_left _ member))
      have nothing : Step.accepted ⟨before, action, after⟩ id = [] :=
        accepted_eq _ was.buffer [] found later (List.append_nil _).symm (fun _ there => there) (by simp)
      simp only [sends, unread, given, nothing, Option.toList_none, Option.toList_some,
        List.append_nil, counted]
      exact balanced.turnedAway post
  | drawn silent reads taken =>
    next parcel =>
      obtain ⟨tail, promoted, buffer, left, waiting⟩ := Ledger.take?_cases balanced.sound taken
      have none := quiet (by
        intro other there
        rw [waiting] at there
        rw [left]
        rcases List.mem_append.mp there with first | there
        · exact .inl (List.mem_append_right _ first)
        · exact .inr there) (by simp [silent])
      have new := accepted tail promoted left (by simp +contextual [buffer]) (by
        intro other first member
        exact balanced.apart member (waiting ▸ List.mem_append_left _ first) rfl)
      simp only [silent, reads, none, new, Option.toList_none, Option.toList_some,
        List.append_nil, Bool.or_false]
      exact (balanced.read taken buffer left waiting).later grown
  | withdrawn silent unread given =>
    next post =>
      have abandons := abandons_of_withdrawn ⟨before, action, after⟩ withdrawn performed
        found later silent given (fun _ member _ waits => balanced.apart member waits)
      have nothing := accepted was.buffer [] (List.append_nil was.buffer).symm
        (fun _ there => there) (by simp)
      simp only [silent, unread, abandons, nothing, Option.toList_none, List.append_nil]
      exact (balanced.withdrawn post).later grown
  | left _ silent unread =>
    have nothing := accepted [] [] rfl (by simp) (by simp)
    simp only [silent, unread, nothing, Option.toList_none, List.append_nil]
    refine (balanced.left _ ?_).later grown
    intro post abandons
    obtain ⟨-, waited | ⟨parcel, handed, -⟩, -⟩ := (abandons_iff found later).mp abandons
    · exact List.mem_map.mpr (isWaiting_iff_mem.mp waited)
    · cases silent.symm.trans handed

theorem handed?_of_absent (absent : before.broker.queue? id = none) :
    before.handed? respond action id = none := by
  by_contra some
  obtain ⟨parcel, handed⟩ := Option.ne_none_iff_exists'.mp some
  obtain ⟨-, -, -, consumed⟩ := handed?_spec handed
  simp [Broker.isConsumed, absent] at consumed

theorem drawn?_of_absent (absent : before.broker.queue? id = none) :
    before.drawn? action id = none := by
  unfold drawn?
  rw [Broker.receive, absent]
  split <;> rfl

theorem ledger_of_absent {steps : List Step} (blank : ledger respond steps id = Ledger.blank)
    (absent : before.broker.queue? id = none) (empty : after.bufferOf id = []) :
    ledger respond (steps ++ [⟨before, action, after⟩]) id = Ledger.blank := by
  have none (post : PostId) : Step.abandons respond ⟨before, action, after⟩ id post = false := by
    simp [Step.abandons, waitingOf, absent, handed?_of_absent absent]
  rw [ledger_concat, blank]
  simp [Ledger.blank, Step.accepted, empty, none, handed?_of_absent absent,
    drawn?_of_absent absent]

end Steps

section Traces

variable {respond : Responder} {steps : List Step} {network : Network}

theorem Trace.ledger (trace : Trace respond empty steps network) :
    (∀ id queue, network.broker.queue? id = some queue →
      (ledger respond steps id).Balanced queue network.nextPost) ∧
    ∀ id, network.broker.queue? id = none → Network.ledger respond steps id = Ledger.blank := by
  induction trace with
  | start => exact ⟨fun _ _ found => (by cases found), fun _ _ => rfl⟩
  | @next steps before after action trace performed ih =>
    have grown := nextPost_of_perform performed
    have withdrawn := (trace.next action performed).run.withdrawn
    constructor
    · intro id now later
      cases found : before.broker.queue? id with
      | none =>
        obtain ⟨name, capacity, rfl⟩ := creates_of_perform performed found later
        rw [ledger_of_absent (ih.2 id found) found (by simp [bufferOf, later, Queue.create])]
        exact Ledger.balanced_create name capacity _
      | some was =>
        obtain ⟨_, same, balanced⟩ :=
          ledger_step (ih.1 id was found) withdrawn performed grown found
        obtain rfl := Option.some.inj (later.symm.trans same)
        exact balanced
    · intro id later
      cases found : before.broker.queue? id with
      | none => exact ledger_of_absent (ih.2 id found) found (by simp [bufferOf, later])
      | some was =>
        obtain ⟨now, same, -⟩ := ledger_step (ih.1 id was found) withdrawn performed grown found
        cases later.symm.trans same

theorem Trace.arrived_below (trace : Trace respond empty steps network) {id : QueueId} {parcel : Parcel}
    (arrived : parcel ∈ (Network.ledger respond steps id).arrived) :
    parcel.post < network.nextPost := by
  cases found : network.broker.queue? id with
  | none =>
    rw [trace.ledger.2 id found] at arrived
    cases arrived
  | some queue => exact (trace.ledger.1 id queue found).below parcel arrived

theorem mem_arrived_concat {step : Step} {id : QueueId} {parcel : Parcel}
    (arrived : parcel ∈ (Network.ledger respond (steps ++ [step]) id).arrived) :
    parcel ∈ (Network.ledger respond steps id).arrived ∨
      step.before.handed? respond step.action id = some parcel := by
  rw [ledger_concat] at arrived
  rcases List.mem_append.mp arrived with earlier | last
  · exact .inl earlier
  · exact .inr (Option.mem_toList.mp last)

theorem Trace.arrived_once (trace : Trace respond empty steps network) {first second : QueueId}
    {one other : Parcel} (atFirst : one ∈ (Network.ledger respond steps first).arrived)
    (atSecond : other ∈ (Network.ledger respond steps second).arrived)
    (same : one.post = other.post) : first = second := by
  induction trace with
  | start => cases atFirst
  | @next steps before after action trace performed ih =>
    have fresh {id : QueueId} {parcel : Parcel}
        (handed : before.handed? respond action id = some parcel) :
        parcel.post = before.nextPost := by
      obtain ⟨name, published, -⟩ := handed?_spec handed
      exact post_of_publication? published
    rcases mem_arrived_concat atFirst with earlier | last <;>
      rcases mem_arrived_concat atSecond with earlier' | last'
    · exact ih earlier earlier'
    · exact absurd (same.trans (fresh last')) (Nat.ne_of_lt (trace.arrived_below earlier))
    · exact absurd (same.symm.trans (fresh last)) (Nat.ne_of_lt (trace.arrived_below earlier'))
    · -- One step publishes under one name, which leads to one queue.
      obtain ⟨name, published, bound, -⟩ := handed?_spec last
      obtain ⟨name', published', bound', -⟩ := handed?_spec last'
      cases published.symm.trans published'
      exact Option.some.inj (bound.symm.trans bound')

def Step.declares (step : Step) (name : String) (capacity : Nat) (id : QueueId) : Prop :=
  (step.action = .declare name capacity ∨ step.action = .connect name capacity) ∧
    id = step.before.broker.queues.length

theorem created_of_declares {step : Step} {name : String} {capacity : Nat} {id : QueueId}
    (performed : step.before.perform respond step.action = some step.after)
    (declares : step.declares name capacity id) :
    step.after.broker.queue? id = some (Queue.create name capacity) := by
  obtain ⟨action, rfl⟩ := declares
  obtain ⟨middle, change, same | ⟨_, _, _, _, _, call, -⟩⟩ := change_of_perform performed
  · rw [same]
    rcases action with action | action <;> rw [action] at change
    · cases change with
      | opened => exact (Broker.queue?_opened ..).trans (if_pos rfl)
      | left leaving => cases leaving
      | ended ends => cases ends
    · cases change with
      | connected => exact (Broker.queue?_opened ..).trans (if_pos rfl)
      | left leaving => cases leaving
      | ended ends => cases ends
  · rcases action with action | action <;> cases action.symm.trans call

theorem Evolves.capacity {before after : Network} {action : Action} {id : QueueId}
    {was now : Queue} (evolves : Evolves respond before action after id was now) :
    now.capacity = was.capacity := by
  cases evolves with
  | handed => exact Queue.capacity_enqueue ..
  | drawn _ _ taken => exact (Queue.takes_of_take? taken).capacity
  | _ => rfl

theorem Trace.declared (trace : Trace respond empty steps network) {step : Step}
    (member : step ∈ steps) {name : String} {capacity : Nat} {id : QueueId}
    (declares : step.declares name capacity id) :
    ∃ queue, network.broker.queue? id = some queue ∧ queue.capacity = max 1 capacity := by
  induction trace with
  | start => cases member
  | next action trace performed ih =>
    rcases List.mem_append.mp member with earlier | last
    · obtain ⟨was, found, same⟩ := ih earlier
      obtain ⟨now, later, evolves⟩ := evolves_of_perform performed found
      exact ⟨now, later, evolves.capacity.trans same⟩
    · obtain rfl := List.mem_singleton.mp last
      exact ⟨_, created_of_declares performed declares, rfl⟩

/-- What the consumer of a queue gets if it reads so many times and nothing else happens. -/
def drain (id : QueueId) : Nat → Network → List Parcel
  | 0, _ => []
  | count + 1, network =>
    match network.receive id with
    | (.message parcel, rest) => parcel :: drain id count rest
    | _ => []

theorem drain_eq {id : QueueId} {network : Network} {queue : Queue} (count : Nat)
    (found : network.broker.queue? id = some queue) (sound : queue.Sound) :
    network.drain id count = queue.held.take count := by
  induction count generalizing network queue with
  | zero => rfl
  | succ count ih =>
    cases taken : queue.take? with
    | none =>
      rw [sound.held_eq_nil taken]
      by_cases sender : network.broker.hasSender id = true <;>
        simp [drain, receive, Broker.receive, found, taken, sender]
    | some both =>
      obtain ⟨parcel, rest⟩ := both
      have there : (network.took id rest).broker.queue? id = some rest := by
        refine (Broker.queue?_update ..).trans ?_
        simp [found]
      have result : network.receive id = (.message parcel, network.took id rest) := by
        simp [receive, Broker.receive, found, taken, took]
      rw [drain, result, (Queue.takes_of_take? taken).held, List.take_succ_cons,
        ← ih there (sound.take? taken)]

theorem closed_iff {id : QueueId} {queue : Queue} (found : network.broker.queue? id = some queue)
    (sound : queue.Sound) :
    (network.broker.receive id).1 = .closed ↔
      queue.held = [] ∧ ∀ name, (name, id) ∉ network.broker.registry := by
  cases taken : queue.take? with
  | some both =>
    have held := (Queue.takes_of_take? taken).held
    simp [Broker.receive, found, taken, held]
  | none =>
    have held := sound.held_eq_nil taken
    have nobody : queue.waiting = [] := (List.append_eq_nil_iff.mp held).2
    have sender : network.broker.hasSender id = true ↔
        ∃ name, (name, id) ∈ network.broker.registry := by
      simp [Broker.hasSender, found, nobody]
    by_cases bound : network.broker.hasSender id = true
    · obtain ⟨name, member⟩ := sender.mp bound
      simp only [Broker.receive, found, taken, bound, if_true, reduceCtorEq, false_iff, not_and]
      exact fun _ nowhere => nowhere name member
    · simp only [Broker.receive, found, taken, bound, Bool.false_eq_true, if_false, held, true_and,
        true_iff]
      exact fun name member => bound (sender.mpr ⟨name, member⟩)

theorem Trace.received (trace : Trace respond empty steps network) {id : QueueId}
    {parcel : Parcel} (received : parcel ∈ (Network.ledger respond steps id).received) :
    parcel ∈ (Network.ledger respond steps id).arrived ∧
      (Network.ledger respond steps id).abandoned parcel.post = false := by
  cases found : network.broker.queue? id with
  | none =>
    rw [trace.ledger.2 id found] at received
    cases received
  | some queue =>
    have balanced := trace.ledger.1 id queue found
    have held := List.mem_append_left queue.waiting (balanced.taken.subset received)
    exact ⟨balanced.stays.subset held, balanced.safe parcel held⟩

/--
What a queue gives away from its declaration on: what was published under names that led to it, in the order
in which it accepted it, and all of that while its consumer lives.
-/
structure ServesInOrder (respond : Responder) (steps : List Step) (network : Network) (id : QueueId)
    (capacity : Nat) : Prop where
  destined : ∀ parcel ∈ (ledger respond steps id).received, ∃ step ∈ steps, ∃ name,
    publication? respond step.before step.action = some (name, parcel) ∧
      step.before.broker.lookup? name = some id
  only : ∀ parcel ∈ (ledger respond steps id).received, ∀ other,
    parcel ∈ (ledger respond steps other).arrived → other = id
  ordered : (ledger respond steps id).received <+: (ledger respond steps id).accepted
  once : ((ledger respond steps id).accepted.map Parcel.post).Nodup
  bounded : (ledger respond steps id).accepted.length ≤
    (ledger respond steps id).received.length + max 1 capacity
  receivable : network.broker.isConsumed id = true → ∃ left,
    (ledger respond steps id).standing = (ledger respond steps id).received ++ left ∧
      (ledger respond steps id).accepted <+: (ledger respond steps id).standing ∧
      (∀ count, network.drain id count = left.take count) ∧
      ((network.broker.receive id).1 = .closed ↔
        left = [] ∧ ∀ name, (name, id) ∉ network.broker.registry)
  withdrawn : ∀ post, (ledger respond steps id).abandoned post = true →
    ∀ other, post ∉ (ledger respond steps other).received.map Parcel.post

/-- Each declaration of a name makes a queue that serves its own messages in order, in every run. -/
theorem declared_queue_serves_in_order (trace : Trace respond empty steps network) {step : Step}
    (member : step ∈ steps) {name : String} {capacity : Nat} {id : QueueId}
    (declares : step.declares name capacity id) :
    ServesInOrder respond steps network id capacity := by
  obtain ⟨queue, found, capacity⟩ := trace.declared member declares
  have balanced := trace.ledger.1 id queue found
  refine ⟨?_, ?_, balanced.taken, ?_, ?_, ?_, ?_⟩
  · intro parcel received
    obtain ⟨step, there, handed⟩ := List.mem_filterMap.mp (trace.received received).1
    obtain ⟨name, published, bound, -⟩ := handed?_spec handed
    exact ⟨step, there, name, published, bound⟩
  · intro parcel received other arrived
    exact trace.arrived_once arrived (trace.received received).1 rfl
  · have distinct := balanced.distinct
    rw [List.map_append] at distinct
    exact (List.nodup_append.mp distinct).1
  · exact capacity ▸ balanced.within
  · intro consumed
    have consumed : queue.consumed = true := by simpa [Broker.isConsumed, found] using consumed
    have kept := balanced.kept consumed
    refine ⟨queue.held, ?_, ⟨queue.waiting, kept.symm⟩, ?_, closed_iff found balanced.sound⟩
    · rw [kept, balanced.stock consumed, Queue.held, List.append_assoc]
    · exact fun count => drain_eq count found balanced.sound
  · intro post given other received
    obtain ⟨parcel, there, rfl⟩ := List.mem_map.mp received
    obtain ⟨arrived, safe⟩ := trace.received there
    obtain ⟨own, atOwn, same⟩ := List.mem_map.mp (balanced.known _ given)
    obtain rfl := trace.arrived_once atOwn arrived same
    cases safe.symm.trans given

/-- A name is deleted and declared again while its first queue still has a message that was accepted and
one that waits; a third one was given up. -/
def redeclared : Option (List Step × Network) :=
  let message : Message := { correlationId := 0, replyTo := none, payload := [] }
  record (fun _ _ _ => none)
    [.declare "jobs" 1, .publish "jobs" message none, .publish "jobs" message none,
      .publish "jobs" message none, .publish "jobs" message none, .abandon 2, .delete "jobs",
      .declare "jobs" 4, .publish "jobs" message none, .receive 0, .receive 1] empty

theorem redeclared_serves_in_order :
    ∃ steps network, redeclared = some (steps, network) ∧
      (ledger (fun _ _ _ => none) steps 0).received.map Parcel.post = [0] ∧
      (ledger (fun _ _ _ => none) steps 0).accepted.map Parcel.post = [0, 1] ∧
      (ledger (fun _ _ _ => none) steps 0).standing.map Parcel.post = [0, 1, 3] ∧
      (network.drain 0 5).map Parcel.post = [1, 3] ∧
      (ledger (fun _ _ _ => none) steps 1).received.map Parcel.post = [4] ∧
      ServesInOrder (fun _ _ _ => none) steps network 0 1 := by
  obtain ⟨⟨steps, network⟩, done⟩ :=
    Option.isSome_iff_exists.mp (by decide : redeclared.isSome = true)
  have computed : (steps, network) = redeclared.get (by decide) := by simp [done]
  have trace := trace_of_record done
  obtain ⟨received, accepted, standing, drained, later, step, member, declares⟩ :
      (ledger (fun _ _ _ => none) steps 0).received.map Parcel.post = [0] ∧
      (ledger (fun _ _ _ => none) steps 0).accepted.map Parcel.post = [0, 1] ∧
      (ledger (fun _ _ _ => none) steps 0).standing.map Parcel.post = [0, 1, 3] ∧
      (network.drain 0 5).map Parcel.post = [1, 3] ∧
      (ledger (fun _ _ _ => none) steps 1).received.map Parcel.post = [4] ∧
      ∃ step ∈ steps, step.declares "jobs" 1 0 := by
    cases computed
    exact ⟨rfl, rfl, rfl, rfl, rfl, _, List.mem_cons_self, .inl rfl, rfl⟩
  exact ⟨steps, network, done, received, accepted, standing, drained, later,
    declared_queue_serves_in_order trace member declares⟩

end Traces

end Network

end LedgerNode.Bus
