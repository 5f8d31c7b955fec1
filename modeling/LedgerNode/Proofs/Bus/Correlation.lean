import LedgerNode.Proofs.Bus.Outcomes

set_option autoImplicit false

namespace LedgerNode.Bus

namespace Network

def IsReplyQueue (network : Network) (name : String) : Prop :=
  ∃ client ∈ network.clients, network.broker.lookup? name = some client.inbox

def Answers (network : Network) (name : String) (reply request : Parcel) : Prop :=
  network.Received request ∧ request.message.replyTo = some name ∧
    reply.answers = some request.post ∧
    reply.message = replyTo request.message reply.message.payload

instance (network : Network) (name : String) (reply : Parcel) :
    Decidable (∃ request, network.Answers name reply request) :=
  decidable_of_iff
    (∃ queue ∈ network.broker.queues, ∃ request ∈ queue.received,
      request.message.replyTo = some name ∧ reply.answers = some request.post ∧
        reply.message = replyTo request.message reply.message.payload) (by
    constructor
    · rintro ⟨queue, member, request, received, rest⟩
      obtain ⟨id, found⟩ := List.getElem?_of_mem member
      exact ⟨request, ⟨id, queue, found, received⟩, rest⟩
    · rintro ⟨request, ⟨id, queue, found, received⟩, rest⟩
      exact ⟨queue, List.mem_of_getElem? found, request, received, rest⟩)

/--
The use of reply queues that they are made for, where `names` are the names of reply queues: only calls
ask for replies there, and only replies to requests that were received are sent there.
-/
def Orderly (names : String → Prop) (network : Network) : Action → Prop
  | .connect name _ => names name
  | .publish name message answers =>
    (∀ queue ∈ message.replyTo, ¬names queue) ∧
      (network.IsReplyQueue name → ∃ request, network.Answers name
        { post := network.nextPost, answers, message } request)
  | .call _ route _ _ => ¬network.IsReplyQueue route
  | _ => True

def NamedOnce (network : Network) : Action → Prop
  | .connect name _ => ∀ client ∈ network.clients, client.replyQueue ≠ name
  | _ => True

instance (network : Network) (name : String) : Decidable (network.IsReplyQueue name) :=
  inferInstanceAs (Decidable (∃ client ∈ network.clients, _ = _))

instance (names : String → Prop) [DecidablePred names] (network : Network) :
    (action : Action) → Decidable (Orderly names network action)
  | .connect name _ => inferInstanceAs (Decidable (names name))
  | .publish _ message _ =>
    inferInstanceAs (Decidable ((∀ queue ∈ message.replyTo, ¬names queue) ∧ (_ → _)))
  | .call _ route _ _ => inferInstanceAs (Decidable (¬network.IsReplyQueue route))
  | .declare .. | .abandon _ | .receive _ | .dropConsumer _ | .delete _ | .abort _ | .dropClient _
  | .serve _ | .tick _ | .expire _ | .dispatch _ | .finish _ | .retire _ | .take _ | .answer _
  | .conclude _ => isTrue trivial

instance (network : Network) : (action : Action) → Decidable (NamedOnce network action)
  | .connect name _ =>
    inferInstanceAs (Decidable (∀ client ∈ network.clients, client.replyQueue ≠ name))
  | .declare .. | .publish .. | .abandon _ | .receive _ | .dropConsumer _ | .delete _ | .call ..
  | .abort _ | .dropClient _ | .serve _ | .tick _ | .expire _ | .dispatch _ | .finish _ | .retire _
  | .take _ | .answer _ | .conclude _ => isTrue trivial

def Asked (network : Network) (name : String) (post : PostId) (correlation : CorrelationId) : Prop :=
  ∃ (id : CallId) (call : Call) (owner : Client), network.issued[id]? = some call ∧
    call.post = post ∧ call.correlationId = correlation ∧
    network.profiles[call.client]? = some owner ∧ owner.replyQueue = name

structure Traced (names : String → Prop) (network : Network) : Prop where
  clients : ∀ (id : ClientId) (client : Client), network.profiles[id]? = some client →
    names client.replyQueue
  requests : ∀ id parcel name, network.Seen id parcel → parcel.message.replyTo = some name →
    names name → network.Asked name parcel.post parcel.message.correlationId
  replies : ∀ (id : ClientId) (client : Client) parcel, network.profiles[id]? = some client →
    network.Seen client.inbox parcel →
    ∃ request, network.Answers client.replyQueue parcel request

theorem traced_empty (names : String → Prop) : empty.Traced names := by
  refine ⟨?_, ?_, ?_⟩
  · intro id client found
    simp [empty, profiles] at found
  · rintro id parcel name ⟨queue, found, -⟩
    cases found
  · intro id client parcel found
    simp [empty, profiles] at found

section Steps

variable {respond : Responder} {names : String → Prop} {before after : Network} {action : Action}

theorem Change.asked (change : Change respond action before after) {name : String} {post : PostId}
    {correlation : CorrelationId} (asked : before.Asked name post correlation) :
    after.Asked name post correlation := by
  obtain ⟨id, call, owner, issued, posted, own, owned, named⟩ := asked
  obtain ⟨now, there, sameName, -⟩ := change.recorded.profile_mono owned
  exact ⟨id, call, now, change.recorded.issued_mono issued, posted, own, there,
    sameName.trans named⟩

theorem Change.answers (change : Change respond action before after) {name : String}
    {reply request : Parcel} (answers : before.Answers name reply request) :
    after.Answers name reply request :=
  ⟨change.received_mono answers.1, answers.2⟩

theorem Sends.asked (change : Change respond action before after)
    (orderly : Orderly names before action) {id : QueueId} {parcel : Parcel} {name : String}
    (sends : Sends respond before after action id parcel)
    (asks : parcel.message.replyTo = some name) (reply : names name) :
    after.Asked name parcel.post parcel.message.correlationId := by
  -- Only a call sends requests that ask for replies there; what anybody else publishes does not.
  cases sends with
  | published => exact absurd reply (orderly.1 name asks)
  | @called client owner route payload timeout queue owned bound issued =>
    obtain ⟨now, there, sameName, -⟩ := change.recorded.profile_mono (profile_of_getElem? owned)
    refine ⟨before.issued.length, before.startedCall client owner route timeout, now, ?_, rfl, rfl,
      there, ?_⟩
    · rw [issued, List.getElem?_concat_length]
    · exact sameName.trans (Option.some.inj asks)
  | replied => cases asks

theorem Sends.answers (orderly : Orderly names before action) (bound : before.Bound)
    (dated : before.Dated) {id : ClientId} {client : Client}
    (owned : before.profiles[id]? = some client) {parcel : Parcel}
    (sends : Sends respond before after action client.inbox parcel) :
    ∃ request, before.Answers client.replyQueue parcel request := by
  have isReplyQueue {name : String} (found : before.broker.lookup? name = some client.inbox) :
      before.IsReplyQueue name ∧ name = client.replyQueue := by
    obtain ⟨owner, there, rfl⟩ := Option.map_eq_some_iff.mp
      ((getElem?_profiles before id).symm.trans owned)
    refine ⟨⟨owner, List.mem_of_getElem? there, found⟩, ?_⟩
    obtain ⟨queue, place, named⟩ := bound.named name _ found
    obtain ⟨same, inbox, isNamed⟩ := bound.inbox id owner.profile owned
    obtain rfl := Option.some.inj (place.symm.trans inbox)
    exact named.symm.trans isNamed
  cases sends with
  | published found =>
    obtain ⟨replies, rfl⟩ := isReplyQueue found
    exact orderly.2 replies
  | called _ found => exact absurd (isReplyQueue found).1 orderly
  | replied there worked named found =>
    obtain ⟨-, rfl⟩ := isReplyQueue found
    exact ⟨_, dated.requests _ (List.mem_of_getElem? there), named, rfl, rfl⟩

theorem Traced.changed (traced : before.Traced names) (bound : before.Bound)
    (dated : before.Dated) (orderly : Orderly names before action)
    (change : Change respond action before after) : after.Traced names where
  clients := by
    intro id client found
    obtain ⟨old, was, named, -⟩ | ⟨-, name, capacity, rfl, -, named, -⟩ :=
      change.recorded.profile found
    · exact named ▸ traced.clients id old was
    · exact named ▸ orderly
  requests := by
    intro id parcel name seen asks reply
    rcases change.seen seen with seen | ⟨sends, -⟩
    · exact change.asked (traced.requests id parcel name seen asks reply)
    · exact sends.asked change orderly asks reply
  replies := by
    intro id client parcel found seen
    obtain ⟨old, was, named, inbox⟩ | ⟨-, name, capacity, rfl, -, -, inbox⟩ :=
      change.recorded.profile found
    · rw [named]
      rw [inbox] at seen
      rcases change.seen seen with seen | ⟨sends, -⟩
      · obtain ⟨request, answers⟩ := traced.replies id old parcel was seen
        exact ⟨request, change.answers answers⟩
      · obtain ⟨request, answers⟩ := sends.answers orderly bound dated was
        exact ⟨request, change.answers answers⟩
    · -- The queue of a new client is new as well, so nothing was seen in it.
      rw [inbox] at seen
      rcases change.seen seen with ⟨queue, there, -⟩ | ⟨sends, -⟩
      · exact absurd (Broker.queue?_lt there) (Nat.lt_irrefl _)
      · cases sends

end Steps

theorem Run.traced {respond : Responder} {names : String → Prop} {network : Network}
    (run : Run respond (Orderly names) empty network) : network.Traced names := by
  have all : network.Bound ∧ network.Dated ∧ network.Traced names := by
    refine run.invariant (fun network => network.Bound ∧ network.Dated ∧ network.Traced names)
      ⟨bound_empty, dated_empty, traced_empty names⟩ ?_ ?_
    · rintro action before after change orderly ⟨bound, dated, traced⟩
      exact ⟨bound.changed change, dated.changed change,
        traced.changed bound dated orderly change⟩
    · rintro before after ended ⟨bound, dated, traced⟩
      have change : Change respond (.abort 0) before after := ended.change
      have orderly : Orderly names before (.abort 0) := trivial
      exact ⟨bound.changed change, dated.changed change,
        traced.changed bound dated orderly change⟩
  exact all.2.2

theorem Traced.answered {names : String → Prop} {network : Network} (traced : network.Traced names)
    {id : ClientId} {client : Client} {reply request : Parcel}
    (owned : network.profiles[id]? = some client)
    (answers : network.Answers client.replyQueue reply request) :
    ∃ (asking : CallId) (call : Call) (owner : Client), network.issued[asking]? = some call ∧
      call.post = request.post ∧ reply.answers = some call.post ∧
      call.correlationId = reply.message.correlationId ∧
      network.profiles[call.client]? = some owner ∧ owner.replyQueue = client.replyQueue := by
  obtain ⟨received, asks, made, genuine⟩ := answers
  obtain ⟨queue, seen⟩ := received.seen
  obtain ⟨asking, call, owner, found, posted, own, place, named⟩ :=
    traced.requests queue request _ seen asks (traced.clients id client owned)
  refine ⟨asking, call, owner, found, posted, made.trans (posted ▸ rfl), own.trans ?_, place, named⟩
  rw [genuine]
  rfl

def Unanswered (network : Network) : Prop :=
  ∀ (id : CallId) (call : Call), network.calls[id]? = some call → call.state = .outstanding →
    ∀ reply ∈ network.takenReplies call.client, reply.answers ≠ some call.post

theorem mem_takenReplies {network : Network} {id : ClientId} {reply : Parcel}
    (taken : reply ∈ network.takenReplies id) :
    ∃ client queue, network.profiles[id]? = some client ∧
      network.broker.queue? client.inbox = some queue ∧ reply ∈ queue.received := by
  unfold takenReplies at taken
  cases owned : network.clients[id]? with
  | none => simp [owned] at taken
  | some client =>
    cases there : network.broker.queue? client.inbox with
    | none => simp [owned, there] at taken
    | some queue =>
      simp only [owned, there, Option.bind_some, Option.map_some, Option.getD_some] at taken
      exact ⟨client.profile, queue, profile_of_getElem? owned, there, taken⟩

theorem takenReplies_of_mem {network : Network} {id : ClientId} {client : Client} {queue : Queue}
    {reply : Parcel} (owned : network.profiles[id]? = some client)
    (there : network.broker.queue? client.inbox = some queue) (member : reply ∈ queue.received) :
    reply ∈ network.takenReplies id := by
  obtain ⟨owner, found, rfl⟩ := Option.map_eq_some_iff.mp
    ((getElem?_profiles network id).symm.trans owned)
  have there : network.broker.queue? owner.inbox = some queue := there
  simpa [takenReplies, found, there] using member

theorem Change.takenReplies {respond : Responder} {action : Action} {before after : Network}
    (change : Change respond action before after) {id : ClientId} {reply : Parcel}
    (taken : reply ∈ after.takenReplies id) :
    reply ∈ before.takenReplies id ∨
      ∃ client, before.profiles[id]? = some client ∧ before.Seen client.inbox reply ∧
        Draws before after action client.inbox reply := by
  obtain ⟨client, now, owned, found, member⟩ := mem_takenReplies taken
  have nothing {name : String} {capacity : Nat} (created : now = Queue.create name capacity) :
      False := by
    rw [created] at member
    cases member
  -- A queue that is new has received nothing, whether its client is new or not.
  obtain ⟨old, was, -, inbox⟩ | ⟨-, name, capacity, -, -, -, inbox⟩ := change.recorded.profile owned
  · rw [inbox] at found
    cases there : before.broker.queue? old.inbox with
    | none =>
      obtain ⟨_, _, -, -, created⟩ := change.creates there found
      exact (nothing created).elim
    | some queue =>
      obtain ⟨_, same, handled⟩ := change.handles there
      obtain rfl := Option.some.inj (found.symm.trans same)
      rcases handled.received with kept | ⟨parcel, draws, held, more⟩
      · exact .inl (takenReplies_of_mem was there (kept ▸ member))
      · rw [more] at member
        rcases List.mem_cons.mp member with rfl | earlier
        · exact .inr ⟨old, was, ⟨queue, there, List.mem_append_right _ held⟩, draws⟩
        · exact .inl (takenReplies_of_mem was there earlier)
  · have absent : before.broker.queue? client.inbox = none := by
      rw [inbox]
      exact List.getElem?_eq_none (Nat.le_refl _)
    obtain ⟨_, _, -, -, created⟩ := change.creates absent found
    exact (nothing created).elim

theorem holder?_deliver {network : Network} {id : ClientId} {client : Client}
    (owned : network.clients[id]? = some client) (message : Message) :
    (network.deliver id message).holder? id message.correlationId = none := by
  rcases deliver_cases owned message with ⟨absent, same⟩ | ⟨call, -, frame, -⟩
  · rw [same]
    exact absent
  · rw [holder?_cleared (by rw [frame]), if_pos ⟨rfl, rfl⟩]

theorem Draws.dispatched {before after : Network} {action : Action} {inbox : QueueId}
    {reply : Parcel} (draws : Draws before after action inbox reply) (bound : before.Bound)
    {id : ClientId} {client : Client} (owned : before.profiles[id]? = some client)
    (same : client.inbox = inbox) :
    ∃ owner rest, before.clients[id]? = some owner ∧ action = .dispatch id ∧
      after = (before.took inbox rest).deliver id reply.message := by
  cases draws with
  | received outside =>
    obtain ⟨owner, place, rfl⟩ := Option.map_eq_some_iff.mp
      ((getElem?_profiles before id).symm.trans owned)
    simp only [isOutside, Bool.and_eq_true, List.all_eq_true, bne_iff_ne] at outside
    exact absurd same (outside.1 owner (List.mem_of_getElem? place))
  | delivered place result =>
    obtain rfl := bound.own _ _ _ _ owned (profile_of_getElem? place) same
    exact ⟨_, _, place, rfl, result⟩
  | fetched served =>
    exact absurd same ((bound.served _ (List.mem_of_getElem? served)).2 id client owned)

theorem Unanswered.changed {respond : Responder} {names : String → Prop} {action : Action}
    {before after : Network} (unanswered : before.Unanswered) (numbered : before.Numbered)
    (bound : before.Bound) (dated : before.Dated) (traced : before.Traced names)
    (registered : after.Registered) (change : Change respond action before after) :
    after.Unanswered := by
  intro id call found outstanding reply taken answers
  have issued := issued_of_getElem? found
  cases there : before.calls[id]? with
  | none =>
    -- The request of a new call has a number that no earlier reply can answer.
    have absent : before.issued[id]? = none := by rw [getElem?_issued, there]; rfl
    obtain ⟨client, owner, route, payload, timeout, rfl, -, same⟩ :=
      change.recorded.issued_new absent issued
    have post : call.post = before.nextPost := (Call.mk.inj same).2.2.2.1
    rcases change.takenReplies taken with earlier | ⟨_, _, _, draws⟩
    · obtain ⟨reader, queue, owned, place, member⟩ := mem_takenReplies earlier
      obtain ⟨request, received, -, made, -⟩ := traced.replies _ reader reply owned
        ⟨queue, place, List.mem_append_left _ member⟩
      obtain ⟨_, seen⟩ := received.seen
      have older := dated.seen _ request seen
      rw [Option.some.inj (made.symm.trans answers), post] at older
      exact Nat.lt_irrefl _ older
    · cases draws
  | some was =>
    obtain ⟨state, same, proceeds⟩ := change.proceeds there
    obtain rfl := Option.some.inj (found.symm.trans same)
    have waiting := proceeds.outstanding outstanding
    rcases change.takenReplies taken with earlier | ⟨reader, owned, seen, draws⟩
    · exact unanswered id was there waiting reply earlier answers
    · -- Whoever takes the reply is the client, which hands it to the place of the call.
      obtain ⟨request, genuine⟩ := traced.replies _ reader reply owned seen
      obtain ⟨asking, record, -, asked, -, made, own, -⟩ := traced.answered owned genuine
      have post : record.post = was.post := Option.some.inj (made.symm.trans answers)
      obtain rfl := numbered.eq_of_post asked (issued_of_getElem? there) post
      obtain rfl := Option.some.inj (asked.symm.trans (issued_of_getElem? there))
      have place := registered.waits _ _ found outstanding
      obtain ⟨owner, rest, there, -, rfl⟩ := draws.dispatched bound owned rfl
      have there : (before.took reader.inbox rest).clients[was.client]? = some owner := there
      have cleared := holder?_deliver there reply.message
      rw [← own] at cleared
      cases cleared.symm.trans place

theorem unanswered_empty : empty.Unanswered := by
  intro id call found
  cases found

theorem Run.unanswered {respond : Responder} {names : String → Prop} {network : Network}
    (run : Run respond (Orderly names) empty network) : network.Unanswered := by
  -- The invariant is carried by the ones that say where replies come from.
  let holds (network : Network) : Prop :=
    network.Numbered ∧ network.Bound ∧ network.Dated ∧ network.Traced names ∧
      network.Registered ∧ network.Unanswered
  have step {action : Action} {before after : Network} (change : Change respond action before after)
      (orderly : Orderly names before action) (before : holds before) : holds after := by
    obtain ⟨numbered, bound, dated, traced, registered, unanswered⟩ := before
    have later := registered.changed change
    exact ⟨numbered.recorded change.recorded, bound.changed change, dated.changed change,
      traced.changed bound dated orderly change, later,
      unanswered.changed numbered bound dated traced later change⟩
  have all : holds network := by
    refine run.invariant holds ?_ step ?_
    · exact ⟨numbered_empty, bound_empty, dated_empty, traced_empty names, registered_empty,
        unanswered_empty⟩
    · intro before after ended
      have change : Change respond (.abort 0) before after := ended.change
      exact step change trivial
  exact all.2.2.2.2.2

def DistinctNames (network : Network) : Prop :=
  ∀ (first second : ClientId) (one other : Client), network.profiles[first]? = some one →
    network.profiles[second]? = some other → one.replyQueue = other.replyQueue → first = second

theorem DistinctNames.changed {respond : Responder} {action : Action} {before after : Network}
    (distinct : before.DistinctNames) (once : NamedOnce before action)
    (change : Change respond action before after) : after.DistinctNames := by
  have fresh {id : ClientId} {client : Client} {name : String} {capacity : Nat}
      (connects : action = .connect name capacity) (there : before.profiles[id]? = some client) :
      client.replyQueue ≠ name := by
    subst connects
    obtain ⟨owner, place, rfl⟩ := Option.map_eq_some_iff.mp
      ((getElem?_profiles before id).symm.trans there)
    exact once owner (List.mem_of_getElem? place)
  intro first second one other oneFound otherFound same
  -- Each of the two clients was there before, or was connected under a fresh name in this step.
  obtain ⟨oneOld, oneThere, oneName, -⟩ | ⟨rfl, _, _, oneConnects, -, oneName, -⟩ :=
    change.recorded.profile oneFound <;>
  obtain ⟨otherOld, otherThere, otherName, -⟩ | ⟨rfl, _, _, otherConnects, -, otherName, -⟩ :=
    change.recorded.profile otherFound
  · exact distinct _ _ _ _ oneThere otherThere (oneName.symm.trans (same.trans otherName))
  · exact absurd (oneName.symm.trans (same.trans otherName)) (fresh otherConnects oneThere)
  · exact absurd (otherName.symm.trans (same.symm.trans oneName)) (fresh oneConnects otherThere)
  · rfl

def Proper (names : String → Prop) (network : Network) (action : Action) : Prop :=
  Orderly names network action ∧ NamedOnce network action

instance (names : String → Prop) [DecidablePred names] (network : Network) (action : Action) :
    Decidable (Proper names network action) :=
  inferInstanceAs (Decidable (_ ∧ _))

theorem Run.orderly {respond : Responder} {names : String → Prop} {start network : Network}
    (run : Run respond (Proper names) start network) : Run respond (Orderly names) start network :=
  run.mono (fun _ _ proper => proper.1)

theorem Run.distinctNames {respond : Responder} {names : String → Prop} {network : Network}
    (run : Run respond (Proper names) empty network) : network.DistinctNames := by
  refine run.invariant DistinctNames ?_
    (fun change proper distinct => distinct.changed proper.2 change) ?_
  · intro first second one other found
    simp [profiles, empty] at found
  · intro before after ended distinct
    have change : Change respond (.abort 0) before after := ended.change
    have once : NamedOnce before (.abort 0) := trivial
    exact distinct.changed once change

def Drops (respond : Responder) (network : Network) (id : ClientId) : Prop :=
  ∃ client reply after, network.clients[id]? = some client ∧ network.nextReply? id = some reply ∧
    network.perform respond (.dispatch id) = some after ∧
    after.warnings = .unclaimed reply.message.correlationId client.replyQueue :: network.warnings ∧
    after.clients = network.clients ∧ after.calls = network.calls

theorem drops_of_unclaimed {respond : Responder} {network : Network} {id : ClientId}
    {reply : Parcel} (next : network.nextReply? id = some reply)
    (unclaimed : network.holder? id reply.message.correlationId = none) :
    network.Drops respond id := by
  obtain ⟨client, queue, rest, owned, found, taken, performed⟩ :=
    perform_dispatch respond next
  have owned' : (network.took client.inbox rest).clients[id]? = some client := owned
  have unclaimed' : (network.took client.inbox rest).holder? id reply.message.correlationId = none :=
    unclaimed
  rcases deliver_cases owned' reply.message with ⟨-, same⟩ | ⟨call, held, -⟩
  · rw [same] at performed
    exact ⟨client, reply, _, owned, next, performed, rfl, rfl, rfl⟩
  · rw [unclaimed'] at held
    cases held

theorem seen_of_nextReply? {network : Network} {id : ClientId} {reply : Parcel}
    (next : network.nextReply? id = some reply) :
    ∃ client, network.profiles[id]? = some client ∧ network.Seen client.inbox reply := by
  obtain ⟨client, owned, next⟩ := Option.bind_eq_some_iff.mp next
  split at next
  next consumed =>
    obtain ⟨queue, found, first⟩ := Option.bind_eq_some_iff.mp next
    refine ⟨client.profile, profile_of_getElem? owned, queue, found, ?_⟩
    have member := List.mem_of_head? first
    simp [Queue.seen, Queue.held, member]
  next => cases next

theorem Run.id_of_answers {respond : Responder} {names : String → Prop} {network : Network}
    (run : Run respond (Orderly names) empty network) {client : ClientId} {asking : CallId}
    {call : Call} {reply : Parcel} (found : network.calls[asking]? = some call)
    (next : network.nextReply? client = some reply) (made : reply.answers = some call.post) :
    reply.message.correlationId = UInt64.ofNat (network.ordinal asking call.client) := by
  obtain ⟨owner, owned, seen⟩ := seen_of_nextReply? next
  obtain ⟨request, genuine⟩ := run.traced.replies client owner reply owned seen
  obtain ⟨origin, record, _, issued, -, made', own, -⟩ := run.traced.answered owned genuine
  have post : record.post = call.post := Option.some.inj (made'.symm.trans made)
  obtain rfl := run.numbered.eq_of_post issued (issued_of_getElem? found) post
  obtain rfl := Option.some.inj (issued.symm.trans (issued_of_getElem? found))
  exact own.symm.trans (run.numbered.ids origin _ issued)

theorem Run.nextReply_own {respond : Responder} {names : String → Prop} {network : Network}
    (run : Run respond (Proper names) empty network) {id : ClientId} {reply : Parcel}
    (few : network.callCount id < 2 ^ 64) (next : network.nextReply? id = some reply) :
    ∃ (client : Client) (request : Parcel) (asking : CallId) (call : Call),
      network.clients[id]? = some client ∧ network.Answers client.replyQueue reply request ∧
      network.calls[asking]? = some call ∧ call.client = id ∧ call.post = request.post ∧
      call.correlationId = reply.message.correlationId ∧ reply.answers = some call.post ∧
      ∀ held, network.holder? id reply.message.correlationId = some held → held = asking := by
  obtain ⟨client, owned, seen⟩ := seen_of_nextReply? next
  have traced := run.orderly.traced
  obtain ⟨request, genuine⟩ := traced.replies id client reply owned seen
  obtain ⟨asking, call, owner, issued, posted, made, own, place, named⟩ :=
    traced.answered owned genuine
  -- The call's client has the name of the one that takes the reply, and no two share a name.
  have mine : call.client = id := run.distinctNames _ _ _ _ place owned named
  obtain ⟨now, there, rfl⟩ := Option.map_eq_some_iff.mp
    ((getElem?_issued network asking).symm.trans issued)
  obtain ⟨reader, found, rfl⟩ := Option.map_eq_some_iff.mp
    ((getElem?_profiles network id).symm.trans owned)
  refine ⟨reader, request, asking, now, found, genuine, there, mine, posted, own, made, ?_⟩
  intro held holder
  obtain ⟨other, otherFound, client, correlation, -⟩ := run.registered.holds _ _ _ holder
  refine run.numbered.eq_of_id (issued_of_getElem? otherFound) issued (client.trans mine.symm)
    (correlation.trans own.symm) ?_
  rw [show other.issue.client = id from client]
  exact Nat.le_of_lt few

/--
A call returns nothing but the first reply to its own request, dispatched while the call was registered. A
reply under whose id no call is registered is dropped.
-/
theorem replies_reach_their_calls {respond : Responder} {names : String → Prop} {network : Network}
    (run : Run respond (Proper names) empty network)
    (few : ∀ client, network.callCount client < 2 ^ 64) :
    (∀ (id : CallId) (call : Call) (payload : Bytes), network.calls[id]? = some call →
      call.state = .returned payload →
      ∃ before after client reply request, Run respond (Proper names) empty before ∧
        before.perform respond (.dispatch call.client) = some after ∧
        Run respond (Proper names) after network ∧
        before.clients[call.client]? = some client ∧
        before.nextReply? call.client = some reply ∧
        before.Answers client.replyQueue reply request ∧ request.post = call.post ∧
        reply.message.payload = payload ∧
        before.holder? call.client call.correlationId = some id ∧
        ∀ earlier ∈ before.takenReplies call.client, earlier.answers ≠ some call.post) ∧
    (∀ (client : ClientId) (reply : Parcel), network.nextReply? client = some reply →
      network.holder? client reply.message.correlationId = none → network.Drops respond client) ∧
    ∀ (id : CallId) (call : Call) (reply : Parcel), network.calls[id]? = some call →
      network.nextReply? call.client = some reply → reply.answers = some call.post →
      call.state ≠ .outstanding → network.Drops respond call.client := by
  refine ⟨?_, fun _ _ next unclaimed => drops_of_unclaimed next unclaimed, ?_⟩
  · intro id call payload found returned
    have got : call.state.reply? = some payload := by rw [returned]; rfl
    obtain ⟨before, action, after, earlier, proper, step, later, hands⟩ := run.handed found got
    obtain ⟨client, reply, rfl, next, held, same⟩ := hands
    -- The call that was handed the payload is the one that the reply answers.
    have rest : Run respond (Proper names) before network :=
      (Run.next (.dispatch client) .start proper step).trans later
    have few := Nat.lt_of_le_of_lt (rest.callCount client) (few client)
    obtain ⟨reader, request, asking, was, owned, genuine, there, rfl, posted, own, made, only⟩ :=
      earlier.nextReply_own few next
    obtain rfl := only id held
    have issue : was.issue = call.issue := Option.some.inj
      ((rest.issued_mono (issued_of_getElem? there)).symm.trans (issued_of_getElem? found))
    obtain ⟨sameClient, sameId, -, samePost, -⟩ := Call.mk.inj issue
    rw [← sameClient, ← sameId, ← samePost]
    refine ⟨before, after, reader, reply, request, earlier, step, later, owned, next, genuine,
      posted.symm, same, own ▸ held, ?_⟩
    obtain ⟨_, again, -, -, outstanding⟩ := earlier.registered.holds _ _ _ held
    obtain rfl := Option.some.inj (there.symm.trans again)
    exact earlier.orderly.unanswered id was there outstanding
  · intro id call reply found next answers finished
    apply drops_of_unclaimed next
    obtain ⟨reader, request, asking, was, -, -, there, mine, -, -, made, only⟩ :=
      run.nextReply_own (few call.client) next
    have post : was.post = call.post := Option.some.inj (made.symm.trans answers)
    obtain rfl := run.numbered.eq_of_post (issued_of_getElem? there) (issued_of_getElem? found) post
    cases held : network.holder? call.client reply.message.correlationId with
    | none => rfl
    | some other =>
      obtain rfl := only other held
      obtain ⟨_, again, -, -, outstanding⟩ := run.registered.holds _ _ _ held
      obtain rfl := Option.some.inj (found.symm.trans again)
      exact absurd outstanding finished

def echo : Responder := fun _ _ payload => some payload

/-- Two calls of one client are answered in the other order, and the first is aborted before that. -/
def crossed : Option Network :=
  follow echo (Proper (fun name => name = "replies"))
    [.declare "service" 2, .connect "replies" 2, .serve 0, .call 0 "service" [1] ⟨5⟩,
      .call 0 "service" [2] ⟨5⟩, .take 0, .take 0, .answer 1, .answer 0, .abort 0, .dispatch 0,
      .finish 1] empty

theorem crossed_replies_reach_their_calls :
    ∃ network, crossed = some network ∧
      (∃ before after client reply request,
        Run echo (Proper (fun name => name = "replies")) empty before ∧
        before.perform echo (.dispatch 0) = some after ∧
        Run echo (Proper (fun name => name = "replies")) after network ∧
        before.clients[0]? = some client ∧ before.nextReply? 0 = some reply ∧
        before.Answers client.replyQueue reply request ∧ request.post = 1 ∧
        reply.message.payload = [2] ∧ before.holder? 0 1 = some 1 ∧
        ∀ earlier ∈ before.takenReplies 0, earlier.answers ≠ some 1) ∧
      network.Drops echo 0 := by
  obtain ⟨network, done⟩ := Option.isSome_iff_exists.mp (by decide : crossed.isSome = true)
  have computed : network = crossed.get (by decide) := by simp [done]
  have run := run_of_follow done
  have few : ∀ client, network.callCount client < 2 ^ 64 := by
    intro client
    have few : network.issued.length < 2 ^ 64 := by rw [computed]; decide
    exact Nat.lt_of_le_of_lt List.countP_le_length few
  have correlated := replies_reach_their_calls run few
  refine ⟨network, done, ?_, ?_⟩
  · have found : network.calls[1]? = some
        { client := 0, correlationId := 1, route := "service", post := 1, timeout := ⟨5⟩
          deadline := 5, state := .returned [2] } := by rw [computed]; decide
    exact correlated.1 1 _ [2] found rfl
  · have next : network.nextReply? 0 = some
        { post := 3, answers := some 0
          message := { correlationId := 0, replyTo := none, payload := [1] } } := by
      rw [computed]; decide
    exact correlated.2.1 0 _ next (by rw [computed]; decide)

end Network

end LedgerNode.Bus
