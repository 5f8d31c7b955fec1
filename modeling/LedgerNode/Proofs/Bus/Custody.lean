import LedgerNode.Proofs.Bus.Link

set_option autoImplicit false

namespace LedgerNode.Bus

namespace Network

def readyRequests (network : Network) : List Parcel :=
  (network.jobs.filter (fun job => job.state = .ready)).map Job.request

def unansweredPosts (network : Network) : List PostId :=
  (network.heldBy 0 ++ network.readyRequests).map Parcel.post

def answeredPosts (network : Network) : List PostId :=
  (network.receivedBy 1 ++ network.heldBy 1).filterMap Parcel.answers

def Carries (network : Network) (base : Nat) (payloads : List Bytes) (post : PostId)
    (payload : Bytes) : Prop :=
  ∃ (place : Nat) (call : Call), network.issued[base + place]? = some call ∧ call.post = post ∧
    payloads[place]? = some payload

theorem Carries.of_issued {network after : Network} {base : Nat} {payloads : List Bytes}
    {post : PostId} {payload : Bytes} (carried : network.Carries base payloads post payload)
    (issued : after.issued = network.issued) : after.Carries base payloads post payload := by
  unfold Carries
  rw [issued]
  exact carried

def Served (work : Bytes → Bytes) (network : Network) (call : Call) (payload : Bytes) : Prop :=
  (call.state = .answered (work payload) ∨ call.state = .returned (work payload)) ∧
    some call.post ∈ (network.receivedBy 1).map Parcel.answers

/--
The custody of the requests of calls from `base` on, which carried the payloads; all earlier calls are
over, and nothing was logged but `warnings`.
-/
structure Custody (work : Bytes → Bytes) (base : Nat) (payloads : List Bytes)
    (warnings : List Warning) (network : Network) : Prop where
  counted : network.issued.length = base + payloads.length
  finished : ∀ (id : CallId) (call : Call), network.calls[id]? = some call → id < base →
    call.state.isLive = false
  conserved : (network.unansweredPosts ++ network.answeredPosts).Perm (network.issued.map Call.post)
  requests : ∀ parcel ∈ network.heldBy 0 ++ network.readyRequests,
    network.Carries base payloads parcel.post parcel.message.payload
  replies : ∀ parcel ∈ network.heldBy 1, ∃ post payload, parcel.answers = some post ∧
    network.Carries base payloads post payload ∧ parcel.message.payload = work payload
  states : ∀ (place : Nat) (call : Call) (payload : Bytes),
    network.calls[base + place]? = some call → payloads[place]? = some payload →
    call.state = .outstanding ∨ network.Served work call payload
  quiet : network.warnings = warnings

section Books

variable {network after : Network}

theorem heldBy_of_queue? {id : QueueId} {queue : Queue}
    (found : network.broker.queue? id = some queue) : network.heldBy id = queue.held := by
  simp [heldBy, found]

theorem receivedBy_of_queue? {id : QueueId} {queue : Queue}
    (found : network.broker.queue? id = some queue) : network.receivedBy id = queue.received := by
  simp [receivedBy, found]

theorem heldBy_congr {id : QueueId}
    (same : after.broker.queue? id = network.broker.queue? id) :
    after.heldBy id = network.heldBy id := by
  rw [heldBy, same, heldBy]

theorem receivedBy_congr {id : QueueId}
    (same : after.broker.queue? id = network.broker.queue? id) :
    after.receivedBy id = network.receivedBy id := by
  rw [receivedBy, same, receivedBy]

theorem books_took {id : QueueId} {queue rest : Queue} {parcel : Parcel}
    (found : network.broker.queue? id = some queue) (taken : queue.take? = some (parcel, rest)) :
    network.heldBy id = parcel :: (network.took id rest).heldBy id ∧
      (network.took id rest).receivedBy id = parcel :: network.receivedBy id := by
  have takes := Queue.takes_of_take? taken
  rw [heldBy_of_queue? found, receivedBy_of_queue? found, heldBy_of_queue? (queue?_took rest found),
    receivedBy_of_queue? (queue?_took rest found)]
  exact ⟨takes.held, takes.received⟩

theorem books_sent {id : QueueId} {queue : Queue} (answers : Option PostId) (message : Message)
    (found : network.broker.queue? id = some queue) :
    (network.sent id answers message).heldBy id =
        network.heldBy id ++ [{ post := network.nextPost, answers, message }] ∧
      (network.sent id answers message).receivedBy id = network.receivedBy id := by
  have sent := queue?_sent answers message found
  rw [heldBy_of_queue? found, receivedBy_of_queue? found, heldBy_of_queue? sent,
    receivedBy_of_queue? sent]
  exact ⟨Queue.held_enqueue .., Queue.received_enqueue ..⟩

theorem abandon_of_not_isWaiting {broker : Broker} {post : PostId}
    (accepted : broker.isWaiting post = false) : broker.abandon post = broker := by
  have kept : broker.queues.map (fun queue => queue.abandon post) = broker.queues := by
    have each : ∀ queue ∈ broker.queues, queue.abandon post = id queue := by
      intro queue member
      have absent := List.any_eq_false.mp accepted queue member
      exact Queue.abandon_of_not_waiting (by simpa using absent)
    rw [List.map_congr_left each, List.map_id]
  unfold Broker.abandon
  rw [kept]

theorem readyRequests_answered {id : JobId} {job : Job} (found : network.jobs[id]? = some job)
    (ready : job.state = .ready) (post : PostId) :
    network.readyRequests.Perm
      (job.request :: (network.setJob id (.posted post)).readyRequests) := by
  unfold readyRequests setJob
  simp only
  generalize network.jobs = jobs at found ⊢
  -- On the jobs: the one that is answered is the first, or it stands behind the first.
  induction jobs generalizing id with
  | nil => cases found
  | cons first rest ih =>
    cases id with
    | zero =>
      obtain rfl := Option.some.inj found
      simp [ready]
    | succ id =>
      have later := ih found
      by_cases waits : first.state = .ready
      · simp only [List.modify_succ_cons, List.filter_cons, waits, decide_true, if_true,
          List.map_cons]
        exact (later.cons _).trans (.swap ..)
      · simp only [List.modify_succ_cons, List.filter_cons, waits, decide_false,
          Bool.false_eq_true, if_false]
        exact later

theorem readyRequests_kept {id : JobId} {job : Job} (found : network.jobs[id]? = some job)
    (busy : job.state ≠ .ready) :
    (network.setJob id .done).readyRequests = network.readyRequests := by
  unfold readyRequests setJob
  simp only
  generalize network.jobs = jobs at found ⊢
  induction jobs generalizing id with
  | nil => cases found
  | cons first rest ih =>
    cases id with
    | zero =>
      obtain rfl := Option.some.inj found
      simp [busy]
    | succ id =>
      have later := ih found
      by_cases waits : first.state = .ready <;>
        simp [List.modify_succ_cons, waits, later]

end Books

section Uniqueness

variable {work : Bytes → Bytes} {route : String} {base : Nat} {payloads : List Bytes}
  {warnings : List Warning} {network after : Network}

theorem Numbered.posts_nodup (numbered : network.Numbered) :
    (network.issued.map Call.post).Nodup := by
  rw [List.nodup_iff_pairwise_ne, List.pairwise_map]
  exact numbered.posts.imp (fun earlier => Nat.ne_of_lt earlier)

theorem Linked.ordinal (linked : network.Linked work route) {id : CallId} {call : Call}
    (found : network.issued[id]? = some call) : call.client = 0 ∧ network.ordinal id 0 = id := by
  have mine : ∀ call ∈ network.issued, call.client = 0 := by
    intro call member
    have within := linked.run.numbered.owned call member
    rw [profiles, List.length_map, linked.one] at within
    exact Nat.lt_one_iff.mp within
  refine ⟨mine call (List.mem_of_getElem? found), ?_⟩
  have within := (List.getElem?_eq_some_iff.mp found).1
  have all : (network.issued.take id).countP (fun call => call.client = 0) =
      (network.issued.take id).length := by
    rw [List.countP_eq_length]
    intro call member
    simpa using mine call (List.mem_of_mem_take member)
  unfold Network.ordinal
  rw [all, List.length_take, Nat.min_eq_left (Nat.le_of_lt within)]

theorem Linked.id (linked : network.Linked work route) {id : CallId} {call : Call}
    (found : network.calls[id]? = some call) : call.correlationId = UInt64.ofNat id := by
  have issued := issued_of_getElem? found
  obtain ⟨mine, turn⟩ := linked.ordinal issued
  have own := linked.run.numbered.ids id _ issued
  rw [mine, turn] at own
  exact own

theorem Linked.nextId (linked : network.Linked work route) {owner : Client}
    (owned : network.clients[0]? = some owner) :
    owner.nextId = UInt64.ofNat network.issued.length := by
  have next := linked.run.numbered.next 0 _ (profile_of_getElem? owned)
  have all : network.callCount 0 = network.issued.length := by
    unfold callCount
    rw [List.countP_eq_length]
    intro call member
    obtain ⟨id, found⟩ := List.getElem?_of_mem member
    simpa using (linked.ordinal found).1
  rw [all] at next
  exact next

theorem Custody.eq_of_id (custody : network.Custody work base payloads warnings)
    (linked : network.Linked work route) (few : payloads.length ≤ 2 ^ 64) {first second : CallId}
    {one other : Call} (firstFound : network.calls[first]? = some one)
    (secondFound : network.calls[second]? = some other) (firstLive : one.state.isLive = true)
    (secondLive : other.state.isLive = true) (same : one.correlationId = other.correlationId) :
    first = second := by
  have within {id : CallId} {call : Call} (found : network.calls[id]? = some call)
      (live : call.state.isLive = true) : base ≤ id ∧ id < base + payloads.length := by
    refine ⟨?_, ?_⟩
    · by_contra early
      have finished := custody.finished id call found (Nat.not_le.mp early)
      rw [finished] at live
      cases live
    · rw [← custody.counted]
      exact (List.getElem?_eq_some_iff.mp (issued_of_getElem? found)).1
  have ⟨firstFrom, firstTo⟩ := within firstFound firstLive
  have ⟨secondFrom, secondTo⟩ := within secondFound secondLive
  rw [linked.id firstFound, linked.id secondFound, ofNat_eq_iff_mod] at same
  -- Ids wrap around, but so few calls lie within one round.
  have distinct {low high : Nat} (first second : Nat) (few : high ≤ low + 2 ^ 64)
      (firstFrom : low ≤ first) (firstTo : first < high) (secondFrom : low ≤ second)
      (secondTo : second < high) (same : first % 2 ^ 64 = second % 2 ^ 64) : first = second := by
    omega
  exact distinct first second (Nat.add_le_add_left few base) firstFrom firstTo secondFrom secondTo
    same

theorem Custody.next_free (custody : network.Custody work base payloads warnings)
    (linked : network.Linked work route) (few : payloads.length < 2 ^ 64) {owner : Client}
    (owned : network.clients[0]? = some owner) : network.holder? 0 owner.nextId = none := by
  cases held : network.holder? 0 owner.nextId with
  | none => rfl
  | some id =>
    obtain ⟨call, found, -, same, outstanding⟩ := linked.run.registered.holds _ _ _ held
    -- A holder is outstanding, so it is one of the late calls, and their ids do not wrap around.
    have early : base ≤ id := by
      by_contra early
      have finished := custody.finished id call found (Nat.not_le.mp early)
      rw [outstanding] at finished
      cases finished
    have late := (List.getElem?_eq_some_iff.mp (issued_of_getElem? found)).1
    rw [linked.id found, linked.nextId owned, ofNat_eq_iff_mod] at same
    rw [custody.counted] at late same
    have distinct (low count id : Nat) (few : count < 2 ^ 64) (early : low ≤ id)
        (late : id < low + count) (same : id % 2 ^ 64 = (low + count) % 2 ^ 64) : False := by
      omega
    exact (distinct base payloads.length id few early late same).elim

theorem Custody.reply_outstanding (custody : network.Custody work base payloads warnings)
    (linked : network.Linked work route) {reply : Parcel} (member : reply ∈ network.heldBy 1) :
    ∃ (place : Nat) (call : Call) (payload : Bytes), network.calls[base + place]? = some call ∧
      call.state = .outstanding ∧ reply.answers = some call.post ∧
      payloads[place]? = some payload ∧ reply.message.payload = work payload := by
  obtain ⟨post, payload, answers, ⟨place, issue, issued, rfl, carried⟩, worked⟩ :=
    custody.replies reply member
  obtain ⟨call, found, rfl⟩ := Option.map_eq_some_iff.mp
    ((getElem?_issued network _).symm.trans issued)
  refine ⟨place, call, payload, found, ?_, answers, carried, worked⟩
  rcases custody.states place call payload found carried with outstanding | ⟨-, taken⟩
  · exact outstanding
  · -- A second reply to the same request would count it twice.
    have once : (network.unansweredPosts ++ network.answeredPosts).Nodup :=
      custody.conserved.nodup_iff.mpr linked.run.numbered.posts_nodup
    have apart := (List.nodup_append.mp once).2.1
    rw [answeredPosts, List.filterMap_append] at apart
    obtain ⟨earlier, there, same⟩ := List.mem_map.mp taken
    have first : call.post ∈ (network.receivedBy 1).filterMap Parcel.answers :=
      List.mem_filterMap.mpr ⟨earlier, there, same⟩
    have second : call.post ∈ (network.heldBy 1).filterMap Parcel.answers :=
      List.mem_filterMap.mpr ⟨reply, member, answers⟩
    exact absurd rfl ((List.nodup_append.mp apart).2.2 _ first _ second)

end Uniqueness

section Steps

variable {work : Bytes → Bytes} {route : String} {base : Nat} {payloads : List Bytes}
  {warnings : List Warning} {network after : Network}

theorem Custody.moved (custody : network.Custody work base payloads warnings)
    (calls : after.calls = network.calls) (same : after.warnings = network.warnings)
    (received : after.receivedBy 1 = network.receivedBy 1)
    (conserved : (after.unansweredPosts ++ after.answeredPosts).Perm
      (network.unansweredPosts ++ network.answeredPosts))
    (requests : ∀ parcel ∈ after.heldBy 0 ++ after.readyRequests,
      parcel ∈ network.heldBy 0 ++ network.readyRequests)
    (replies : ∀ parcel ∈ after.heldBy 1, parcel ∈ network.heldBy 1 ∨
      ∃ request ∈ network.heldBy 0 ++ network.readyRequests, parcel.answers = some request.post ∧
        parcel.message.payload = work request.message.payload) :
    after.Custody work base payloads warnings := by
  -- Requests and replies may move as long as none gets lost or is made twice.
  have issued : after.issued = network.issued := by rw [Network.issued, calls, Network.issued]
  refine ⟨?_, ?_, ?_, ?_, ?_, ?_, same.trans custody.quiet⟩
  · rw [issued]
    exact custody.counted
  · rw [calls]
    exact custody.finished
  · rw [issued]
    exact conserved.trans custody.conserved
  · intro parcel member
    exact (custody.requests parcel (requests parcel member)).of_issued issued
  · intro parcel member
    rcases replies parcel member with there | ⟨request, there, answers, worked⟩
    · obtain ⟨post, payload, answers, carried, worked⟩ := custody.replies parcel there
      exact ⟨post, payload, answers, carried.of_issued issued, worked⟩
    · exact ⟨_, _, answers, (custody.requests request there).of_issued issued, worked⟩
  · rw [calls]
    unfold Served
    rw [received]
    exact custody.states

theorem Custody.ticked (custody : network.Custody work base payloads warnings)
    (nanoseconds : Nat) :
    ({ network with clock := network.clock + nanoseconds } : Network).Custody work base payloads
      warnings :=
  custody.moved rfl rfl rfl (.refl _) (fun _ member => member) (fun _ member => .inl member)

theorem Custody.fetched (custody : network.Custody work base payloads warnings)
    {requests rest : Queue} {request : Parcel} (found : network.broker.queue? 0 = some requests)
    (taken : requests.take? = some (request, rest)) :
    (network.fetched 0 0 request rest).Custody work base payloads warnings := by
  have books : network.heldBy 0 = request :: (network.fetched 0 0 request rest).heldBy 0 :=
    (books_took found taken).1
  have ready : (network.fetched 0 0 request rest).readyRequests =
      network.readyRequests ++ [request] := by
    simp [readyRequests, Network.fetched]
  have other : (network.fetched 0 0 request rest).broker.queue? 1 = network.broker.queue? 1 :=
    queue?_took_other rest (by decide)
  -- The request goes from the queue to the jobs, both of which the books count.
  refine custody.moved rfl rfl (receivedBy_congr other) ?_ ?_ ?_
  · simp only [unansweredPosts, answeredPosts, receivedBy_congr other, heldBy_congr other, ready,
      books, List.perm_iff_count]
    intro post
    simp only [List.map_append, List.map_cons, List.map_nil, List.count_append, List.count_cons,
      List.count_nil]
    omega
  · intro parcel member
    rw [books]
    simp only [ready, List.mem_append, List.mem_cons, List.not_mem_nil, or_false] at member ⊢
    rcases member with there | there | rfl
    · exact .inl (.inr there)
    · exact .inr there
    · exact .inl (.inl rfl)
  · intro parcel member
    rw [heldBy_congr other] at member
    exact .inl member

theorem Custody.replied (custody : network.Custody work base payloads warnings)
    (linked : network.Linked work route) {id : JobId} {job : Job}
    (found : network.jobs[id]? = some job) (ready : job.state = .ready) :
    ((network.sent 1 (some job.request.post)
      (replyTo job.request.message (work job.request.message.payload))).setJob id
        (.posted network.nextPost)).Custody work base payloads warnings := by
  obtain ⟨replies, there, -⟩ := linked.queue (by omega : 1 < 2)
  let message := replyTo job.request.message (work job.request.message.payload)
  let after := (network.sent 1 (some job.request.post) message).setJob id (.posted network.nextPost)
  obtain ⟨held, received⟩ := books_sent (some job.request.post) message there
  have held : after.heldBy 1 = network.heldBy 1 ++
      [{ post := network.nextPost, answers := some job.request.post, message }] := held
  have received : after.receivedBy 1 = network.receivedBy 1 := received
  have other : after.heldBy 0 = network.heldBy 0 :=
    heldBy_congr (queue?_sent_other (some job.request.post) message (by decide))
  have ready : network.readyRequests.Perm (job.request :: after.readyRequests) :=
    readyRequests_answered found ready network.nextPost
  change after.Custody work base payloads warnings
  -- The request leaves the jobs as its reply enters the queue of replies.
  refine custody.moved rfl rfl received ?_ ?_ ?_
  · have posts := ready.map Parcel.post
    rw [List.perm_iff_count] at posts ⊢
    intro post
    have counted := posts post
    simp only [List.map_cons, List.count_cons] at counted
    simp only [unansweredPosts, answeredPosts, held, received, other, List.map_append,
      List.filterMap_append, List.filterMap_cons, List.filterMap_nil, List.count_append,
      List.count_cons, List.count_nil]
    omega
  · intro parcel member
    rw [other] at member
    rw [List.mem_append] at member ⊢
    exact member.imp_right (fun there => ready.mem_iff.mpr (List.mem_cons_of_mem _ there))
  · intro parcel member
    rw [held, List.mem_append] at member
    refine member.imp_right (fun last => ?_)
    obtain rfl := List.mem_singleton.mp last
    exact ⟨job.request, List.mem_append_right _ (ready.mem_iff.mpr List.mem_cons_self), rfl, rfl⟩

theorem Custody.concluded (custody : network.Custody work base payloads warnings) {id : JobId}
    {job : Job} {post : PostId} (found : network.jobs[id]? = some job)
    (posted : job.state = .posted post) :
    (network.setJob id .done).Custody work base payloads warnings := by
  have ready : (network.setJob id .done).readyRequests = network.readyRequests :=
    readyRequests_kept found (by simp [posted])
  refine custody.moved rfl rfl rfl ?_ ?_ (fun _ member => .inl member)
  · simp only [unansweredPosts, answeredPosts, ready]
    exact .refl _
  · rw [ready]
    exact fun _ member => member

theorem Custody.settled (custody : network.Custody work base payloads warnings)
    (issued : after.issued = network.issued) (same : after.warnings = network.warnings)
    (requests : after.heldBy 0 ++ after.readyRequests = network.heldBy 0 ++ network.readyRequests)
    (conserved : after.answeredPosts.Perm network.answeredPosts)
    (replies : ∀ parcel ∈ after.heldBy 1, parcel ∈ network.heldBy 1)
    (received : ∀ parcel ∈ network.receivedBy 1, parcel ∈ after.receivedBy 1)
    (calls : ∀ (id : CallId) (now : Call), after.calls[id]? = some now →
      ∃ call, network.calls[id]? = some call ∧ (now = call ∨ call.state.isLive = true ∧
        ∀ payload, (∃ place, id = base + place ∧ payloads[place]? = some payload) →
          after.Served work now payload)) :
    after.Custody work base payloads warnings := by
  -- Calls may come to their ends as long as they return what was worked out for them.
  refine ⟨?_, ?_, ?_, ?_, ?_, ?_, same.trans custody.quiet⟩
  · rw [issued]
    exact custody.counted
  · intro id now found early
    obtain ⟨call, there, rfl | ⟨live, -⟩⟩ := calls id now found
    · exact custody.finished id now there early
    · rw [custody.finished id call there early] at live
      cases live
  · rw [issued, unansweredPosts, requests]
    exact (conserved.append_left _).trans custody.conserved
  · rw [requests]
    exact fun parcel member => (custody.requests parcel member).of_issued issued
  · intro parcel member
    obtain ⟨post, payload, answers, carried, worked⟩ := custody.replies parcel (replies parcel member)
    exact ⟨post, payload, answers, carried.of_issued issued, worked⟩
  · intro place now payload found carried
    obtain ⟨call, there, rfl | ⟨-, served⟩⟩ := calls _ now found
    · refine (custody.states place now payload there carried).imp_right (fun served => ?_)
      obtain ⟨reply, member, answers⟩ := List.mem_map.mp served.2
      exact ⟨served.1, List.mem_map.mpr ⟨reply, received reply member, answers⟩⟩
    · exact .inr (served payload ⟨place, rfl, carried⟩)

theorem Custody.next_claimed (custody : network.Custody work base payloads warnings)
    (linked : network.Linked work route) {replies rest : Queue} {reply : Parcel}
    (found : network.broker.queue? 1 = some replies) (taken : replies.take? = some (reply, rest)) :
    ∃ (place : Nat) (call : Call) (payload : Bytes), network.calls[base + place]? = some call ∧
      call.state = .outstanding ∧ reply.answers = some call.post ∧
      payloads[place]? = some payload ∧ reply.message.payload = work payload ∧
      network.holder? 0 reply.message.correlationId = some (base + place) := by
  have member : reply ∈ network.heldBy 1 := (books_took found taken).1 ▸ List.mem_cons_self
  obtain ⟨place, call, payload, there, outstanding, answers, carried, worked⟩ :=
    custody.reply_outstanding linked member
  refine ⟨place, call, payload, there, outstanding, answers, carried, worked, ?_⟩
  obtain ⟨owner, owned⟩ := linked.owner
  obtain ⟨-, inbox, -⟩ := linked.owned owned
  have next := nextReply?_of_take? owned (inbox ▸ found) taken
    (inbox ▸ linked.consumed (by omega : 1 < 2))
  have id := linked.run.id_of_answers there next answers
  have own := linked.run.numbered.ids _ _ (issued_of_getElem? there)
  have same : call.correlationId = reply.message.correlationId := own.trans id.symm
  have mine : call.client = 0 := (linked.ordinal (issued_of_getElem? there)).1
  have waits := linked.run.registered.waits _ call there outstanding
  rwa [mine, same] at waits

theorem books_handed {replies rest : Queue} {reply : Parcel}
    (found : network.broker.queue? 1 = some replies) (taken : replies.take? = some (reply, rest)) :
    ((network.took 1 rest).deliver 0 reply.message).heldBy 0 = network.heldBy 0 ∧
      ((network.took 1 rest).deliver 0 reply.message).readyRequests = network.readyRequests ∧
      network.heldBy 1 = reply :: ((network.took 1 rest).deliver 0 reply.message).heldBy 1 ∧
      ((network.took 1 rest).deliver 0 reply.message).receivedBy 1 =
        reply :: network.receivedBy 1 := by
  obtain ⟨held, received⟩ := books_took found taken
  have broker := broker_deliver (network.took 1 rest) 0 reply.message
  have heldOne : ((network.took 1 rest).deliver 0 reply.message).heldBy 1 =
      (network.took 1 rest).heldBy 1 := heldBy_congr (by rw [broker])
  refine ⟨?_, ?_, held.trans (congrArg _ heldOne.symm), ?_⟩
  · exact heldBy_congr (by rw [broker]; exact queue?_took_other rest (by decide))
  · rw [readyRequests, jobs_deliver]
    rfl
  · exact (receivedBy_congr (by rw [broker])).trans received

theorem Custody.handed (custody : network.Custody work base payloads warnings)
    (linked : network.Linked work route) {replies rest : Queue} {reply : Parcel}
    (found : network.broker.queue? 1 = some replies) (taken : replies.take? = some (reply, rest)) :
    ((network.took 1 rest).deliver 0 reply.message).Custody work base payloads warnings := by
  obtain ⟨heldZero, ready, heldOne, receivedOne⟩ := books_handed found taken
  obtain ⟨place, call, payload, there, outstanding, answers, carried, worked, claimed⟩ :=
    custody.next_claimed linked found taken
  obtain ⟨owner, owned⟩ := linked.owner
  have owned : (network.took 1 rest).clients[0]? = some owner := owned
  -- Some call holds the place, so the reply is not dropped, and no warning is logged.
  rcases deliver_cases owned reply.message with ⟨missed, -⟩ | ⟨holder, held, frame, states⟩
  · cases missed.symm.trans claimed
  · obtain rfl := Option.some.inj (held.symm.trans claimed)
    refine custody.settled ?_ ?_ ?_ ?_ ?_ ?_ ?_
    · exact issued_deliver owned reply.message
    · rw [frame]
      rfl
    · rw [heldZero, ready]
    · unfold answeredPosts
      rw [receivedOne, heldOne]
      exact (List.perm_middle.symm.trans (.refl _)).filterMap _
    · rw [heldOne]
      exact fun parcel later => List.mem_cons_of_mem _ later
    · rw [receivedOne]
      exact fun parcel earlier => List.mem_cons_of_mem _ earlier
    · intro other now after
      rw [states] at after
      obtain ⟨was, before, changed⟩ := Option.map_eq_some_iff.mp after
      refine ⟨was, before, ?_⟩
      split at changed
      next given =>
        obtain ⟨rfl, live⟩ := given
        obtain rfl := Option.some.inj (there.symm.trans before)
        subst changed
        refine .inr ⟨by rw [live]; rfl, ?_⟩
        rintro payload' ⟨place', samePlace, carried'⟩
        obtain rfl := Nat.add_left_cancel samePlace
        obtain rfl := Option.some.inj (carried.symm.trans carried')
        rw [worked]
        refine ⟨.inl rfl, ?_⟩
        rw [receivedOne]
        exact List.mem_map.mpr ⟨reply, List.mem_cons_self, answers⟩
      next => exact .inl changed.symm

theorem Custody.returned (custody : network.Custody work base payloads warnings)
    (linked : network.Linked work route) (few : payloads.length ≤ 2 ^ 64) {id : CallId} {call : Call}
    {payload : Bytes} (found : network.calls[id]? = some call)
    (accepted : network.broker.isWaiting call.post = false)
    (answered : call.state = .answered payload) :
    (network.endCall id (.returned payload)).Custody work base payloads warnings := by
  have frame := endCall_frame found (.returned payload)
  rw [abandon_of_not_isWaiting accepted] at frame
  have broker : (network.endCall id (.returned payload)).broker = network.broker := by rw [frame]
  have held (queue : QueueId) : (network.endCall id (.returned payload)).heldBy queue =
      network.heldBy queue := heldBy_congr (by rw [broker])
  have received (queue : QueueId) : (network.endCall id (.returned payload)).receivedBy queue =
      network.receivedBy queue := receivedBy_congr (by rw [broker])
  have live : call.state.isLive = true := by rw [answered]; rfl
  refine custody.settled (issued_endCall found _) ?_ ?_ ?_ ?_ ?_ ?_
  · rw [frame]
  · rw [held, readyRequests, frame]
    rfl
  · rw [answeredPosts, held, received]
    exact .refl _
  · rw [held]
    exact fun _ member => member
  · rw [received]
    exact fun _ member => member
  · intro other now after
    rw [getElem?_calls_endCall found] at after
    obtain ⟨was, before, changed⟩ := Option.map_eq_some_iff.mp after
    refine ⟨was, before, ?_⟩
    split at changed
    next same =>
      subst same
      obtain rfl := Option.some.inj (found.symm.trans before)
      subst changed
      refine .inr ⟨live, ?_⟩
      rintro payload' ⟨place, rfl, carried⟩
      -- The call was handed a payload, so that is what the server worked out for it.
      obtain outstanding | ⟨answered' | returned', taken⟩ :=
        custody.states place call payload' found carried
      · cases answered.symm.trans outstanding
      · cases answered.symm.trans answered'
        rw [Served, received]
        exact ⟨.inr rfl, taken⟩
      · cases answered.symm.trans returned'
    next different =>
      split at changed
      next lost =>
        -- Its place is its own, so no other call is disconnected.
        obtain ⟨record, there, -, same, outstanding⟩ := linked.run.registered.holds _ _ _ lost.1
        have alive : record.state.isLive = true := by rw [outstanding]; rfl
        exact absurd (custody.eq_of_id linked few there found alive live same) different
      next => exact .inl changed.symm

theorem Custody.carried (custody : network.Custody work base payloads warnings) {id : CallId}
    {call : Call} (found : network.calls[id]? = some call) (late : base ≤ id) :
    ∃ place payload, id = base + place ∧ payloads[place]? = some payload := by
  obtain ⟨place, rfl⟩ := Nat.exists_eq_add_of_le late
  have within := (List.getElem?_eq_some_iff.mp (issued_of_getElem? found)).1
  rw [custody.counted] at within
  exact ⟨place, _, rfl, List.getElem?_eq_getElem (Nat.lt_of_add_lt_add_left within)⟩

theorem Custody.not_disconnected (custody : network.Custody work base payloads warnings) {id : CallId}
    {call : Call} (found : network.calls[id]? = some call) : call.state ≠ .disconnected := by
  intro disconnected
  rcases Nat.lt_or_ge id base with early | late
  · have finished := custody.finished id call found early
    rw [disconnected] at finished
    cases finished
  · obtain ⟨place, payload, rfl, carried⟩ := custody.carried found late
    rcases custody.states place call _ found carried with outstanding | ⟨answered | returned, -⟩
    · cases disconnected.symm.trans outstanding
    · cases disconnected.symm.trans answered
    · cases disconnected.symm.trans returned

theorem Custody.partyStep (custody : network.Custody work base payloads warnings)
    (linked : network.Linked work route) (few : payloads.length ≤ 2 ^ 64)
    (step : PartyStep work network after) : after.Custody work base payloads warnings := by
  cases step with
  | handed found taken => exact custody.handed linked found taken
  | fetched found taken => exact custody.fetched found taken
  | replied found ready => exact custody.replied linked found ready
  | concluded found posted => exact custody.concluded found posted
  | returned found accepted answered => exact custody.returned linked few found accepted answered
  | displaced found disconnected => exact absurd disconnected (custody.not_disconnected found)

end Steps

end Network

end LedgerNode.Bus
