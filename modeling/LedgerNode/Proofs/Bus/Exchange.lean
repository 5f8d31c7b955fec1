import LedgerNode.Proofs.Bus.Custody

set_option autoImplicit false

namespace LedgerNode.Bus

namespace Network

section Linked

variable {work : Bytes → Bytes} {route : String} {network after : Network}

theorem Linked.stepped (linked : network.Linked work route)
    (run : Run (pureResponder work) (Orderly (fun name => name = replyName route)) empty after)
    (two : after.broker.queues.length = network.broker.queues.length)
    (running : ∀ queue ∈ after.broker.queues,
      queue ∈ network.broker.queues ∨ queue.consumed = true ∧ queue.Sound)
    (registry : after.broker.registry = network.broker.registry)
    (refused : after.broker.refused = network.broker.refused)
    (one : after.clients.length = network.clients.length)
    (client : ∀ now ∈ after.clients, ∃ was ∈ network.clients, now.inbox = was.inbox ∧
      now.replyQueue = was.replyQueue ∧ now.held = was.held)
    (servers : after.servers = network.servers)
    (requests : ∀ parcel ∈ after.heldBy 0, parcel ∈ network.heldBy 0 ∨
      parcel.message.replyTo = some (replyName route))
    (jobs : ∀ job ∈ after.jobs, (∃ old ∈ network.jobs, old.request = job.request) ∨
      job.request ∈ network.heldBy 0) :
    after.Linked work route where
  run := run
  two := two.trans linked.two
  running := by
    intro queue member
    rcases running queue member with there | fine
    · exact linked.running queue there
    · exact fine
  routed := by
    unfold Broker.lookup?
    rw [registry]
    exact linked.routed
  returned := by
    unfold Broker.lookup?
    rw [registry]
    exact linked.returned
  refused := refused.trans linked.refused
  one := one.trans linked.one
  client := by
    intro now member
    obtain ⟨was, there, inbox, name, held⟩ := client now member
    rw [inbox, name, held]
    exact linked.client was there
  servers := servers.trans linked.servers
  requests := by
    intro parcel member
    rcases requests parcel member with there | asks
    · exact linked.requests parcel there
    · exact asks
  jobs := by
    intro job member
    rcases jobs job member with ⟨old, there, same⟩ | there
    · exact same ▸ linked.jobs old there
    · exact linked.requests _ there

theorem linked_clients {clients : List Client} {id : ClientId} {change : Client → Client}
    (kept : ∀ client, (change client).inbox = client.inbox ∧
      (change client).replyQueue = client.replyQueue ∧ (change client).held = client.held) :
    ∀ now ∈ clients.modify id change, ∃ was ∈ clients, now.inbox = was.inbox ∧
      now.replyQueue = was.replyQueue ∧ now.held = was.held := by
  intro now member
  rcases mem_modify member with there | ⟨old, there, rfl⟩
  · exact ⟨now, there, rfl, rfl, rfl⟩
  · exact ⟨old, List.mem_of_getElem? there, kept old⟩

theorem linked_clients_deliver (network : Network) (id : ClientId) (message : Message) :
    (network.deliver id message).clients.length = network.clients.length ∧
      ∀ now ∈ (network.deliver id message).clients, ∃ was ∈ network.clients,
        now.inbox = was.inbox ∧ now.replyQueue = was.replyQueue ∧ now.held = was.held := by
  have same {after : Network} (clients : after.clients = network.clients) :
      after.clients.length = network.clients.length ∧
        ∀ now ∈ after.clients, ∃ was ∈ network.clients,
          now.inbox = was.inbox ∧ now.replyQueue = was.replyQueue ∧ now.held = was.held := by
    rw [clients]
    exact ⟨rfl, fun now member => ⟨now, member, rfl, rfl, rfl⟩⟩
  cases owned : network.clients[id]? with
  | none => exact same (by simp [deliver, owned])
  | some client =>
    rcases deliver_cases owned message with ⟨-, dropped⟩ | ⟨_, -, frame, -⟩
    · exact same (by rw [dropped]; rfl)
    · rw [frame]
      exact ⟨List.length_modify .., linked_clients (fun _ => ⟨rfl, rfl, rfl⟩)⟩

theorem linked_queues {broker : Broker} {id : QueueId} {change : Queue → Queue}
    (fine : ∀ queue, broker.queue? id = some queue →
      (change queue).consumed = true ∧ (change queue).Sound) :
    ∀ queue ∈ (broker.update id change).queues,
      queue ∈ broker.queues ∨ queue.consumed = true ∧ queue.Sound := by
  intro queue member
  rcases mem_modify member with there | ⟨old, there, rfl⟩
  · exact .inl there
  · exact .inr (fine old there)

theorem Linked.taken (linked : network.Linked work route) {id : QueueId} {queue rest : Queue}
    {parcel : Parcel} (found : network.broker.queue? id = some queue)
    (taken : queue.take? = some (parcel, rest)) :
    ∀ other ∈ (network.broker.update id (fun _ => rest)).queues,
      other ∈ network.broker.queues ∨ other.consumed = true ∧ other.Sound := by
  refine linked_queues (fun _ _ => ?_)
  obtain ⟨consumed, sound⟩ := linked.running queue (List.mem_of_getElem? found)
  exact ⟨(Queue.takes_of_take? taken).consumed.trans consumed, sound.take? taken⟩

theorem Linked.posted (linked : network.Linked work route) (id : QueueId) (parcel : Parcel) :
    ∀ other ∈ (network.broker.update id (fun queue => queue.enqueue parcel)).queues,
      other ∈ network.broker.queues ∨ other.consumed = true ∧ other.Sound := by
  refine linked_queues (fun queue found => ?_)
  obtain ⟨consumed, sound⟩ := linked.running queue (List.mem_of_getElem? found)
  exact ⟨(Queue.consumed_enqueue ..).trans consumed, sound.enqueue parcel⟩

theorem Linked.partyStepped (linked : network.Linked work route) {base : Nat}
    {payloads : List Bytes} {warnings : List Warning}
    (custody : network.Custody work base payloads warnings)
    (run : Run (pureResponder work) (Orderly (fun name => name = replyName route)) empty after)
    (step : PartyStep work network after) : after.Linked work route := by
  have sameClients : ∀ now ∈ network.clients, ∃ was ∈ network.clients,
      now.inbox = was.inbox ∧ now.replyQueue = was.replyQueue ∧ now.held = was.held :=
    fun now member => ⟨now, member, rfl, rfl, rfl⟩
  have sameJobs : ∀ job ∈ network.jobs, (∃ old ∈ network.jobs, old.request = job.request) ∨
      job.request ∈ network.heldBy 0 := fun job member => .inl ⟨job, member, rfl⟩
  -- A step changes one queue, one client, one job or one call, and never the names.
  cases step with
  | @handed replies rest reply found taken =>
    have broker := broker_deliver (network.took 1 rest) 0 reply.message
    have clients := linked_clients_deliver (network.took 1 rest) 0 reply.message
    have zero := (books_handed found taken).1
    refine linked.stepped run ?_ ?_ ?_ ?_ clients.1 clients.2 ?_ ?_ ?_
    · rw [broker]
      exact List.length_modify ..
    · rw [broker]
      exact linked.taken found taken
    · rw [broker]
      rfl
    · rw [broker]
      rfl
    · exact servers_deliver ..
    · rw [zero]
      exact fun _ member => .inl member
    · rw [jobs_deliver]
      exact sameJobs
  | @fetched requests rest request found taken =>
    have books := (books_took found taken).1
    refine linked.stepped run (List.length_modify ..) (linked.taken found taken) rfl rfl rfl
      sameClients rfl ?_ ?_
    · intro parcel member
      rw [books]
      exact .inl (List.mem_cons_of_mem _ member)
    · intro job member
      rcases List.mem_append.mp member with earlier | last
      · exact sameJobs job earlier
      · obtain rfl := List.mem_singleton.mp last
        rw [books]
        exact .inr List.mem_cons_self
  | @replied id job found ready =>
    let message := replyTo job.request.message (work job.request.message.payload)
    have zero : (network.sent 1 (some job.request.post) message).heldBy 0 = network.heldBy 0 :=
      heldBy_congr (queue?_sent_other _ _ (by decide))
    refine linked.stepped run (List.length_modify ..) (linked.posted 1 _) rfl rfl rfl
      sameClients rfl ?_ (fun job member => .inl (request_of_setJob member))
    intro parcel member
    exact .inl (zero ▸ member)
  | concluded found posted =>
    exact linked.stepped run rfl (fun _ member => .inl member) rfl rfl rfl sameClients rfl
      (fun _ member => .inl member) (fun job member => .inl (request_of_setJob member))
  | @returned id call payload found accepted answered =>
    have frame := endCall_frame found (.returned payload)
    rw [abandon_of_not_isWaiting accepted] at frame
    rw [frame] at run ⊢
    exact linked.stepped run rfl (fun _ member => .inl member) rfl rfl (List.length_modify ..)
      (linked_clients (fun _ => ⟨rfl, rfl, rfl⟩)) rfl (fun _ member => .inl member) sameJobs
  | displaced found disconnected => exact absurd disconnected (custody.not_disconnected found)

def called (network : Network) (owner : Client) (route : String) (payload : Bytes)
    (timeout : Duration) : Network :=
  (network.launched 0 owner route timeout).sent 0 none (owner.request payload)

theorem Linked.startCall (linked : network.Linked work route) {owner : Client}
    (owned : network.clients[0]? = some owner) (payload : Bytes) {timeout : Duration}
    (positive : 0 < timeout.nanoseconds) :
    network.startCall 0 route payload timeout = network.called owner route payload timeout := by
  have published (parcel : Parcel) : network.broker.publish route parcel =
      .ok (network.broker.update 0 (fun queue => queue.enqueue parcel)) :=
    Broker.publish_eq_ok.mpr ⟨0, linked.routed, linked.consumed (by omega : 0 < 2), rfl⟩
  have posted : (network.launched 0 owner route timeout).post route (owner.request payload) none =
      .ok (network.called owner route payload timeout) := by
    simp only [post, broker_launched, published]
    simp [called, sent]
  rw [startCall_eq owned, posted]
  exact if_neg (Nat.ne_of_gt positive)

theorem books_called (linked : network.Linked work route) (owner : Client) (payload : Bytes)
    (timeout : Duration) :
    (network.called owner route payload timeout).heldBy 0 =
        network.heldBy 0 ++ [{ post := network.nextPost, answers := none
                               message := owner.request payload }] ∧
      (network.called owner route payload timeout).heldBy 1 = network.heldBy 1 ∧
      (network.called owner route payload timeout).receivedBy 1 = network.receivedBy 1 ∧
      (network.called owner route payload timeout).readyRequests = network.readyRequests := by
  obtain ⟨queue, found, -⟩ := linked.queue (by omega : 0 < 2)
  have launched : (network.launched 0 owner route timeout).broker.queue? 0 = some queue := by
    rw [broker_launched, found]
  have other : (network.called owner route payload timeout).broker.queue? 1 =
      network.broker.queue? 1 :=
    (queue?_sent_other _ _ (by decide)).trans (by rw [broker_launched])
  refine ⟨?_, heldBy_congr other, receivedBy_congr other, ?_⟩
  · have same : (network.launched 0 owner route timeout).heldBy 0 = network.heldBy 0 :=
      heldBy_congr (by rw [broker_launched])
    rw [called, (books_sent none (owner.request payload) launched).1, nextPost_launched, same]
  · rw [readyRequests, called, sent, jobs_launched, readyRequests]

theorem Linked.called (linked : network.Linked work route) {owner : Client}
    (owned : network.clients[0]? = some owner) {payload : Bytes} {timeout : Duration}
    (run : Run (pureResponder work) (Orderly (fun name => name = replyName route)) empty
      (network.called owner route payload timeout)) :
    (network.called owner route payload timeout).Linked work route := by
  -- A call adds a request that asks for its reply in the reply queue, and no queue, client or job.
  have frame := launched_frame network 0 owner route timeout
  have broker : (network.called owner route payload timeout).broker =
      network.broker.update 0 (fun queue => queue.enqueue
        { post := network.nextPost, answers := none, message := owner.request payload }) := by
    simp [Network.called, sent]
  obtain ⟨held, -⟩ := books_called linked owner payload timeout
  refine linked.stepped run ?_ ?_ ?_ ?_ ?_ ?_ ?_ ?_ ?_
  · rw [broker]
    exact List.length_modify ..
  · rw [broker]
    exact linked.posted 0 _
  · rw [broker]
    rfl
  · rw [broker]
    rfl
  · simp only [Network.called, sent]
    rw [frame]
    exact List.length_modify ..
  · simp only [Network.called, sent]
    rw [frame]
    exact linked_clients (fun _ => ⟨rfl, rfl, rfl⟩)
  · simp [Network.called, sent]
  · intro parcel member
    rw [held] at member
    rcases List.mem_append.mp member with there | last
    · exact .inl there
    · obtain rfl := List.mem_singleton.mp last
      exact .inr (congrArg some (linked.owned owned).2.2.1)
  · intro job member
    simp only [Network.called, sent, jobs_launched] at member
    exact .inl ⟨job, member, rfl⟩

theorem Carries.called {base : Nat} {payloads : List Bytes} {post : PostId} {content : Bytes}
    (carried : network.Carries base payloads post content) (owner : Client) (payload : Bytes)
    (timeout : Duration) :
    (network.called owner route payload timeout).Carries base (payloads ++ [payload]) post
      content := by
  obtain ⟨place, call, found, posted, carried⟩ := carried
  have issued : (network.called owner route payload timeout).issued =
      network.issued ++ [network.startedCall 0 owner route timeout] := issued_launched ..
  refine ⟨place, call, ?_, posted, ?_⟩
  · rw [issued, List.getElem?_append_left (List.getElem?_eq_some_iff.mp found).1, found]
  · rw [List.getElem?_append_left (List.getElem?_eq_some_iff.mp carried).1, carried]

theorem Custody.called {base : Nat} {payloads : List Bytes} {warnings : List Warning}
    (custody : network.Custody work base payloads warnings) (linked : network.Linked work route)
    (few : payloads.length < 2 ^ 64) {owner : Client} (owned : network.clients[0]? = some owner)
    (payload : Bytes) (timeout : Duration) :
    (network.called owner route payload timeout).Custody work base (payloads ++ [payload])
      warnings := by
  obtain ⟨held, heldOne, receivedOne, ready⟩ := books_called linked owner payload timeout
  have issued : (network.called owner route payload timeout).issued =
      network.issued ++ [network.startedCall 0 owner route timeout] := issued_launched ..
  -- A call that had the new id would be disconnected here, so the ids must not have run out.
  have free := custody.next_free linked few owned
  have calls (id : CallId) : (network.called owner route payload timeout).calls[id]? =
      (network.calls ++ [network.startedCall 0 owner route timeout])[id]? := by
    refine (getElem?_calls_launched network 0 owner route timeout id).trans ?_
    simp [free]
  have length : network.calls.length = base + payloads.length := by
    rw [← custody.counted, Network.issued, List.length_map]
  refine ⟨?_, ?_, ?_, ?_, ?_, ?_, ?_⟩
  · rw [issued, List.length_append, List.length_append, custody.counted, Nat.add_assoc]
    rfl
  · intro id call found early
    have within : id < network.calls.length :=
      Nat.lt_of_lt_of_le early (length ▸ Nat.le_add_right ..)
    rw [calls, List.getElem?_append_left within] at found
    exact custody.finished id call found early
  · rw [issued, unansweredPosts, answeredPosts, held, heldOne, receivedOne, ready]
    have conserved := custody.conserved
    rw [List.perm_iff_count] at conserved ⊢
    intro post
    have counted := conserved post
    simp only [unansweredPosts, answeredPosts, startedCall, List.map_append, List.map_cons,
      List.map_nil, List.count_append, List.count_cons, List.count_nil] at counted ⊢
    omega
  · intro parcel member
    rw [held, ready] at member
    simp only [List.mem_append, List.mem_singleton] at member
    rcases member with (there | rfl) | there
    · exact (custody.requests parcel (List.mem_append_left _ there)).called owner payload timeout
    · refine ⟨payloads.length, network.startedCall 0 owner route timeout, ?_, rfl, ?_⟩
      · rw [issued, ← custody.counted, List.getElem?_concat_length]
      · rw [List.getElem?_concat_length]
        rfl
    · exact (custody.requests parcel (List.mem_append_right _ there)).called owner payload timeout
  · intro parcel member
    rw [heldOne] at member
    obtain ⟨post, content, answers, carried, worked⟩ := custody.replies parcel member
    exact ⟨post, content, answers, carried.called owner payload timeout, worked⟩
  · intro place call content found carried
    rw [calls] at found
    rw [List.getElem?_append] at found carried
    unfold Served
    rw [receivedOne]
    split at carried
    next within =>
      rw [if_pos (by omega)] at found
      exact custody.states place call content found carried
    next beyond =>
      rw [if_neg (by omega)] at found
      obtain ⟨_, rfl⟩ := List.getElem?_eq_some_iff.mp found
      simp [startedCall]
  · simp only [Network.called, sent]
    rw [launched_frame]
    exact custody.quiet

theorem Linked.take_none (linked : network.Linked work route)
    (stuck : network.perform (pureResponder work) (.take 0) = none) : network.heldBy 0 = [] := by
  obtain ⟨queue, found, consumed, sound⟩ := linked.queue (by omega : 0 < 2)
  rw [heldBy_of_queue? found]
  cases taken : queue.take? with
  | none => exact sound.held_eq_nil taken
  | some both =>
    obtain ⟨parcel, rest⟩ := both
    have served : network.servers[0]? = some { inbox := 0 } := by rw [linked.servers]; rfl
    simp [perform, take, served, linked.consumed (by omega : 0 < 2), receive, Broker.receive, found,
      taken] at stuck

theorem Linked.dispatch_none (linked : network.Linked work route)
    (stuck : network.perform (pureResponder work) (.dispatch 0) = none) :
    network.heldBy 1 = [] := by
  obtain ⟨queue, found, consumed, sound⟩ := linked.queue (by omega : 1 < 2)
  obtain ⟨owner, owned⟩ := linked.owner
  obtain ⟨-, inbox, -⟩ := linked.owned owned
  rw [heldBy_of_queue? found]
  cases taken : queue.take? with
  | none => exact sound.held_eq_nil taken
  | some both =>
    obtain ⟨parcel, rest⟩ := both
    have next := nextReply?_of_take? owned (inbox ▸ found) taken
      (inbox ▸ linked.consumed (by omega : 1 < 2))
    obtain ⟨_, _, _, -, -, -, performed⟩ := perform_dispatch (pureResponder work) next
    cases stuck.symm.trans performed

theorem Linked.not_isWaiting (linked : network.Linked work route) (server : network.heldBy 0 = [])
    (client : network.heldBy 1 = []) (post : PostId) :
    network.broker.isWaiting post = false := by
  apply List.any_eq_false.mpr
  intro queue member
  obtain ⟨id, found⟩ := List.getElem?_of_mem member
  have within := (List.getElem?_eq_some_iff.mp found).1
  rw [linked.two] at within
  have held : queue.held = [] := by
    rw [← heldBy_of_queue? found]
    rcases by omega with rfl | rfl : id = 0 ∨ id = 1
    · exact server
    · exact client
  have nobody : queue.waiting = [] := (List.append_eq_nil_iff.mp held).2
  simp [Queue.isWaiting, nobody]

theorem Linked.answer_isSome (linked : network.Linked work route) {id : JobId} {job : Job}
    (found : network.jobs[id]? = some job) (ready : job.state = .ready) :
    (network.perform (pureResponder work) (.answer id)).isSome = true := by
  have asks := linked.jobs job (List.mem_of_getElem? found)
  have published (parcel : Parcel) : network.broker.publish (replyName route) parcel =
      .ok (network.broker.update 1 (fun queue => queue.enqueue parcel)) :=
    Broker.publish_eq_ok.mpr ⟨1, linked.returned, linked.consumed (by omega : 1 < 2), rfl⟩
  simp [perform, answer, found, ready, pureResponder, asks, post, published]

theorem Linked.ready_none (linked : network.Linked work route)
    (stuck : ∀ id < network.jobs.length,
      network.perform (pureResponder work) (.answer id) = none) : network.readyRequests = [] := by
  apply List.eq_nil_iff_forall_not_mem.mpr
  intro request member
  obtain ⟨job, there, -⟩ := List.mem_map.mp member
  obtain ⟨there, ready⟩ := List.mem_filter.mp there
  obtain ⟨id, found⟩ := List.getElem?_of_mem there
  have within := (List.getElem?_eq_some_iff.mp found).1
  have can := linked.answer_isSome found (by simpa using ready)
  rw [stuck id within] at can
  cases can

theorem Linked.reply_not_received (linked : network.Linked work route) {id : CallId} {call : Call}
    (found : network.calls[id]? = some call) (outstanding : call.state = .outstanding) :
    call.post ∉ (network.receivedBy 1).filterMap Parcel.answers := by
  intro answered
  obtain ⟨reply, taken, answers⟩ := List.mem_filterMap.mp answered
  have mine : call.client = 0 := (linked.ordinal (issued_of_getElem? found)).1
  obtain ⟨owner, owned⟩ := linked.owner
  obtain ⟨queue, there, -⟩ := linked.queue (by omega : 1 < 2)
  have member : reply ∈ network.takenReplies call.client := by
    rw [mine]
    have inbox : owner.profile.inbox = 1 := (linked.owned owned).2.1
    rw [receivedBy_of_queue? there] at taken
    exact takenReplies_of_mem (profile_of_getElem? owned) (inbox ▸ there) taken
  exact linked.run.unanswered _ call found outstanding reply member answers

theorem Custody.at_rest {base : Nat} {payloads : List Bytes} {warnings : List Warning}
    (custody : network.Custody work base payloads warnings) (linked : network.Linked work route)
    (rest : network.AtRest (pureResponder work)) :
    network.heldBy 0 = [] ∧ network.heldBy 1 = [] ∧ network.readyRequests = [] ∧
      ((network.receivedBy 1).filterMap Parcel.answers).Perm (network.issued.map Call.post) ∧
      ∀ (place : Nat) (call : Call) (payload : Bytes), network.calls[base + place]? = some call →
        payloads[place]? = some payload → call.state = .returned (work payload) := by
  have server : network.heldBy 0 = [] := by
    apply linked.take_none
    apply rest
    simp [partyActions, linked.servers]
  have client : network.heldBy 1 = [] := by
    apply linked.dispatch_none
    apply rest
    simp [partyActions, linked.one]
  have ready : network.readyRequests = [] := by
    apply linked.ready_none
    intro id within
    apply rest
    simp [partyActions, within]
  -- Requests are conserved, and the only custody that is left is that of a reply that was taken.
  have answered : ((network.receivedBy 1).filterMap Parcel.answers).Perm
      (network.issued.map Call.post) := by
    have conserved := custody.conserved
    simpa [unansweredPosts, answeredPosts, server, client, ready] using conserved
  refine ⟨server, client, ready, answered, ?_⟩
  intro place call payload found carried
  rcases custody.states place call payload found carried with outstanding | ⟨handed | returned, -⟩
  · -- The reply to an outstanding call was not taken, but there is no other place for it.
    have issued := issued_of_getElem? found
    have posted : call.post ∈ network.issued.map Call.post :=
      List.mem_map.mpr ⟨call.issue, List.mem_of_getElem? issued, rfl⟩
    exact absurd (answered.mem_iff.mpr posted) (linked.reply_not_received found outstanding)
  · -- A call that was handed its reply could finish, so it already has.
    have accepted := linked.not_isWaiting server client call.post
    have kept : network.broker.isRefused call.post = false := by
      simp [Broker.isRefused, linked.refused]
    have within := (List.getElem?_eq_some_iff.mp found).1
    have stuck := rest (.finish (base + place)) (by simp [partyActions, within])
    simp [perform, finish, found, kept, accepted, handed, CallState.isLive] at stuck
  · exact returned

theorem Custody.progress {base : Nat} {payloads : List Bytes} {warnings : List Warning}
    (custody : network.Custody work base payloads warnings) (linked : network.Linked work route)
    {id : CallId} {call : Call} (found : network.calls[id]? = some call)
    (live : call.state.isLive = true) :
    ∃ action ∈ network.partyActions,
      (network.perform (pureResponder work) action).isSome = true := by
  -- If nobody could step, the network would be at rest, where no call is live.
  by_contra stuck
  have rest : network.AtRest (pureResponder work) := by
    intro action member
    cases performed : network.perform (pureResponder work) action with
    | none => rfl
    | some after => exact absurd ⟨action, member, by rw [performed]; rfl⟩ stuck
  obtain ⟨-, -, -, -, returned⟩ := custody.at_rest linked rest
  rcases Nat.lt_or_ge id base with early | late
  · rw [custody.finished id call found early] at live
    cases live
  · obtain ⟨place, payload, rfl, carried⟩ := custody.carried found late
    rw [returned place call _ found carried] at live
    cases live

end Linked

/-- Runs in which the client calls the route with the payloads one after the other, while the parties
step and time passes; no call gives up. -/
inductive Exchange (work : Bytes → Bytes) (route : String) (start : Network) :
    List Bytes → Network → Prop where
  | start : Exchange work route start [] start
  | call {payloads : List Bytes} {network after : Network} {payload : Bytes} {timeout : Duration} :
      Exchange work route start payloads network → 0 < timeout.nanoseconds →
      network.perform (pureResponder work) (.call 0 route payload timeout) = some after →
      Exchange work route start (payloads ++ [payload]) after
  | party {payloads : List Bytes} {network after : Network} {action : Action} :
      Exchange work route start payloads network → action.isParty = true →
      network.perform (pureResponder work) action = some after →
      Exchange work route start payloads after
  | tick {payloads : List Bytes} {network : Network} (nanoseconds : Nat) :
      Exchange work route start payloads network →
      Exchange work route start payloads { network with clock := network.clock + nanoseconds }

theorem orderly_of_isParty {names : String → Prop} {network : Network} {action : Action}
    (party : action.isParty = true) : Orderly names network action := by
  cases action with
  | dispatch | finish | retire | take | answer | conclude => trivial
  | _ => cases party

theorem Linked.isReplyQueue {work : Bytes → Bytes} {route : String} {network : Network}
    (linked : network.Linked work route) : ¬network.IsReplyQueue route := by
  rintro ⟨client, member, bound⟩
  rw [(linked.client client member).1, linked.routed] at bound
  cases bound

theorem Exchange.spec {work : Bytes → Bytes} {route : String} {base : Nat} {payloads : List Bytes}
    {warnings : List Warning} {start network : Network}
    (exchange : Exchange work route start payloads network) (linked : start.Linked work route)
    (custody : start.Custody work base [] warnings) (few : payloads.length ≤ 2 ^ 64) :
    network.Linked work route ∧ network.Custody work base payloads warnings := by
  -- On the run: the links make each step one of the six, and those keep links and custody.
  induction exchange with
  | start => exact ⟨linked, custody⟩
  | @call payloads network after payload timeout exchange positive performed ih =>
    rw [List.length_append, List.length_singleton] at few
    obtain ⟨linked, custody⟩ := ih (by omega)
    obtain ⟨owner, owned⟩ := linked.owner
    have started : network.perform (pureResponder work) (.call 0 route payload timeout) =
        some (network.called owner route payload timeout) := by
      simp [perform, owned, (linked.owned owned).2.2.2, linked.startCall owned payload positive]
    obtain rfl := Option.some.inj (performed.symm.trans started)
    have orderly : Orderly (fun name => name = replyName route) network
        (.call 0 route payload timeout) := linked.isReplyQueue
    have run := linked.run.next _ orderly performed
    exact ⟨linked.called owned run, custody.called linked (by omega) owned payload timeout⟩
  | party _ party performed ih =>
    obtain ⟨linked, custody⟩ := ih few
    have step := linked.partyStep party performed
    have run := linked.run.next _ (orderly_of_isParty party) performed
    exact ⟨linked.partyStepped custody run step, custody.partyStep linked few step⟩
  | tick nanoseconds _ ih =>
    obtain ⟨linked, custody⟩ := ih few
    have run := linked.run.next (.tick nanoseconds) trivial rfl
    refine ⟨linked.stepped run rfl (fun _ member => .inl member) rfl rfl rfl
      (fun now member => ⟨now, member, rfl, rfl, rfl⟩) rfl (fun _ member => .inl member)
      (fun job member => .inl ⟨job, member, rfl⟩), custody.ticked nanoseconds⟩

theorem Exchange.proceed {work : Bytes → Bytes} {route : String} {payloads : List Bytes}
    {start network after : Network} (exchange : Exchange work route start payloads network)
    (run : Run (pureResponder work) PartyAction network after) :
    Exchange work route start payloads after := by
  induction run with
  | start => exact exchange
  | next _ _ party performed ih => exact .party ih party performed

section Rest

variable {work : Bytes → Bytes} {route : String} {base : Nat} {payloads : List Bytes}
  {warnings : List Warning} {network : Network}

theorem Custody.over_at_rest (custody : network.Custody work base payloads warnings)
    (linked : network.Linked work route) (rest : network.AtRest (pureResponder work)) {id : CallId}
    {call : Call} (found : network.calls[id]? = some call) : call.state.isLive = false := by
  cases live : call.state.isLive with
  | false => rfl
  | true =>
    obtain ⟨action, member, can⟩ := custody.progress linked found live
    rw [rest action member] at can
    cases can

theorem Custody.renewed (custody : network.Custody work base payloads warnings)
    (linked : network.Linked work route) (rest : network.AtRest (pureResponder work)) :
    network.Custody work network.calls.length [] warnings := by
  obtain ⟨server, client, ready, -, -⟩ := custody.at_rest linked rest
  refine ⟨by simp [issued], ?_, custody.conserved, ?_, ?_, ?_, custody.quiet⟩
  · intro id call found _
    exact custody.over_at_rest linked rest found
  · simp [server, ready]
  · simp [client]
  · intro place call payload _ carried
    cases carried

theorem await_eq_settle (calls : List CallId)
    (linked : (network.settle (pureResponder work)).Linked work route)
    (custody : (network.settle (pureResponder work)).Custody work base payloads warnings) :
    network.await (pureResponder work) calls = network.settle (pureResponder work) := by
  have rest := (settle_spec (pureResponder work) network).2
  have nobody : (network.settle (pureResponder work)).liveCalls = [] := by
    apply List.filter_eq_nil_iff.mpr
    intro id _ live
    obtain ⟨call, found, live⟩ := (Option.any_eq_true _ _).mp live
    rw [custody.over_at_rest linked rest found] at live
    cases live
  unfold await
  simp only [nobody]
  rfl

end Rest

end Network

end LedgerNode.Bus
