import LedgerNode.Proofs.Bus.Queues

set_option autoImplicit false

/-!
What a step of a bus can do. Every action changes the bus in one of the ways listed by `Change`, with
what has to hold for it, and a call that is started may come to its end in the same step. Invariants
are proved for changes, one way at a time, and hold of whole runs by `Run.invariant`.
-/

namespace LedgerNode.Bus

def Client.request (client : Client) (payload : Bytes) : Message where
  correlationId := client.nextId
  replyTo := some client.replyQueue
  payload := payload

def Action.endsCall : Action → Bool
  | abort _ | expire _ | finish _ => true
  | _ => false

namespace Network

def opened (network : Network) (name : String) (capacity : Nat) : Network :=
  { network with broker := network.broker.opened name capacity }

def connected (network : Network) (name : String) (capacity : Nat) : Network :=
  let client : Client := {
    replyQueue := name
    inbox := network.broker.queues.length
    nextId := 0
    pending := []
    held := true }
  { network.opened name capacity with clients := network.clients ++ [client] }

def sent (network : Network) (queue : QueueId) (answers : Option PostId) (message : Message) :
    Network :=
  { network with
    broker := network.broker.update queue
      (fun queue => queue.enqueue { post := network.nextPost, answers, message })
    nextPost := network.nextPost + 1 }

def took (network : Network) (queue : QueueId) (rest : Queue) : Network :=
  { network with broker := network.broker.update queue (fun _ => rest) }

def startedCall (network : Network) (client : ClientId) (owner : Client) (route : String)
    (timeout : Duration) : Call where
  client := client
  correlationId := owner.nextId
  route := route
  post := network.nextPost
  timeout := timeout
  deadline := network.clock + timeout.nanoseconds
  state := .outstanding

def launched (network : Network) (client : ClientId) (owner : Client) (route : String)
    (timeout : Duration) : Network :=
  let record := network.startedCall client owner route timeout
  ({ network with calls := network.calls ++ [record] } : Network).register client owner.nextId
    network.calls.length

def afterPost (network : Network) (call : CallId) (timeout : Duration) :
    Except BusError Network → Network
  | .error error =>
    ({ network with nextPost := network.nextPost + 1 } : Network).endCall call (.failed error)
  | .ok posted => if timeout.nanoseconds = 0 then posted.giveUp call else posted

def fetched (network : Network) (server : ServerId) (queue : QueueId) (request : Parcel)
    (rest : Queue) : Network :=
  let job : Job :=
    { server, index := network.receivedCount queue, request, state := .ready }
  { network.took queue rest with jobs := network.jobs ++ [job] }

inductive Ending (network : Network) (call : Call) : CallState → Prop where
  | refused (refused : network.broker.isRefused call.post = true) :
      Ending network call (.failed (.queueClosed call.route))
  | unsent {error : BusError} {parcel : Parcel}
      (failed : network.broker.publish call.route parcel = .error error) :
      Ending network call (.failed error)
  | answered {payload : Bytes} (kept : network.broker.isRefused call.post = false)
      (accepted : network.broker.isWaiting call.post = false)
      (answered : call.state = .answered payload) :
      Ending network call (.returned payload)
  | disconnected (kept : network.broker.isRefused call.post = false)
      (accepted : network.broker.isWaiting call.post = false)
      (disconnected : call.state = .disconnected) :
      Ending network call (.failed .disconnected)
  | late (kept : network.broker.isRefused call.post = false)
      (unanswered : network.broker.isWaiting call.post = true ∨ call.state = .outstanding)
      (due : call.deadline ≤ network.clock) :
      Ending network call (.failed (.timeout call.timeout))
  | aborted : Ending network call .aborted

def Ended (network after : Network) : Prop :=
  ∃ id call state, network.calls[id]? = some call ∧ call.state.isLive = true ∧
    Ending network call state ∧ after = network.endCall id state

def EndedBy (network : Network) (id : CallId) (state : CallState) (after : Network) : Prop :=
  ∃ call, network.calls[id]? = some call ∧ call.state.isLive = true ∧
    Ending network call state ∧ after = network.endCall id state

inductive Leaving (network : Network) : Action → QueueId → Prop where
  | dropped {queue : QueueId} (outside : network.isOutside queue = true) :
      Leaving network (.dropConsumer queue) queue
  | clientTold {id : ClientId} {client : Client} (owned : network.clients[id]? = some client)
      (closed : (network.broker.receive client.inbox).1 = .closed) :
      Leaving network (.dispatch id) client.inbox
  | serverTold {id : ServerId} {server : Server} (owned : network.servers[id]? = some server)
      (closed : (network.broker.receive server.inbox).1 = .closed) :
      Leaving network (.take id) server.inbox
  | retired {id : ClientId} {client : Client} (owned : network.clients[id]? = some client)
      (released : client.held = false) (idle : network.hasLiveCall id = false) :
      Leaving network (.retire id) client.inbox

inductive Change (respond : Responder) : Action → Network → Network → Prop where
  | idle {network : Network} {queue : QueueId} : Change respond (.receive queue) network network
  | opened {network : Network} {name : String} {capacity : Nat}
      (free : (network.broker.lookup? name).any network.broker.isConsumed = false) :
      Change respond (.declare name capacity) network (network.opened name capacity)
  | connected {network : Network} {name : String} {capacity : Nat}
      (free : (network.broker.lookup? name).any network.broker.isConsumed = false) :
      Change respond (.connect name capacity) network (network.connected name capacity)
  | published {network : Network} {name : String} {message : Message} {answers : Option PostId}
      {queue : QueueId} (bound : network.broker.lookup? name = some queue)
      (consumed : network.broker.isConsumed queue = true) :
      Change respond (.publish name message answers) network (network.sent queue answers message)
  | withdrew {network : Network} {post : PostId} :
      Change respond (.abandon post) network (network.abandon post)
  | received {network : Network} {id : QueueId} {queue rest : Queue} {parcel : Parcel}
      (outside : network.isOutside id = true) (found : network.broker.queue? id = some queue)
      (taken : queue.take? = some (parcel, rest)) :
      Change respond (.receive id) network (network.took id rest)
  | left {action : Action} {network : Network} {queue : QueueId}
      (leaving : network.Leaving action queue)
      (consumed : network.broker.isConsumed queue = true) :
      Change respond action network (network.dropConsumer queue)
  | unbound {network : Network} {name : String} :
      Change respond (.delete name) network (network.delete name).2
  | launched {network : Network} {client : ClientId} {owner : Client} {route : String}
      {payload : Bytes} {timeout : Duration} {queue : QueueId}
      (owned : network.clients[client]? = some owner)
      (bound : network.broker.lookup? route = some queue)
      (consumed : network.broker.isConsumed queue = true) :
      Change respond (.call client route payload timeout) network
        ((network.launched client owner route timeout).sent queue none (owner.request payload))
  | misfired {network : Network} {client : ClientId} {owner : Client} {route : String}
      {payload : Bytes} {timeout : Duration} {error : BusError} {parcel : Parcel}
      (owned : network.clients[client]? = some owner)
      (failed : network.broker.publish route parcel = .error error) :
      Change respond (.call client route payload timeout) network
        { network.launched client owner route timeout with nextPost := network.nextPost + 1 }
  | ended {action : Action} {network after : Network} (ends : action.endsCall = true)
      (ended : network.Ended after) : Change respond action network after
  | released {network : Network} {client : ClientId} :
      Change respond (.dropClient client) network
        (network.updateClient client (fun client => { client with held := false }))
  | served {network : Network} {queue : QueueId} (outside : network.isOutside queue = true)
      (consumed : network.broker.isConsumed queue = true) :
      Change respond (.serve queue) network (network.serve queue).2
  | ticked {network : Network} {nanoseconds : Nat} :
      Change respond (.tick nanoseconds) network
        { network with clock := network.clock + nanoseconds }
  | delivered {network : Network} {id : ClientId} {client : Client} {queue rest : Queue}
      {parcel : Parcel} (owned : network.clients[id]? = some client)
      (found : network.broker.queue? client.inbox = some queue)
      (taken : queue.take? = some (parcel, rest))
      (consumed : network.broker.isConsumed client.inbox = true) :
      Change respond (.dispatch id) network
        ((network.took client.inbox rest).deliver id parcel.message)
  | fetched {network : Network} {id : ServerId} {server : Server} {queue rest : Queue}
      {parcel : Parcel} (owned : network.servers[id]? = some server)
      (found : network.broker.queue? server.inbox = some queue)
      (taken : queue.take? = some (parcel, rest)) :
      Change respond (.take id) network (network.fetched id server.inbox parcel rest)
  | replied {network : Network} {id : JobId} {job : Job} {payload : Bytes} {name : String}
      {queue : QueueId} (found : network.jobs[id]? = some job) (ready : job.state = .ready)
      (worked : respond job.server job.index job.request.message.payload = some payload)
      (named : job.request.message.replyTo = some name)
      (bound : network.broker.lookup? name = some queue)
      (consumed : network.broker.isConsumed queue = true) :
      Change respond (.answer id) network
        ((network.sent queue (some job.request.post)
          (replyTo job.request.message payload)).setJob id (.posted network.nextPost))
  | undeliverable {network : Network} {id : JobId} {job : Job} {name : String}
      {warning : Warning} {error : BusError} {parcel : Parcel}
      (found : network.jobs[id]? = some job) (ready : job.state = .ready)
      (named : job.request.message.replyTo = some name)
      (failed : network.broker.publish name parcel = .error error) :
      Change respond (.answer id) network ((network.warn warning).setJob id .done)
  | silent {network : Network} {id : JobId} {job : Job}
      (found : network.jobs[id]? = some job) (ready : job.state = .ready)
      (nothing : respond job.server job.index job.request.message.payload = none ∨
        job.request.message.replyTo = none) :
      Change respond (.answer id) network (network.setJob id .done)
  | rejected {network : Network} {id : JobId} {job : Job} {post : PostId} {warning : Warning}
      (found : network.jobs[id]? = some job) (posted : job.state = .posted post)
      (refused : network.broker.isRefused post = true) :
      Change respond (.conclude id) network ((network.warn warning).setJob id .done)
  | concluded {network : Network} {id : JobId} {job : Job} {post : PostId}
      (found : network.jobs[id]? = some job) (posted : job.state = .posted post)
      (accepted : network.broker.isWaiting post = false) :
      Change respond (.conclude id) network (network.setJob id .done)

theorem EndedBy.ended {network after : Network} {id : CallId} {state : CallState}
    (ended : network.EndedBy id state after) : network.Ended after := by
  obtain ⟨call, found, live, ending, same⟩ := ended
  exact ⟨id, call, state, found, live, ending, same⟩

theorem Ended.change {respond : Responder} {before after : Network} (ended : before.Ended after) :
    Change respond (.abort 0) before after :=
  .ended rfl ended

theorem queue?_took {network : Network} {id : QueueId} {queue : Queue} (rest : Queue)
    (found : network.broker.queue? id = some queue) :
    (network.took id rest).broker.queue? id = some rest := by
  refine (Broker.queue?_update ..).trans ?_
  simp [found]

theorem queue?_took_other {network : Network} {id other : QueueId} (rest : Queue)
    (different : other ≠ id) :
    (network.took id rest).broker.queue? other = network.broker.queue? other :=
  (Broker.queue?_update ..).trans (if_neg different)

theorem queue?_sent {network : Network} {id : QueueId} {queue : Queue} (answers : Option PostId)
    (message : Message) (found : network.broker.queue? id = some queue) :
    (network.sent id answers message).broker.queue? id =
      some (queue.enqueue { post := network.nextPost, answers, message }) := by
  refine (Broker.queue?_update ..).trans ?_
  simp [found]

theorem queue?_sent_other {network : Network} {id other : QueueId} (answers : Option PostId)
    (message : Message) (different : other ≠ id) :
    (network.sent id answers message).broker.queue? other = network.broker.queue? other :=
  (Broker.queue?_update ..).trans (if_neg different)

theorem declare_eq_ok {network after : Network} {name : String} {capacity : Nat} {id : QueueId}
    (declared : network.declare name capacity = .ok (id, after)) :
    (network.broker.lookup? name).any network.broker.isConsumed = false ∧
      id = network.broker.queues.length ∧ after = network.opened name capacity := by
  unfold declare at declared
  split at declared
  next broker found =>
    cases declared
    obtain ⟨free, rfl, rfl⟩ := Broker.declare_eq_ok found
    exact ⟨free, rfl, rfl⟩
  next => cases declared

theorem connect_eq_ok {network after : Network} {name : String} {capacity : Nat} {id : ClientId}
    (done : network.connect name capacity = .ok (id, after)) :
    (network.broker.lookup? name).any network.broker.isConsumed = false ∧
      id = network.clients.length ∧ after = network.connected name capacity := by
  unfold connect at done
  split at done
  next inbox declared found =>
    obtain ⟨free, rfl, rfl⟩ := declare_eq_ok found
    cases done
    exact ⟨free, rfl, rfl⟩
  next => cases done

theorem post_eq_ok {network after : Network} {name : String} {message : Message}
    {answers : Option PostId} (posted : network.post name message answers = .ok after) :
    ∃ queue, network.broker.lookup? name = some queue ∧
      network.broker.isConsumed queue = true ∧ after = network.sent queue answers message := by
  unfold post at posted
  split at posted
  next broker found =>
    cases posted
    obtain ⟨queue, bound, consumed, rfl⟩ := Broker.publish_eq_ok.mp found
    exact ⟨queue, bound, consumed, rfl⟩
  next => cases posted

theorem post_eq_error {network : Network} {name : String} {message : Message}
    {answers : Option PostId} {error : BusError}
    (failed : network.post name message answers = .error error) :
    network.broker.publish name { post := network.nextPost, answers, message } = .error error := by
  unfold post at failed
  split at failed
  next => cases failed
  next reason found =>
    cases failed
    exact found

theorem receive_cases (network : Network) (id : QueueId) :
    (∃ queue parcel rest, network.broker.queue? id = some queue ∧
      queue.take? = some (parcel, rest) ∧
      network.receive id = (.message parcel, network.took id rest)) ∨
    (network.receive id).2 = network ∧
      ((network.receive id).1 = .empty ∨ (network.broker.receive id).1 = .closed) := by
  unfold receive Broker.receive
  cases found : network.broker.queue? id with
  | none => exact .inr ⟨rfl, .inr rfl⟩
  | some queue =>
    cases taken : queue.take? with
    | none =>
      by_cases sender : network.broker.hasSender id = true
      · simp [taken, sender]
      · simp [taken, sender]
    | some both => exact .inl ⟨queue, both.1, both.2, rfl, taken, by simp [taken, took]⟩

theorem receive_eq_message {network after : Network} {id : QueueId} {parcel : Parcel}
    (received : network.receive id = (.message parcel, after)) :
    ∃ queue rest, network.broker.queue? id = some queue ∧
      queue.take? = some (parcel, rest) ∧ after = network.took id rest := by
  rcases network.receive_cases id with ⟨queue, parcel', rest, found, taken, result⟩ | ⟨-, none | none⟩
  · rw [received] at result
    cases result
    exact ⟨queue, rest, found, taken, rfl⟩
  · rw [received] at none
    cases none
  · simp [receive, none] at received

theorem finish_cases {network after : Network} {id : CallId}
    (finished : network.finish id = some after) :
    ∃ call, network.calls[id]? = some call ∧ call.state.isLive = true ∧
      (network.broker.isRefused call.post = true ∧
          after = network.endCall id (.failed (.queueClosed call.route)) ∨
        network.broker.isRefused call.post = false ∧ network.broker.isWaiting call.post = false ∧
          ((∃ payload, call.state = .answered payload ∧
              after = network.endCall id (.returned payload)) ∨
            call.state = .disconnected ∧ after = network.endCall id (.failed .disconnected))) := by
  -- A refusal is looked at first, then whether the request is still on its way, then the answer.
  unfold finish at finished
  split at finished
  next => cases finished
  next call found =>
    split at finished
    next => cases finished
    next live =>
      have live : call.state.isLive = true := by simpa using live
      split at finished
      next refused =>
        cases finished
        exact ⟨call, found, live, .inl ⟨refused, rfl⟩⟩
      next kept =>
        have kept : network.broker.isRefused call.post = false := by simpa using kept
        split at finished
        next => cases finished
        next accepted =>
          have accepted : network.broker.isWaiting call.post = false := by simpa using accepted
          split at finished
          next payload answered =>
            cases finished
            exact ⟨call, found, live, .inr ⟨kept, accepted, .inl ⟨payload, answered, rfl⟩⟩⟩
          next disconnected =>
            cases finished
            exact ⟨call, found, live, .inr ⟨kept, accepted, .inr ⟨disconnected, rfl⟩⟩⟩
          next => cases finished

theorem endedBy_of_finish {network after : Network} {id : CallId}
    (finished : network.finish id = some after) :
    ∃ state, state ≠ .aborted ∧ network.EndedBy id state after := by
  obtain ⟨call, found, live, ⟨refused, rfl⟩ |
    ⟨kept, accepted, ⟨payload, answered, rfl⟩ | ⟨disconnected, rfl⟩⟩⟩ := finish_cases finished
  · exact ⟨_, by simp, call, found, live, .refused refused, rfl⟩
  · exact ⟨_, by simp, call, found, live, .answered kept accepted answered, rfl⟩
  · exact ⟨_, by simp, call, found, live, .disconnected kept accepted disconnected, rfl⟩

theorem unanswered_of_finish {network : Network} {id : CallId} {call : Call}
    (found : network.calls[id]? = some call) (live : call.state.isLive = true)
    (unsettled : network.finish id = none) :
    network.broker.isRefused call.post = false ∧
      (network.broker.isWaiting call.post = true ∨ call.state = .outstanding) := by
  unfold finish at unsettled
  simp only [found, live, Bool.not_true, Bool.false_eq_true, if_false] at unsettled
  split at unsettled
  next => cases unsettled
  next kept =>
    refine ⟨by simpa using kept, ?_⟩
    split at unsettled
    next waiting => exact .inl waiting
    next =>
      split at unsettled
      next => cases unsettled
      next => cases unsettled
      next => cases state : call.state <;> simp_all [CallState.isLive]

theorem endedBy_of_giveUp {network : Network} {id : CallId} {call : Call}
    (found : network.calls[id]? = some call) (live : call.state.isLive = true)
    (due : call.deadline ≤ network.clock) :
    ∃ state, state ≠ .aborted ∧ network.EndedBy id state (network.giveUp id) := by
  unfold giveUp
  cases finished : network.finish id with
  | some after => exact endedBy_of_finish finished
  | none =>
    have ⟨kept, unanswered⟩ := unanswered_of_finish found live finished
    simp only [found]
    exact ⟨_, by simp, call, found, live, .late kept unanswered due, rfl⟩

theorem mem_modify {α : Type} {items : List α} {place : Nat} {change : α → α} {item : α}
    (member : item ∈ items.modify place change) :
    item ∈ items ∨ ∃ old, items[place]? = some old ∧ item = change old := by
  obtain ⟨index, found⟩ := List.getElem?_of_mem member
  rw [List.getElem?_modify] at found
  obtain ⟨old, there, changed⟩ := Option.map_eq_some_iff.mp found
  split at changed
  next same => exact .inr ⟨old, same ▸ there, changed.symm⟩
  next =>
    obtain rfl : old = item := changed
    exact .inl (List.mem_of_getElem? there)

theorem getElem?_calls_setCall (network : Network) (id other : CallId) (state : CallState) :
    (network.setCall id state).calls[other]? =
      (network.calls[other]?).map (fun call => if other = id then { call with state } else call) := by
  simp only [setCall, List.getElem?_modify, eq_comm (a := id)]
  split <;> simp

theorem getElem?_calls_disconnect (network : Network) (id other : CallId) :
    (network.disconnect id).calls[other]? =
      (network.calls[other]?).map (fun call =>
        if other = id ∧ call.state = .outstanding then { call with state := .disconnected }
        else call) := by
  unfold disconnect
  cases found : network.calls[id]? with
  | none =>
    by_cases same : other = id
    · subst same; simp [found]
    · simp [same]
  | some call =>
    by_cases outstanding : call.state = .outstanding
    · simp only [outstanding, if_true, getElem?_calls_setCall]
      by_cases same : other = id
      · subst same; simp [found, outstanding]
      · simp [same]
    · simp only [outstanding, if_false]
      by_cases same : other = id
      · subst same; simp [found, outstanding]
      · simp [same]

def holder? (network : Network) (client : ClientId) (id : CorrelationId) : Option CallId :=
  (network.clients[client]?).bind (fun client => client.pending.lookup id)

theorem getElem?_calls_register (network : Network) (client : ClientId) (id : CorrelationId)
    (call other : CallId) :
    (network.register client id call).calls[other]? =
      (network.calls[other]?).map (fun call =>
        if network.holder? client id = some other ∧ call.state = .outstanding then
          { call with state := .disconnected }
        else call) := by
  unfold register
  cases found : network.holder? client id with
  | none =>
    unfold holder? at found
    simp [updateClient, found]
  | some held =>
    unfold holder? at found
    simp only [updateClient, found, getElem?_calls_disconnect, Option.some.injEq,
      eq_comm (a := held)]

theorem getElem?_calls_unregister (network : Network) (client : ClientId) (id : CorrelationId)
    (call other : CallId) :
    (network.unregister client id call).calls[other]? =
      (network.calls[other]?).map (fun record =>
        if network.holder? client id = some other ∧ other ≠ call ∧ record.state = .outstanding then
          { record with state := .disconnected }
        else record) := by
  unfold unregister
  cases found : network.holder? client id with
  | none =>
    unfold holder? at found
    simp [updateClient, found]
  | some held =>
    unfold holder? at found
    simp only [updateClient, found]
    by_cases own : held = call
    · subst own
      by_cases same : held = other
      · subst same; simp
      · simp [same]
    · simp only [own, if_false, getElem?_calls_disconnect, Option.some.injEq]
      by_cases same : held = other
      · subst same; simp [own]
      · simp [same, Ne.symm same]

theorem disconnect_frame (network : Network) (id : CallId) :
    network.disconnect id = { network with calls := (network.disconnect id).calls } := by
  unfold disconnect
  split
  next => split <;> rfl
  next => rfl

theorem register_frame (network : Network) (client : ClientId) (id : CorrelationId)
    (call : CallId) :
    network.register client id call =
      { network with
        clients := network.clients.modify client (fun client =>
          { client with nextId := id + 1, pending := (id, call) :: removePending id client.pending })
        calls := (network.register client id call).calls } := by
  unfold register
  simp only [updateClient]
  split
  next => rw [disconnect_frame]
  next => rfl

theorem unregister_frame (network : Network) (client : ClientId) (id : CorrelationId)
    (call : CallId) :
    network.unregister client id call =
      { network with
        clients := network.clients.modify client (fun client =>
          { client with pending := removePending id client.pending })
        calls := (network.unregister client id call).calls } := by
  unfold unregister
  simp only [updateClient]
  split
  next =>
    split
    next => rfl
    next => rw [disconnect_frame]
  next => rfl

theorem endCall_frame {network : Network} {id : CallId} {call : Call}
    (found : network.calls[id]? = some call) (state : CallState) :
    network.endCall id state =
      { network with
        broker := network.broker.abandon call.post
        clients := network.clients.modify call.client (fun client =>
          { client with pending := removePending call.correlationId client.pending })
        calls := (network.endCall id state).calls } := by
  simp only [endCall, found]
  rw [unregister_frame]
  rfl

theorem getElem?_calls_endCall {network : Network} {id other : CallId} {call : Call}
    (found : network.calls[id]? = some call) (state : CallState) :
    (network.endCall id state).calls[other]? =
      (network.calls[other]?).map (fun record =>
        if other = id then { record with state }
        else if network.holder? call.client call.correlationId = some other ∧
            record.state = .outstanding then
          { record with state := .disconnected }
        else record) := by
  simp only [endCall, found, getElem?_calls_unregister]
  change ((network.setCall id state).calls[other]?).map (fun record =>
    if network.holder? call.client call.correlationId = some other ∧ other ≠ id ∧
        record.state = .outstanding then
      { record with state := .disconnected }
    else record) = _
  rw [getElem?_calls_setCall, Option.map_map]
  congr 1
  funext record
  by_cases same : other = id <;> simp [same]

theorem launched_frame (network : Network) (client : ClientId) (owner : Client) (route : String)
    (timeout : Duration) :
    network.launched client owner route timeout =
      { network with
        clients := network.clients.modify client (fun client =>
          { client with
            nextId := owner.nextId + 1
            pending := (owner.nextId, network.calls.length) ::
              removePending owner.nextId client.pending })
        calls := (network.launched client owner route timeout).calls } := by
  unfold launched
  rw [register_frame]

@[simp] theorem broker_launched (network : Network) (client : ClientId) (owner : Client)
    (route : String) (timeout : Duration) :
    (network.launched client owner route timeout).broker = network.broker := by
  rw [launched_frame]

@[simp] theorem nextPost_launched (network : Network) (client : ClientId) (owner : Client)
    (route : String) (timeout : Duration) :
    (network.launched client owner route timeout).nextPost = network.nextPost := by
  rw [launched_frame]

@[simp] theorem clock_launched (network : Network) (client : ClientId) (owner : Client)
    (route : String) (timeout : Duration) :
    (network.launched client owner route timeout).clock = network.clock := by
  rw [launched_frame]

@[simp] theorem jobs_launched (network : Network) (client : ClientId) (owner : Client)
    (route : String) (timeout : Duration) :
    (network.launched client owner route timeout).jobs = network.jobs := by
  rw [launched_frame]

@[simp] theorem servers_launched (network : Network) (client : ClientId) (owner : Client)
    (route : String) (timeout : Duration) :
    (network.launched client owner route timeout).servers = network.servers := by
  rw [launched_frame]

theorem getElem?_calls_launched (network : Network) (client : ClientId) (owner : Client)
    (route : String) (timeout : Duration) (other : CallId) :
    (network.launched client owner route timeout).calls[other]? =
      ((network.calls ++ [network.startedCall client owner route timeout])[other]?).map
        (fun call =>
          if network.holder? client owner.nextId = some other ∧ call.state = .outstanding then
            { call with state := .disconnected }
          else call) := by
  unfold launched
  rw [getElem?_calls_register]
  rfl

theorem live_launched (network : Network) (client : ClientId) (owner : Client)
    (route : String) (timeout : Duration) :
    ∃ call, (network.launched client owner route timeout).calls[network.calls.length]? = some call ∧
      call.state.isLive = true ∧ call.route = route ∧
      call.deadline = network.clock + timeout.nanoseconds := by
  rw [getElem?_calls_launched]
  simp only [List.getElem?_concat_length, Option.map_some, Option.some.injEq, exists_eq_left']
  split <;> exact ⟨rfl, rfl, rfl⟩

theorem startCall_eq {network : Network} {client : ClientId} {owner : Client}
    (owned : network.clients[client]? = some owner) (route : String) (payload : Bytes)
    (timeout : Duration) :
    network.startCall client route payload timeout =
      (network.launched client owner route timeout).afterPost network.calls.length timeout
        ((network.launched client owner route timeout).post route (owner.request payload) none) := by
  simp only [startCall, owned]
  rfl

theorem startCall_cases {respond : Responder} {network : Network} {client : ClientId}
    {owner : Client} (owned : network.clients[client]? = some owner) (route : String)
    (payload : Bytes) (timeout : Duration) :
    ∃ middle, Change respond (.call client route payload timeout) network middle ∧
      (network.startCall client route payload timeout = middle ∨
        ∃ state, state ≠ .aborted ∧ middle.EndedBy network.calls.length state
          (network.startCall client route payload timeout)) := by
  obtain ⟨call, found, live, routed, deadline⟩ :=
    live_launched network client owner route timeout
  rw [startCall_eq owned]
  cases sent : (network.launched client owner route timeout).post route (owner.request payload)
    none with
  | error error =>
    -- A call that could not be sent had its place all the same, and gives it back at once.
    have failed := post_eq_error sent
    rw [afterPost]
    rw [broker_launched] at failed
    refine ⟨_, .misfired owned failed, .inr ?_⟩
    rw [nextPost_launched]
    exact ⟨_, by simp, call, found, live,
      .unsent (by simpa only [broker_launched, routed] using failed), rfl⟩
  | ok posted =>
    obtain ⟨queue, bound, consumed, rfl⟩ := post_eq_ok sent
    rw [afterPost]
    rw [broker_launched] at bound consumed
    refine ⟨_, .launched owned bound consumed, ?_⟩
    split
    next nothing =>
      -- Without a timeout the deadline is now.
      refine .inr (endedBy_of_giveUp found live ?_)
      have : (((network.launched client owner route timeout).sent queue none
          (owner.request payload)).clock) = network.clock := clock_launched ..
      omega
    next => exact .inl rfl

theorem changes_of_receive {respond : Responder} {network : Network} {id : QueueId}
    (outside : network.isOutside id = true) :
    Change respond (.receive id) network (network.receive id).2 := by
  rcases network.receive_cases id with ⟨queue, parcel, rest, found, taken, result⟩ | ⟨same, -⟩
  · rw [result]
    exact .received outside found taken
  · rw [same]
    exact .idle

theorem change_of_dispatch {respond : Responder} {network after : Network} {id : ClientId}
    (done : network.dispatch id = some after) : Change respond (.dispatch id) network after := by
  unfold dispatch at done
  split at done
  next => cases done
  next client owned =>
    split at done
    next consumed =>
      split at done
      next parcel rest result =>
        cases done
        obtain ⟨queue, rest, found, taken, rfl⟩ := receive_eq_message result
        exact .delivered owned found taken consumed
      next => cases done
      next rest result =>
        cases done
        refine .left (.clientTold owned ?_) consumed
        simpa [receive] using congrArg Prod.fst result
    next => cases done

theorem change_of_take {respond : Responder} {network after : Network} {id : ServerId}
    (done : network.take id = some after) : Change respond (.take id) network after := by
  unfold take at done
  split at done
  next => cases done
  next server owned =>
    split at done
    next consumed =>
      split at done
      next parcel rest result =>
        cases done
        obtain ⟨queue, rest, found, taken, rfl⟩ := receive_eq_message result
        exact .fetched owned found taken
      next => cases done
      next rest result =>
        cases done
        refine .left (.serverTold owned ?_) consumed
        simpa [receive] using congrArg Prod.fst result
    next => cases done

theorem change_of_answer {respond : Responder} {network after : Network} {id : JobId}
    (done : network.answer respond id = some after) :
    Change respond (.answer id) network after := by
  unfold answer at done
  split at done
  next => cases done
  next job found =>
    split at done
    next ready =>
      simp only at done
      split at done
      next payload name worked named =>
        split at done
        next posted sent =>
          cases done
          obtain ⟨queue, bound, consumed, rfl⟩ := post_eq_ok sent
          exact .replied found ready worked named bound consumed
        next error failed =>
          cases done
          exact .undeliverable found ready named (post_eq_error failed)
      next nothing =>
        -- The match falls through if either of the two is missing.
        cases done
        refine .silent found ready ?_
        cases worked : respond job.server job.index job.request.message.payload with
        | none => exact .inl rfl
        | some payload =>
          cases named : job.request.message.replyTo with
          | none => exact .inr rfl
          | some name => exact absurd named (nothing payload name worked)
    next => cases done

theorem change_of_conclude {respond : Responder} {network after : Network} {id : JobId}
    (done : network.conclude id = some after) :
    Change respond (.conclude id) network after := by
  unfold conclude at done
  split at done
  next => cases done
  next job found =>
    split at done
    next post posted =>
      split at done
      next refused =>
        cases done
        exact .rejected found posted refused
      next =>
        split at done
        next => cases done
        next accepted =>
          cases done
          exact .concluded found posted (by simpa using accepted)
    next => cases done

theorem change_of_retire {respond : Responder} {network after : Network} {id : ClientId}
    (done : network.retire id = some after) : Change respond (.retire id) network after := by
  unfold retire at done
  split at done
  next => cases done
  next client owned =>
    split at done
    next idle =>
      cases done
      simp only [Bool.and_eq_true, Bool.not_eq_true'] at idle
      exact .left (.retired owned idle.1.1 idle.1.2) idle.2
    next => cases done

theorem endedBy_of_expire {network after : Network} {id : CallId}
    (done : network.expire id = some after) :
    ∃ state, state ≠ .aborted ∧ network.EndedBy id state after := by
  unfold expire at done
  split at done
  next call found =>
    split at done
    next due =>
      cases done
      simp only [Bool.and_eq_true, decide_eq_true_eq] at due
      exact endedBy_of_giveUp found due.1 due.2
    next => cases done
  next => cases done

theorem endedBy_of_abort {network after : Network} {id : CallId}
    (done : network.abort id = some after) : network.EndedBy id .aborted after := by
  unfold abort at done
  split at done
  next call found =>
    split at done
    next live =>
      cases done
      exact ⟨call, found, live, .aborted, rfl⟩
    next => cases done
  next => cases done

theorem toOption_eq_some {ε α : Type} {result : Except ε α} {value : α}
    (found : result.toOption = some value) : result = .ok value := by
  cases result with
  | ok => simpa [Except.toOption] using found
  | error => simp [Except.toOption] at found

/-- What an action does is a change, behind which a call may end at once that the action started. -/
theorem change_of_perform {respond : Responder} {network after : Network} {action : Action}
    (performed : network.perform respond action = some after) :
    ∃ middle, Change respond action network middle ∧
      (after = middle ∨ ∃ client route payload timeout state,
        action = .call client route payload timeout ∧ state ≠ .aborted ∧
          middle.EndedBy network.calls.length state after) := by
  have single (change : Change respond action network after) :
      ∃ middle, Change respond action network middle ∧
        (after = middle ∨ ∃ client route payload timeout state,
          action = .call client route payload timeout ∧ state ≠ .aborted ∧
            middle.EndedBy network.calls.length state after) :=
    ⟨after, change, .inl rfl⟩
  cases action with
  | declare name capacity =>
    obtain ⟨⟨id, opened⟩, found, rfl⟩ := Option.map_eq_some_iff.mp performed
    obtain ⟨free, -, rfl⟩ := declare_eq_ok (toOption_eq_some found)
    exact single (.opened free)
  | publish name message answers =>
    obtain ⟨queue, bound, consumed, rfl⟩ := post_eq_ok (toOption_eq_some performed)
    exact single (.published bound consumed)
  | abandon post =>
    cases performed
    exact single .withdrew
  | receive queue =>
    simp only [perform, Bool.and_eq_true] at performed
    split at performed
    next outside =>
      cases performed
      exact single (changes_of_receive outside.1)
    next => cases performed
  | dropConsumer queue =>
    simp only [perform, Bool.and_eq_true] at performed
    split at performed
    next outside =>
      cases performed
      exact single (.left (.dropped outside.1) outside.2)
    next => cases performed
  | delete name =>
    cases performed
    exact single .unbound
  | connect name capacity =>
    obtain ⟨⟨id, connected⟩, found, rfl⟩ := Option.map_eq_some_iff.mp performed
    obtain ⟨free, -, rfl⟩ := connect_eq_ok (toOption_eq_some found)
    exact single (.connected free)
  | call client route payload timeout =>
    simp only [perform] at performed
    split at performed
    next held =>
      cases performed
      -- Whoever calls is held, so it is a client that was connected.
      cases owned : network.clients[client]? with
      | none => simp [owned] at held
      | some owner =>
        obtain ⟨middle, change, same | ⟨state, proper, ended⟩⟩ :=
          startCall_cases owned route payload timeout
        · exact ⟨middle, change, .inl same⟩
        · exact ⟨middle, change, .inr ⟨_, _, _, _, state, rfl, proper, ended⟩⟩
    next => cases performed
  | abort call => exact single (.ended rfl (endedBy_of_abort performed).ended)
  | dropClient client =>
    simp only [perform] at performed
    split at performed
    next =>
      cases performed
      exact single .released
    next => cases performed
  | serve queue =>
    simp only [perform, Bool.and_eq_true] at performed
    split at performed
    next outside =>
      cases performed
      exact single (.served outside.1 outside.2)
    next => cases performed
  | tick nanoseconds =>
    cases performed
    exact single .ticked
  | expire call =>
    obtain ⟨state, -, ended⟩ := endedBy_of_expire performed
    exact single (.ended rfl ended.ended)
  | dispatch client => exact single (change_of_dispatch performed)
  | finish call =>
    obtain ⟨state, -, ended⟩ := endedBy_of_finish performed
    exact single (.ended rfl ended.ended)
  | retire client => exact single (change_of_retire performed)
  | take server => exact single (change_of_take performed)
  | answer job => exact single (change_of_answer performed)
  | conclude job => exact single (change_of_conclude performed)

theorem changes_of_perform {respond : Responder} {network after : Network} {action : Action}
    (performed : network.perform respond action = some after) :
    ∃ middle, Change respond action network middle ∧ (after = middle ∨ middle.Ended after) := by
  obtain ⟨middle, change, same | ⟨_, _, _, _, _, -, -, ended⟩⟩ := change_of_perform performed
  · exact ⟨middle, change, .inl same⟩
  · exact ⟨middle, change, .inr ended.ended⟩

theorem Leaving.eq {network : Network} {action : Action} {id other : QueueId}
    (leaving : network.Leaving action id) (again : network.Leaving action other) : id = other := by
  cases leaving with
  | dropped =>
    cases again
    rfl
  | clientTold owned =>
    cases again with
    | clientTold same => rw [Option.some.inj (owned.symm.trans same)]
  | serverTold owned =>
    cases again with
    | serverTold same => rw [Option.some.inj (owned.symm.trans same)]
  | retired owned =>
    cases again with
    | retired same => rw [Option.some.inj (owned.symm.trans same)]

theorem Change.left_of_leaving {respond : Responder} {action : Action} {before after : Network}
    {id : QueueId} (change : Change respond action before after) (leaving : before.Leaving action id) :
    before.broker.isConsumed id = true ∧ after = before.dropConsumer id := by
  cases change with
  | left again consumed =>
    obtain rfl := leaving.eq again
    exact ⟨consumed, rfl⟩
  | ended ends => cases leaving <;> cases ends
  | delivered owned found taken =>
    cases leaving with
    | clientTold same closed =>
      obtain rfl := Option.some.inj (owned.symm.trans same)
      simp [Broker.receive, found, taken] at closed
  | fetched owned found taken =>
    cases leaving with
    | serverTold same closed =>
      obtain rfl := Option.some.inj (owned.symm.trans same)
      simp [Broker.receive, found, taken] at closed
  | _ => cases leaving

theorem left_of_leaving {respond : Responder} {before after : Network} {action : Action} {id : QueueId}
    (performed : before.perform respond action = some after)
    (leaving : before.Leaving action id) :
    before.broker.isConsumed id = true ∧ after = before.dropConsumer id := by
  obtain ⟨middle, change, rfl | ⟨_, _, _, _, _, rfl, -⟩⟩ := change_of_perform performed
  · exact change.left_of_leaving leaving
  · cases leaving

/-- Runs from a state, all of whose actions are allowed in the state in which they are done. -/
inductive Run (respond : Responder) (allowed : Network → Action → Prop) (start : Network) :
    Network → Prop where
  | start : Run respond allowed start start
  | next {network after : Network} (action : Action) :
      Run respond allowed start network → allowed network action →
      network.perform respond action = some after → Run respond allowed start after

theorem Run.invariant {respond : Responder} {allowed : Network → Action → Prop}
    {start network : Network} (run : Run respond allowed start network) (holds : Network → Prop)
    (atStart : holds start)
    (changed : ∀ {action before after}, Change respond action before after →
      allowed before action → holds before → holds after)
    (ended : ∀ {before after}, Ended before after → holds before → holds after) :
    holds network := by
  induction run with
  | start => exact atStart
  | next action _ allowed performed ih =>
    -- A call that starts may end in the same step, which makes two changes of one action.
    obtain ⟨middle, change, same | ends⟩ := changes_of_perform performed
    next => exact same ▸ changed change allowed ih
    next => exact ended ends (changed change allowed ih)

theorem Run.trans {respond : Responder} {allowed : Network → Action → Prop}
    {start middle network : Network} (first : Run respond allowed start middle)
    (second : Run respond allowed middle network) : Run respond allowed start network := by
  induction second with
  | start => exact first
  | next action _ allowed performed ih => exact .next action ih allowed performed

theorem Run.mono {respond : Responder} {allowed wider : Network → Action → Prop}
    {start network : Network} (run : Run respond allowed start network)
    (wide : ∀ network action, allowed network action → wider network action) :
    Run respond wider start network := by
  induction run with
  | start => exact .start
  | next action _ allowed performed ih => exact .next action ih (wide _ _ allowed) performed

def follow (respond : Responder) (allowed : Network → Action → Prop)
    [∀ network action, Decidable (allowed network action)] :
    List Action → Network → Option Network
  | [], network => some network
  | action :: rest, network =>
    if allowed network action then
      (network.perform respond action).bind (follow respond allowed rest)
    else
      none

theorem run_of_follow {respond : Responder} {allowed : Network → Action → Prop}
    [∀ network action, Decidable (allowed network action)] {actions : List Action}
    {start network : Network} (followed : follow respond allowed actions start = some network) :
    Run respond allowed start network := by
  induction actions generalizing start with
  | nil =>
    cases followed
    exact .start
  | cons action rest ih =>
    unfold follow at followed
    split at followed
    next fine =>
      obtain ⟨next, performed, followed⟩ := Option.bind_eq_some_iff.mp followed
      exact (Run.next action .start fine performed).trans (ih followed)
    next => cases followed

theorem run_iff_reachable {respond : Responder} {network : Network} :
    Run respond (fun _ _ => True) empty network ↔ Reachable respond network := by
  constructor
  next =>
    intro run
    induction run with
    | start => exact .empty
    | next action _ _ performed ih => exact .next action ih performed
  next =>
    intro reach
    induction reach with
    | empty => exact .start
    | next action _ performed ih => exact .next action ih trivial performed

end Network

end LedgerNode.Bus
