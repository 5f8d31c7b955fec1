import LedgerNode.Proofs.Bus.Correlation
import LedgerNode.Proofs.Bus.Settling

set_option autoImplicit false

namespace LedgerNode.Bus

def pureResponder (work : Bytes → Bytes) : Responder :=
  fun _ _ payload => some (work payload)

def replyName (route : String) : String :=
  route ++ ".reply"

namespace Network

def heldBy (network : Network) (id : QueueId) : List Parcel :=
  ((network.broker.queue? id).map Queue.held).getD []

def receivedBy (network : Network) (id : QueueId) : List Parcel :=
  ((network.broker.queue? id).map Queue.received).getD []

/-- The client reads queue 1 and calls the route, which leads to queue 0; the server reads that. -/
structure Linked (work : Bytes → Bytes) (route : String) (network : Network) : Prop where
  run : Run (pureResponder work) (Orderly (fun name => name = replyName route)) empty network
  two : network.broker.queues.length = 2
  running : ∀ queue ∈ network.broker.queues, queue.consumed = true ∧ queue.Sound
  routed : network.broker.lookup? route = some 0
  returned : network.broker.lookup? (replyName route) = some 1
  refused : network.broker.refused = []
  one : network.clients.length = 1
  client : ∀ client ∈ network.clients,
    client.inbox = 1 ∧ client.replyQueue = replyName route ∧ client.held = true
  servers : network.servers = [{ inbox := 0 }]
  requests : ∀ parcel ∈ network.heldBy 0, parcel.message.replyTo = some (replyName route)
  jobs : ∀ job ∈ network.jobs, job.request.message.replyTo = some (replyName route)

inductive PartyStep (work : Bytes → Bytes) (network : Network) : Network → Prop where
  | handed {replies rest : Queue} {reply : Parcel}
      (found : network.broker.queue? 1 = some replies)
      (taken : replies.take? = some (reply, rest)) :
      PartyStep work network ((network.took 1 rest).deliver 0 reply.message)
  | fetched {requests rest : Queue} {request : Parcel}
      (found : network.broker.queue? 0 = some requests)
      (taken : requests.take? = some (request, rest)) :
      PartyStep work network (network.fetched 0 0 request rest)
  | replied {id : JobId} {job : Job} (found : network.jobs[id]? = some job)
      (ready : job.state = .ready) :
      PartyStep work network
        ((network.sent 1 (some job.request.post)
          (replyTo job.request.message (work job.request.message.payload))).setJob id
            (.posted network.nextPost))
  | concluded {id : JobId} {job : Job} {post : PostId} (found : network.jobs[id]? = some job)
      (posted : job.state = .posted post) : PartyStep work network (network.setJob id .done)
  | returned {id : CallId} {call : Call} {payload : Bytes} (found : network.calls[id]? = some call)
      (accepted : network.broker.isWaiting call.post = false)
      (answered : call.state = .answered payload) :
      PartyStep work network (network.endCall id (.returned payload))
  | displaced {id : CallId} {call : Call} (found : network.calls[id]? = some call)
      (disconnected : call.state = .disconnected) :
      PartyStep work network (network.endCall id (.failed .disconnected))

section Linked

variable {work : Bytes → Bytes} {route : String} {network after : Network}

theorem Linked.owned (linked : network.Linked work route) {id : ClientId} {client : Client}
    (owned : network.clients[id]? = some client) :
    id = 0 ∧ client.inbox = 1 ∧ client.replyQueue = replyName route ∧ client.held = true := by
  have within := (List.getElem?_eq_some_iff.mp owned).1
  rw [linked.one, Nat.lt_one_iff] at within
  exact ⟨within, linked.client client (List.mem_of_getElem? owned)⟩

theorem Linked.owner (linked : network.Linked work route) :
    ∃ owner, network.clients[0]? = some owner := by
  have within : 0 < network.clients.length := by rw [linked.one]; exact Nat.one_pos
  exact ⟨network.clients[0], List.getElem?_eq_getElem within⟩

theorem Linked.queue (linked : network.Linked work route) {id : QueueId} (within : id < 2) :
    ∃ queue, network.broker.queue? id = some queue ∧ queue.consumed = true ∧ queue.Sound := by
  rw [← linked.two] at within
  refine ⟨network.broker.queues[id], List.getElem?_eq_getElem within, ?_⟩
  exact linked.running _ (List.getElem_mem within)

theorem Linked.consumed (linked : network.Linked work route) {id : QueueId} (within : id < 2) :
    network.broker.isConsumed id = true := by
  obtain ⟨queue, found, consumed, -⟩ := linked.queue within
  simp [Broker.isConsumed, found, consumed]

theorem receive_ne_closed {broker : Broker} {name : String} {id : QueueId} {queue : Queue}
    (bound : broker.lookup? name = some id) (found : broker.queue? id = some queue) :
    (broker.receive id).1 ≠ .closed := by
  have sender : broker.hasSender id = true := by
    have member := List.lookup_eq_some_iff.mp bound
    obtain ⟨before, after, same, -⟩ := member
    simp [Broker.hasSender, same]
  unfold Broker.receive
  simp only [found]
  split
  next => simp
  next => simp [sender]

theorem Linked.partyStep (linked : network.Linked work route) {action : Action}
    (party : action.isParty = true)
    (performed : network.perform (pureResponder work) action = some after) :
    PartyStep work network after := by
  -- The links rule out every change but these: no queue is closed, nobody leaves, no send fails.
  have change := change_of_party performed party
  obtain ⟨requests, requestsFound, -, -⟩ := linked.queue (by omega : 0 < 2)
  obtain ⟨replies, repliesFound, -, -⟩ := linked.queue (by omega : 1 < 2)
  cases action with
  | dispatch id =>
    cases change with
    | left leaving =>
      cases leaving with
      | clientTold owned closed =>
        obtain ⟨-, inbox, -⟩ := linked.owned owned
        rw [inbox] at closed
        exact absurd closed (receive_ne_closed linked.returned repliesFound)
    | ended ends => cases ends
    | delivered owned found taken =>
      obtain ⟨rfl, inbox, -⟩ := linked.owned owned
      rw [inbox] at found ⊢
      exact .handed found taken
  | take id =>
    cases change with
    | left leaving =>
      cases leaving with
      | serverTold owned closed =>
        rw [linked.servers] at owned
        obtain rfl := List.mem_singleton.mp (List.mem_of_getElem? owned)
        exact absurd closed (receive_ne_closed linked.routed requestsFound)
    | ended ends => cases ends
    | fetched owned found taken =>
      rw [linked.servers] at owned
      have only := (List.getElem?_eq_some_iff.mp owned).1
      obtain rfl := List.mem_singleton.mp (List.mem_of_getElem? owned)
      obtain rfl := Nat.lt_one_iff.mp only
      exact .fetched found taken
  | answer id =>
    cases change with
    | left leaving => cases leaving
    | ended ends => cases ends
    | replied found ready worked named bound =>
      have asks := linked.jobs _ (List.mem_of_getElem? found)
      obtain rfl := Option.some.inj (asks.symm.trans named)
      obtain rfl := Option.some.inj (linked.returned.symm.trans bound)
      obtain rfl := Option.some.inj worked
      exact .replied found ready
    | undeliverable found ready named failed =>
      have asks := linked.jobs _ (List.mem_of_getElem? found)
      obtain rfl := Option.some.inj (asks.symm.trans named)
      simp [Broker.publish, linked.returned, linked.consumed (by omega : 1 < 2)] at failed
    | silent found ready nothing =>
      have asks := linked.jobs _ (List.mem_of_getElem? found)
      rcases nothing with none | none
      · cases none
      · cases asks.symm.trans none
  | conclude id =>
    cases change with
    | left leaving => cases leaving
    | ended ends => cases ends
    | rejected found posted refused => simp [Broker.isRefused, linked.refused] at refused
    | concluded found posted => exact .concluded found posted
  | finish id =>
    obtain ⟨call, found, live, ⟨refused, -⟩ |
      ⟨-, accepted, ⟨payload, answered, rfl⟩ | ⟨disconnected, rfl⟩⟩⟩ := finish_cases performed
    · simp [Broker.isRefused, linked.refused] at refused
    · exact .returned found accepted answered
    · exact .displaced found disconnected
  | retire id =>
    cases change with
    | left leaving =>
      cases leaving with
      | retired owned released => exact absurd (linked.owned owned).2.2.2 (by simp [released])
    | ended ends => cases ends
  | _ => cases party

end Linked

end Network

end LedgerNode.Bus
