import LedgerNode.Proofs.Bus.Exchange
import LedgerNode.Proofs.Query.Wire
import LedgerNode.Rpc.FrontEnd

set_option autoImplicit false

namespace LedgerNode.Rpc

open Json Bus

def storeWork (store : Store) (payload : Bytes) : Bytes :=
  (Query.answerPayload store payload).write

theorem storeResponder_eq (store : Store) :
    storeResponder store = pureResponder (storeWork store) :=
  rfl

def joined (route : String) (capacity : Nat) : Network where
  broker := {
    queues := [Queue.create route capacity, Queue.create (replyName route) capacity]
    registry := [(replyName route, 1), (route, 0)]
    refused := [] }
  nextPost := 0
  clients := [{ replyQueue := replyName route, inbox := 1, nextId := 0, pending := [], held := true }]
  calls := []
  servers := [{ inbox := 0 }]
  jobs := []
  clock := 0
  warnings := []

theorem replyName_ne (route : String) : replyName route ≠ route := by
  intro same
  have longer : (replyName route).length = route.length + ".reply".length :=
    String.length_append ..
  rw [same] at longer
  have some : ".reply".length = 6 := by decide
  omega

theorem start_eq (channel : String) (capacity : Nat) (timeout : Duration) :
    FrontEnd.start channel capacity timeout = .ok {
      network := joined (routeOf channel) capacity
      client := 0
      route := routeOf channel
      timeout := timeout } := by
  have other : routeOf channel ≠ replyName (routeOf channel) := (replyName_ne _).symm
  have other' : (replyName (routeOf channel) == routeOf channel) = false := by
    simpa using other.symm
  have name : routeOf channel ++ ".reply" = replyName (routeOf channel) := rfl
  simp [FrontEnd.start, FrontEnd.connect, Network.declare, Network.connect, Network.serve,
    Broker.declare, Broker.lookup?, Broker.unbind, Network.empty, Broker.empty, name, other', other,
    joined, List.lookup_cons]

theorem joined_run (work : Bytes → Bytes) (route : String) (capacity : Nat) :
    Network.Run (pureResponder work) (Network.Orderly (fun name => name = replyName route)) .empty
      (joined route capacity) := by
  have other : (replyName route == route) = false := by
    simpa using replyName_ne route
  have kept : route ≠ replyName route := (replyName_ne route).symm
  -- The route is declared and served before the client is connected under another name.
  have declared : Network.perform (pureResponder work) .empty (.declare route capacity) =
      some (Network.empty.opened route capacity) := rfl
  have served : (Network.empty.opened route capacity).perform (pureResponder work) (.serve 0) =
      some { Network.empty.opened route capacity with servers := [{ inbox := 0 }] } := rfl
  refine .next (.connect (replyName route) capacity)
    (.next (.serve 0) (.next (.declare route capacity) .start trivial declared) trivial served) rfl ?_
  simp [Network.perform, Network.connect, Network.declare, Broker.declare, Broker.lookup?,
    Network.opened, Broker.opened, Network.empty, Broker.empty, Broker.unbind, joined,
    List.lookup_cons, other, kept, Except.toOption]

theorem joined_linked (work : Bytes → Bytes) (route : String) (capacity : Nat) :
    (joined route capacity).Linked work route := by
  have other : (route == replyName route) = false := by
    simpa using (replyName_ne route).symm
  refine ⟨joined_run work route capacity, rfl, ?_, ?_, ?_, rfl, rfl, ?_, rfl, ?_, ?_⟩
  · intro queue member
    simp only [joined, List.mem_cons, List.not_mem_nil, or_false] at member
    rcases member with rfl | rfl
    · exact ⟨rfl, Queue.sound_create ..⟩
    · exact ⟨rfl, Queue.sound_create ..⟩
  · simp [Broker.lookup?, joined, List.lookup_cons, other]
  · simp [Broker.lookup?, joined]
  · intro client member
    obtain rfl := List.mem_singleton.mp member
    exact ⟨rfl, rfl, rfl⟩
  · intro parcel member
    cases member
  · intro job member
    cases member

theorem joined_custody (work : Bytes → Bytes) (route : String) (capacity : Nat) :
    (joined route capacity).Custody work 0 [] [] := by
  refine ⟨rfl, ?_, .nil, ?_, ?_, ?_, rfl⟩
  · intro id call found
    cases found
  · intro parcel member
    cases member
  · intro parcel member
    cases member
  · intro place call payload _ carried
    cases carried

namespace FrontEnd

/-- A front end whose calls are all over, linked with a service that works out the replies. -/
structure Idle (work : Bytes → Bytes) (frontEnd : FrontEnd) : Prop where
  client : frontEnd.client = 0
  patient : 0 < frontEnd.timeout.nanoseconds
  linked : frontEnd.network.Linked work frontEnd.route
  custody : frontEnd.network.Custody work frontEnd.network.calls.length [] []

theorem start_idle (work : Bytes → Bytes) {channel : String} {capacity : Nat} {timeout : Duration}
    {frontEnd : FrontEnd} (patient : 0 < timeout.nanoseconds)
    (started : start channel capacity timeout = .ok frontEnd) : frontEnd.Idle work := by
  rw [start_eq] at started
  obtain rfl := Except.ok.inj started
  exact ⟨rfl, patient, joined_linked .., joined_custody ..⟩

def requestsOf (values : List Value) : List Bytes :=
  values.filterMap (fun value => (readRequest value).toOption.map Query.write)

def Submitted (base : Nat) (payloads : List Bytes) (value : Value) (submission : Submission) : Prop :=
  match readRequest value with
  | .error error => submission = .rejected error
  | .ok query => ∃ place, submission = .sent (base + place) ∧ payloads[place]? = some query.write

def outcomeOf (work : Bytes → Bytes) (value : Value) : Except RpcError Value :=
  match readRequest value with
  | .error error => .error error
  | .ok query =>
    match Reply.read (work query.write) with
    | .ok reply => replyResult reply
    | .error fault => .error (.bus (.codec fault))

theorem outcomeOf_of_worked {work : Bytes → Bytes} {value : Value} {query : Query} {reply : Reply}
    (read : readRequest value = .ok query) (worked : work query.write = reply.write) :
    outcomeOf work value = replyResult reply := by
  unfold outcomeOf
  rw [read]
  simp only [worked, Reply.read_write]

def responseTo (work : Bytes → Bytes) (value : Value) : Response where
  id := responseId value
  outcome := outcomeOf work value

section Submitting

variable {work : Bytes → Bytes} {base : Nat} {payloads : List Bytes} {network : Network}

theorem Submitted.append {value : Value} {submission : Submission}
    (submitted : Submitted base payloads value submission) (more : List Bytes) :
    Submitted base (payloads ++ more) value submission := by
  unfold Submitted at submitted ⊢
  split at submitted
  next => exact submitted
  next =>
    obtain ⟨place, same, carried⟩ := submitted
    refine ⟨place, same, ?_⟩
    rw [List.getElem?_append_left (List.getElem?_eq_some_iff.mp carried).1]
    exact carried

theorem submitAll_spec {frontEnd : FrontEnd} {start : Network} (values : List Value)
    (client : frontEnd.client = 0) (patient : 0 < frontEnd.timeout.nanoseconds)
    (linked : start.Linked work frontEnd.route) (custody : start.Custody work base [] [])
    (exchange : Network.Exchange work frontEnd.route start payloads frontEnd.network)
    (few : (payloads ++ requestsOf values).length ≤ 2 ^ 64) :
    ∃ submissions network, frontEnd.submitAll values = (submissions, { frontEnd with network }) ∧
      Network.Exchange work frontEnd.route start (payloads ++ requestsOf values) network ∧
      List.Forall₂ (Submitted base (payloads ++ requestsOf values)) values submissions := by
  -- On the values: one that asks nothing leaves the network alone, any other makes the next call.
  induction values generalizing frontEnd payloads with
  | nil => exact ⟨[], frontEnd.network, rfl, by simpa [requestsOf] using exchange, .nil⟩
  | cons value rest ih =>
    cases read : readRequest value with
    | error error =>
      have same : requestsOf (value :: rest) = requestsOf rest := by
        simp [requestsOf, read, Except.toOption]
      have first : frontEnd.submit value = (.rejected error, frontEnd) := by simp [submit, read]
      rw [same] at few ⊢
      obtain ⟨submissions, network, all, exchange, each⟩ :=
        ih client patient linked exchange few
      refine ⟨.rejected error :: submissions, network, ?_, exchange, .cons ?_ each⟩
      · simp [submitAll, first, all]
      · simp [Submitted, read]
    | ok query =>
      have more : payloads ++ requestsOf (value :: rest) =
          payloads ++ [query.write] ++ requestsOf rest := by
        simp [requestsOf, read, Except.toOption]
      rw [more] at few ⊢
      have early : payloads.length ≤ 2 ^ 64 := by
        simp only [List.length_append] at few
        omega
      obtain ⟨linkedNow, custodyNow⟩ := exchange.spec linked custody early
      obtain ⟨owner, owned⟩ := linkedNow.owner
      let started := frontEnd.network.startCall frontEnd.client frontEnd.route query.write
        frontEnd.timeout
      have performed : frontEnd.network.perform (pureResponder work)
          (.call 0 frontEnd.route query.write frontEnd.timeout) = some started := by
        simp [Network.perform, owned, (linkedNow.owned owned).2.2.2, started, client]
      have place : frontEnd.network.calls.length = base + payloads.length := by
        rw [← custodyNow.counted, Network.issued, List.length_map]
      have first : frontEnd.submit value =
          (.sent (base + payloads.length), { frontEnd with network := started }) := by
        simp [submit, read, started, place]
      obtain ⟨submissions, network, all, exchange, each⟩ :=
        @ih _ { frontEnd with network := started } client patient linked
          (exchange.call patient performed) few
      refine ⟨.sent (base + payloads.length) :: submissions, network, ?_, exchange, .cons ?_ each⟩
      · simp [submitAll, first, all]
      · apply Submitted.append
        simp [Submitted, read]

theorem Submitted.collect {route : String} {value : Value} {submission : Submission}
    (submitted : Submitted base payloads value submission)
    (custody : network.Custody work base payloads []) (linked : network.Linked work route)
    (rest : network.AtRest (pureResponder work)) :
    FrontEnd.collect network submission = outcomeOf work value := by
  unfold Submitted at submitted
  unfold outcomeOf
  cases read : readRequest value with
  | error error =>
    rw [read] at submitted
    obtain rfl : submission = .rejected error := submitted
    rfl
  | ok query =>
    rw [read] at submitted
    obtain ⟨place, rfl, carried⟩ := submitted
    have within := (List.getElem?_eq_some_iff.mp carried).1
    -- At rest every call has returned, so the front end finds an outcome to read.
    have there : base + place < network.calls.length := by
      have counted := custody.counted
      rw [Network.issued, List.length_map] at counted
      omega
    obtain ⟨-, -, -, -, returned⟩ := custody.at_rest linked rest
    have found := List.getElem?_eq_getElem there
    have state := returned place _ _ found carried
    simp only [FrontEnd.collect, Network.outcomeRead?, Network.outcome?, found, Option.map_some, state]
    cases Reply.read (work query.write) with
    | ok reply => rfl
    | error fault => rfl

end Submitting

end FrontEnd

end LedgerNode.Rpc
