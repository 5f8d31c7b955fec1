import LedgerNode.Proofs.Json.Reader
import LedgerNode.Proofs.Rpc.Service

set_option autoImplicit false

namespace LedgerNode.Rpc

open Json Bus

namespace FrontEnd

section Answering

variable {work : Bytes → Bytes} {route : String} {base : Nat} {payloads : List Bytes}
  {network : Network} {frontEnd : FrontEnd}

def gather (network : Network) (values : List Value) (submissions : List Submission) :
    List Response :=
  (values.zip submissions).map (fun (value, submission) =>
    { id := responseId value, outcome := collect network submission })

theorem gather_at_rest {values : List Value} {submissions : List Submission}
    (submitted : List.Forall₂ (Submitted base payloads) values submissions)
    (custody : network.Custody work base payloads []) (linked : network.Linked work route)
    (rest : network.AtRest (pureResponder work)) :
    gather network values submissions = values.map (responseTo work) := by
  induction submitted with
  | nil => rfl
  | @cons value submission values submissions first _ ih =>
    have outcome := first.collect custody linked rest
    rw [List.map_cons, ← ih, responseTo, ← outcome]
    rfl

theorem length_requestsOf_le (values : List Value) : (requestsOf values).length ≤ values.length :=
  List.length_filterMap_le ..

theorem Idle.answerBatch (idle : frontEnd.Idle work) {values : List Value}
    (few : values.length ≤ 2 ^ 64) :
    (frontEnd.answerBatch (pureResponder work) values).1 = values.map (responseTo work) ∧
      (frontEnd.answerBatch (pureResponder work) values).2.Idle work := by
  have fewer := Nat.le_trans (length_requestsOf_le values) few
  obtain ⟨submissions, network, all, exchange, submitted⟩ :=
    submitAll_spec values idle.client idle.patient idle.linked idle.custody .start fewer
  -- Settling is one of many orders in which the parties may step, and it ends at rest.
  obtain ⟨run, rest⟩ := Network.settle_spec (pureResponder work) network
  obtain ⟨linked, custody⟩ := (exchange.proceed run).spec idle.linked idle.custody fewer
  have waited := Network.await_eq_settle (calls submissions) linked custody
  have answered : frontEnd.answerBatch (pureResponder work) values =
      (gather (network.settle (pureResponder work)) values submissions,
        { frontEnd with network := network.settle (pureResponder work) }) := by
    simp [FrontEnd.answerBatch, all, waited, gather]
  rw [answered]
  refine ⟨gather_at_rest submitted custody linked rest, ?_⟩
  exact ⟨idle.client, idle.patient, linked, custody.renewed linked rest⟩

theorem answerBatch_singleton (respond : Responder) (frontEnd : FrontEnd) (value : Value) :
    frontEnd.answerBatch respond [value] =
      ([(frontEnd.answerSingle respond value).1], (frontEnd.answerSingle respond value).2) :=
  rfl

theorem Idle.answerSingle (idle : frontEnd.Idle work) (value : Value) :
    (frontEnd.answerSingle (pureResponder work) value).1 = responseTo work value ∧
      (frontEnd.answerSingle (pureResponder work) value).2.Idle work := by
  have few : [value].length ≤ 2 ^ 64 := by
    rw [List.length_singleton]
    decide
  have batch := idle.answerBatch few
  rw [answerBatch_singleton] at batch
  exact ⟨List.head_eq_of_cons_eq batch.1, batch.2⟩

def replyOf (work : Bytes → Bytes) (body : Bytes) : RpcReply :=
  match Reader.readValue.run body with
  | .error fault => .single (.failure .null (.parse fault.message))
  | .ok (.array []) => .single (.failure .null (.invalidRequest "empty batch"))
  | .ok (.array items) => .batch (items.map (responseTo work))
  | .ok value => .single (responseTo work value)

theorem Idle.answerBody (idle : frontEnd.Idle work) {body : Bytes} (fits : body.length < 2 ^ 64) :
    (frontEnd.answerBody (pureResponder work) body).1 = replyOf work body ∧
      (frontEnd.answerBody (pureResponder work) body).2.Idle work := by
  unfold FrontEnd.answerBody replyOf
  cases read : Reader.readValue.run body with
  | error fault => exact ⟨rfl, idle⟩
  | ok value =>
    cases value with
    | array items =>
      -- A body is too short for more items than there are ids.
      have few := Nat.le_trans (Reader.length_le_of_readValue read) (Nat.le_of_lt fits)
      cases items with
      | nil => exact ⟨rfl, idle⟩
      | cons item rest =>
        obtain ⟨responses, idle⟩ := idle.answerBatch few
        exact ⟨congrArg RpcReply.batch responses, idle⟩
    | _ =>
      obtain ⟨response, idle⟩ := idle.answerSingle _
      exact ⟨congrArg RpcReply.single response, idle⟩

end Answering

inductive Served (respond : Responder) : FrontEnd → Prop where
  | started {channel : String} {capacity : Nat} {timeout : Duration} {frontEnd : FrontEnd} :
      0 < timeout.nanoseconds → start channel capacity timeout = .ok frontEnd →
      Served respond frontEnd
  | answered {frontEnd : FrontEnd} {body : Bytes} :
      Served respond frontEnd → body.length < 2 ^ 64 →
      Served respond (frontEnd.answerBody respond body).2

theorem Served.idle {work : Bytes → Bytes} {frontEnd : FrontEnd}
    (served : Served (pureResponder work) frontEnd) : frontEnd.Idle work := by
  induction served with
  | started patient started => exact start_idle work patient started
  | answered _ fits ih => exact (ih.answerBody fits).2

structure AnsweredAlone (respond : Responder) (items : List Value) (responses : List Response) :
    Prop where
  counted : responses.length = items.length
  single : ∀ (place : Nat) (value : Value), items[place]? = some value →
    ∀ frontEnd, Served respond frontEnd →
      responses[place]? = some (frontEnd.answerSingle respond value).1
  nested : ∀ (place : Nat) (inner : List Value), items[place]? = some (.array inner) →
    responses[place]? =
      some (.failure .null (.invalidRequest "request must be an object"))
  body : ∀ (place : Nat) (value : Value), items[place]? = some value →
    (∀ inner, value ≠ .array inner) → ∀ frontEnd, Served respond frontEnd →
      ∀ alone, Reader.readValue.run alone = .ok value →
        ∃ response, (frontEnd.answerBody respond alone).1 = .single response ∧
          responses[place]? = some response

/--
What holds of every run from a front end's network on, in which its client calls the service and the
parties step in any order. The responses are those to items whose requests were called in order.
-/
structure NeverStuck (work : Bytes → Bytes) (frontEnd : FrontEnd) (items : List Value)
    (responses : List Response) : Prop where
  progress : ∀ (payloads : List Bytes) (network : Network), payloads.length ≤ 2 ^ 64 →
    Network.Exchange work frontEnd.route frontEnd.network payloads network →
    ∀ (id : CallId) (call : Call), network.calls[id]? = some call → call.state.isLive = true →
      ∃ action ∈ network.partyActions,
        (network.perform (pureResponder work) action).isSome = true
  bounded : ∀ (network after : Network) (action : Action), action.isParty = true →
    network.perform (pureResponder work) action = some after → after.work < network.work
  settled : ∀ network,
    Network.Exchange work frontEnd.route frontEnd.network (requestsOf items) network →
    network.AtRest (pureResponder work) →
      gather network items (frontEnd.submitAll items).1 = responses ∧
        ((network.receivedBy 1).filterMap Parcel.answers).Perm (network.issued.map Call.post)

section Batches

variable {work : Bytes → Bytes} {frontEnd : FrontEnd} {items : List Value}

theorem answeredAlone_map (work : Bytes → Bytes) (items : List Value) :
    AnsweredAlone (pureResponder work) items (items.map (responseTo work)) := by
  refine ⟨List.length_map .., ?_, ?_, ?_⟩
  · intro place value found frontEnd served
    rw [List.getElem?_map, found, Option.map_some, (served.idle.answerSingle value).1]
  · intro place inner found
    rw [List.getElem?_map, found]
    rfl
  · intro place value found plain frontEnd served alone read
    refine ⟨responseTo work value, ?_, by rw [List.getElem?_map, found, Option.map_some]⟩
    have answered := (served.idle.answerSingle value).1
    unfold answerBody
    rw [read]
    cases value with
    | array inner => exact absurd rfl (plain inner)
    | _ => exact congrArg RpcReply.single answered

theorem Idle.neverStuck (idle : frontEnd.Idle work) (few : items.length ≤ 2 ^ 64) :
    NeverStuck work frontEnd items (items.map (responseTo work)) := by
  have fewer := Nat.le_trans (length_requestsOf_le items) few
  refine ⟨?_, ?_, ?_⟩
  · intro payloads network few exchange id call found live
    obtain ⟨linked, custody⟩ := exchange.spec idle.linked idle.custody few
    exact custody.progress linked found live
  · intro network after action party performed
    exact (Network.change_of_party performed party).work_lt party
  · intro network exchange rest
    obtain ⟨submissions, _, all, -, submitted⟩ :=
      submitAll_spec items idle.client idle.patient idle.linked idle.custody .start fewer
    obtain ⟨linked, custody⟩ := exchange.spec idle.linked idle.custody fewer
    obtain ⟨-, -, -, once, -⟩ := custody.at_rest linked rest
    rw [all]
    exact ⟨gather_at_rest submitted custody linked rest, once⟩

/--
A batch of any length gets the responses that its items get one by one, each worked out from what the store
holds, and no order of the parties' steps gets stuck before.
-/
theorem batch_answered_one_by_one (store : Store) :
    (∀ channel capacity timeout, ∃ frontEnd, start channel capacity timeout = .ok frontEnd) ∧
      ∀ frontEnd, Served (storeResponder store) frontEnd →
        ∀ (body : Bytes) (items : List Value), body.length < 2 ^ 64 →
          Reader.readValue.run body = .ok (.array items) → items ≠ [] →
            ∃ responses, (frontEnd.answerBody (storeResponder store) body).1 = .batch responses ∧
              responses = items.map (responseTo (storeWork store)) ∧
              AnsweredAlone (storeResponder store) items responses ∧
              NeverStuck (storeWork store) frontEnd items responses := by
  refine ⟨fun channel capacity timeout => ⟨_, start_eq channel capacity timeout⟩, ?_⟩
  intro frontEnd served body items fits read some
  have idle : frontEnd.Idle (storeWork store) := Served.idle served
  have few := Nat.le_trans (Reader.length_le_of_readValue read) (Nat.le_of_lt fits)
  refine ⟨items.map (responseTo (storeWork store)), ?_, rfl, answeredAlone_map .., idle.neverStuck few⟩
  rw [storeResponder_eq, (idle.answerBody fits).1, replyOf, read]
  cases items with
  | nil => exact absurd rfl some
  | cons item rest => rfl

def mixedBatch : Bytes :=
  Bytes.ofString
    "[\x7b\"jsonrpc\":\"2.0\",\"id\":7,\"method\":\"icx_getLastBlockHeight\"\x7d,[]]"

def mixedItems : List Value := [
  .object [("id", .number (.integer 7)), ("jsonrpc", .string "2.0"),
    ("method", .string "icx_getLastBlockHeight")],
  .array []]

theorem mixedBatch_answered_one_by_one :
    ∃ frontEnd responses, start "icon_dex" 0 { nanoseconds := 1000 } = .ok frontEnd ∧
      (frontEnd.answerBody (storeResponder Store.empty) mixedBatch).1 = .batch responses ∧
      responses = mixedItems.map (responseTo (storeWork Store.empty)) ∧
      AnsweredAlone (storeResponder Store.empty) mixedItems responses ∧
      NeverStuck (storeWork Store.empty) frontEnd mixedItems responses := by
  obtain ⟨starts, batches⟩ := batch_answered_one_by_one Store.empty
  obtain ⟨frontEnd, started⟩ := starts "icon_dex" 0 { nanoseconds := 1000 }
  have served : Served (storeResponder Store.empty) frontEnd := .started (by decide) started
  have fits : mixedBatch.length < 2 ^ 64 := by
    have length : mixedBatch.length = 63 := by decide +kernel
    omega
  have read : Reader.readValue.run mixedBatch = .ok (.array mixedItems) := by
    rfl
  have some : mixedItems ≠ [] := List.cons_ne_nil _ _
  obtain ⟨responses, batch, each, alone, runs⟩ := batches frontEnd served mixedBatch _ fits read some
  exact ⟨frontEnd, responses, started, batch, each, alone, runs⟩

end Batches

end FrontEnd

end LedgerNode.Rpc
