import LedgerNode.Proofs.Query.Heights
import LedgerNode.Proofs.Rpc.Batch
import LedgerNode.Proofs.Rpc.Requests
import LedgerNode.Proofs.Storage.History
import LedgerNode.Rpc.Node

set_option autoImplicit false

namespace LedgerNode

namespace Query

section Answers

theorem answerAt_balance (history : List Write) (height : UInt64) (params : AccountParams) :
    answerAt (replay history) height (.balance params) =
      .ok (.balance (lastWrittenBalance history params.address)) := by
  simp only [answerAt, balance_replay]
  rfl

theorem answerAt_account (history : List Write) (height : UInt64) (params : AccountParams) :
    answerAt (replay history) height (.account params) = .ok (.account {
      address := params.address
      balance := lastWrittenBalance history params.address
      isContract := params.address.isContract }) := by
  obtain ⟨account, read, own, balance⟩ := account_replay history params.address
  simp only [answerAt, read]
  rw [← balance, ← own]
  rfl

end Answers

end Query

namespace Rpc

open Json Bus

/-- The node as the bodies that it handled since have left it. -/
inductive Node.Later (node : Node) : Node → Prop where
  | same : Later node node
  | handled {later : Node} {body : Bytes} :
      Later node later → body.length < 2 ^ 64 → Later node (later.handle body).2

/-- A reply to a request at a height, where only the last height has a state. -/
structure AnsweredAt (last : UInt64) (height : Option UInt64) (id result : Value)
    (reply : RpcReply) : Prop where
  latest : height = none ∨ height = some last → reply = .single (.success id result)
  beyond : ∀ asked, height = some asked → last < asked →
    ∃ error, reply = .single (.failure id error) ∧ error.code = -32602
  gone : ∀ asked, height = some asked → asked < last →
    ∃ error, reply = .single (.failure id error) ∧ error.code = -32000

section Fidelity

variable {store : Store} {history : List Write} {value id : Value} {query : Query}

theorem Node.start_eq (store : Store) (channel : String) (capacity : Nat) (timeout : Duration) :
    ∃ frontEnd, FrontEnd.start channel capacity timeout = .ok frontEnd ∧
      Node.start store channel capacity timeout = .ok { store, frontEnd } := by
  refine ⟨_, Rpc.start_eq channel capacity timeout, ?_⟩
  rw [Node.start, Rpc.start_eq]
  rfl

theorem Node.Later.served {node later : Node} (after : node.Later later)
    (served : FrontEnd.Served (storeResponder node.store) node.frontEnd) :
    later.store = node.store ∧ FrontEnd.Served (storeResponder node.store) later.frontEnd := by
  induction after with
  | same => exact ⟨rfl, served⟩
  | handled _ fits ih =>
    obtain ⟨same, served⟩ := ih
    refine ⟨same, ?_⟩
    have next := served.answered fits
    rw [← same] at next ⊢
    exact next

theorem outcomeOf_storeWork (read : readRequest value = .ok query) :
    FrontEnd.outcomeOf (storeWork store) value = replyResult (query.answer store) :=
  FrontEnd.outcomeOf_of_worked read (by rw [storeWork, Query.answerPayload, Query.read_write])

theorem handle_query {node : Node} (served : FrontEnd.Served (storeResponder store) node.frontEnd)
    (same : node.store = store) {body : Bytes} {members : List (String × Value)}
    (reads : Reader.readValue.run body = .ok (.object members))
    (read : readRequest (.object members) = .ok query) :
    (node.handle body).1 = .single {
      id := responseId (.object members)
      outcome := replyResult (query.answer store) } := by
  -- The store answers every payload, so its node is a service that works out the replies.
  have idle : node.frontEnd.Idle (storeWork store) := FrontEnd.Served.idle served
  have answered := (idle.answerSingle (.object members)).1
  rw [FrontEnd.responseTo, outcomeOf_storeWork read] at answered
  have handled : (node.handle body).1 =
      .single (node.frontEnd.answerSingle (storeResponder store) (.object members)).1 := by
    simp only [Node.handle, FrontEnd.answerBody, reads, same]
  rw [handled]
  exact congrArg RpcReply.single answered

theorem answeredAt_query {answer : Answer} (id : Value)
    (known : query.answerAt (replay history) (lastWrittenHeight history) = .ok answer) :
    AnsweredAt (lastWrittenHeight history) query.height id (resultValue answer)
      (.single { id, outcome := replyResult (query.answer (replay history)) }) := by
  obtain ⟨stored, read, last⟩ := lastHeight_replay history
  rw [← last] at known ⊢
  refine ⟨fun latest => ?_, fun asked same beyond => ?_, fun asked same gone => ?_⟩
  · rw [Query.answer_latest read latest, known]
    rfl
  · rw [Query.answer_beyond read same beyond]
    exact ⟨_, rfl, rfl⟩
  · rw [Query.answer_gone read same gone]
    exact ⟨_, rfl, rfl⟩

theorem answeredAt_asked {node : Node}
    (served : FrontEnd.Served (storeResponder (replay history)) node.frontEnd)
    (same : node.store = replay history) {body : Bytes} (reads : Reader.readValue.run body = .ok value)
    {method : Method} {address : Address} {height : Option UInt64}
    (asks : AsksAccount method value id address height) {ask : AccountParams → Query}
    (asked : ∀ params, readQuery method params = ask <$> readAccountParams params)
    (own : ∀ params, (ask params).height = params.height) {answer : Answer}
    (known : (ask { address, height }).answerAt (replay history) (lastWrittenHeight history) =
      .ok answer) :
    AnsweredAt (lastWrittenHeight history) height id (resultValue answer) (node.handle body).1 := by
  -- Both methods of accounts are answered alike, each by its own query.
  obtain ⟨written, normal⟩ := Reader.normal_of_readValue reads
  obtain ⟨respondedTo, params, read, account⟩ := asks.readRequest normal
  obtain ⟨members, _, _, rfl, -⟩ := asks
  have query : readRequest (.object members) = .ok (ask { address, height }) := by
    rw [read, asked, account]
    rfl
  have answered := answeredAt_query id known
  rw [handle_query served same reads query, respondedTo]
  rwa [own] at answered

/--
From any node that was started on what a history of writes left, and in whatever state earlier bodies
have left it, a well-formed request gets what the history wrote last, at the height that it wrote last.
-/
theorem answers_what_was_written (history : List Write) (channel : String) (capacity : Nat)
    {timeout : Duration} (patient : 0 < timeout.nanoseconds) :
    ∃ started, Node.start (replay history) channel capacity timeout = .ok started ∧
      ∀ node, started.Later node → ∀ (body : Bytes) (value id : Value),
        Reader.readValue.run body = .ok value →
        (∀ address height, AsksAccount .balance value id address height →
          AnsweredAt (lastWrittenHeight history) height id
            (.string (Quantity.toHex (lastWrittenBalance history address).toNat))
            (node.handle body).1) ∧
        (∀ address height, AsksAccount .account value id address height →
          AnsweredAt (lastWrittenHeight history) height id
            (.object [
              ("address", .string address.text),
              ("balance", .string (Quantity.toHex (lastWrittenBalance history address).toNat)),
              ("isContract", .boolean (address.kind = .contract))])
            (node.handle body).1) ∧
        (AsksHeight value id → (node.handle body).1 =
          .single (.success id (.string (Quantity.toHex (lastWrittenHeight history).toNat)))) ∧
        (node.handle body).2.store = replay history := by
  obtain ⟨frontEnd, started, same⟩ := Node.start_eq (replay history) channel capacity timeout
  refine ⟨_, same, ?_⟩
  intro node later body value id reads
  have ⟨kept, served⟩ : node.store = replay history ∧
      FrontEnd.Served (storeResponder (replay history)) node.frontEnd :=
    later.served (.started patient started)
  refine ⟨?_, ?_, ?_, kept⟩
  · intro address height asks
    exact answeredAt_asked served kept reads asks (fun _ => rfl) (fun _ => rfl)
      (Query.answerAt_balance ..)
  · intro address height asks
    exact answeredAt_asked served kept reads asks (fun _ => rfl) (fun _ => rfl)
      (Query.answerAt_account ..)
  · intro asks
    obtain ⟨stored, read, last⟩ := lastHeight_replay history
    obtain ⟨own, query⟩ := asks.readRequest
    obtain ⟨members, rfl, -⟩ := asks
    rw [handle_query served kept reads query, own, Query.answer_latest read (.inl rfl), last]
    rfl

def holder : Address where
  kind := .contract
  body := List.replicate 20 1
  length_body := rfl

def twoWrites : List Write := [
  .putAccount { address := holder, balance := 1, flags := 0 },
  .putHeight 3,
  .putBatch [{ address := holder, balance := 0x10000000000000001, flags := 0 }] none]

theorem twoWrites_answered :
    ∃ started, Node.start (replay twoWrites) "icon_dex" 0 { nanoseconds := 1000 } = .ok started ∧
      (started.handle (accountRequest .balance (.number (.integer 7)) holder (some 3)).write).1 =
        .single (.success (.number (.integer 7)) (.string "0x10000000000000001")) ∧
      ∃ error,
        (started.handle (accountRequest .account (.string "x") holder (some 4)).write).1 =
          .single (.failure (.string "x") error) ∧ error.code = -32602 := by
  have patient : 0 < (Duration.mk 1000).nanoseconds := by decide
  obtain ⟨started, same, answers⟩ := answers_what_was_written twoWrites "icon_dex" 0 patient
  refine ⟨started, same, ?_, ?_⟩
  · have fits : (Value.number (.integer 7)).Fits 0 := by
      constructor <;> decide
    have reads := readValue_accountRequest .balance holder (some 3) fits
    have asks := asksAccount_accountRequest .balance holder (some 3)
      (.inr (.inl ⟨.integer 7, rfl⟩))
    have latest := ((answers started .same _ _ _ reads).1 holder (some 3) asks).latest (.inr rfl)
    exact latest
  · have fits : (Value.string "x").Fits 0 := trivial
    have reads := readValue_accountRequest .account holder (some 4) fits
    have asks := asksAccount_accountRequest .account holder (some 4)
      (.inl ⟨"x", rfl⟩)
    exact ((answers started .same _ _ _ reads).2.1 holder (some 4) asks).beyond 4 rfl (by decide)

end Fidelity

end Rpc

end LedgerNode
