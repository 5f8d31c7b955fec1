import LedgerNode.Proofs.Query.Heights
import LedgerNode.Proofs.Rpc.Batch
import LedgerNode.Proofs.Rpc.Replies

set_option autoImplicit false

namespace LedgerNode.Rpc

open Json Bus

def queryWork (evaluate : Query → Reply) (payload : Bytes) : Bytes :=
  match Query.read payload with
  | .ok query => (evaluate query).write
  | .error fault => Reply.write (.error (.invalidRequest fault.message))

theorem storeResponder_eq_queryWork (store : Store) :
    storeResponder store = pureResponder (queryWork (Query.answer store)) := by
  funext _ _ payload
  unfold storeResponder Query.answerPayload pureResponder queryWork
  cases Query.read payload with
  | ok query => rfl
  | error fault => rfl

inductive Tells (error : QueryError) : Value → Prop where
  | failure (id : Value) : Tells error (.object [
      ("error", .object [
        ("code", .number (.integer error.code)),
        ("message", .string error.message)]),
      ("id", id),
      ("jsonrpc", .string "2.0")])

/-- A front end of a service that answers queries as `evaluate` does tells its clients of every failure. -/
structure TellsFailures (evaluate : Query → Reply) (frontEnd : FrontEnd) : Prop where
  alone : ∀ (body : Bytes) (value : Value) (query : Query) (error : QueryError),
    Reader.readValue.run body = .ok value → readRequest value = .ok query →
    evaluate query = .error error →
      ∃ seen, Reader.readValue.run
        (frontEnd.answerBody (pureResponder (queryWork evaluate)) body).1.write = .ok seen ∧
          Tells error seen
  batch : ∀ (body : Bytes) (items : List Value), body.length < 2 ^ 64 →
    Reader.readValue.run body = .ok (.array items) → items ≠ [] →
      ∃ seen, Reader.readValue.run
        (frontEnd.answerBody (pureResponder (queryWork evaluate)) body).1.write = .ok (.array seen) ∧
          ∀ (place : Nat) (item : Value) (query : Query) (error : QueryError),
            items[place]? = some item → readRequest item = .ok query → evaluate query = .error error →
              ∃ tree, seen[place]? = some tree ∧ Tells error tree

section Failures

variable {network : Network} {call : CallId} {value id seen : Value} {query : Query}
  {error : QueryError}

theorem Shows.tells (shows : Shows id (.error (.query error)) seen) : Tells error seen := by
  cases shows with
  | error => exact .failure _

theorem answerPayload_ne_invalidRequest (store : Store) (query : Query) (reason : String) :
    Query.answerPayload store query.write ≠ .error (.invalidRequest reason) := by
  intro failed
  rw [Query.answerPayload, Query.read_write] at failed
  have other : QueryError.invalidRequestCode ≠ QueryError.invalidParamsCode ∧
      QueryError.invalidRequestCode ≠ QueryError.serverCode := by decide
  rcases Query.code_of_answer failed with code | code
  · exact other.1 code
  · exact other.2 code

theorem collect_failure (ended : network.outcome? call = some (.ok (Reply.write (.error error)))) :
    FrontEnd.collect network (.sent call) = .error (.query error) := by
  have read : (Reply.read (Reply.write (.error error))).mapError BusError.codec = .ok (.error error) := by
    rw [Reply.read_write]
    rfl
  simp only [FrontEnd.collect, Network.outcomeRead?, ended, Option.map_some, read]
  rfl

theorem proper_responseTo (sound : value.Sound) (work : Bytes → Bytes) :
    Proper (FrontEnd.responseTo work value) := by
  refine ⟨FrontEnd.identifies_of_ownId (FrontEnd.ownId_responseId value) sound, ?_⟩
  intro result worked
  unfold FrontEnd.responseTo FrontEnd.outcomeOf at worked
  split at worked
  next => cases worked
  next =>
    split at worked
    next => exact answer_of_replyResult worked
    next => cases worked

theorem tells_responseTo {evaluate : Query → Reply} (sound : value.Sound)
    (read : readRequest value = .ok query) (failed : evaluate query = .error error) :
    Tells error (FrontEnd.responseTo (queryWork evaluate) value).tree.reread.normal := by
  have worked : queryWork evaluate query.write = (evaluate query).write := by
    rw [queryWork, Query.read_write]
  have outcome : (FrontEnd.responseTo (queryWork evaluate) value).outcome = .error (.query error) := by
    rw [FrontEnd.responseTo, FrontEnd.outcomeOf_of_worked read worked, failed]
    rfl
  have shows := (proper_responseTo sound (queryWork evaluate)).shows
  rw [outcome] at shows
  exact shows.tells

theorem object_of_readRequest (read : readRequest value = .ok query) :
    ∃ members, value = .object members := by
  cases value with
  | object members => exact ⟨members, rfl⟩
  | _ => cases read

theorem tellsFailures {evaluate : Query → Reply} {frontEnd : FrontEnd}
    (idle : frontEnd.Idle (queryWork evaluate)) : TellsFailures evaluate frontEnd := by
  constructor
  · intro body value query error whole read failed
    -- Only an object asks a query, so the body is not taken for a batch.
    obtain ⟨members, rfl⟩ := object_of_readRequest read
    have answered : (frontEnd.answerBody (pureResponder (queryWork evaluate)) body).1 =
        .single (FrontEnd.responseTo (queryWork evaluate) (.object members)) := by
      unfold FrontEnd.answerBody
      rw [whole]
      exact congrArg RpcReply.single (idle.answerSingle _).1
    have sound := sound_of_readValue whole
    rw [answered]
    exact ⟨_, (proper_responseTo sound _).run_single, tells_responseTo sound read failed⟩
  · intro body items fits whole more
    have answered : (frontEnd.answerBody (pureResponder (queryWork evaluate)) body).1 =
        .batch (items.map (FrontEnd.responseTo (queryWork evaluate))) := by
      rw [(idle.answerBody fits).1, FrontEnd.replyOf, whole]
      cases items with
      | nil => exact absurd rfl more
      | cons => rfl
    have sound := (sound_of_readValue whole).item
    have proper := List.forall_mem_map.mpr (fun item member =>
      proper_responseTo (sound item member) (queryWork evaluate))
    rw [answered]
    refine ⟨_, run_batch proper, fun place item query error there read failed => ?_⟩
    refine ⟨_, ?_, tells_responseTo (sound item (List.mem_of_getElem? there)) read failed⟩
    rw [List.getElem?_map, List.getElem?_map, there]
    rfl

/--
Queries and replies of every kind are read as they were written. So a service never says that a query of a
front end is no request, and its failures are told to clients under their own codes and messages.
-/
theorem queries_and_replies_survive_bus :
    (∀ query : Query, Query.read query.write = .ok query) ∧
    (∀ reply : Reply, Reply.read reply.write = .ok reply) ∧
    (∀ store value query, readRequest value = .ok query → ∀ reason,
      Query.answerPayload store query.write ≠ .error (.invalidRequest reason)) ∧
    (∀ (network : Network) call error,
      network.outcome? call = some (.ok (Reply.write (.error error))) → ∀ id, Identifies id →
        ∃ seen, Reader.readValue.run
          (Response.write { id, outcome := FrontEnd.collect network (.sent call) }) = .ok seen ∧
            Tells error seen) ∧
    (∀ store, storeResponder store = pureResponder (queryWork (Query.answer store))) ∧
    ∀ evaluate frontEnd, FrontEnd.Served (pureResponder (queryWork evaluate)) frontEnd →
      TellsFailures evaluate frontEnd := by
  refine ⟨Query.read_write, Reply.read_write, ?_, ?_, storeResponder_eq_queryWork, ?_⟩
  · intro store value query _ reason
    exact answerPayload_ne_invalidRequest store query reason
  · intro network call error ended id identifies
    have proper : Proper (.failure id (.query error)) := ⟨identifies, nofun⟩
    rw [collect_failure ended]
    exact ⟨_, proper.run_single, proper.shows.tells⟩
  · intro evaluate frontEnd served
    exact tellsFailures served.idle

def brokenDisk : QueryError :=
  .storage "disk \"0\"\n"

def failedNetwork : Network where
  broker := .empty
  nextPost := 1
  clients := []
  calls := [{
    client := 0
    correlationId := 0
    route := "icon_score.icon_dex"
    post := 0
    timeout := { nanoseconds := 1000 }
    deadline := 1000
    state := .returned (Reply.write (.error brokenDisk)) }]
  servers := []
  jobs := []
  clock := 0
  warnings := []

def heightRequest : Value :=
  .object [("id", .number (.integer 7)), ("jsonrpc", .string "2.0"),
    ("method", .string "icx_getLastBlockHeight")]

theorem brokenDisk_told :
    (∀ reason, Query.answerPayload Store.empty Query.lastHeight.write ≠ .error (.invalidRequest reason)) ∧
    (∃ seen, Reader.readValue.run (Response.write {
        id := .null
        outcome := FrontEnd.collect failedNetwork (.sent 0) }) = .ok seen ∧ Tells brokenDisk seen) ∧
    ∃ frontEnd, FrontEnd.start "icon_dex" 0 { nanoseconds := 1000 } = .ok frontEnd ∧
      (∃ seen, Reader.readValue.run (frontEnd.answerBody
          (pureResponder (queryWork (fun _ => .error brokenDisk))) heightRequest.write).1.write =
            .ok seen ∧ Tells brokenDisk seen) ∧
      ∃ seen, Reader.readValue.run (frontEnd.answerBody
          (pureResponder (queryWork (fun _ => .error brokenDisk))) FrontEnd.mixedBatch).1.write =
            .ok (.array seen) ∧ ∃ tree, seen[0]? = some tree ∧ Tells brokenDisk tree := by
  obtain ⟨-, -, valid, ended, -, served⟩ := queries_and_replies_survive_bus
  have asks : readRequest heightRequest = .ok .lastHeight := by rfl
  obtain ⟨frontEnd, started⟩ : ∃ frontEnd,
      FrontEnd.start "icon_dex" 0 { nanoseconds := 1000 } = .ok frontEnd := ⟨_, rfl⟩
  have tells := served (fun _ => .error brokenDisk) frontEnd (.started (by decide) started)
  refine ⟨valid Store.empty heightRequest _ asks, ended failedNetwork 0 brokenDisk rfl .null .null,
    frontEnd, started, ?_, ?_⟩
  · have whole : Reader.readValue.run heightRequest.write = .ok heightRequest := by rfl
    exact tells.alone _ _ _ _ whole asks rfl
  · have fits : FrontEnd.mixedBatch.length < 2 ^ 64 := by
      have length : FrontEnd.mixedBatch.length = 63 := by decide +kernel
      omega
    have whole : Reader.readValue.run FrontEnd.mixedBatch = .ok (.array FrontEnd.mixedItems) := by rfl
    obtain ⟨seen, read, each⟩ := tells.batch _ _ fits whole (List.cons_ne_nil _ _)
    exact ⟨seen, read, each 0 heightRequest _ brokenDisk rfl asks rfl⟩

end Failures

end LedgerNode.Rpc
