import LedgerNode.Proofs.Query.Wire
import LedgerNode.Proofs.Rpc.Requests
import LedgerNode.Proofs.Rpc.Underway

set_option autoImplicit false

namespace LedgerNode.Rpc

open Json Bus

structure InHex {α : Type} (read : String → Except Quantity.Fault α) (value : α) (number : Nat)
    (text : String) : Prop where
  hex : text = Quantity.toHex number
  canonical : Quantity.Canonical text
  meaning : read text = .ok value

inductive Rendered : Answer → Value → Prop where
  | balance {value : Balance} {text : String}
      (hex : InHex Quantity.readBalance value value.toNat text) :
      Rendered (.balance value) (.string text)
  | height {value : UInt64} {text : String} (hex : InHex Quantity.readWord value value.toNat text) :
      Rendered (.height value) (.string text)
  | account {summary : AccountSummary} {address balance : String}
      (lower : ∀ character ∈ address.toList, character.isUpper = false)
      (named : Address.read address = .ok summary.address)
      (hex : InHex Quantity.readBalance summary.balance summary.balance.toNat balance) :
      Rendered (.account summary) (.object [
        ("address", .string address),
        ("balance", .string balance),
        ("isContract", .boolean summary.isContract)])

theorem rendered_resultValue (answer : Answer) : Rendered answer (resultValue answer) := by
  have inHex (value : Balance) :
      InHex Quantity.readBalance value value.toNat (Quantity.toHex value.toNat) :=
    ⟨rfl, Quantity.canonical_toHex _, Quantity.readBalance_toHex value⟩
  cases answer with
  | balance value => exact .balance (inHex value)
  | account summary =>
    exact .account summary.address.isUpper_text summary.address.read_text (inHex summary.balance)
  | height value =>
    exact .height ⟨rfl, Quantity.canonical_toHex _, Quantity.readWord_toHex value⟩

namespace FrontEnd

inductive Fixed (timeout : Duration) (value : Value) (first : Option Bytes) :
    Except RpcError Value → Prop where
  | invalid {error : RpcError} (refused : readRequest value = .error error)
      (code : error.code ∈ validationCodes) : Fixed timeout value first (.error error)
  | late {query : Query} {error : RpcError} (asks : readRequest value = .ok query)
      (silent : first = none) (code : error.code = -32006)
      (message : error.message = "No reply within " ++ timeout.text) :
      Fixed timeout value first (.error error)
  | garbled {query : Query} {payload : Bytes} {fault : Fault} {error : RpcError}
      (asks : readRequest value = .ok query) (got : first = some payload)
      (read : Reply.read payload = .error fault) (code : error.code = -32000)
      (message : error.message = fault.message) : Fixed timeout value first (.error error)
  | failed {query : Query} {payload : Bytes} {failure : QueryError} {error : RpcError}
      (asks : readRequest value = .ok query) (got : first = some payload)
      (read : Reply.read payload = .ok (.error failure)) (code : error.code = failure.code)
      (message : error.message = failure.message) : Fixed timeout value first (.error error)
  | answered {query : Query} {payload : Bytes} {answer : Answer} {result : Value}
      (asks : readRequest value = .ok query) (got : first = some payload)
      (read : Reply.read payload = .ok (.ok answer)) (rendered : Rendered answer result) :
      Fixed timeout value first (.ok result)

theorem outcomeAfter_fixed (timeout : Duration) (value : Value) (first : Option Bytes) :
    Fixed timeout value first (outcomeAfter timeout value first) := by
  unfold outcomeAfter
  split
  next error refused => exact .invalid refused (validates_readRequest value error refused)
  next query asks =>
    split
    next => exact .late asks rfl rfl rfl
    next payload =>
      split
      next fault read => exact .garbled asks rfl read rfl rfl
      next reply read =>
        cases reply with
        | error failure => exact .failed asks rfl read rfl rfl
        | ok answer => exact .answered asks rfl read (rendered_resultValue answer)

/--
A batch with the first replies in time to its items and its responses. Its route was served throughout, and no
reply that was made for an earlier client of that name was taken for one to its calls.
-/
inductive Concluded (respond : Responder) (frontEnd : FrontEnd) (values : List Value) :
    List (Option Bytes) → List Response → Prop where
  | intro {network : Network} {queue : QueueId} {submissions : List Submission}
      {steps : List Network.Step}
      (underway : Underway respond frontEnd values submissions steps network)
      (attended : ∀ step ∈ steps, step.Attends frontEnd.client frontEnd.route queue)
      (few : network.callCount frontEnd.client < 2 ^ 64)
      (past : ∀ id ∈ calls submissions, (network.outcome? id).isSome = true) :
      Concluded respond frontEnd values (submissions.map (firstOf steps network))
        (gather network values submissions)

structure Determined (timeout : Duration) (values : List Value) (firsts : List (Option Bytes))
    (responses : List Response) : Prop where
  counted : firsts.length = values.length
  answered : responses.length = values.length
  fixed : ∀ (place : Nat) (value : Value) (first : Option Bytes), values[place]? = some value →
    firsts[place]? = some first → ∃ response, responses[place]? = some response ∧
      response.id = responseId value ∧ Fixed timeout value first response.outcome
  spelled : ∀ (place : Nat) (value : Value) (query : Query) (answer : Answer)
    (field : String × Value), values[place]? = some value → readRequest value = .ok query →
    Answer.Spelled answer field →
    firsts[place]? = some (some (writeObject [writeMember "Ok" (answer.writeSpelled field)])) →
      ∃ result, responses[place]? = some (.success (responseId value) result) ∧
        Rendered answer result

/-- Two batches answer alike what they ask alike and hear alike. -/
structure Agree (values items : List Value) (firsts replies : List (Option Bytes))
    (responses answers : List Response) : Prop where
  each : ∀ (place position : Nat) (value : Value) (first : Option Bytes),
    values[place]? = some value → items[position]? = some value → firsts[place]? = some first →
    replies[position]? = some first → responses[place]? = answers[position]?
  whole : values = items → firsts = replies → responses = answers

section Connecting

variable {base : Network} {channel : String} {capacity : Nat} {timeout : Duration}
  {frontEnd : FrontEnd}

theorem connect_eq_connected (connected : connect base channel capacity timeout = .ok frontEnd) :
    (base.broker.lookup? (replyName (routeOf channel))).any base.broker.isConsumed = false ∧
      frontEnd.client = base.clients.length ∧
      frontEnd.network = base.connected (replyName (routeOf channel)) capacity := by
  unfold connect at connected
  simp only at connected
  split at connected
  next client network joined =>
    cases connected
    exact Network.connect_eq_ok joined
  next => cases connected

theorem profile_connected (network : Network) (name : String) (capacity : Nat) :
    ∃ owner, (network.connected name capacity).profiles[network.clients.length]? = some owner ∧
      owner.replyQueue = name ∧ owner.inbox = network.broker.queues.length := by
  simp [Network.profiles, Network.connected, Client.profile]

theorem connect_spec (respond : Responder)
    (connected : connect base channel capacity timeout = .ok frontEnd) :
    base.perform respond (.connect (routeOf channel ++ ".reply") capacity) = some frontEnd.network ∧
      frontEnd.client = base.clients.length ∧ frontEnd.route = routeOf channel ∧
      frontEnd.timeout = timeout ∧ frontEnd.network.calls = base.calls ∧
      frontEnd.network.isHeld frontEnd.client = true := by
  unfold connect at connected
  cases joined : base.connect (routeOf channel ++ ".reply") capacity with
  | error error => simp [joined] at connected
  | ok pair =>
    simp only [joined, Except.ok.injEq] at connected
    subst connected
    have performed : base.perform respond (.connect (routeOf channel ++ ".reply") capacity) =
        some pair.2 := by simp [Network.perform, joined, Except.toOption]
    obtain ⟨-, same, after⟩ := Network.connect_eq_ok joined
    refine ⟨performed, same, rfl, rfl, ?_, ?_⟩
    · rw [after]
      rfl
    · simp [Network.isHeld, same, after, Network.connected]

theorem connect_fresh {respond : Responder} (reached : Network.Reachable respond base)
    (connected : connect base channel capacity timeout = .ok frontEnd) :
    ∀ call ∈ frontEnd.network.calls, call.client ≠ frontEnd.client := by
  obtain ⟨-, client, -, -, calls, -⟩ := connect_spec respond connected
  rw [calls, client]
  intro call member same
  have numbered := (Network.run_iff_reachable.mpr reached).numbered
  have owned := numbered.owned call.issue (List.mem_map_of_mem member)
  rw [Network.profiles, List.length_map] at owned
  exact absurd same (Nat.ne_of_lt owned)

end Connecting

section Determinacy

variable {respond : Responder} {base : Network} {channel : String} {capacity : Nat}
  {timeout : Duration} {frontEnd : FrontEnd} {values : List Value} {firsts : List (Option Bytes)}
  {responses : List Response}

theorem Concluded.outcomes (reached : Network.Reachable respond base)
    (connected : connect base channel capacity timeout = .ok frontEnd)
    (concluded : Concluded respond frontEnd values firsts responses) :
    firsts.length = values.length ∧
      responses = (values.zip firsts).map (fun (value, first) =>
        { id := responseId value, outcome := outcomeAfter timeout value first }) := by
  obtain ⟨underway, attended, few, past⟩ := concluded
  have fresh := connect_fresh reached connected
  obtain ⟨performed, -, -, rfl, -, -⟩ := connect_spec respond connected
  obtain ⟨earlier, trace, -⟩ := (Network.run_iff_reachable.mpr reached).trace
  have prior := trace.next _ performed
  have stands := underway.stands
  refine ⟨by rw [List.length_map, stands.length_eq], ?_⟩
  refine gather_eq stands past (fun id call found mine routed => ?_)
  exact (prior.heeds underway.trace fresh attended few found mine routed).2

theorem Concluded.response (reached : Network.Reachable respond base)
    (connected : connect base channel capacity timeout = .ok frontEnd)
    (concluded : Concluded respond frontEnd values firsts responses) {place : Nat} {value : Value}
    {first : Option Bytes} (asked : values[place]? = some value)
    (got : firsts[place]? = some first) :
    responses[place]? =
      some { id := responseId value, outcome := outcomeAfter timeout value first } := by
  obtain ⟨-, rfl⟩ := concluded.outcomes reached connected
  have both : (values.zip firsts)[place]? = some (value, first) :=
    List.getElem?_zip_eq_some.mpr ⟨asked, got⟩
  rw [List.getElem?_map, both]
  rfl

theorem Concluded.determined (reached : Network.Reachable respond base)
    (connected : connect base channel capacity timeout = .ok frontEnd)
    (concluded : Concluded respond frontEnd values firsts responses) :
    Determined timeout values firsts responses := by
  obtain ⟨counted, same⟩ := concluded.outcomes reached connected
  refine ⟨counted, ?_, ?_, ?_⟩
  · rw [same, List.length_map, List.length_zip, counted, Nat.min_self]
  · intro place value first asked got
    exact ⟨_, concluded.response reached connected asked got, rfl,
      outcomeAfter_fixed timeout value first⟩
  · intro place value query answer field asked valid spelled got
    refine ⟨resultValue answer, ?_, rendered_resultValue answer⟩
    rw [concluded.response reached connected asked got]
    simp only [outcomeAfter, valid, spelled.read]
    rfl

/--
The response to each item of a batch is fixed by the item and the first reply in time to its own request,
whatever the order of the replies, and a batch that is under way always comes to an end.
-/
theorem batch_fixed_by_first_replies (reached : Network.Reachable respond base)
    (connected : connect base channel capacity timeout = .ok frontEnd) :
    (∀ values firsts responses, Concluded respond frontEnd values firsts responses →
      Determined timeout values firsts responses ∧
      ∀ (other : Responder) (origin : Network) (elsewhere : String) (room : Nat)
        (newer : FrontEnd) (items : List Value) (replies : List (Option Bytes))
        (answers : List Response), Network.Reachable other origin →
        connect origin elsewhere room timeout = .ok newer →
        Concluded other newer items replies answers →
          Agree values items firsts replies responses answers) ∧
    (∀ (network : Network) (value : Value) (error : RpcError), readRequest value = .error error →
      { frontEnd with network }.submit value = (.rejected error, { frontEnd with network })) ∧
    (∀ values submissions steps network,
      Underway respond frontEnd values submissions steps network →
      (∀ step ∈ steps, ∀ id ∈ calls submissions, step.action ≠ .abort id) →
      ∃ more, Underway respond frontEnd values submissions (steps ++ more)
          (network.await respond (calls submissions)) ∧
        (∀ step ∈ more, step.action.isScheduled = true) ∧
        ∀ id ∈ calls submissions,
          ((network.await respond (calls submissions)).outcome? id).isSome = true) ∧
    ∀ steps network body values, Underway respond frontEnd [] [] steps network →
      (∀ step ∈ steps, step.action ≠ .dropClient frontEnd.client) →
      Reader.readValue.run body = .ok (.array values) → values ≠ [] →
        ∃ submissions more after,
          Underway respond frontEnd values submissions (steps ++ more) after ∧
          (∀ id ∈ calls submissions, (after.outcome? id).isSome = true) ∧
          ({ frontEnd with network }.answerBody respond body).1 =
            .batch (gather after values submissions) := by
  obtain ⟨performed, -, -, -, -, held⟩ := connect_spec respond connected
  have there := reached.next _ performed
  refine ⟨fun values firsts responses concluded =>
    ⟨concluded.determined reached connected, ?_⟩, ?_, ?_, ?_⟩
  · intro other origin elsewhere room newer items replies answers reached' connected' concluded'
    refine ⟨?_, ?_⟩
    · intro place position value first asked asks got gets
      rw [concluded.response reached connected asked got,
        concluded'.response reached' connected' asks gets]
    · rintro rfl rfl
      rw [(concluded.outcomes reached connected).2, (concluded'.outcomes reached' connected').2]
  · intro network value error refused
    exact (submit_of_error { frontEnd with network } refused).1
  · exact fun values submissions steps network underway kept => underway.awaited there kept
  · intro steps network body values underway kept read some
    have run := (Network.run_iff_reachable.mpr there).trans underway.trace.run
    have held := underway.trace.isHeld kept held
    obtain ⟨submissions, more, after, batch, past, answered⟩ := answerBody_eq_gather
      (Network.run_iff_reachable.mp run : Network.Reachable respond { frontEnd with network }.network)
      held read some
    exact ⟨submissions, more, after, underway.trans batch, past, answered⟩

end Determinacy

section Runs

def heightItem (id : Nat) : Value :=
  .object [("id", .number (.integer id)), ("jsonrpc", .string version),
    ("method", .string Method.lastHeight.name)]

def heightReply (height : UInt64) : Bytes :=
  Reply.write (.ok (.height height))

def replying (post : PostId) (id : CorrelationId) (height : UInt64) : Action :=
  .publish "icon_score.icon_dex.reply"
    { correlationId := id, replyTo := none, payload := heightReply height } (some post)

def quiet : Responder :=
  fun _ _ _ => none

def routed : Network :=
  Network.empty.opened "icon_score.icon_dex" 2

def newcomer : FrontEnd where
  network := routed.connected "icon_score.icon_dex.reply" 2
  client := 0
  route := "icon_score.icon_dex"
  timeout := ⟨5⟩

def mixedHeights : List Value :=
  [heightItem 7, heightItem 8, .array []]

def crossedReplies : List Action :=
  [.receive 0, .receive 0, replying 1 1 2, replying 0 0 1, .dispatch 0, .dispatch 0, .finish 0,
    .finish 1]

def repeatedReplies : List Action :=
  [.receive 0, replying 0 0 1, .dispatch 0, replying 0 0 9, .dispatch 0, .receive 0, replying 1 1 2,
    .finish 0, .dispatch 0, .finish 1]

def playBatch (frontEnd : FrontEnd) (values : List Value) (actions : List Action) :
    Option (List Network.Step × Network) :=
  (Network.record quiet actions (frontEnd.submitAll values).2.network).map (fun later =>
    (frontEnd.sendings values ++ later.1, later.2))

theorem underway_of_playBatch {frontEnd : FrontEnd} {values : List Value} {actions : List Action}
    {steps : List Network.Step} {network : Network}
    (held : frontEnd.network.isHeld frontEnd.client = true)
    (played : frontEnd.playBatch values actions = some (steps, network)) :
    Underway quiet frontEnd values (frontEnd.submitAll values).1 steps network := by
  obtain ⟨later, recorded, same⟩ := Option.map_eq_some_iff.mp played
  cases same
  have underway := (Underway.start : Underway quiet frontEnd [] [] [] _).submitAll values held
  exact underway.extend (Network.trace_of_record recorded)

def mixedReplies : List (Option Bytes) :=
  [some (heightReply 1), some (heightReply 2), none]

theorem concluded_of_playBatch (actions : List Action)
    (played : ∃ run ∈ newcomer.playBatch mixedHeights actions,
      (∀ step ∈ run.1, step.Attends newcomer.client newcomer.route 0) ∧
      run.2.callCount newcomer.client < 2 ^ 64 ∧
      (∀ id ∈ calls (newcomer.submitAll mixedHeights).1, (run.2.outcome? id).isSome = true) ∧
      (newcomer.submitAll mixedHeights).1.map (firstOf run.1 run.2) = mixedReplies) :
    ∃ responses, Concluded quiet newcomer mixedHeights mixedReplies responses := by
  obtain ⟨⟨steps, network⟩, played, attended, few, past, same⟩ := played
  rw [← same]
  exact ⟨_, .intro (underway_of_playBatch (by decide) played) attended few past⟩

theorem crossed_and_repeated_agree :
    ∃ responses answers, Concluded quiet newcomer mixedHeights mixedReplies responses ∧
      Concluded quiet newcomer mixedHeights mixedReplies answers ∧
      Determined ⟨5⟩ mixedHeights mixedReplies responses ∧ responses = answers := by
  obtain ⟨responses, crossed⟩ := concluded_of_playBatch crossedReplies (by decide +kernel)
  obtain ⟨answers, repeated⟩ := concluded_of_playBatch repeatedReplies (by decide +kernel)
  have reached : Network.Reachable quiet routed := .next (.declare "icon_score.icon_dex" 2) .empty rfl
  have connected : connect routed "icon_dex" 2 ⟨5⟩ = .ok newcomer := rfl
  obtain ⟨fixed, -⟩ := batch_fixed_by_first_replies reached connected
  obtain ⟨determined, agree⟩ := fixed mixedHeights mixedReplies responses crossed
  have agreed := agree quiet routed "icon_dex" 2 newcomer mixedHeights mixedReplies answers reached
    connected repeated
  exact ⟨responses, answers, crossed, repeated, determined, agreed.whole rfl rfl⟩

/-- The call of a front end timed out while a service holds its request, and the front end is gone. -/
def deserted : Option Network :=
  (Network.record quiet [
    .declare "icon_score.icon_dex" 2, .connect "icon_score.icon_dex.reply" 2,
    .call 0 "icon_score.icon_dex" Query.lastHeight.write ⟨5⟩, .receive 0, .tick 5, .expire 0,
    .dropClient 0, .retire 0] .empty).map Prod.snd

def staleReplies : List Action :=
  [.receive 0, replying 0 0 1, replying 1 0 2, .dispatch 1, .dispatch 1, .finish 1]

theorem stale_reply_fixes_response :
    ∃ base frontEnd submissions steps network, Network.Reachable quiet base ∧
      connect base "icon_dex" 2 ⟨5⟩ = .ok frontEnd ∧
      Underway quiet frontEnd [heightItem 7] submissions steps network ∧
      (∀ step ∈ steps, step.Served frontEnd.client frontEnd.route 0) ∧
      submissions.map (firstOf steps network) = [some (heightReply 2)] ∧
      Reply.read (heightReply 2) = .ok (.ok (.height 2)) ∧
      (gather network [heightItem 7] submissions).map Response.write =
        [(Response.success (.number (.integer 7)) (.string "0x1")).write] := by
  obtain ⟨base, there, frontEnd, connected, ⟨steps, network⟩, played, held, rest⟩ :
      ∃ base ∈ deserted, ∃ frontEnd ∈ (connect base "icon_dex" 2 ⟨5⟩).toOption,
        ∃ run ∈ frontEnd.playBatch [heightItem 7] staleReplies,
          frontEnd.network.isHeld frontEnd.client = true ∧
          (∀ step ∈ run.1, step.Served frontEnd.client frontEnd.route 0) ∧
          (frontEnd.submitAll [heightItem 7]).1.map (firstOf run.1 run.2) = [some (heightReply 2)] ∧
          (gather run.2 [heightItem 7] (frontEnd.submitAll [heightItem 7]).1).map Response.write =
            [(Response.success (.number (.integer 7)) (.string "0x1")).write] := by
    decide +kernel
  obtain ⟨recorded, done, rfl⟩ := Option.map_eq_some_iff.mp there
  have reached := Network.run_iff_reachable.mp (Network.trace_of_record done).run
  obtain ⟨served, heard, written⟩ := rest
  exact ⟨_, frontEnd, _, steps, network, reached, Network.toOption_eq_some connected,
    underway_of_playBatch held played, served, heard, Reply.read_write _, written⟩

end Runs
end FrontEnd

end LedgerNode.Rpc
