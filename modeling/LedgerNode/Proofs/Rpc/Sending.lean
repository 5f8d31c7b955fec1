import LedgerNode.Proofs.Bus.Intake
import LedgerNode.Proofs.Rpc.Determinacy

set_option autoImplicit false

namespace LedgerNode.Rpc

open Json Bus Bus.Network

def itemsIn : Value → List Value
  | .array items => items
  | value => [value]

def itemsOf (body : Bytes) : List Value :=
  (Reader.readValue.run body).toOption.elim [] itemsIn

def queriesAmong (items : List Value) : List Query :=
  items.filterMap (fun item => (readRequest item).toOption)

def queriesOf (bodies : List Bytes) : List Query :=
  bodies.flatMap (fun body => queriesAmong (itemsOf body))

def messagesFor (route : String) (bodies : List Bytes) : List Message :=
  (queriesOf bodies).mapIdx (fun place query =>
    { correlationId := UInt64.ofNat place, replyTo := some (replyName route), payload := query.write })

def AsksNothing (body : Bytes) : Prop :=
  ∀ value, Reader.readValue.run body = .ok value →
    ∀ item ∈ itemsIn value, ∃ error, readRequest item = .error error

namespace FrontEnd

def asking (frontEnd : FrontEnd) (query : Query) : Ask where
  route := frontEnd.route
  payload := query.write
  timeout := frontEnd.timeout

def answerBodies (respond : Responder) (frontEnd : FrontEnd) (bodies : List Bytes) : FrontEnd :=
  bodies.foldl (fun frontEnd body => (frontEnd.answerBody respond body).2) frontEnd

/--
A batch under way amid steps in which nobody else calls in the front end's name. Its requests leave in order,
as `FrontEnd.submitAll` has them leave.
-/
inductive Sending (respond : Responder) (frontEnd : FrontEnd) :
    List Value → List Submission → List Network.Step → Network → Prop where
  | start : Sending respond frontEnd [] [] [] frontEnd.network
  | submit {values : List Value} {submissions : List Submission} {steps : List Network.Step}
      {network : Network} (value : Value) :
      Sending respond frontEnd values submissions steps network →
      network.isHeld frontEnd.client = true →
      Sending respond frontEnd (values ++ [value])
        (submissions ++ [({ frontEnd with network }.submit value).1])
        (steps ++ { frontEnd with network }.sending value)
        ({ frontEnd with network }.submit value).2.network
  | other {values : List Value} {submissions : List Submission} {steps : List Network.Step}
      {network after : Network} (action : Action) :
      Sending respond frontEnd values submissions steps network →
      network.perform respond action = some after →
      Step.ask? ⟨network, action, after⟩ frontEnd.client = none →
      Sending respond frontEnd values submissions
        (steps ++ [{ before := network, action, after }]) after

/--
Bodies that a front end handles one after the other: a body is handled once the calls for its items have their
outcomes. Nobody else calls in the front end's name.
-/
inductive Handling (respond : Responder) (frontEnd : FrontEnd) :
    List Bytes → List Network.Step → Network → Prop where
  | start : Handling respond frontEnd [] [] frontEnd.network
  | other {bodies : List Bytes} {steps : List Network.Step} {network after : Network}
      (action : Action) (earlier : Handling respond frontEnd bodies steps network)
      (performed : network.perform respond action = some after)
      (foreign : Step.ask? ⟨network, action, after⟩ frontEnd.client = none) :
      Handling respond frontEnd bodies (steps ++ [⟨network, action, after⟩]) after
  | body {bodies : List Bytes} {steps more : List Network.Step} {network after : Network}
      {body : Bytes} {submissions : List Submission}
      (earlier : Handling respond frontEnd bodies steps network)
      (sending : Sending respond { frontEnd with network } (itemsOf body) submissions more after)
      (past : ∀ id ∈ calls submissions, (after.outcome? id).isSome = true) :
      Handling respond frontEnd (bodies ++ [body]) (steps ++ more) after

structure Attentive (frontEnd : FrontEnd) (steps : List Network.Step) (network : Network)
    (queue : QueueId) : Prop where
  patient : 0 < frontEnd.timeout.nanoseconds
  prompt : ∀ step ∈ steps, step.Prompt frontEnd.client frontEnd.route queue
  consumed : network.broker.isConsumed queue = true

structure Reserved (respond : Responder) (frontEnd : FrontEnd) (steps : List Network.Step)
    (queue : QueueId) : Prop where
  unused : ∃ name capacity, frontEnd.network.broker.queue? queue = some (Queue.create name capacity)
  only : ∀ step ∈ steps, (step.before.handed? respond step.action queue).isSome = true →
    (step.ask? frontEnd.client).isSome = true

structure Sends (respond : Responder) (frontEnd : FrontEnd) (bodies : List Bytes)
    (steps : List Network.Step) (network : Network) : Prop where
  ids : network.idsOf frontEnd.client = (List.range (queriesOf bodies).length).map UInt64.ofNat
  part : ∀ queue, (network.messagesAmong frontEnd.client (network.receivedBy queue).reverse).Sublist
    (messagesFor frontEnd.route bodies)
  whole : ∀ queue, Attentive frontEnd steps network queue →
    network.messagesAmong frontEnd.client
      ((network.receivedBy queue).reverse ++ network.heldBy queue) = messagesFor frontEnd.route bodies
  read : ∀ queue, Attentive frontEnd steps network queue → network.bufferOf queue = [] →
    network.messagesAmong frontEnd.client (network.receivedBy queue).reverse =
      messagesFor frontEnd.route bodies
  alone : ∀ queue, Attentive frontEnd steps network queue → network.bufferOf queue = [] →
    Reserved respond frontEnd steps queue →
      (network.receivedBy queue).reverse.map Parcel.message = messagesFor frontEnd.route bodies

section Bodies

variable {respond : Responder} {frontEnd : FrontEnd} {body : Bytes} {bodies : List Bytes}
  {values : List Value} {submissions : List Submission} {steps : List Network.Step}
  {network : Network}

theorem queriesOf_singleton (body : Bytes) : queriesOf [body] = queriesAmong (itemsOf body) :=
  List.append_nil _

theorem queriesOf_concat (bodies : List Bytes) (body : Bytes) :
    queriesOf (bodies ++ [body]) = queriesOf bodies ++ queriesOf [body] :=
  List.flatMap_append

theorem queriesAmong_append (items more : List Value) :
    queriesAmong (items ++ more) = queriesAmong items ++ queriesAmong more :=
  List.filterMap_append

theorem queriesAmong_rejected {value : Value} {error : RpcError}
    (refused : readRequest value = .error error) : queriesAmong [value] = [] :=
  List.filterMap_cons_none (by rw [refused]; rfl)

theorem queriesAmong_accepted {value : Value} {query : Query} (asks : readRequest value = .ok query) :
    queriesAmong [value] = [query] :=
  List.filterMap_cons_some (by rw [asks]; rfl)

theorem itemsOf_of_read {value : Value} (read : Reader.readValue.run body = .ok value) :
    itemsOf body = itemsIn value := by
  rw [itemsOf, read]
  rfl

theorem queriesOf_eq_nil (silent : AsksNothing body) : queriesOf [body] = [] := by
  rw [queriesOf_singleton]
  cases read : Reader.readValue.run body with
  | error fault =>
    rw [itemsOf, read]
    rfl
  | ok value =>
    rw [itemsOf_of_read read]
    refine List.filterMap_eq_nil_iff.mpr fun item member => ?_
    obtain ⟨error, refused⟩ := silent value read item member
    rw [refused]
    rfl

theorem messagesFor_eq (route : String) (bodies : List Bytes) : messagesFor route bodies =
    requestsFrom (replyName route) ((queriesOf bodies).map Query.write) := by
  refine List.ext_getElem? fun place => ?_
  simp only [messagesFor, requestsFrom, List.getElem?_mapIdx, List.getElem?_map, Option.map_map]
  rfl

theorem read_messagesFor (route : String) (bodies : List Bytes) :
    (messagesFor route bodies).map (fun message => Query.read message.payload) =
      (queriesOf bodies).map Except.ok := by
  refine List.ext_getElem? fun place => ?_
  simp only [messagesFor, List.getElem?_map, List.getElem?_mapIdx, Option.map_map, Function.comp_def,
    Query.read_write]

theorem Sending.underway (sending : Sending respond frontEnd values submissions steps network) :
    Underway respond frontEnd values submissions steps network := by
  induction sending with
  | start => exact .start
  | submit value _ held ih => exact ih.submit value held
  | other action _ performed _ ih => exact ih.other action performed

theorem Sending.asks (sending : Sending respond frontEnd values submissions steps network) :
    Network.asks frontEnd.client steps = (queriesAmong values).map frontEnd.asking := by
  induction sending with
  | start => rfl
  | @submit values submissions steps network value _ held ih =>
    rw [queriesAmong_append, List.map_append]
    cases read : readRequest value with
    | error error =>
      obtain ⟨-, none⟩ := submit_of_error { frontEnd with network } read
      rw [none, queriesAmong_rejected read, List.append_nil, List.map_nil, List.append_nil, ih]
    | ok query =>
      obtain ⟨after, -, -, sends⟩ := submit_of_ok respond { frontEnd with network } read held
      rw [sends, asks_concat, queriesAmong_accepted read, ih]
      simp [Step.ask?, asking]
  | other action _ _ foreign ih => rw [asks_concat, foreign, ih, Option.toList_none, List.append_nil]

theorem Handling.trace (handling : Handling respond frontEnd bodies steps network) :
    Trace respond frontEnd.network steps network := by
  induction handling with
  | start => exact .start
  | other action _ performed _ ih => exact ih.next action performed
  | body _ sending _ ih => exact ih.trans sending.underway.trace

theorem Handling.asks (handling : Handling respond frontEnd bodies steps network) :
    Network.asks frontEnd.client steps = (queriesOf bodies).map frontEnd.asking := by
  induction handling with
  | start => rfl
  | other action _ _ foreign ih => rw [asks_concat, foreign, ih, Option.toList_none, List.append_nil]
  | @body bodies steps more network after body submissions _ sending _ ih =>
    have own : Network.asks frontEnd.client more = (queriesOf [body]).map frontEnd.asking := by
      rw [queriesOf_singleton]
      exact sending.asks
    rw [queriesOf_concat, List.map_append, ← ih, ← own]
    exact List.filterMap_append

theorem Sending.submitAll (rest : List Value)
    (sending : Sending respond frontEnd values submissions steps network)
    (held : network.isHeld frontEnd.client = true) :
    Sending respond frontEnd (values ++ rest)
      (submissions ++ ({ frontEnd with network }.submitAll rest).1)
      (steps ++ { frontEnd with network }.sendings rest)
      ({ frontEnd with network }.submitAll rest).2.network := by
  induction rest generalizing values submissions steps network with
  | nil => simpa [FrontEnd.submitAll, sendings] using sending
  | cons value rest ih =>
    have later := ih (sending.submit value held) (isHeld_submit { frontEnd with network } value held)
    rw [← submit_frame { frontEnd with network } value] at later
    simpa [FrontEnd.submitAll, sendings] using later

theorem ask?_of_isScheduled {step : Network.Step} (scheduled : step.action.isScheduled = true)
    (client : ClientId) : step.ask? client = none := by
  cases asked : step.ask? client with
  | none => rfl
  | some ask =>
    rw [ask?_eq_some.mp asked] at scheduled
    cases scheduled

theorem Sending.extend {more : List Network.Step} {after : Network}
    (sending : Sending respond frontEnd values submissions steps network)
    (trace : Trace respond network more after)
    (foreign : ∀ step ∈ more, step.ask? frontEnd.client = none) :
    Sending respond frontEnd values submissions (steps ++ more) after := by
  induction trace with
  | start => simpa using sending
  | next action _ performed ih =>
    have earlier := ih fun step member => foreign step (List.mem_append_left _ member)
    have last := foreign _ (List.mem_append_right _ List.mem_cons_self)
    simpa using earlier.other action performed last

theorem submitAll_frame (frontEnd : FrontEnd) (values : List Value) :
    (frontEnd.submitAll values).2 =
      { frontEnd with network := (frontEnd.submitAll values).2.network } := by
  induction values generalizing frontEnd with
  | nil => rfl
  | cons value rest ih =>
    have later := ih (frontEnd.submit value).2
    have client : (frontEnd.submit value).2.client = frontEnd.client := by rw [submit_frame]
    have route : (frontEnd.submit value).2.route = frontEnd.route := by rw [submit_frame]
    have timeout : (frontEnd.submit value).2.timeout = frontEnd.timeout := by rw [submit_frame]
    rw [client, route, timeout] at later
    exact later

theorem isHeld_submitAll (held : frontEnd.network.isHeld frontEnd.client = true)
    (values : List Value) :
    (frontEnd.submitAll values).2.network.isHeld frontEnd.client = true := by
  induction values generalizing frontEnd with
  | nil => exact held
  | cons value rest ih =>
    have next := isHeld_submit frontEnd value held
    have client : (frontEnd.submit value).2.client = frontEnd.client := by rw [submit_frame]
    rw [← client] at next ⊢
    exact ih next

theorem sending_answerBatch (reached : Network.Reachable respond frontEnd.network)
    (held : frontEnd.network.isHeld frontEnd.client = true) (values : List Value) :
    ∃ submissions steps network,
      (frontEnd.answerBatch respond values).2 = { frontEnd with network } ∧
      network.isHeld frontEnd.client = true ∧
      Sending respond frontEnd values submissions steps network ∧
      ∀ id ∈ calls submissions, (network.outcome? id).isSome = true := by
  have sending := (Sending.start : Sending respond frontEnd [] [] [] _).submitAll values held
  rw [List.nil_append, List.nil_append, List.nil_append] at sending
  obtain ⟨run, -⟩ := Network.await_spec respond (frontEnd.submitAll values).2.network
    (calls (frontEnd.submitAll values).1)
  obtain ⟨more, waiting, scheduled⟩ := run.trace
  refine ⟨_, _, (frontEnd.answerBatch respond values).2.network, ?_, ?_,
    sending.extend waiting fun step member => ask?_of_isScheduled (scheduled step member) _, ?_⟩
  · unfold answerBatch
    simp only
    rw [submitAll_frame]
  · refine waiting.isHeld (fun step member drops => ?_) (isHeld_submitAll held values)
    have schedule := scheduled step member
    rw [drops] at schedule
    cases schedule
  · exact sending.underway.answered reached
      (fun step member id _ => sendings_kept values frontEnd member id) waiting scheduled

theorem sending_answerBody (reached : Network.Reachable respond frontEnd.network)
    (held : frontEnd.network.isHeld frontEnd.client = true) (body : Bytes) :
    ∃ submissions steps network,
      (frontEnd.answerBody respond body).2 = { frontEnd with network } ∧
      network.isHeld frontEnd.client = true ∧
      Sending respond frontEnd (itemsOf body) submissions steps network ∧
      ∀ id ∈ calls submissions, (network.outcome? id).isSome = true := by
  have alone (value : Value) := sending_answerBatch reached held [value]
  simp only [answerBatch_singleton] at alone
  unfold answerBody
  cases read : Reader.readValue.run body with
  | error fault =>
    rw [itemsOf, read]
    exact ⟨[], [], frontEnd.network, rfl, held, .start, nofun⟩
  | ok value =>
    rw [itemsOf_of_read read]
    cases value with
    | array items =>
      cases items with
      | nil => exact ⟨[], [], frontEnd.network, rfl, held, .start, nofun⟩
      | cons item rest => exact sending_answerBatch reached held (item :: rest)
    | null | boolean | number | string | object =>
      simp only [itemsIn]
      exact alone _

theorem answerBodies_concat (frontEnd : FrontEnd) (bodies : List Bytes) (body : Bytes) :
    frontEnd.answerBodies respond (bodies ++ [body]) =
      ((frontEnd.answerBodies respond bodies).answerBody respond body).2 := by
  rw [answerBodies, List.foldl_append]
  rfl

theorem handling_answerBodies (reached : Network.Reachable respond frontEnd.network)
    (held : frontEnd.network.isHeld frontEnd.client = true) (bodies : List Bytes) :
    ∃ steps network, frontEnd.answerBodies respond bodies = { frontEnd with network } ∧
      network.isHeld frontEnd.client = true ∧ Handling respond frontEnd bodies steps network := by
  induction bodies using List.reverseRecOn with
  | nil => exact ⟨[], frontEnd.network, rfl, held, .start⟩
  | append_singleton bodies body ih =>
    obtain ⟨steps, network, same, held, handling⟩ := ih
    let current : FrontEnd := { frontEnd with network }
    have there : Network.Reachable respond current.network := Network.run_iff_reachable.mp
      ((Network.run_iff_reachable.mpr reached).trans handling.trace.run)
    have held : current.network.isHeld current.client = true := held
    obtain ⟨submissions, more, after, answered, later, sending, past⟩ :=
      sending_answerBody there held body
    rw [answerBodies_concat, same]
    exact ⟨_, after, answered, later, handling.body sending past⟩

end Bodies

section Connecting

variable {respond : Responder} {base network : Network} {channel : String} {capacity : Nat}
  {timeout : Duration} {frontEnd : FrontEnd} {bodies : List Bytes} {steps : List Network.Step}

theorem connect_known (respond : Responder)
    (connected : connect base channel capacity timeout = .ok frontEnd) :
    ∃ owner, frontEnd.network.profiles[frontEnd.client]? = some owner ∧
      owner.replyQueue = replyName frontEnd.route := by
  obtain ⟨-, client, network⟩ := connect_eq_connected connected
  obtain ⟨-, -, route, -⟩ := connect_spec respond connected
  obtain ⟨owner, there, name, -⟩ := profile_connected base (replyName (routeOf channel)) capacity
  rw [network, client, route]
  exact ⟨owner, there, name⟩

theorem Handling.sent (handling : Handling respond frontEnd bodies steps network) :
    Network.sentBy (replyName frontEnd.route) frontEnd.client steps =
      messagesFor frontEnd.route bodies := by
  rw [Network.sentBy, handling.asks, List.map_map, messagesFor_eq]
  rfl

theorem Handling.asked (handling : Handling respond frontEnd bodies steps network)
    (patient : 0 < frontEnd.timeout.nanoseconds) : ∀ ask ∈ Network.asks frontEnd.client steps,
      ask.route = frontEnd.route ∧ 0 < ask.timeout.nanoseconds := by
  rw [handling.asks]
  intro ask member
  obtain ⟨query, -, rfl⟩ := List.mem_map.mp member
  exact ⟨rfl, patient⟩

theorem Handling.sends (reached : Network.Reachable respond base)
    (connected : connect base channel capacity timeout = .ok frontEnd)
    (handling : Handling respond frontEnd bodies steps network) :
    Sends respond frontEnd bodies steps network := by
  have fresh := connect_fresh reached connected
  obtain ⟨owner, known, name⟩ := connect_known respond connected
  obtain ⟨performed, -⟩ := connect_spec respond connected
  obtain ⟨earlier, before, -⟩ := (Network.run_iff_reachable.mpr reached).trace
  have prior := before.next _ performed
  have trace := handling.trace
  have sent := handling.sent
  rw [← name] at sent
  have whole (queue : QueueId) (attentive : Attentive frontEnd steps network queue) :
      network.messagesAmong frontEnd.client
        ((network.receivedBy queue).reverse ++ network.heldBy queue) =
          messagesFor frontEnd.route bodies := by
    rw [← sent]
    exact prior.messages_all trace fresh known attentive.prompt
      (handling.asked attentive.patient) attentive.consumed
  have read (queue : QueueId) (attentive : Attentive frontEnd steps network queue)
      (empty : network.bufferOf queue = []) :
      network.messagesAmong frontEnd.client (network.receivedBy queue).reverse =
        messagesFor frontEnd.route bodies := by
    rw [← whole queue attentive, (prior.trans trace).heldBy_eq_nil empty, List.append_nil]
  refine ⟨?_, fun queue => ?_, whole, read, fun queue attentive empty reserved => ?_⟩
  · rw [prior.idsOf_eq trace fresh known, handling.asks, List.length_map]
  · rw [← sent]
    exact prior.messages_sublist trace fresh known queue
  · obtain ⟨_, _, unused⟩ := reserved.unused
    rw [← read queue attentive empty]
    exact (prior.messagesAmong_eq trace unused reserved.only).symm

/--
Bodies use up one id for each item that is accepted, from zero on. The requests for these items are read in
their order: all of them by a consumer that reads in time, and otherwise a part of them.
-/
theorem requests_leave_in_order (reached : Network.Reachable respond base)
    (connected : connect base channel capacity timeout = .ok frontEnd) :
    (∀ bodies steps network, Handling respond frontEnd bodies steps network →
      Sends respond frontEnd bodies steps network) ∧
    (∀ bodies, (messagesFor frontEnd.route bodies).map (fun message => Query.read message.payload) =
      (queriesOf bodies).map Except.ok) ∧
    (∀ bodies body, AsksNothing body →
      messagesFor frontEnd.route (bodies ++ [body]) = messagesFor frontEnd.route bodies) ∧
    ∀ bodies, ∃ steps,
      Handling respond frontEnd bodies steps (frontEnd.answerBodies respond bodies).network := by
  obtain ⟨performed, -, -, -, -, held⟩ := connect_spec respond connected
  refine ⟨fun _ _ _ handling => handling.sends reached connected, read_messagesFor frontEnd.route, ?_, ?_⟩
  · intro bodies body silent
    rw [messagesFor, queriesOf_concat, queriesOf_eq_nil silent, List.append_nil]
    rfl
  · intro bodies
    obtain ⟨steps, network, same, -, handling⟩ :=
      handling_answerBodies (reached.next _ performed) held bodies
    rw [same]
    exact ⟨steps, handling⟩

end Connecting

section Runs

/-- More requests than the queue of the route has room for, and one that is refused. -/
def crowdedBatch : Bytes :=
  Bytes.ofString (
    "[\x7b\"jsonrpc\":\"2.0\",\"id\":7,\"method\":\"icx_getLastBlockHeight\"\x7d," ++
    "\x7b\"jsonrpc\":\"2.0\",\"id\":8,\"method\":\"icx_getLastBlockHeight\"\x7d,[]," ++
    "\x7b\"jsonrpc\":\"2.0\",\"id\":9,\"method\":\"icx_getLastBlockHeight\"\x7d]")

def crowdedItems : List Value :=
  [heightItem 7, heightItem 8, .array [], heightItem 9]

def lastBody : Bytes :=
  Bytes.ofString "\x7b\"jsonrpc\":\"2.0\",\"id\":10,\"method\":\"icx_getLastBlockHeight\"\x7d"

def threeBodies : List Bytes :=
  [Bytes.ofString "\x7b", crowdedBatch, lastBody]

def readInTime : List Action :=
  [.receive 0, .receive 0, .receive 0, .tick 5, .expire 0, .expire 1, .expire 2]

def answeredInTime : List Action :=
  [.receive 0, replying 3 3 1, .dispatch 0, .finish 3]

def Undisturbed (frontEnd : FrontEnd) (values : List Value) (steps : List Network.Step) : Prop :=
  ∀ step ∈ steps.drop (frontEnd.sendings values).length, step.ask? frontEnd.client = none

instance (frontEnd : FrontEnd) (values : List Value) (steps : List Network.Step) :
    Decidable (frontEnd.Undisturbed values steps) :=
  inferInstanceAs (Decidable (∀ step ∈ steps.drop _, step.ask? frontEnd.client = none))

theorem sending_of_playBatch {frontEnd : FrontEnd} {values : List Value} {actions : List Action}
    {steps : List Network.Step} {network : Network}
    (held : frontEnd.network.isHeld frontEnd.client = true)
    (played : frontEnd.playBatch values actions = some (steps, network))
    (undisturbed : frontEnd.Undisturbed values steps) :
    Sending quiet frontEnd values (frontEnd.submitAll values).1 steps network := by
  obtain ⟨later, recorded, same⟩ := Option.map_eq_some_iff.mp played
  cases same
  rw [Undisturbed, List.drop_left] at undisturbed
  have sending := (Sending.start : Sending quiet frontEnd [] [] [] _).submitAll values held
  exact sending.extend (Network.trace_of_record recorded) undisturbed

theorem Handling.played {frontEnd : FrontEnd} {bodies : List Bytes} {body : Bytes}
    {values : List Value} {actions : List Action} {steps more : List Network.Step}
    {network after : Network} (handling : Handling quiet frontEnd bodies steps network)
    (items : itemsOf body = values) (held : network.isHeld frontEnd.client = true)
    (played : { frontEnd with network }.playBatch values actions = some (more, after))
    (undisturbed : { frontEnd with network }.Undisturbed values more)
    (past : ∀ id ∈ calls ({ frontEnd with network }.submitAll values).1,
      (after.outcome? id).isSome = true) :
    Handling quiet frontEnd (bodies ++ [body]) (steps ++ more) after := by
  subst items
  exact handling.body (sending_of_playBatch held played undisturbed) past

set_option maxRecDepth 4000 in
theorem itemsOf_crowdedBatch : itemsOf crowdedBatch = crowdedItems := by
  rfl

theorem itemsOf_lastBody : itemsOf lastBody = [heightItem 10] := by
  rfl

theorem threeBodies_leave_in_order :
    ∃ steps network, Handling quiet newcomer threeBodies steps network ∧
      Attentive newcomer steps network 0 ∧ network.bufferOf 0 = [] ∧
      Reserved quiet newcomer steps 0 ∧
      queriesOf threeBodies = List.replicate 4 .lastHeight ∧
      (network.receivedBy 0).reverse.map Parcel.message =
        messagesFor newcomer.route threeBodies := by
  obtain ⟨⟨first, middle⟩, played, ⟨second, network⟩, playedLast, held, own, ownLast, past, pastLast,
      prompt, consumed, empty, only⟩ :
      ∃ run ∈ newcomer.playBatch crowdedItems readInTime,
        ∃ last ∈ { newcomer with network := run.2 }.playBatch [heightItem 10] answeredInTime,
          run.2.isHeld newcomer.client = true ∧
          newcomer.Undisturbed crowdedItems run.1 ∧
          { newcomer with network := run.2 }.Undisturbed [heightItem 10] last.1 ∧
          (∀ id ∈ calls (newcomer.submitAll crowdedItems).1, (run.2.outcome? id).isSome = true) ∧
          (∀ id ∈ calls ({ newcomer with network := run.2 }.submitAll [heightItem 10]).1,
            (last.2.outcome? id).isSome = true) ∧
          (∀ step ∈ run.1 ++ last.1, step.Prompt newcomer.client newcomer.route 0) ∧
          last.2.broker.isConsumed 0 = true ∧ last.2.bufferOf 0 = [] ∧
          ∀ step ∈ run.1 ++ last.1, (step.before.handed? quiet step.action 0).isSome = true →
            (step.ask? newcomer.client).isSome = true := by
    decide +kernel
  have broken : Handling quiet newcomer [Bytes.ofString "\x7b"] [] newcomer.network :=
    Handling.start.body (.start : Sending quiet newcomer [] [] [] _) (fun _ member => nomatch member)
  have handling : Handling quiet newcomer threeBodies (first ++ second) network :=
    (broken.played itemsOf_crowdedBatch rfl played own past).played itemsOf_lastBody held playedLast
      ownLast pastLast
  have attentive : Attentive newcomer (first ++ second) network 0 := ⟨by decide, prompt, consumed⟩
  have reserved : Reserved quiet newcomer (first ++ second) 0 :=
    ⟨⟨"icon_score.icon_dex", 2, rfl⟩, only⟩
  have reached : Network.Reachable quiet routed := .next (.declare "icon_score.icon_dex" 2) .empty rfl
  have connected : connect routed "icon_dex" 2 ⟨5⟩ = .ok newcomer := rfl
  obtain ⟨sends, -⟩ := requests_leave_in_order reached connected
  have asked : queriesOf threeBodies = List.replicate 4 .lastHeight := by
    simp only [queriesOf, threeBodies, List.flatMap_cons, List.flatMap_nil, itemsOf_crowdedBatch,
      itemsOf_lastBody]
    rfl
  exact ⟨_, network, handling, attentive, empty, reserved, asked,
    (sends _ _ _ handling).alone 0 attentive empty reserved⟩

end Runs

end FrontEnd

end LedgerNode.Rpc
