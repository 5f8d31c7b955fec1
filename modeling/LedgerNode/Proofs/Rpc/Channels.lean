import LedgerNode.Proofs.Bus.Addressing
import LedgerNode.Proofs.Rpc.Determinacy
import LedgerNode.Rpc.Deployment

set_option autoImplicit false

namespace LedgerNode.Rpc

open Bus Bus.Network

namespace Deployment

/-- What anybody may do besides: replies are made to requests that were received, the names of the channels
are left to their parties, and a front end calls its own route. -/
structure Allows (channels : String → Prop) (deployment : Deployment) (action : Action) : Prop where
  honest : deployment.network.Honest action
  names : ∀ name, action.opens? = some name → ∀ channel, channels channel →
    name ≠ routeOf channel ∧ name ≠ replyName (routeOf channel)
  routes : ∀ client route payload timeout, action = .call client route payload timeout →
    ∀ channel, deployment.frontEnds channel = some client → route = routeOf channel

inductive Reaches (respond : Responder) (channels : String → Prop) : Deployment → Prop where
  | empty : Reaches respond channels empty
  | serve {deployment : Deployment} {channel : String} {capacity : Nat} {queue : QueueId}
      {network : Network} (reached : Reaches respond channels deployment) (used : channels channel)
      (first : deployment.services channel = none)
      (declared : deployment.network.declare (routeOf channel) capacity = .ok (queue, network)) :
      Reaches respond channels (deployment.serve channel queue network)
  | join {deployment : Deployment} {channel : String} {capacity : Nat} {timeout : Duration}
      {frontEnd : FrontEnd} (reached : Reaches respond channels deployment)
      (used : channels channel) (first : deployment.frontEnds channel = none)
      (connected : FrontEnd.connect deployment.network channel capacity timeout = .ok frontEnd) :
      Reaches respond channels (deployment.join channel frontEnd)
  | act {deployment : Deployment} {action : Action} {network : Network}
      (reached : Reaches respond channels deployment) (allowed : deployment.Allows channels action)
      (performed : deployment.network.perform respond action = some network) :
      Reaches respond channels { deployment with network }

/-- Whoever is not started yet can be, what a front end asks is read in the queue of its channel's service
and by no dispatcher, and what replies to it is read by its own dispatcher only. -/
structure Isolated (respond : Responder) (channels : String → Prop) (deployment : Deployment) :
    Prop where
  declares : ∀ channel capacity, channels channel → deployment.services channel = none →
    ∃ queue network, deployment.network.declare (routeOf channel) capacity = .ok (queue, network)
  connects : ∀ channel capacity timeout, channels channel → deployment.frontEnds channel = none →
    ∃ frontEnd, FrontEnd.connect deployment.network channel capacity timeout = .ok frontEnd
  requests : ∀ channel client call action after queue parcel,
    deployment.frontEnds channel = some client → call ∈ deployment.network.calls →
    call.client = client → deployment.network.perform respond action = some after →
    deployment.network.drawn? action queue = some parcel → parcel.post = call.post →
    deployment.services channel = some queue ∧ ∀ other, action ≠ .dispatch other
  replies : ∀ channel client call action after queue parcel,
    deployment.frontEnds channel = some client → call ∈ deployment.network.calls →
    call.client = client → deployment.network.perform respond action = some after →
    deployment.network.drawn? action queue = some parcel → parcel.answers = some call.post →
    action = .dispatch client

structure Separated (channels : String → Prop) (deployment : Deployment) : Prop where
  served : ∀ channel id, channels channel → deployment.network.Named id (routeOf channel) →
    deployment.services channel = some id
  answered : ∀ channel id, channels channel →
    deployment.network.Named id (replyName (routeOf channel)) →
    ∃ client owner, deployment.frontEnds channel = some client ∧
      deployment.network.profiles[client]? = some owner ∧ owner.inbox = id
  joined : ∀ channel client, deployment.frontEnds channel = some client →
    channels channel ∧ ∃ owner, deployment.network.profiles[client]? = some owner ∧
      owner.replyQueue = replyName (routeOf channel)
  routed : ∀ channel client, deployment.frontEnds channel = some client →
    ∀ call ∈ deployment.network.issued, call.client = client → call.route = routeOf channel
  foreign : ∀ (channel : String) (client : ClientId) (owner : Client), channels channel →
    deployment.network.profiles[client]? = some owner → owner.replyQueue ≠ routeOf channel

end Deployment

section Names

variable {channel other : String}

theorem routeOf_inj (same : routeOf channel = routeOf other) : channel = other :=
  (String.append_right_inj _).mp same

theorem replyName_routeOf (channel : String) :
    replyName (routeOf channel) = routeOf (channel ++ ".reply") :=
  String.append_assoc ..

theorem replyName_inj {route name : String} (same : replyName route = replyName name) :
    route = name :=
  (String.append_left_inj _).mp same

/-- No channel of the set is called as another with the ending of reply queues. -/
def Apart (channels : String → Prop) : Prop :=
  ∀ channel, channels channel → ¬channels (channel ++ ".reply")

theorem Apart.ne {channels : String → Prop} (apart : Apart channels) (used : channels channel)
    (used' : channels other) : replyName (routeOf channel) ≠ routeOf other := by
  intro same
  rw [replyName_routeOf] at same
  obtain rfl := routeOf_inj same
  exact apart channel used used'

end Names

namespace Deployment

section Steps

variable {respond : Responder} {channels : String → Prop} {deployment : Deployment}
  {action : Action} {after : Network} {channel : String} {capacity : Nat}

theorem separated_empty (channels : String → Prop) : empty.Separated channels where
  served := by
    rintro channel id used ⟨queue, found, -⟩
    cases found
  answered := by
    rintro channel id used ⟨queue, found, -⟩
    cases found
  joined := by
    intro channel client absent
    cases absent
  routed := by
    intro channel client absent
    cases absent
  foreign := by
    intro channel client owner used found
    simp [empty, Network.empty, profiles] at found

theorem Separated.joined_of_change (separated : deployment.Separated channels)
    (change : Change respond action deployment.network after) {client : ClientId}
    (there : deployment.frontEnds channel = some client) :
    channels channel ∧ ∃ owner, after.profiles[client]? = some owner ∧
      owner.replyQueue = replyName (routeOf channel) := by
  obtain ⟨used, owner, owned, named⟩ := separated.joined channel client there
  obtain ⟨now, found, same, -⟩ := change.recorded.profile_mono owned
  exact ⟨used, now, found, same.trans named⟩

theorem Separated.answered_of_change (separated : deployment.Separated channels)
    (change : Change respond action deployment.network after) (used : channels channel)
    {id : QueueId} (named : deployment.network.Named id (replyName (routeOf channel))) :
    ∃ client owner, deployment.frontEnds channel = some client ∧
      after.profiles[client]? = some owner ∧ owner.inbox = id := by
  obtain ⟨client, owner, there, owned, inbox⟩ := separated.answered channel id used named
  obtain ⟨now, found, -, same⟩ := change.recorded.profile_mono owned
  exact ⟨client, now, there, found, same.trans inbox⟩

theorem Separated.foreign_of_change (separated : deployment.Separated channels)
    (change : Change respond action deployment.network after) (used : channels channel)
    (free : action.opens? ≠ some (routeOf channel)) {client : ClientId} {owner : Client}
    (owned : after.profiles[client]? = some owner) : owner.replyQueue ≠ routeOf channel := by
  obtain ⟨old, was, named, -⟩ | ⟨-, name, capacity, rfl, -, named, -⟩ :=
    change.recorded.profile owned
  · exact named ▸ separated.foreign channel client old used was
  · intro same
    exact free (congrArg some (named.symm.trans same))

theorem Separated.changed (separated : deployment.Separated channels)
    (allowed : deployment.Allows channels action)
    (change : Change respond action deployment.network after) :
    ({ deployment with network := after } : Deployment).Separated channels where
  served := by
    intro channel id used named
    rcases change.named named with earlier | ⟨-, opens⟩
    · exact separated.served channel id used earlier
    · exact absurd rfl (allowed.names _ opens channel used).1
  answered := by
    intro channel id used named
    rcases change.named named with earlier | ⟨-, opens⟩
    · exact separated.answered_of_change change used earlier
    · exact absurd rfl (allowed.names _ opens channel used).2
  joined := fun channel client there => separated.joined_of_change change there
  routed := by
    intro channel client there call member mine
    rcases change.recorded.issued_cases member with issued |
      ⟨caller, owner, route, payload, timeout, called, -, rfl⟩
    · exact separated.routed channel client there call issued mine
    · obtain rfl : caller = client := mine
      exact allowed.routes caller route payload timeout called channel there
  foreign := by
    intro channel client owner used owned
    refine separated.foreign_of_change change used (fun opens => ?_) owned
    exact (allowed.names _ opens channel used).1 rfl

theorem started_iff {parties : String → Option Nat} {other : String} {own id : Nat}
    (first : parties channel = none) :
    Function.update parties channel (some own) other = some id ↔
      parties other = some id ∨ other = channel ∧ id = own := by
  by_cases same : other = channel
  · subst same
    simp [first, eq_comm]
  · simp [same]

theorem Separated.serve (separated : deployment.Separated channels) (apart : Apart channels)
    (used : channels channel) (first : deployment.services channel = none) {queue : QueueId}
    (declared : deployment.network.declare (routeOf channel) capacity = .ok (queue, after)) :
    (deployment.serve channel queue after).Separated channels := by
  obtain ⟨free, rfl, rfl⟩ := declare_eq_ok declared
  have change : Change (fun _ _ _ => none) (.declare (routeOf channel) capacity) deployment.network
      (deployment.network.opened (routeOf channel) capacity) := .opened free
  refine ⟨?_, ?_, ?_, separated.routed, separated.foreign⟩
  · intro other id used' named
    apply (started_iff first).mpr
    rcases change.named named with earlier | ⟨last, opens⟩
    · exact .inl (separated.served other id used' earlier)
    · exact .inr ⟨(routeOf_inj (Option.some.inj opens)).symm, last⟩
  · intro other id used' named
    rcases change.named named with earlier | ⟨-, opens⟩
    · exact separated.answered_of_change change used' earlier
    · -- A new route is no name of replies, since the channels are apart.
      exact absurd (Option.some.inj opens).symm (apart.ne used' used)
  · exact fun other client there => separated.joined_of_change change there

theorem Separated.join (separated : deployment.Separated channels)
    (numbered : deployment.network.Numbered) (apart : Apart channels)
    (used : channels channel) (first : deployment.frontEnds channel = none) {timeout : Duration}
    {frontEnd : FrontEnd}
    (connected : FrontEnd.connect deployment.network channel capacity timeout = .ok frontEnd) :
    (deployment.join channel frontEnd).Separated channels := by
  obtain ⟨free, client, network⟩ := FrontEnd.connect_eq_connected connected
  have change : Change (fun _ _ _ => none) (.connect (replyName (routeOf channel)) capacity)
      deployment.network (deployment.network.connected (replyName (routeOf channel)) capacity) :=
    .connected free
  obtain ⟨owner, owned, called, inbox⟩ :=
    FrontEnd.profile_connected deployment.network (replyName (routeOf channel)) capacity
  rw [← network] at change owned
  rw [← client] at owned
  have started {other : String} {id : ClientId} :
      (deployment.join channel frontEnd).frontEnds other = some id ↔
        deployment.frontEnds other = some id ∨ other = channel ∧ id = frontEnd.client :=
    started_iff first
  refine ⟨?_, ?_, ?_, ?_, ?_⟩
  · intro other id used' named
    rcases change.named named with earlier | ⟨-, opens⟩
    · exact separated.served other id used' earlier
    · exact absurd (Option.some.inj opens) (apart.ne used used')
  · intro other id used' named
    rcases change.named named with earlier | ⟨last, opens⟩
    · obtain ⟨reader, record, there, found, same⟩ :=
        separated.answered_of_change change used' earlier
      exact ⟨reader, record, started.mpr (.inl there), found, same⟩
    · have same := routeOf_inj (replyName_inj (Option.some.inj opens))
      exact ⟨frontEnd.client, owner, started.mpr (.inr ⟨same.symm, rfl⟩), owned,
        inbox.trans last.symm⟩
  · intro other id there
    rcases started.mp there with earlier | ⟨rfl, rfl⟩
    · exact separated.joined_of_change change earlier
    · exact ⟨used, owner, owned, called⟩
  · intro other id there call member mine
    have issued : call ∈ deployment.network.issued := by
      rw [show (deployment.join channel frontEnd).network = _ from network] at member
      exact member
    rcases started.mp there with earlier | ⟨rfl, rfl⟩
    · exact separated.routed other id earlier call issued mine
    · -- A client that is new has made no call.
      have older := numbered.owned call issued
      rw [mine, client, profiles, List.length_map] at older
      exact absurd older (Nat.lt_irrefl _)
  · intro other id record used' found
    refine separated.foreign_of_change change used' (fun opens => ?_) found
    exact absurd (Option.some.inj opens) (apart.ne used used')

end Steps

section Runs

variable {respond : Responder} {channels : String → Prop} {deployment : Deployment}

theorem Reaches.run (reached : Reaches respond channels deployment) :
    Run respond Honest Network.empty deployment.network := by
  induction reached with
  | empty => exact .start
  | @serve _ channel capacity _ _ _ _ _ declared ih =>
    exact ih.next (.declare (routeOf channel) capacity) trivial
      (by simp [perform, declared, Except.toOption, Deployment.serve])
  | @join _ channel capacity _ _ _ _ _ connected ih =>
    exact ih.next (.connect (replyName (routeOf channel)) capacity) trivial
      (FrontEnd.connect_spec respond connected).1
  | act _ allowed performed ih => exact ih.next _ allowed.honest performed

theorem Reaches.separated (reached : Reaches respond channels deployment) (apart : Apart channels) :
    deployment.Separated channels := by
  -- By induction on what was started: each start adds a name of its own, other actions add none of these.
  induction reached with
  | empty => exact separated_empty channels
  | serve _ used first declared ih => exact ih.serve apart used first declared
  | join reached used first connected ih =>
    exact ih.join reached.run.numbered apart used first connected
  | act _ allowed performed ih =>
    obtain ⟨middle, change, rfl | ended⟩ := changes_of_perform performed
    · exact ih.changed allowed change
    · have step : Change respond (.abort 0) middle _ := ended.change
      have honest : Honest middle (.abort 0) := trivial
      refine (ih.changed allowed change).changed ⟨honest, ?_, ?_⟩ step
      · intro name opens
        cases opens
      · intro client route payload timeout called
        cases called

theorem Reaches.isolated (reached : Reaches respond channels deployment) (apart : Apart channels) :
    deployment.Isolated respond channels := by
  have run := reached.run
  have separated := reached.separated apart
  refine ⟨?_, ?_, ?_, ?_⟩
  · intro channel capacity used missing
    refine declare_of_unnamed run.bound (fun id named => ?_) capacity
    cases missing.symm.trans (separated.served channel id used named)
  · intro channel capacity timeout used missing
    have unnamed : ∀ id, ¬deployment.network.Named id (replyName (routeOf channel)) := by
      intro id named
      obtain ⟨client, owner, there, -⟩ := separated.answered channel id used named
      cases missing.symm.trans there
    obtain ⟨client, network, connected⟩ := connect_of_unnamed run.bound unnamed capacity
    have connected : deployment.network.connect (routeOf channel ++ ".reply") capacity =
        .ok (client, network) := connected
    simp [FrontEnd.connect, connected]
  · intro channel client call action after queue parcel there member mine performed drawn same
    have issued : call.issue ∈ deployment.network.issued := List.mem_map_of_mem member
    -- A request lies in a queue named as its route, and that queue is the service's.
    obtain ⟨named, -⟩ := run.addressed queue parcel (seen_of_drawn? drawn) _ issued same.symm
    obtain ⟨used, -⟩ := separated.joined channel client there
    have routed : call.route = routeOf channel := separated.routed channel client there call.issue issued mine
    have named : deployment.network.Named queue (routeOf channel) := routed ▸ named
    refine ⟨separated.served channel queue used named, ?_⟩
    rintro other rfl
    -- No client is called as a route, so none reads the queue of one.
    obtain ⟨reader, owned, rfl⟩ := Option.map_eq_some_iff.mp (drawn?_eq_some.mp drawn).1
    have inbox := run.bound.inbox other _ (profile_of_getElem? owned)
    exact separated.foreign channel other _ used (profile_of_getElem? owned) (Named.eq inbox named)
  · intro channel client call action after queue parcel there member mine performed drawn answers
    have issued : call.issue ∈ deployment.network.issued := List.mem_map_of_mem member
    obtain ⟨owner, owned, named⟩ :=
      run.returned.home queue parcel (seen_of_drawn? drawn) _ issued answers
    have owned : deployment.network.profiles[client]? = some owner := mine ▸ owned
    obtain ⟨used, own, owned', called⟩ := separated.joined channel client there
    obtain rfl := Option.some.inj (owned.symm.trans owned')
    rw [called] at named
    -- The queue has the name of the channel's replies, so it is the inbox of its own front end.
    obtain ⟨reader, record, there', found, inbox⟩ := separated.answered channel queue used named
    obtain rfl := Option.some.inj (there.symm.trans there')
    obtain rfl := Option.some.inj (owned.symm.trans found)
    exact dispatched_of_drawn? run.bound owned performed (inbox ▸ drawn)

/--
Whatever parties of a set of channels are started on one bus, and in whichever order, the channels keep
apart, exactly if no channel of the set is called as another with the ending of reply queues.
-/
theorem channels_isolated_iff (channels : String → Prop) :
    (∀ respond deployment, Reaches respond channels deployment →
      deployment.Isolated respond channels) ↔
      ∀ channel, channels channel → ¬channels (channel ++ ".reply") := by
  refine ⟨?_, fun apart respond deployment reached => reached.isolated apart⟩
  intro isolated channel used used'
  -- The front end of the one channel is started first, and has the name that the other's route needs.
  let respond : Responder := fun _ _ _ => none
  obtain ⟨frontEnd, connected⟩ :=
    (isolated respond _ .empty).connects channel 1 ⟨0⟩ used rfl
  have reached : Reaches respond channels (empty.join channel frontEnd) :=
    .join .empty used rfl connected
  obtain ⟨queue, network, declared⟩ := (isolated respond _ reached).declares _ 1 used' rfl
  obtain ⟨free, -⟩ := declare_eq_ok declared
  obtain ⟨-, -, joined⟩ := FrontEnd.connect_eq_connected connected
  rw [show (empty.join channel frontEnd).network = _ from joined, ← replyName_routeOf] at free
  simp [Network.connected, Network.opened, Broker.lookup?_opened, Broker.isConsumed,
    Broker.queue?_opened, Queue.create] at free

theorem ending_of_reply_queues_collides :
    ∃ first second after call request,
      FrontEnd.connect Network.empty "a" 16 ⟨5⟩ = .ok first ∧
      first.network.declare (routeOf "a.reply") 16 =
        .error (.queueExists "icon_score.a.reply") ∧
      FrontEnd.connect first.network "a.reply" 16 ⟨5⟩ = .ok second ∧
      second.network.perform echo (.call second.client second.route [1] ⟨5⟩) = some after ∧
      after.calls = [call] ∧ call.client = second.client ∧
      after.drawn? (.dispatch first.client) 0 = some request ∧ request.post = call.post ∧
      (after.perform echo (.dispatch first.client)).isSome = true :=
  ⟨_, _, _, _, _, rfl, rfl, rfl, rfl, rfl, rfl, rfl, rfl, rfl⟩

end Runs

end Deployment

end LedgerNode.Rpc
