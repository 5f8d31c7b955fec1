import LedgerNode.Proofs.Bus.Changes
import Mathlib.Algebra.Group.Nat.Defs

set_option autoImplicit false

namespace LedgerNode.Bus

def Call.issue (call : Call) : Call :=
  { call with state := .outstanding }

theorem Call.post_of_issue {first second : Call} (same : first.issue = second.issue) :
    first.post = second.post :=
  (Call.mk.inj same).2.2.2.1

theorem Call.deadline_of_issue {first second : Call} (same : first.issue = second.issue) :
    first.deadline = second.deadline :=
  (Call.mk.inj same).2.2.2.2.2.1

def Client.profile (client : Client) : Client :=
  { client with pending := [], held := true }

namespace Network

def profiles (network : Network) : List Client :=
  network.clients.map Client.profile

def issued (network : Network) : List Call :=
  network.calls.map Call.issue

def callCount (network : Network) (client : ClientId) : Nat :=
  network.issued.countP (fun call => call.client = client)

theorem getElem?_issued (network : Network) (id : CallId) :
    network.issued[id]? = (network.calls[id]?).map Call.issue := by
  simp [issued]

theorem issued_of_getElem? {network : Network} {id : CallId} {call : Call}
    (found : network.calls[id]? = some call) : network.issued[id]? = some call.issue := by
  simp [getElem?_issued, found]

theorem getElem?_profiles (network : Network) (id : ClientId) :
    network.profiles[id]? = (network.clients[id]?).map Client.profile := by
  simp [profiles]

theorem profile_of_getElem? {network : Network} {id : ClientId} {client : Client}
    (owned : network.clients[id]? = some client) : network.profiles[id]? = some client.profile := by
  simp [getElem?_profiles, owned]

theorem profiles_modify {clients : List Client} {id : ClientId} {change : Client → Client}
    (kept : ∀ client, (change client).profile = client.profile) :
    (clients.modify id change).map Client.profile = clients.map Client.profile := by
  apply List.ext_getElem?
  intro other
  simp only [List.getElem?_map, List.getElem?_modify]
  cases clients[other]? with
  | none => simp
  | some client =>
    by_cases same : id = other <;> simp [same, kept]

theorem issued_congr {before after : Network} (change : CallId → Call → Call)
    (kept : ∀ id call, (change id call).issue = call.issue)
    (states : ∀ id, after.calls[id]? = (before.calls[id]?).map (change id)) :
    after.issued = before.issued := by
  apply List.ext_getElem?
  intro id
  rw [getElem?_issued, getElem?_issued, states, Option.map_map]
  congr 1
  funext call
  exact kept id call

theorem issued_endCall {network : Network} {id : CallId} {call : Call}
    (found : network.calls[id]? = some call) (state : CallState) :
    (network.endCall id state).issued = network.issued := by
  apply issued_congr _ _ (fun other => getElem?_calls_endCall found state)
  intro other record
  split
  next => rfl
  next => split <;> rfl

theorem issued_launched (network : Network) (client : ClientId) (owner : Client) (route : String)
    (timeout : Duration) :
    (network.launched client owner route timeout).issued =
      network.issued ++ [network.startedCall client owner route timeout] := by
  let listed : Network :=
    { network with calls := network.calls ++ [network.startedCall client owner route timeout] }
  have same : (network.launched client owner route timeout).issued = listed.issued := by
    apply issued_congr _ _ (getElem?_calls_launched network client owner route timeout)
    intro other record
    split <;> rfl
  rw [same]
  simp only [listed, issued, List.map_append, List.map_cons, List.map_nil]
  rfl

theorem deliver_cases {network : Network} {id : ClientId} {client : Client}
    (owned : network.clients[id]? = some client) (message : Message) :
    (network.holder? id message.correlationId = none ∧
      network.deliver id message =
        network.warn (.unclaimed message.correlationId client.replyQueue)) ∨
    ∃ call, network.holder? id message.correlationId = some call ∧
      network.deliver id message =
        { network with
          clients := network.clients.modify id (fun client =>
            { client with pending := removePending message.correlationId client.pending })
          calls := (network.deliver id message).calls } ∧
      ∀ other, (network.deliver id message).calls[other]? =
        (network.calls[other]?).map (fun record =>
          if other = call ∧ record.state = .outstanding then
            { record with state := .answered message.payload }
          else record) := by
  have holder : network.holder? id message.correlationId =
      client.pending.lookup message.correlationId := by
    simp [holder?, owned]
  unfold deliver
  rw [holder]
  simp only [owned]
  -- An entry may point at a call that has ended; then only the entry goes.
  cases client.pending.lookup message.correlationId with
  | none => exact .inl ⟨rfl, rfl⟩
  | some call =>
    refine .inr ⟨call, rfl, ?_⟩
    simp only [updateClient]
    have kept (absent : ∀ record, network.calls[call]? = some record → record.state ≠ .outstanding)
        (other : CallId) : network.calls[other]? =
          (network.calls[other]?).map (fun record =>
            if other = call ∧ record.state = .outstanding then
              { record with state := .answered message.payload }
            else record) := by
      cases found : network.calls[other]? with
      | none => rfl
      | some record =>
        by_cases same : other = call
        · subst same
          simp [absent record found]
        · simp [same]
    split
    next state =>
      obtain ⟨record, found, outstanding⟩ := Option.map_eq_some_iff.mp state
      refine ⟨rfl, fun other => ?_⟩
      rw [getElem?_calls_setCall]
      by_cases same : other = call
      · subst same
        rw [found]
        simp [outstanding]
      · simp [same]
    next state =>
      refine ⟨rfl, kept (fun record found outstanding => state ?_)⟩
      rw [found, Option.map_some, outstanding]

theorem deliver_frame (network : Network) (id : ClientId) (message : Message) :
    network.deliver id message =
      { network with
        clients := (network.deliver id message).clients
        calls := (network.deliver id message).calls
        warnings := (network.deliver id message).warnings } := by
  cases owned : network.clients[id]? with
  | none => simp [deliver, owned]
  | some client =>
    rcases deliver_cases owned message with ⟨-, same⟩ | ⟨call, -, frame, -⟩
    · rw [same]
      rfl
    · rw [frame]

@[simp] theorem broker_deliver (network : Network) (id : ClientId) (message : Message) :
    (network.deliver id message).broker = network.broker := by
  rw [deliver_frame]

@[simp] theorem nextPost_deliver (network : Network) (id : ClientId) (message : Message) :
    (network.deliver id message).nextPost = network.nextPost := by
  rw [deliver_frame]

@[simp] theorem servers_deliver (network : Network) (id : ClientId) (message : Message) :
    (network.deliver id message).servers = network.servers := by
  rw [deliver_frame]

@[simp] theorem jobs_deliver (network : Network) (id : ClientId) (message : Message) :
    (network.deliver id message).jobs = network.jobs := by
  rw [deliver_frame]

theorem issued_deliver {network : Network} {id : ClientId} {client : Client}
    (owned : network.clients[id]? = some client) (message : Message) :
    (network.deliver id message).issued = network.issued := by
  rcases deliver_cases owned message with ⟨-, same⟩ | ⟨call, -, -, states⟩
  · rw [same]
    rfl
  · apply issued_congr _ _ states
    intro other record
    split <;> rfl

inductive Recorded (before after : Network) : Action → Prop where
  | kept {action : Action} (issued : after.issued = before.issued)
      (profiles : after.profiles = before.profiles)
      (counted : before.nextPost ≤ after.nextPost) : Recorded before after action
  | connected {name : String} {capacity : Nat} (issued : after.issued = before.issued)
      (profiles : after.profiles = before.profiles ++
        [{ replyQueue := name, inbox := before.broker.queues.length, nextId := 0, pending := [],
           held := true }])
      (opened : after.broker = before.broker.opened name capacity)
      (counted : after.nextPost = before.nextPost) :
      Recorded before after (.connect name capacity)
  | called {client : ClientId} {owner : Client} {route : String} {payload : Bytes}
      {timeout : Duration} (owned : before.clients[client]? = some owner)
      (issued : after.issued = before.issued ++ [before.startedCall client owner route timeout])
      (profiles : after.profiles =
        before.profiles.modify client (fun client => { client with nextId := client.nextId + 1 }))
      (counted : after.nextPost = before.nextPost + 1) :
      Recorded before after (.call client route payload timeout)

theorem profiles_launched {network : Network} {client : ClientId} {owner : Client}
    (owned : network.clients[client]? = some owner) (route : String) (timeout : Duration) :
    (network.launched client owner route timeout).profiles =
      network.profiles.modify client (fun client => { client with nextId := client.nextId + 1 }) := by
  apply List.ext_getElem?
  intro other
  rw [getElem?_profiles, launched_frame]
  simp only [List.getElem?_modify, getElem?_profiles]
  by_cases same : client = other
  · subst same
    simp [owned, Client.profile]
  · simp [same]

theorem profiles_deliver {network : Network} {id : ClientId} {client : Client}
    (owned : network.clients[id]? = some client) (message : Message) :
    (network.deliver id message).profiles = network.profiles := by
  rcases deliver_cases owned message with ⟨-, same⟩ | ⟨call, -, frame, -⟩
  · rw [same]
    rfl
  · rw [frame]
    exact profiles_modify (fun _ => rfl)

theorem Ended.recorded {before after : Network} (ended : before.Ended after) (action : Action) :
    Recorded before after action := by
  obtain ⟨id, call, state, found, -, -, rfl⟩ := ended
  refine .kept (issued_endCall found state) ?_ ?_
  · rw [endCall_frame found]
    exact profiles_modify (fun _ => rfl)
  · have same : (before.endCall id state).nextPost = before.nextPost := by rw [endCall_frame found]
    exact Nat.le_of_eq same.symm

theorem Change.recorded {respond : Responder} {action : Action} {before after : Network}
    (change : Change respond action before after) : Recorded before after action := by
  cases change with
  | connected =>
    refine .connected rfl ?_ rfl rfl
    simp [profiles, Network.connected, Client.profile]
  | launched owned =>
    refine .called owned ?_ ?_ ?_
    · exact issued_launched _ _ _ _ _
    · exact profiles_launched owned _ _
    · exact congrArg (· + 1) (nextPost_launched ..)
  | misfired owned =>
    refine .called owned ?_ ?_ rfl
    · exact issued_launched _ _ _ _ _
    · exact profiles_launched owned _ _
  | ended _ ended => exact ended.recorded action
  | released => exact .kept rfl (profiles_modify (fun _ => rfl)) (Nat.le_refl _)
  | delivered owned =>
    refine .kept ?_ ?_ ?_
    · apply issued_deliver
      exact owned
    · apply profiles_deliver
      exact owned
    · rw [nextPost_deliver]
      exact Nat.le_refl _
  | published | replied => exact .kept rfl rfl (Nat.le_succ _)
  | _ => exact .kept rfl rfl (Nat.le_refl _)

def ordinal (network : Network) (call : CallId) (client : ClientId) : Nat :=
  (network.issued.take call).countP (fun earlier => earlier.client = client)

structure Numbered (network : Network) : Prop where
  owned : ∀ call ∈ network.issued, call.client < network.profiles.length
  next : ∀ id client, network.profiles[id]? = some client →
    client.nextId = UInt64.ofNat (network.callCount id)
  ids : ∀ id call, network.issued[id]? = some call →
    call.correlationId = UInt64.ofNat (network.ordinal id call.client)
  posts : network.issued.Pairwise (fun earlier later => earlier.post < later.post)
  posted : ∀ call ∈ network.issued, call.post < network.nextPost

theorem numbered_empty : empty.Numbered := by
  constructor <;> simp [issued, profiles, empty]

theorem Numbered.kept {before after : Network} (numbered : before.Numbered)
    (issued : after.issued = before.issued) (profiles : after.profiles = before.profiles)
    (counted : before.nextPost ≤ after.nextPost) : after.Numbered where
  owned := by rw [issued, profiles]; exact numbered.owned
  next := by unfold callCount; rw [issued, profiles]; exact numbered.next
  ids := by unfold ordinal; rw [issued]; exact numbered.ids
  posts := by rw [issued]; exact numbered.posts
  posted := by
    rw [issued]
    exact fun call member => Nat.lt_of_lt_of_le (numbered.posted call member) counted

theorem Numbered.connected {before after : Network} {client : Client} (numbered : before.Numbered)
    (issued : after.issued = before.issued) (profiles : after.profiles = before.profiles ++ [client])
    (first : client.nextId = 0) (counted : after.nextPost = before.nextPost) : after.Numbered where
  owned := by
    rw [issued, profiles]
    intro call member
    rw [List.length_append]
    exact Nat.lt_add_right _ (numbered.owned call member)
  next := by
    unfold callCount
    rw [issued, profiles]
    intro id other found
    rw [List.getElem?_append] at found
    split at found
    next => exact numbered.next id other found
    next beyond =>
      -- The calls so far are calls of clients that were there before.
      have none : before.issued.countP (fun call => call.client = id) = 0 := by
        rw [List.countP_eq_zero]
        intro call member
        have within := numbered.owned call member
        simp only [decide_eq_true_eq]
        exact fun same => beyond (same ▸ within)
      have same : other = client := by
        obtain ⟨bound, rfl⟩ := List.getElem?_eq_some_iff.mp found
        exact List.mem_singleton.mp (List.getElem_mem bound)
      rw [none, same, first]
      rfl
  ids := by unfold ordinal; rw [issued]; exact numbered.ids
  posts := by rw [issued]; exact numbered.posts
  posted := by rw [issued, counted]; exact numbered.posted

theorem Numbered.called {before after : Network} {call : Call} (numbered : before.Numbered)
    (issued : after.issued = before.issued ++ [call])
    (profiles : after.profiles =
      before.profiles.modify call.client (fun client => { client with nextId := client.nextId + 1 }))
    (counted : after.nextPost = before.nextPost + 1) (post : call.post = before.nextPost)
    {owner : Client} (owned : before.profiles[call.client]? = some owner)
    (id : call.correlationId = owner.nextId) : after.Numbered where
  owned := by
    rw [issued, profiles, List.length_modify]
    intro other member
    rcases List.mem_append.mp member with earlier | last
    · exact numbered.owned other earlier
    · obtain rfl := List.mem_singleton.mp last
      exact (List.getElem?_eq_some_iff.mp owned).1
  next := by
    intro client other found
    rw [profiles, List.getElem?_modify] at found
    unfold callCount
    rw [issued, List.countP_append, List.countP_singleton]
    obtain ⟨earlier, there, rfl⟩ := Option.map_eq_some_iff.mp found
    have next := numbered.next client earlier there
    -- Both the next id and the count go up by one, and the ids wrap around at the same place.
    by_cases same : call.client = client
    · simp only [same, if_true, next, callCount, decide_true, UInt64.ofNat_add]
      rfl
    · simp [same, next, callCount]
  ids := by
    intro place other found
    unfold ordinal
    rw [issued] at found ⊢
    rw [List.getElem?_append] at found
    split at found
    next within =>
      rw [List.take_append_of_le_length (Nat.le_of_lt within)]
      exact numbered.ids place other found
    next beyond =>
      have last : place = before.issued.length ∧ other = call := by
        obtain ⟨bound, rfl⟩ := List.getElem?_eq_some_iff.mp found
        refine ⟨?_, List.mem_singleton.mp (List.getElem_mem bound)⟩
        simp only [List.length_singleton] at bound
        exact Nat.le_antisymm (Nat.sub_eq_zero_iff_le.mp (Nat.lt_one_iff.mp bound))
          (Nat.not_lt.mp beyond)
      obtain ⟨rfl, rfl⟩ := last
      rw [List.take_left, id]
      exact numbered.next _ _ owned
  posts := by
    rw [issued, List.pairwise_append]
    refine ⟨numbered.posts, List.pairwise_singleton _ _, ?_⟩
    intro earlier member last isLast
    obtain rfl := List.mem_singleton.mp isLast
    rw [post]
    exact numbered.posted earlier member
  posted := by
    rw [issued, counted]
    intro other member
    rcases List.mem_append.mp member with earlier | last
    · exact Nat.lt_succ_of_lt (numbered.posted other earlier)
    · obtain rfl := List.mem_singleton.mp last
      rw [post]
      exact Nat.lt_succ_self _

theorem Numbered.recorded {before after : Network} {action : Action} (numbered : before.Numbered)
    (recorded : Recorded before after action) : after.Numbered := by
  cases recorded with
  | kept issued profiles counted => exact numbered.kept issued profiles counted
  | connected issued profiles _ counted => exact numbered.connected issued profiles rfl counted
  | called owned issued profiles counted =>
    exact numbered.called issued profiles counted rfl (profile_of_getElem? owned) rfl

theorem Run.numbered {respond : Responder} {allowed : Network → Action → Prop} {network : Network}
    (run : Run respond allowed empty network) : network.Numbered :=
  run.invariant Numbered numbered_empty
    (fun change _ numbered => numbered.recorded change.recorded)
    (fun ended numbered => numbered.recorded (ended.recorded (.tick 0)))

theorem Numbered.eq_of_post {network : Network} (numbered : network.Numbered) {first second : CallId}
    {one other : Call} (firstFound : network.issued[first]? = some one)
    (secondFound : network.issued[second]? = some other) (same : one.post = other.post) :
    first = second := by
  obtain ⟨firstWithin, rfl⟩ := List.getElem?_eq_some_iff.mp firstFound
  obtain ⟨secondWithin, rfl⟩ := List.getElem?_eq_some_iff.mp secondFound
  have increasing := List.pairwise_iff_getElem.mp numbered.posts
  rcases Nat.lt_trichotomy first second with earlier | equal | later
  · exact absurd same (Nat.ne_of_lt (increasing first second firstWithin secondWithin earlier))
  · exact equal
  · exact absurd same.symm (Nat.ne_of_lt (increasing second first secondWithin firstWithin later))

theorem ordinal_lt {network : Network} {first second : CallId} {call : Call}
    (found : network.issued[first]? = some call) (earlier : first < second) :
    network.ordinal first call.client < network.ordinal second call.client := by
  have next : network.issued.take (first + 1) = network.issued.take first ++ [call] := by
    rw [List.take_add_one, found]
    rfl
  have counted : network.ordinal (first + 1) call.client = network.ordinal first call.client + 1 := by
    simp [ordinal, next]
  have more : network.ordinal (first + 1) call.client ≤ network.ordinal second call.client :=
    (List.take_sublist_take_left earlier).countP_le
  exact Nat.lt_of_lt_of_le (counted ▸ Nat.lt_succ_self _) more

theorem ordinal_lt_callCount {network : Network} {id : CallId} {call : Call}
    (found : network.issued[id]? = some call) :
    network.ordinal id call.client < network.callCount call.client := by
  have within := (List.getElem?_eq_some_iff.mp found).1
  have all : network.ordinal network.issued.length call.client = network.callCount call.client := by
    simp [ordinal, callCount]
  exact all ▸ ordinal_lt found within

theorem ofNat_eq_iff_mod {first second : Nat} :
    UInt64.ofNat first = UInt64.ofNat second ↔ first % 2 ^ 64 = second % 2 ^ 64 := by
  rw [← UInt64.toNat_inj, UInt64.toNat_ofNat', UInt64.toNat_ofNat']

theorem Numbered.toNat_id {network : Network} (numbered : network.Numbered) {id : CallId}
    {call : Call} (found : network.issued[id]? = some call)
    (few : network.callCount call.client < 2 ^ 64) :
    call.correlationId.toNat = network.ordinal id call.client := by
  have below := Nat.lt_trans (ordinal_lt_callCount found) few
  rw [numbered.ids id call found, UInt64.toNat_ofNat', Nat.mod_eq_of_lt below]

theorem Numbered.toNat_next {network : Network} (numbered : network.Numbered) {id : ClientId}
    {client : Client} (found : network.profiles[id]? = some client)
    (few : network.callCount id < 2 ^ 64) : client.nextId.toNat = network.callCount id := by
  rw [numbered.next id client found, UInt64.toNat_ofNat', Nat.mod_eq_of_lt few]

theorem Numbered.eq_of_id {network : Network} (numbered : network.Numbered) {first second : CallId}
    {one other : Call} (firstFound : network.issued[first]? = some one)
    (secondFound : network.issued[second]? = some other) (client : one.client = other.client)
    (id : one.correlationId = other.correlationId) (few : network.callCount one.client ≤ 2 ^ 64) :
    first = second := by
  have firstId := numbered.ids first one firstFound
  have secondId := numbered.ids second other secondFound
  have firstBelow := Nat.lt_of_lt_of_le (ordinal_lt_callCount firstFound) few
  have secondBelow := Nat.lt_of_lt_of_le (ordinal_lt_callCount secondFound) (client ▸ few)
  rw [firstId, secondId, ofNat_eq_iff_mod, Nat.mod_eq_of_lt firstBelow,
    Nat.mod_eq_of_lt secondBelow] at id
  rcases Nat.lt_trichotomy first second with earlier | equal | later
  · have := ordinal_lt firstFound earlier
    rw [id, client] at this
    exact absurd this (Nat.lt_irrefl _)
  · exact equal
  · have := ordinal_lt secondFound later
    rw [← client, id] at this
    rw [← client] at this
    exact absurd this (Nat.lt_irrefl _)

theorem Recorded.issued_eq {before after : Network} {action : Action}
    (recorded : Recorded before after action)
    (other : ∀ client route payload timeout, action ≠ .call client route payload timeout) :
    after.issued = before.issued := by
  cases recorded with
  | kept issued | connected issued => exact issued
  | called => exact absurd rfl (other _ _ _ _)

theorem Recorded.issued_new {before after : Network} {action : Action}
    (recorded : Recorded before after action) {id : CallId} {call : Call}
    (absent : before.issued[id]? = none) (found : after.issued[id]? = some call) :
    ∃ client owner route payload timeout, action = .call client route payload timeout ∧
      before.clients[client]? = some owner ∧
      call = before.startedCall client owner route timeout := by
  cases recorded with
  | kept issued | connected issued =>
    rw [issued, absent] at found
    cases found
  | called owned issued =>
    rw [issued, List.getElem?_append_right (List.getElem?_eq_none_iff.mp absent)] at found
    obtain ⟨_, rfl⟩ := List.getElem?_eq_some_iff.mp found
    exact ⟨_, _, _, _, _, rfl, owned, by simp⟩

theorem Recorded.length_issued {before after : Network} {action : Action}
    (recorded : Recorded before after action) :
    after.issued.length ≤ before.issued.length + 1 := by
  cases recorded with
  | kept issued | connected issued => exact issued ▸ Nat.le_succ _
  | called _ issued => simp [issued]

theorem Recorded.issued_mono {before after : Network} {action : Action}
    (recorded : Recorded before after action) {id : CallId} {call : Call}
    (found : before.issued[id]? = some call) : after.issued[id]? = some call := by
  cases recorded with
  | kept issued => rw [issued, found]
  | connected issued => rw [issued, found]
  | called _ issued =>
    rw [issued, List.getElem?_append_left (List.getElem?_eq_some_iff.mp found).1, found]

theorem Recorded.issued_cases {before after : Network} {action : Action}
    (recorded : Recorded before after action) {call : Call} (member : call ∈ after.issued) :
    call ∈ before.issued ∨ ∃ client owner route payload timeout,
      action = .call client route payload timeout ∧ before.clients[client]? = some owner ∧
        call = before.startedCall client owner route timeout := by
  obtain ⟨place, found⟩ := List.getElem?_of_mem member
  cases earlier : before.issued[place]? with
  | some old =>
    obtain rfl := Option.some.inj (found.symm.trans (recorded.issued_mono earlier))
    exact .inl (List.mem_of_getElem? earlier)
  | none => exact .inr (recorded.issued_new earlier found)

theorem Recorded.profile_mono {before after : Network} {action : Action}
    (recorded : Recorded before after action) {id : ClientId} {client : Client}
    (found : before.profiles[id]? = some client) :
    ∃ now, after.profiles[id]? = some now ∧ now.replyQueue = client.replyQueue ∧
      now.inbox = client.inbox := by
  cases recorded with
  | kept _ profiles => exact ⟨client, by rw [profiles, found], rfl, rfl⟩
  | connected _ profiles =>
    refine ⟨client, ?_, rfl, rfl⟩
    rw [profiles, List.getElem?_append_left (List.getElem?_eq_some_iff.mp found).1, found]
  | called _ _ profiles =>
    rw [profiles, List.getElem?_modify, found]
    refine ⟨_, rfl, ?_⟩
    simp only
    split <;> exact ⟨rfl, rfl⟩

theorem Run.issued_mono {respond : Responder} {allowed : Network → Action → Prop}
    {start network : Network} (run : Run respond allowed start network) {id : CallId} {call : Call}
    (found : start.issued[id]? = some call) : network.issued[id]? = some call :=
  run.invariant (fun network => network.issued[id]? = some call) found
    (fun change _ there => change.recorded.issued_mono there)
    (fun ended there => (ended.recorded (.tick 0)).issued_mono there)

theorem Run.absent {respond : Responder} {allowed : Network → Action → Prop}
    {start network : Network} (run : Run respond allowed start network) {id : CallId}
    (absent : network.calls[id]? = none) : start.calls[id]? = none := by
  cases there : start.calls[id]? with
  | none => rfl
  | some call =>
    have issued := run.issued_mono (issued_of_getElem? there)
    simp [getElem?_issued, absent] at issued

theorem Recorded.callCount {before after : Network} {action : Action}
    (recorded : Recorded before after action) (client : ClientId) :
    before.callCount client ≤ after.callCount client := by
  unfold Network.callCount
  cases recorded with
  | kept issued | connected issued => exact Nat.le_of_eq (by rw [issued])
  | called _ issued =>
    rw [issued, List.countP_append]
    exact Nat.le_add_right _ _

theorem Run.callCount {respond : Responder} {allowed : Network → Action → Prop}
    {start network : Network} (run : Run respond allowed start network) (client : ClientId) :
    start.callCount client ≤ network.callCount client :=
  run.invariant (fun network => start.callCount client ≤ network.callCount client) (Nat.le_refl _)
    (fun change _ most => Nat.le_trans most (change.recorded.callCount client))
    (fun ended most => Nat.le_trans most ((ended.recorded (.tick 0)).callCount client))

theorem callCount_of_perform {respond : Responder} {before after : Network} {action : Action}
    (performed : before.perform respond action = some after) (client : ClientId) :
    before.callCount client ≤ after.callCount client :=
  (Run.next action .start trivial performed : Run respond (fun _ _ => True) _ _).callCount client

def isHeld (network : Network) (client : ClientId) : Bool :=
  (network.clients[client]?).any Client.held

theorem held_modify {clients : List Client} {place : ClientId} {change : Client → Client}
    (kept : ∀ client, (change client).held = client.held) (id : ClientId) :
    ((clients.modify place change)[id]?).any Client.held = (clients[id]?).any Client.held := by
  rw [List.getElem?_modify]
  cases clients[id]? with
  | none => rfl
  | some client => by_cases same : place = id <;> simp [same, kept]

theorem Ended.isHeld {before after : Network} (ended : before.Ended after) (id : ClientId) :
    after.isHeld id = before.isHeld id := by
  obtain ⟨_, _, state, found, -, -, rfl⟩ := ended
  rw [endCall_frame found]
  refine held_modify ?_ id
  exact fun _ => rfl

theorem Change.isHeld {respond : Responder} {action : Action} {before after : Network}
    (change : Change respond action before after) {id : ClientId} (other : action ≠ .dropClient id)
    (held : before.isHeld id = true) : after.isHeld id = true := by
  cases change with
  | connected =>
    obtain ⟨client, owned, holds⟩ := Option.any_eq_true _ _ |>.mp held
    have within := (List.getElem?_eq_some_iff.mp owned).1
    refine (Option.any_eq_true _ _).mpr ⟨client, ?_, holds⟩
    exact (List.getElem?_append_left within).trans owned
  | launched | misfired =>
    rw [launched_frame, ← held]
    refine held_modify ?_ id
    exact fun _ => rfl
  | ended _ ended => exact (ended.isHeld id).trans held
  | @released _ client =>
    have different : client ≠ id := fun same => other (same ▸ rfl)
    simpa [Network.isHeld, updateClient, List.getElem?_modify, different] using held
  | @delivered _ reader client queue rest parcel owned =>
    have owned : (before.took client.inbox rest).clients[reader]? = some client := owned
    rcases deliver_cases owned parcel.message with ⟨-, same⟩ | ⟨call, -, frame, -⟩
    · rw [same]
      exact held
    · rw [frame, ← held]
      refine held_modify ?_ id
      exact fun _ => rfl
  | _ => exact held

theorem isHeld_of_perform {respond : Responder} {before after : Network} {action : Action}
    (performed : before.perform respond action = some after) {id : ClientId}
    (other : action ≠ .dropClient id) (held : before.isHeld id = true) : after.isHeld id = true := by
  obtain ⟨middle, change, rfl | ended⟩ := changes_of_perform performed
  · exact change.isHeld other held
  · exact (ended.isHeld id).trans (change.isHeld other held)

end Network

end LedgerNode.Bus
