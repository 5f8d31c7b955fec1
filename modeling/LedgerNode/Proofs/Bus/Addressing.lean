import LedgerNode.Proofs.Bus.Correlation
import LedgerNode.Proofs.Bus.Delivery

set_option autoImplicit false

namespace LedgerNode.Bus

def Action.opens? : Action → Option String
  | declare name _ | connect name _ => some name
  | _ => none

namespace Network

def Named (network : Network) (id : QueueId) (name : String) : Prop :=
  ∃ queue, network.broker.queue? id = some queue ∧ queue.name = name

/-- What is published as a reply is a reply to a request that was received, sent where that asks for it. -/
def Honest (network : Network) : Action → Prop
  | .publish name message (some post) =>
    ∃ request, network.Answers name { post := network.nextPost, answers := some post, message } request
  | _ => True

def Addressed (network : Network) : Prop :=
  ∀ id parcel, network.Seen id parcel → ∀ call ∈ network.issued, call.post = parcel.post →
    network.Named id call.route ∧
      ∃ owner, network.profiles[call.client]? = some owner ∧
        parcel.message.replyTo = some owner.replyQueue

structure Returned (network : Network) : Prop where
  dated : ∀ id parcel post, network.Seen id parcel → parcel.answers = some post →
    post < network.nextPost
  home : ∀ id parcel, network.Seen id parcel → ∀ call ∈ network.issued,
    parcel.answers = some call.post →
    ∃ owner, network.profiles[call.client]? = some owner ∧ network.Named id owner.replyQueue

section Names

variable {respond : Responder} {before after network : Network} {action : Action} {id : QueueId}
  {name : String}

theorem Change.named_mono (change : Change respond action before after)
    (named : before.Named id name) : after.Named id name := by
  obtain ⟨was, found, rfl⟩ := named
  obtain ⟨now, later, handled⟩ := change.handles found
  exact ⟨now, later, handled.name⟩

theorem Change.named (change : Change respond action before after) (named : after.Named id name) :
    before.Named id name ∨ id = before.broker.queues.length ∧ action.opens? = some name := by
  obtain ⟨now, later, rfl⟩ := named
  cases found : before.broker.queue? id with
  | none =>
    obtain ⟨name, capacity, rfl | rfl, last, rfl⟩ := change.creates found later
    · exact .inr ⟨last, rfl⟩
    · exact .inr ⟨last, rfl⟩
  | some was =>
    obtain ⟨_, same, handled⟩ := change.handles found
    obtain rfl := Option.some.inj (later.symm.trans same)
    exact .inl ⟨was, found, handled.name.symm⟩

theorem Named.eq {other : String} (named : network.Named id name) (again : network.Named id other) :
    name = other := by
  obtain ⟨queue, found, rfl⟩ := named
  obtain ⟨_, same, rfl⟩ := again
  rw [Option.some.inj (found.symm.trans same)]

theorem declare_of_unnamed (bound : network.Bound) (unnamed : ∀ id, ¬network.Named id name)
    (capacity : Nat) : ∃ id after, network.declare name capacity = .ok (id, after) := by
  have absent : network.broker.lookup? name = none := by
    cases found : network.broker.lookup? name with
    | none => rfl
    | some id => exact absurd (bound.named name id found) (unnamed id)
  simp [declare, Broker.declare, absent]

theorem connect_of_unnamed (bound : network.Bound) (unnamed : ∀ id, ¬network.Named id name)
    (capacity : Nat) : ∃ client after, network.connect name capacity = .ok (client, after) := by
  obtain ⟨id, after, declared⟩ := declare_of_unnamed bound unnamed capacity
  simp [connect, declared]

theorem dispatched_of_drawn? (bound : network.Bound) {client : ClientId} {owner : Client}
    (owned : network.profiles[client]? = some owner)
    (performed : network.perform respond action = some after) {parcel : Parcel}
    (drawn : network.drawn? action owner.inbox = some parcel) : action = .dispatch client := by
  have reads := (drawn?_eq_some.mp drawn).1
  cases action with
  | receive queue =>
    -- Nobody receives by hand in a queue of replies.
    cases reads
    simp only [perform, Bool.and_eq_true] at performed
    split at performed
    next outside =>
      obtain ⟨record, there, same⟩ := Option.map_eq_some_iff.mp
        ((getElem?_profiles network client).symm.trans owned)
      have others := (Bool.and_eq_true_iff.mp outside.1).1
      have apart := List.all_eq_true.mp others record (List.mem_of_getElem? there)
      subst same
      simp [Client.profile] at apart
    next => cases performed
  | dispatch other =>
    obtain ⟨reader, there, same⟩ := Option.map_eq_some_iff.mp reads
    rw [bound.own _ _ _ _ (profile_of_getElem? there) owned same]
  | take server =>
    obtain ⟨reader, there, same⟩ := Option.map_eq_some_iff.mp reads
    exact absurd same.symm ((bound.served reader (List.mem_of_getElem? there)).2 client owner owned)
  | _ => cases reads

theorem seen_of_drawn? {parcel : Parcel} (drawn : network.drawn? action id = some parcel) :
    network.Seen id parcel := by
  have given := (drawn?_eq_some.mp drawn).2
  unfold Broker.receive at given
  split at given
  next => cases given
  next queue found =>
    split at given
    next taken =>
      cases given
      refine ⟨queue, found, List.mem_append_right _ ?_⟩
      rw [(Queue.takes_of_take? taken).held]
      exact List.mem_cons_self
    next => split at given <;> cases given

end Names

section Steps

variable {respond : Responder} {before after : Network} {action : Action} {id : QueueId}
  {parcel : Parcel}

theorem Sends.request (sends : Sends respond before after action id parcel)
    (honest : Honest before action) (dated : before.Dated) {post : PostId}
    (answers : parcel.answers = some post) :
    ∃ request name, before.Received request ∧ request.post = post ∧
      request.message.replyTo = some name ∧ before.broker.lookup? name = some id := by
  cases sends with
  | @published name message made queue bound =>
    obtain rfl : made = some post := answers
    obtain ⟨request, received, asks, same, -⟩ := honest
    exact ⟨request, name, received, (Option.some.inj same).symm, asks, bound⟩
  | called => cases answers
  | replied found _ named bound =>
    exact ⟨_, _, dated.requests _ (List.mem_of_getElem? found), Option.some.inj answers, named,
      bound⟩

theorem Addressed.changed (addressed : before.Addressed) (numbered : before.Numbered)
    (bound : before.Bound) (dated : before.Dated) (change : Change respond action before after) :
    after.Addressed := by
  intro id parcel seen call member same
  rcases change.request_cases numbered dated seen member same with ⟨seen, issued⟩ |
    ⟨client, owner, route, payload, timeout, -, owned, leads, rfl, own⟩
  · obtain ⟨named, owner, owned, asks⟩ := addressed id parcel seen call issued same
    obtain ⟨now, there, sameName, -⟩ := change.recorded.profile_mono owned
    exact ⟨change.named_mono named, now, there, sameName ▸ asks⟩
  · obtain ⟨now, there, sameName, -⟩ := change.recorded.profile_mono (profile_of_getElem? owned)
    refine ⟨change.named_mono (bound.named route id leads), now, there, ?_⟩
    rw [own, sameName]
    rfl

theorem Returned.changed (returned : before.Returned) (addressed : before.Addressed)
    (bound : before.Bound) (dated : before.Dated) (honest : Honest before action)
    (change : Change respond action before after) : after.Returned where
  dated := by
    intro id parcel post seen answers
    refine Nat.lt_of_lt_of_le ?_ change.nextPost
    rcases change.seen seen with seen | ⟨sends, -⟩
    · exact returned.dated id parcel post seen answers
    · obtain ⟨request, name, received, rfl, -⟩ := sends.request honest dated answers
      obtain ⟨place, earlier⟩ := received.seen
      exact dated.seen place request earlier
  home := by
    intro id parcel seen call member answers
    rcases change.recorded.issued_cases member with issued |
      ⟨client, owner, route, payload, timeout, rfl, owned, rfl⟩
    · have home : ∃ owner, before.profiles[call.client]? = some owner ∧
          before.Named id owner.replyQueue := by
        rcases change.seen seen with seen | ⟨sends, -⟩
        · exact returned.home id parcel seen call issued answers
        · -- The request that is answered is that of the call, which says where replies go.
          obtain ⟨request, name, received, same, asks, leads⟩ :=
            sends.request honest dated answers
          obtain ⟨queue, lay⟩ := received.seen
          obtain ⟨-, owner, owned, own⟩ := addressed queue request lay call issued same.symm
          obtain rfl := Option.some.inj (asks.symm.trans own)
          exact ⟨owner, owned, bound.named _ id leads⟩
      obtain ⟨owner, owned, named⟩ := home
      obtain ⟨now, there, sameName, -⟩ := change.recorded.profile_mono owned
      exact ⟨now, there, sameName ▸ change.named_mono named⟩
    · -- Nothing answers a call that starts in this step.
      rcases change.seen seen with seen | ⟨sends, -⟩
      · exact absurd (returned.dated id parcel _ seen answers) (Nat.lt_irrefl _)
      · cases sends with
        | called => cases answers

end Steps

section Runs

variable {respond : Responder} {allowed : Network → Action → Prop} {network : Network}

theorem Run.addressed (run : Run respond allowed empty network) : network.Addressed := by
  have all : network.Numbered ∧ network.Bound ∧ network.Dated ∧ network.Addressed := by
    apply run.invariant (fun network =>
      network.Numbered ∧ network.Bound ∧ network.Dated ∧ network.Addressed)
    · refine ⟨numbered_empty, bound_empty, dated_empty, ?_⟩
      intro id parcel seen call member
      cases member
    · intro action before after change _ ⟨numbered, bound, dated, addressed⟩
      exact ⟨numbered.recorded change.recorded, bound.changed change, dated.changed change,
        addressed.changed numbered bound dated change⟩
    · intro before after ended ⟨numbered, bound, dated, addressed⟩
      have change : Change respond (.abort 0) before after := ended.change
      exact ⟨numbered.recorded change.recorded, bound.changed change, dated.changed change,
        addressed.changed numbered bound dated change⟩
  exact all.2.2.2

theorem Run.returned (run : Run respond Honest empty network) : network.Returned := by
  induction run with
  | start =>
    constructor
    · rintro id parcel post ⟨queue, found, -⟩
      cases found
    · intro id parcel seen call member
      cases member
  | next action run honest performed ih =>
    obtain ⟨middle, change, rfl | ended⟩ := changes_of_perform performed
    · exact ih.changed run.addressed run.bound run.dated honest change
    · have returned := ih.changed run.addressed run.bound run.dated honest change
      have addressed := run.addressed.changed run.numbered run.bound run.dated change
      have step : Change respond (.abort 0) middle _ := ended.change
      have honest : Honest middle (.abort 0) := trivial
      exact returned.changed addressed (run.bound.changed change) (run.dated.changed change) honest
        step

end Runs

end Network

end LedgerNode.Bus
