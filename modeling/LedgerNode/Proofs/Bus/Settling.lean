import LedgerNode.Bus.Schedule
import LedgerNode.Proofs.Bus.Outcomes

set_option autoImplicit false

namespace LedgerNode.Bus

def Action.isParty : Action → Bool
  | dispatch _ | finish _ | retire _ | take _ | answer _ | conclude _ => true
  | _ => false

namespace Network

section Totals

variable {α : Type} (measure : α → Nat)

@[simp] theorem total_nil : total measure [] = 0 := rfl

@[simp] theorem total_cons (item : α) (rest : List α) :
    total measure (item :: rest) = measure item + total measure rest := rfl

@[simp] theorem total_append (first second : List α) :
    total measure (first ++ second) = total measure first + total measure second := by
  induction first with
  | nil => simp
  | cons item rest ih =>
    simp only [List.cons_append, total_cons, ih]
    omega

theorem total_sublist {first second : List α} (sublist : first.Sublist second) :
    total measure first ≤ total measure second := by
  induction sublist with
  | slnil => exact Nat.le_refl _
  | cons item _ ih =>
    simp only [total_cons]
    omega
  | cons_cons item _ ih =>
    simp only [total_cons]
    omega

theorem total_modify {items : List α} {place : Nat} {item : α} (found : items[place]? = some item)
    (change : α → α) :
    total measure (items.modify place change) + measure item =
      total measure items + measure (change item) := by
  induction items generalizing place with
  | nil => cases found
  | cons first rest ih =>
    cases place with
    | zero =>
      obtain rfl := Option.some.inj found
      simp only [List.modify_zero_cons, total_cons]
      omega
    | succ place =>
      have counted := ih found
      simp only [List.modify_succ_cons, total_cons]
      omega

theorem total_le_of_map {before after : List α} (change : Nat → α → α)
    (items : ∀ place, after[place]? = (before[place]?).map (change place))
    (lower : ∀ place item, measure (change place item) ≤ measure item) :
    total measure after ≤ total measure before := by
  induction before generalizing after change with
  | nil =>
    have none : after = [] := by
      apply List.eq_nil_iff_forall_not_mem.mpr
      intro item member
      obtain ⟨place, found⟩ := List.getElem?_of_mem member
      simp [items place] at found
    simp [none]
  | cons first rest ih =>
    cases after with
    | nil => simp
    | cons head tail =>
      have same : head = change 0 first := by simpa using items 0
      have later : total measure tail ≤ total measure rest :=
        ih (fun place => change (place + 1)) (fun place => by simpa using items (place + 1))
          (fun place => lower (place + 1))
      have now := lower 0 first
      rw [← same] at now
      simp only [total_cons]
      omega

end Totals

theorem queueWork_eq (queue : Queue) :
    queueWork queue = total parcelWork queue.held + if queue.consumed then 1 else 0 := rfl

theorem parcelWork_pos (parcel : Parcel) : 2 ≤ parcelWork parcel := by
  unfold parcelWork
  split <;> omega

theorem queueWork_enqueue (queue : Queue) (parcel : Parcel) :
    queueWork (queue.enqueue parcel) = queueWork queue + parcelWork parcel := by
  simp only [queueWork_eq, Queue.held_enqueue, Queue.consumed_enqueue, total_append, total_cons,
    total_nil]
  omega

theorem queueWork_take {queue rest : Queue} {parcel : Parcel}
    (taken : queue.take? = some (parcel, rest)) :
    queueWork queue = queueWork rest + parcelWork parcel := by
  have takes := Queue.takes_of_take? taken
  simp only [queueWork_eq, takes.held, takes.consumed, total_cons]
  omega

theorem queueWork_abandon (queue : Queue) (post : PostId) :
    queueWork (queue.abandon post) ≤ queueWork queue := by
  simp only [queueWork_eq, Queue.consumed_abandon]
  exact Nat.add_le_add_right (total_sublist _ (queue.held_abandon_sublist post)) _

theorem queueWork_dropConsumer {queue : Queue} (consumed : queue.consumed = true) :
    queueWork queue.dropConsumer < queueWork queue := by
  simp only [queueWork_eq, consumed, Queue.held_dropConsumer, total_nil]
  simp only [Queue.dropConsumer, Bool.false_eq_true, if_false, if_true]
  omega

theorem work_setJob {network : Network} {id : JobId} {job : Job}
    (found : network.jobs[id]? = some job) (state : JobState) :
    (network.setJob id state).work + jobWork job = network.work + jobWork { job with state } := by
  have counted := total_modify jobWork found (fun job => { job with state })
  simp only [work, setJob] at counted ⊢
  omega

theorem work_setJob_lt {network : Network} {id : JobId} {job : Job}
    (found : network.jobs[id]? = some job) (busy : 0 < jobWork job) :
    (network.setJob id .done).work < network.work := by
  have counted := work_setJob found .done
  have done : jobWork { job with state := .done } = 0 := rfl
  omega

theorem work_update {network after : Network} {id : QueueId} {queue : Queue}
    {change : Queue → Queue} (found : network.broker.queue? id = some queue)
    (queues : after.broker.queues = network.broker.queues.modify id change)
    (jobs : after.jobs = network.jobs)
    (calls : total callWork after.calls ≤ total callWork network.calls) :
    after.work + queueWork queue ≤ network.work + queueWork (change queue) := by
  have found : network.broker.queues[id]? = some queue := found
  have counted := total_modify queueWork found change
  simp only [work, queues, jobs] at counted ⊢
  omega

theorem work_fetched (network : Network) (server : ServerId) (queue : QueueId) (request : Parcel)
    (rest : Queue) :
    (network.fetched server queue request rest).work = (network.took queue rest).work +
      jobWork { server, index := network.receivedCount queue, request, state := .ready } := by
  have jobs : total jobWork (network.fetched server queue request rest).jobs =
      total jobWork network.jobs + (jobWork
        { server, index := network.receivedCount queue, request, state := .ready } + 0) :=
    total_append ..
  have queues : (network.fetched server queue request rest).broker =
    (network.took queue rest).broker := rfl
  have calls : (network.fetched server queue request rest).calls = network.calls := rfl
  have others : (network.took queue rest).jobs = network.jobs := rfl
  have same : (network.took queue rest).calls = network.calls := rfl
  simp only [work, jobs, queues, calls, others, same]
  omega

theorem jobWork_ready_lt (server : ServerId) (index : Nat) (request : Parcel) :
    jobWork { server, index, request, state := .ready } < parcelWork request := by
  simp only [jobWork, parcelWork]
  split <;> omega

theorem Ended.work_lt {before after : Network} (ended : before.Ended after) :
    after.work < before.work := by
  obtain ⟨id, call, state, found, live, ending, rfl⟩ := ended
  have queues : total queueWork (before.broker.abandon call.post).queues ≤
      total queueWork before.broker.queues := by
    refine total_le_of_map queueWork (fun _ queue => queue.abandon call.post) ?_
      (fun _ queue => queueWork_abandon queue call.post)
    intro place
    simp [Broker.abandon]
  -- The call itself is over, and no other call becomes live again.
  have settled : callWork { call with state } = 0 := by
    cases ending <;> rfl
  have was : callWork call = 1 := by simp [callWork, live]
  have counted := total_modify callWork found (fun call => { call with state })
  have calls : total callWork (before.endCall id state).calls ≤
      total callWork (before.calls.modify id (fun call => { call with state })) := by
    refine total_le_of_map callWork (fun other record =>
      if other ≠ id ∧ before.holder? call.client call.correlationId = some other ∧
          record.state = .outstanding then
        { record with state := .disconnected }
      else record) ?_ ?_
    · intro other
      rw [getElem?_calls_endCall found, List.getElem?_modify]
      cases before.calls[other]? with
      | none => rfl
      | some record =>
        by_cases same : other = id
        · simp [same]
        · simp [same, Ne.symm same]
    · intro other record
      split
      next lost => simp [callWork, lost.2.2, CallState.isLive]
      next => exact Nat.le_refl _
  rw [endCall_frame found] at calls ⊢
  simp only [work] at calls counted queues ⊢
  omega

theorem calls_deliver_le (network : Network) (id : ClientId) (message : Message) :
    total callWork (network.deliver id message).calls ≤ total callWork network.calls := by
  cases owned : network.clients[id]? with
  | none => simp [deliver, owned]
  | some client =>
    rcases deliver_cases owned message with ⟨-, same⟩ | ⟨call, -, -, states⟩
    · rw [same]
      exact Nat.le_refl _
    · refine total_le_of_map callWork _ states ?_
      intro place record
      split
      next given => simp [callWork, given.2, CallState.isLive]
      next => exact Nat.le_refl _

theorem Change.work_lt {respond : Responder} {action : Action} {before after : Network}
    (change : Change respond action before after) (party : action.isParty = true) :
    after.work < before.work := by
  -- A request counts more than the job that it becomes, and that more than the reply it sends.
  cases change with
  | left leaving consumed =>
    next queue =>
      obtain ⟨was, found, consumed⟩ := (Option.any_eq_true _ _).mp consumed
      have counted : (before.dropConsumer queue).work + queueWork was ≤ _ :=
        work_update found rfl rfl (Nat.le_refl _)
      have fewer := queueWork_dropConsumer consumed
      omega
  | ended _ ended => exact ended.work_lt
  | delivered owned found taken consumed =>
    next id client queue rest parcel =>
      have counted : ((before.took client.inbox rest).deliver id parcel.message).work + _ ≤ _ :=
        work_update found (by rw [broker_deliver]; rfl) (jobs_deliver ..) (calls_deliver_le ..)
      have fewer := queueWork_take taken
      have := parcelWork_pos parcel
      omega
  | fetched owned found taken =>
    next id server queue rest request =>
      have counted : (before.took server.inbox rest).work + _ ≤ _ :=
        work_update found rfl rfl (Nat.le_refl _)
      have fewer := queueWork_take taken
      have more := work_fetched before id server.inbox request rest
      have asked := jobWork_ready_lt id (before.receivedCount server.inbox) request
      omega
  | replied found ready worked named bound consumed =>
    next id job payload name place =>
      obtain ⟨queue, there, -⟩ := (Option.any_eq_true _ _).mp consumed
      have counted : (before.sent place (some job.request.post)
          (replyTo job.request.message payload)).work + _ ≤ _ :=
        work_update there rfl rfl (Nat.le_refl _)
      rw [queueWork_enqueue] at counted
      have reply : parcelWork { post := before.nextPost, answers := some job.request.post
                                message := replyTo job.request.message payload } = 2 := rfl
      have found : (before.sent place (some job.request.post)
          (replyTo job.request.message payload)).jobs[id]? = some job := found
      have posted := work_setJob found (.posted before.nextPost)
      have was : jobWork job = 4 := by simp [jobWork, ready, named]
      have now : jobWork { job with state := .posted before.nextPost } = 1 := rfl
      omega
  | undeliverable found ready named failed =>
    next id job name warning error parcel =>
      have found : (before.warn warning).jobs[id]? = some job := found
      exact work_setJob_lt found (by simp [jobWork, ready, named])
  | silent found ready nothing =>
    refine work_setJob_lt found ?_
    simp only [jobWork, ready]
    split <;> omega
  | rejected found posted refused =>
    next id job post warning =>
      have found : (before.warn warning).jobs[id]? = some job := found
      exact work_setJob_lt found (by simp [jobWork, posted])
  | concluded found posted => exact work_setJob_lt found (by simp [jobWork, posted])
  | _ => cases party

theorem change_of_party {respond : Responder} {network after : Network} {action : Action}
    (performed : network.perform respond action = some after) (party : action.isParty = true) :
    Change respond action network after := by
  cases action with
  | dispatch => exact change_of_dispatch performed
  | finish =>
    obtain ⟨state, -, ended⟩ := endedBy_of_finish performed
    exact .ended rfl ended.ended
  | retire => exact change_of_retire performed
  | take => exact change_of_take performed
  | answer => exact change_of_answer performed
  | conclude => exact change_of_conclude performed
  | _ => cases party

abbrev PartyAction (_ : Network) (action : Action) : Prop :=
  action.isParty = true

def AtRest (respond : Responder) (network : Network) : Prop :=
  ∀ action ∈ network.partyActions, network.perform respond action = none

theorem isParty_of_mem {network : Network} {action : Action}
    (member : action ∈ network.partyActions) : action.isParty = true := by
  simp only [partyActions, List.mem_append, List.mem_map, List.mem_flatMap, List.mem_cons,
    List.not_mem_nil, or_false] at member
  obtain (((⟨_, _, rfl⟩ | ⟨_, _, rfl⟩) | ⟨_, _, rfl | rfl⟩) | ⟨_, _, rfl⟩) | ⟨_, _, rfl⟩ := member <;>
    rfl

section Scheduling

variable (respond : Responder)

theorem exhaustFor_run {action : Action} (party : action.isParty = true) (steps : Nat)
    (network : Network) :
    Run respond PartyAction network (exhaustFor respond action steps network) := by
  induction steps generalizing network with
  | zero => exact .start
  | succ steps ih =>
    unfold exhaustFor
    split
    next after performed => exact (Run.next action .start party performed).trans (ih after)
    next => exact .start

theorem Run.work_le {respond : Responder} {start network : Network}
    (run : Run respond PartyAction start network) :
    network.work ≤ start.work := by
  induction run with
  | start => exact Nat.le_refl _
  | next action _ party performed ih =>
    have lower := (change_of_party performed party).work_lt party
    omega

theorem exhaust_cases {action : Action} (party : action.isParty = true) (network : Network) :
    (network.perform respond action = none ∧ exhaust respond network action = network) ∨
      (exhaust respond network action).work < network.work := by
  have some : network.work = (network.work - 1) + 1 := by
    simp only [work]
    omega
  unfold exhaust
  rw [some]
  unfold exhaustFor
  cases performed : network.perform respond action with
  | none => exact .inl ⟨rfl, rfl⟩
  | some after =>
    have lower := (change_of_party performed party).work_lt party
    have rest := (exhaustFor_run respond party (network.work - 1) after).work_le
    right
    simp only
    omega

theorem round_run (network : Network) :
    Run respond PartyAction network (network.round respond) := by
  have all (actions : List Action) (parties : ∀ action ∈ actions, action.isParty = true)
      (network : Network) :
      Run respond PartyAction network (actions.foldl (exhaust respond) network) := by
    induction actions generalizing network with
    | nil => exact .start
    | cons action rest ih =>
      have first := exhaustFor_run respond (parties action List.mem_cons_self)
        network.work network
      exact first.trans (ih (fun other member => parties other (List.mem_cons_of_mem _ member)) _)
  exact all network.partyActions (fun _ member => isParty_of_mem member) network

theorem round_cases (network : Network) :
    (network.AtRest respond ∧ network.round respond = network) ∨
      (network.round respond).work < network.work := by
  have all (actions : List Action) (parties : ∀ action ∈ actions, action.isParty = true)
      (network : Network) :
      ((∀ action ∈ actions, network.perform respond action = none) ∧
        actions.foldl (exhaust respond) network = network) ∨
      (actions.foldl (exhaust respond) network).work < network.work := by
    induction actions generalizing network with
    | nil => exact .inl ⟨by simp, rfl⟩
    | cons action rest ih =>
      have rest := ih (fun other member => parties other (List.mem_cons_of_mem _ member))
        (exhaust respond network action)
      rw [List.foldl_cons]
      obtain ⟨stuck, same⟩ | lower := exhaust_cases respond
        (parties action List.mem_cons_self) network
      · rw [same] at rest ⊢
        exact rest.imp_left (fun others => ⟨by simpa using ⟨stuck, others.1⟩, others.2⟩)
      · rcases rest with ⟨-, same⟩ | lower'
        · rw [same]
          exact .inr lower
        · exact .inr (Nat.lt_trans lower' lower)
  exact all network.partyActions (fun _ member => isParty_of_mem member) network

theorem settleFor_spec (rounds : Nat) (network : Network) (enough : network.work ≤ rounds) :
    Run respond PartyAction network (settleFor respond rounds network) ∧
      (settleFor respond rounds network).AtRest respond := by
  induction rounds generalizing network with
  | zero =>
    simp only [work] at enough
    omega
  | succ rounds ih =>
    unfold settleFor
    simp only
    split
    next lower =>
      have ⟨run, rest⟩ := ih (network.round respond) (by omega)
      exact ⟨(round_run respond network).trans run, rest⟩
    next same =>
      rcases round_cases respond network with ⟨rest, stays⟩ | lower
      · rw [stays]
        exact ⟨.start, rest⟩
      · exact absurd lower same

theorem settle_spec (network : Network) :
    Run respond PartyAction network (network.settle respond) ∧
      (network.settle respond).AtRest respond :=
  settleFor_spec respond network.work network (Nat.le_refl _)

end Scheduling

end Network

end LedgerNode.Bus
