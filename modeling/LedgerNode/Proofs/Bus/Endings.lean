import LedgerNode.Proofs.Bus.Awaiting

set_option autoImplicit false

namespace LedgerNode.Bus

theorem Broker.publish_eq_error {broker : Broker} {name : String} {parcel : Parcel}
    {error : BusError} (failed : broker.publish name parcel = .error error) :
    broker.lookup? name = none ∧ error = .noSuchQueue name ∨
      (∃ id, broker.lookup? name = some id ∧ broker.isConsumed id = false) ∧
        error = .queueClosed name := by
  unfold publish at failed
  split at failed
  next missing =>
    cases failed
    exact .inl ⟨missing, rfl⟩
  next id bound =>
    split at failed
    next => cases failed
    next closed =>
      cases failed
      exact .inr ⟨⟨id, bound, by simpa using closed⟩, rfl⟩

namespace Network

inductive Verdict (before : Network) (action : Action) (id : CallId) (call : Call) :
    CallState → Prop where
  | refused (looks : action = .finish id ∨ action = .expire id)
      (refused : before.broker.isRefused call.post = true) :
      Verdict before action id call (.failed (.queueClosed call.route))
  | answered {payload : Bytes} (looks : action = .finish id ∨ action = .expire id)
      (kept : before.broker.isRefused call.post = false)
      (accepted : before.broker.isWaiting call.post = false)
      (answered : call.state = .answered payload) :
      Verdict before action id call (.returned payload)
  | disconnected (looks : action = .finish id ∨ action = .expire id)
      (kept : before.broker.isRefused call.post = false)
      (accepted : before.broker.isWaiting call.post = false)
      (disconnected : call.state = .disconnected) :
      Verdict before action id call (.failed .disconnected)
  | late (fires : action = .expire id) (kept : before.broker.isRefused call.post = false)
      (unanswered : before.broker.isWaiting call.post = true ∨ call.state = .outstanding)
      (due : call.deadline ≤ before.clock) :
      Verdict before action id call (.failed (.timeout call.timeout))
  | aborted (aborts : action = .abort id) : Verdict before action id call .aborted

section Ends

variable {respond : Responder} {before after : Network} {action : Action} {id : CallId}
  {call now : Call}

theorem verdict_of_finish (looks : action = .finish id ∨ action = .expire id)
    (found : before.calls[id]? = some call) (done : before.finish id = some after) :
    ∃ state, Verdict before action id call state ∧ after = before.endCall id state := by
  obtain ⟨_, there, -, ends⟩ := finish_cases done
  obtain rfl := Option.some.inj (found.symm.trans there)
  rcases ends with ⟨refused, rfl⟩ |
    ⟨kept, accepted, ⟨payload, answered, rfl⟩ | ⟨disconnected, rfl⟩⟩
  · exact ⟨_, .refused looks refused, rfl⟩
  · exact ⟨_, .answered looks kept accepted answered, rfl⟩
  · exact ⟨_, .disconnected looks kept accepted disconnected, rfl⟩

theorem verdict_of_expire (found : before.calls[id]? = some call)
    (done : before.expire id = some after) :
    ∃ state, Verdict before (.expire id) id call state ∧ after = before.endCall id state := by
  unfold expire at done
  simp only [found] at done
  split at done
  next due =>
    cases done
    simp only [Bool.and_eq_true, decide_eq_true_eq] at due
    unfold giveUp
    cases finished : before.finish id with
    | some ended => exact verdict_of_finish (.inr rfl) found finished
    | none =>
      have ⟨kept, unanswered⟩ := unanswered_of_finish found due.1 finished
      simp only [found]
      exact ⟨_, .late rfl kept unanswered due.2, rfl⟩
  next => cases done

theorem ended_here {other : CallId} {state : CallState} (ends : before.EndedBy other state after)
    (found : before.calls[id]? = some call) (later : after.calls[id]? = some now)
    (live : call.state.isLive = true) (past : now.state.isLive = false) : id = other := by
  by_contra different
  rcases ends.kept different found with kept | ⟨-, kept⟩
  · obtain rfl := Option.some.inj (later.symm.trans kept)
    exact Bool.noConfusion (live.symm.trans past)
  · obtain rfl := Option.some.inj (later.symm.trans kept)
    cases past

theorem verdict_of_perform (performed : before.perform respond action = some after)
    (found : before.calls[id]? = some call) (later : after.calls[id]? = some now)
    (live : call.state.isLive = true) (past : now.state.isLive = false) :
    Verdict before action id call now.state ∧ after = before.endCall id now.state := by
  have settled {state : CallState} (verdict : Verdict before action id call state)
      (result : after = before.endCall id state) :
      Verdict before action id call now.state ∧ after = before.endCall id now.state := by
    have same : now.state = state := by
      rw [result, getElem?_calls_endCall found, found, Option.map_some, if_pos rfl] at later
      exact congrArg Call.state (Option.some.inj later).symm
    exact same ▸ ⟨verdict, result⟩
  -- Only these three actions end a call, and each of them ends the call that it names.
  obtain ⟨ends, -⟩ := endedBy_of_perform performed found later live past
  cases action with
  | abort other =>
    have ends := endedBy_of_abort performed
    obtain rfl := ended_here ends found later live past
    obtain ⟨_, -, -, -, result⟩ := ends
    exact settled (.aborted rfl) result
  | expire other =>
    obtain ⟨_, -, ends⟩ := endedBy_of_expire performed
    obtain rfl := ended_here ends found later live past
    obtain ⟨state, verdict, result⟩ := verdict_of_expire found performed
    exact settled verdict result
  | finish other =>
    obtain ⟨_, -, ends⟩ := endedBy_of_finish performed
    obtain rfl := ended_here ends found later live past
    obtain ⟨state, verdict, result⟩ := verdict_of_finish (.inl rfl) found performed
    exact settled verdict result
  | _ => cases ends

end Ends

def nextRequest (network : Network) (owner : Client) (payload : Bytes) : Parcel where
  post := network.nextPost
  answers := none
  message := owner.request payload

inductive Launch (before : Network) (route : String) (timeout : Duration) (request : Parcel) :
    CallState → Prop where
  | underway {broker : Broker} (sent : before.broker.publish route request = .ok broker)
      (patient : timeout.nanoseconds ≠ 0) : Launch before route timeout request .outstanding
  | unsent {error : BusError} (failed : before.broker.publish route request = .error error) :
      Launch before route timeout request (.failed error)
  | late {broker : Broker} (sent : before.broker.publish route request = .ok broker)
      (impatient : timeout.nanoseconds = 0) :
      Launch before route timeout request (.failed (.timeout timeout))

section Starts

variable {respond : Responder} {before after : Network} {client : ClientId} {owner : Client}
  {route : String} {payload : Bytes} {timeout : Duration}

theorem outstanding_launched (registered : before.Registered) (client : ClientId) (owner : Client)
    (route : String) (timeout : Duration) :
    (before.launched client owner route timeout).calls[before.calls.length]? =
      some (before.startedCall client owner route timeout) := by
  have unheld : before.holder? client owner.nextId ≠ some before.calls.length := by
    intro held
    obtain ⟨_, there, -⟩ := registered.holds _ _ _ held
    simp at there
  rw [getElem?_calls_launched]
  simp [unheld]

theorem giveUp_outstanding {network : Network} {id : CallId} {call : Call}
    (found : network.calls[id]? = some call) (outstanding : call.state = .outstanding)
    (kept : network.broker.isRefused call.post = false) :
    network.giveUp id = network.endCall id (.failed (.timeout call.timeout)) := by
  have unsettled : network.finish id = none := by
    simp [finish, found, outstanding, kept, CallState.isLive]
  simp [giveUp, unsettled, found]

theorem launch_of_perform (registered : before.Registered)
    (fresh : before.broker.isRefused before.nextPost = false)
    (performed : before.perform respond (.call client route payload timeout) = some after)
    (owned : before.clients[client]? = some owner) :
    ∃ call, after.calls[before.calls.length]? = some call ∧
      call.issue = before.startedCall client owner route timeout ∧
      Launch before route timeout (before.nextRequest owner payload) call.state := by
  simp only [perform] at performed
  split at performed
  next =>
    cases performed
    let record := before.startedCall client owner route timeout
    have there := outstanding_launched registered client owner route timeout
    have ended {network : Network} (found : network.calls[before.calls.length]? = some record)
        (state : CallState) : (network.endCall before.calls.length state).calls[before.calls.length]? =
          some { record with state } := by
      simp [getElem?_calls_endCall found, found]
    rw [startCall_eq owned]
    cases sent : (before.launched client owner route timeout).post route (owner.request payload)
      none with
    | error error =>
      have failed := post_eq_error sent
      rw [broker_launched, nextPost_launched] at failed
      rw [afterPost]
      refine ⟨_, ended ?_ (.failed error), rfl, .unsent failed⟩
      exact there
    | ok posted =>
      obtain ⟨queue, bound, consumed, rfl⟩ := post_eq_ok sent
      rw [broker_launched] at bound consumed
      have published : before.broker.publish route (before.nextRequest owner payload) = .ok _ :=
        Broker.publish_eq_ok.mpr ⟨queue, bound, consumed, rfl⟩
      have found : ((before.launched client owner route timeout).sent queue none
          (owner.request payload)).calls[before.calls.length]? = some record := there
      rw [afterPost]
      split
      next nothing =>
        -- The timer is due at once, and nothing has refused the request that was just posted.
        have kept : ((before.launched client owner route timeout).sent queue none
            (owner.request payload)).broker.isRefused record.post = false := by
          unfold Broker.isRefused Network.sent
          rw [Broker.refused_update, broker_launched]
          exact fresh
        rw [giveUp_outstanding found rfl kept]
        exact ⟨_, ended found _, rfl, .late published nothing⟩
      next patient => exact ⟨record, found, rfl, .underway published patient⟩
  next => cases performed

end Starts

theorem Run.fresh {respond : Responder} {allowed : Network → Action → Prop} {network : Network}
    (run : Run respond allowed empty network) :
    network.broker.isRefused network.nextPost = false := by
  by_contra refused
  obtain ⟨steps, trace, -⟩ := run.trace
  obtain ⟨id, parcel, arrived, same, -⟩ := trace.refused (by simpa using refused)
  exact Nat.ne_of_lt (trace.arrived_below arrived) same

theorem Run.launch {respond : Responder} {allowed : Network → Action → Prop}
    {before after : Network} {action : Action} {id : CallId} {call : Call}
    (run : Run respond allowed empty before)
    (performed : before.perform respond action = some after) (absent : before.calls[id]? = none)
    (found : after.calls[id]? = some call) :
    ∃ client owner route payload timeout, action = .call client route payload timeout ∧
      before.clients[client]? = some owner ∧ id = before.calls.length ∧
      call.issue = before.startedCall client owner route timeout ∧
      Launch before route timeout (before.nextRequest owner payload) call.state := by
  obtain ⟨client, owner, route, payload, timeout, rfl, owned, issue, -⟩ :=
    started_of_perform performed run.registered absent found
  obtain ⟨last, there, started, launch⟩ :=
    launch_of_perform run.registered run.fresh performed owned
  -- Both were posted under the next number, so there is one new call only.
  have numbered : after.Numbered := by
    have later : Run respond (fun _ _ => True) empty after :=
      (run.mono (fun _ _ _ => trivial)).next _ trivial performed
    exact later.numbered
  have same := numbered.eq_of_post (issued_of_getElem? found) (issued_of_getElem? there)
    (by rw [issue, started])
  subst same
  obtain rfl := Option.some.inj (found.symm.trans there)
  exact ⟨client, owner, route, payload, timeout, rfl, owned, rfl, issue, launch⟩

end Network

end LedgerNode.Bus
