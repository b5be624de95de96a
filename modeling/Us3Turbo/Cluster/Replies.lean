import Us3Turbo.Cluster.AtMostOnce
import Us3Turbo.Proxy.SessionIds

/-! # What an attempt learns from its replies

The ticket it holds is the one of its record, and the outcome it reports is what an
execution of its `GdsPut` brought.
-/

namespace Us3Turbo.Cluster

open Us3Turbo.Proto Us3Turbo.Client
open Us3Turbo.Backend (Served)
open Us3Turbo.Proxy (ProxyControlPlaneService ticketOf)

variable {before after world : World} {event : Event} {put : PutOnce} {key session : String}
  {id : Nat} {execution : Execution} {message : Message} {ticket : String}
  {response : GdsChunkResponse}

/-! ## Where replies come from -/

def Message.asks : Message → Bool
  | .openSession _ | .gdsPut _ _ | .reportGdsPut _ _ | .abortSession _ => true
  | .abortSessionReply _ _ => true
  | _ => false

/-- What the sender of a reply did in the step that sent it. -/
inductive Replied (before after : World) : Message → Prop where
  | asked (message : Message) (asks : message.asks = true) : Replied before after message
  | openSession (request : OpenSessionRequest) (now : Int)
      (pending : .openSession request ∈ before.network)
      (proxy : after.proxy = (before.proxy.openSession now request).2) :
      Replied before after
        (.openSessionReply request.sessionId (before.proxy.openSession now request).1)
  | gdsPut (session : String) (id : Nat) (execution : Execution) (result : RpcResult Served)
      (known : after.executions id = some execution) (caller : execution.caller = some session)
      (done : execution.stage = .done result) :
      Replied before after (.gdsPutReply session (result.map (·.response)))
  | reportGdsPut (id : Nat) (request : ReportGdsPutRequest)
      (pending : .reportGdsPut id request ∈ before.network)
      (proxy : after.proxy = (before.proxy.reportGdsPut request).2) :
      Replied before after (.reportGdsPutReply id (before.proxy.reportGdsPut request).1)

theorem sent_asks (member : message ∈ sent put) : message.asks = true := by
  rcases mem_sent member with ⟨_, rfl⟩ | ⟨_, rfl⟩ | rfl <;> rfl

theorem Replied.of_answer {result : RpcResult Served} (known : after.executions id = some execution)
    (done : execution.stage = .done result) {begun : Execution}
    (caller : begun.caller = execution.caller) (member : message ∈ answer begun result) :
    Replied before after message := by
  unfold answer at member
  split at member
  · rename_i session called
    rw [List.mem_singleton.mp member]
    exact .gdsPut session id execution result known (caller.symm.trans called) done
  · cases member

theorem Passage.replied (passage : Passage before event after) (member : message ∈ after.network) :
    message ∈ before.network ∨ Replied before after message := by
  have split {kept fresh : List Message} (within : message ∈ kept ++ fresh) (left : Left before kept)
      (new : message ∈ fresh → Replied before after message) :
      message ∈ before.network ∨ Replied before after message := by
    rcases List.mem_append.mp within with earlier | now
    · exact .inl (left.mem earlier)
    · exact .inr (new now)
  cases passage with
  | start put opening tokenless unanswered free named =>
      exact split member (.inl (.refl _)) fun new => .asked _ (sent_asks new)
  | resume session put reply kept known sublist authentic =>
      refine split member (.inl sublist) fun new => ?_
      split at new
      · cases new
      · exact .asked _ (sent_asks new)
  | openSession request now kept taken =>
      refine split member (.inr ⟨_, taken⟩) fun new => ?_
      rw [List.mem_singleton.mp new]
      exact .openSession request now (taken.mem_iff.mpr List.mem_cons_self) rfl
  | reportGdsPut id request kept taken =>
      refine split member (.inr ⟨_, taken⟩) fun new => ?_
      rw [List.mem_singleton.mp new]
      exact .reportGdsPut id request (taken.mem_iff.mpr List.mem_cons_self) rfl
  | begin slot caller request kept taken free => exact .inl (Left.mem (.inr ⟨_, taken⟩) member)
  | receive id execution server stage fresh request known receiving receives =>
      refine split member (.inl (.refl _)) fun new => ?_
      have stored : ∀ stage, (before.setExecution id { execution with stage }).executions id =
          some { execution with stage } := fun _ => setExecution_executions.trans (if_pos rfl)
      generalize before.backend.gdsPut server execution.request = result at receives
      cases receives with
      | failed error => exact .of_answer (stored _) rfl rfl new
      | silent served => exact .of_answer (stored _) rfl rfl new
      | notifies served report =>
          rw [List.mem_singleton.mp new]
          exact .asked _ rfl
  | notified id execution served kept known stage sublist =>
      exact split member (.inl sublist) fun new =>
        .of_answer (setExecution_executions.trans (if_pos rfl)) rfl rfl new
  | otherGdsPut request other known =>
      refine split member (.inl (.refl _)) fun new => ?_
      rw [List.mem_singleton.mp new]
      exact .asked _ rfl
  | duplicate doubled index doubles found =>
      refine .inl ?_
      rcases List.mem_append.mp member with old | new
      · exact old
      · rw [List.mem_singleton.mp new]
        exact found
  | refuse request kept sublist =>
      refine split member (.inl sublist) fun new => ?_
      rw [List.mem_singleton.mp new]
      exact .asked _ rfl
  | drop kept sublist => exact .inl (sublist.subset member)

/-! ## Grants -/

/-- The session is on record under the ticket. -/
def Granted (world : World) (key ticket : String) : Prop :=
  ticket = ticketOf key ∧ (world.proxy.lookup key).isSome = true

/-- An attempt past its `OpenSession` holds the ticket of its record. -/
structure Grants (world : World) : Prop where
  replies : ∀ {session response}, .openSessionReply session (.ok response) ∈ world.network →
    Granted world session response.ticket
  attempts : ∀ {key put}, world.attempts key = some put →
    (put.token = none ∧ (put.stage = .opening ∨ put.stage = .returned false)) ∨
      Granted world key put.grant.ticket

theorem Granted.effect (granted : Granted before key ticket) (effect : Effect before event after) :
    Granted after key ticket := by
  obtain ⟨ticket, known⟩ := granted
  refine ⟨ticket, ?_⟩
  rcases effect.proxy with same | ⟨request, now, _, same⟩ | ⟨id, request, _, same⟩
  · rw [same]
    exact known
  · rw [same, ProxyControlPlaneService.lookup_openSession]
    split
    · rfl
    · exact known
  · rw [same, ProxyControlPlaneService.lookup_reportGdsPut]
    split
    · rw [Option.isSome_map]
      exact known
    · exact known

namespace Grants

theorem opened {request : OpenSessionRequest} {now : Int} {granted : OpenSessionResponse}
    (consistent : Consistent before) (pending : .openSession request ∈ before.network)
    (proxy : after.proxy = (before.proxy.openSession now request).2)
    (accepted : (before.proxy.openSession now request).1 = .ok granted) :
    Granted after request.sessionId granted.ticket := by
  have picked := consistent.own_id pending
  cases checked : Proxy.openSessionError request with
  | some error => simp [ProxyControlPlaneService.openSession, checked] at accepted
  | none =>
      rw [Proxy.openSession_accepted checked] at accepted
      cases accepted
      refine ⟨congrArg ticketOf picked, ?_⟩
      rw [proxy, ProxyControlPlaneService.lookup_openSession,
        if_pos (ProxyControlPlaneService.opens_eq_some.mpr ⟨checked, picked⟩)]
      rfl

theorem replies_passage (grants : Grants before) (consistent : Consistent before)
    (passage : Passage before event after) {granted : OpenSessionResponse}
    (member : .openSessionReply session (.ok granted) ∈ after.network) :
    Granted after session granted.ticket := by
  rcases passage.replied member with old | new
  · exact (grants.replies old).effect passage.effect
  · generalize sent : (.openSessionReply session (.ok granted) : Message) = message at new
    cases new with
    | asked message asks =>
        subst sent
        cases asks
    | openSession request now pending proxy =>
        rw [Message.openSessionReply.injEq] at sent
        obtain ⟨rfl, accepted⟩ := sent
        exact opened consistent pending proxy accepted.symm
    | gdsPut => cases sent
    | reportGdsPut => cases sent

theorem attempts_passage (grants : Grants before) (passage : Passage before event after)
    {next : PutOnce} (found : after.attempts key = some next) :
    (next.token = none ∧ (next.stage = .opening ∨ next.stage = .returned false)) ∨
      Granted after key next.grant.ticket := by
  have old {put : PutOnce} (known : before.attempts key = some put) :
      (put.token = none ∧ (put.stage = .opening ∨ put.stage = .returned false)) ∨
        Granted after key put.grant.ticket :=
    (grants.attempts known).imp_right fun granted => granted.effect passage.effect
  rcases passage.attempt found with known | ⟨opening, tokenless, _⟩ | ⟨put, reply, known, rfl, authentic⟩
  · exact old known
  · exact .inl ⟨tokenless, .inl opening⟩
  · -- past its `OpenSession` the attempt has the grant
    have past (begun : put.stage ≠ .opening) (running : put.stage ≠ .returned false) :
        Granted after key put.grant.ticket := by
      rcases old known with ⟨_, opening | failed⟩ | granted
      · exact absurd opening begun
      · exact absurd failed running
      · exact granted
    have turn := PutOnce.resume_turn put reply
    generalize put.resume reply = next at turn
    cases turn with
    | same => exact old known
    | granted response opening answer =>
        subst answer
        exact .inr ((grants.replies authentic).effect passage.effect)
    | acquired token acquiring => exact .inr (past (by simp [acquiring]) (by simp [acquiring]))
    | answered response putting => exact .inr (past (by simp [putting]) (by simp [putting]))
    | verified copying => exact .inr (past (by simp [copying]) (by simp [copying]))
    | aborts begun waiting => exact .inr (past begun (waiting false))
    | fails waiting =>
        rcases old known with ⟨tokenless, _⟩ | granted
        · exact .inl ⟨tokenless, .inr rfl⟩
        · exact .inr granted

theorem passage (grants : Grants before) (consistent : Consistent before)
    (passage : Passage before event after) : Grants after where
  replies := grants.replies_passage consistent passage
  attempts := grants.attempts_passage passage

/-- A session that a `GdsPut` was sent for is on record. -/
theorem recorded (grants : Grants world) {request : GdsChunkRequest} (sentBy : SentBy world request) :
    (world.proxy.lookup request.sessionId).isSome = true := by
  obtain ⟨put, known, _, _, held⟩ := sentBy
  rcases grants.attempts known with ⟨tokenless, _⟩ | ⟨_, recorded⟩
  · rw [tokenless] at held
    cases held
  · exact recorded

end Grants

theorem grants_initial (initial : World.system.initial world) : Grants world where
  replies member := absurd member (initial_network initial)
  attempts found := absurd found (initial_attempts initial)

/-! ## Results -/

/-- `response` is the one of an execution for the session. -/
def Brought (world : World) (key : String) (response : GdsChunkResponse) : Prop :=
  ∃ id execution served, world.executions id = some execution ∧
    execution.request.sessionId = key ∧ execution.served = some served ∧ response = served.response

/-- What an attempt got from its `GdsPut` is what an execution of it brought. -/
structure Results (world : World) : Prop where
  calls : ∀ {session request}, .gdsPut (some session) request ∈ world.network →
    request.sessionId = session
  callers : ∀ {id execution session}, world.executions id = some execution →
    execution.caller = some session → execution.request.sessionId = session
  replies : ∀ {session response}, .gdsPutReply session (.ok response) ∈ world.network →
    Brought world session response
  outcomes : ∀ {key put response}, world.attempts key = some put → put.response = some response →
    Brought world key response ∧
      put.out = makeTransferOutcome put.attempt ⟨response.etag, response.crc32c⟩ put.buffer
  answered : ∀ {key put}, world.attempts key = some put →
    put.stage = .copying ∨ put.stage = .returned true → put.response.isSome = true

theorem Brought.effect (brought : Brought before key response) (effect : Effect before event after) :
    Brought after key response := by
  obtain ⟨id, execution, served, known, name, held, same⟩ := brought
  obtain ⟨next, known', proceeds⟩ := effect.executions known
  exact ⟨id, next, served, known', by rw [proceeds.request, name], proceeds.served served held, same⟩

namespace Results

theorem calls_effect (results : Results before) (effect : Effect before event after)
    {request : GdsChunkRequest} (member : .gdsPut (some session) request ∈ after.network) :
    request.sessionId = session := by
  rcases effect.issued member with old | new
  · exact results.calls old
  · cases new with
    | gdsPut => rfl

theorem callers_passage (results : Results before) (passage : Passage before event after)
    (found : after.executions id = some execution) (caller : execution.caller = some session) :
    execution.request.sessionId = session := by
  rcases passage.called found caller with pending | ⟨old, known, caller', request⟩
  · exact results.calls pending
  · rw [request]
    exact results.callers known caller'

theorem replies_passage (results : Results before) (passage : Passage before event after)
    (member : .gdsPutReply session (.ok response) ∈ after.network) :
    Brought after session response := by
  rcases passage.replied member with old | new
  · exact (results.replies old).effect passage.effect
  · generalize sent : (.gdsPutReply session (.ok response) : Message) = message at new
    cases new with
    | asked message asks =>
        subst sent
        cases asks
    | openSession => cases sent
    | gdsPut caller id execution result known called done =>
        rw [Message.gdsPutReply.injEq] at sent
        obtain ⟨rfl, answered⟩ := sent
        cases result with
        | error error => cases answered
        | ok served =>
            cases answered
            exact ⟨id, execution, served, known, results.callers_passage passage known called,
              by rw [Execution.served, done], rfl⟩
    | reportGdsPut => cases sent

theorem outcomes_passage (results : Results before) (passage : Passage before event after)
    {next : PutOnce} (found : after.attempts key = some next)
    (answer : next.response = some response) :
    Brought after key response ∧
      next.out = makeTransferOutcome next.attempt ⟨response.etag, response.crc32c⟩ next.buffer := by
  have old {put : PutOnce} (known : before.attempts key = some put)
      (held : put.response = some response) : Brought after key response ∧
        put.out = makeTransferOutcome put.attempt ⟨response.etag, response.crc32c⟩ put.buffer :=
    (results.outcomes known held).imp_left fun brought => brought.effect passage.effect
  rcases passage.attempt found with known | ⟨_, _, unanswered⟩ | ⟨put, reply, known, rfl, authentic⟩
  · exact old known answer
  · rw [unanswered] at answer
    cases answer
  · have same (held : put.response = some response) : Brought after key response ∧
        put.out = makeTransferOutcome put.attempt ⟨response.etag, response.crc32c⟩ put.buffer :=
      old known held
    have turn := PutOnce.resume_turn put reply
    generalize put.resume reply = next at turn answer
    cases turn with
    | same => exact same answer
    | granted => exact same answer
    | acquired => exact same answer
    | answered other putting answers =>
        subst answers
        cases answer
        exact ⟨(results.replies authentic).effect passage.effect, rfl⟩
    | verified => exact same answer
    | aborts => exact same answer
    | fails => exact same answer

theorem answered_passage (results : Results before) (passage : Passage before event after)
    {next : PutOnce} (found : after.attempts key = some next)
    (late : next.stage = .copying ∨ next.stage = .returned true) : next.response.isSome = true := by
  rcases passage.attempt found with known | ⟨opening, _, _⟩ | ⟨put, reply, known, rfl, _⟩
  · exact results.answered known late
  · simp [opening] at late
  · have turn := PutOnce.resume_turn put reply
    generalize put.resume reply = next at turn late
    cases turn with
    | same => exact results.answered known late
    | granted => simp at late
    | acquired => simp at late
    | answered => rfl
    | verified copying =>
        have held : put.response.isSome = true := results.answered known (.inl copying)
        exact held
    | aborts => simp at late
    | fails => simp at late

theorem passage (results : Results before) (passage : Passage before event after) :
    Results after where
  calls := results.calls_effect passage.effect
  callers := results.callers_passage passage
  replies := results.replies_passage passage
  outcomes := results.outcomes_passage passage
  answered := results.answered_passage passage

end Results

theorem results_initial (initial : World.system.initial world) : Results world where
  calls member := absurd member (initial_network initial)
  callers found := absurd found (initial_executions initial)
  replies member := absurd member (initial_network initial)
  outcomes found := absurd found (initial_attempts initial)
  answered found := absurd found (initial_attempts initial)

end Us3Turbo.Cluster
