import Us3Turbo.Proxy.Isolation
import Us3Turbo.Proxy.SessionIds
import Us3Turbo.Proxy.Snapshot
import Us3Turbo.Proxy.TicketIndex
import Us3Turbo.Transition.Simulation

/-! # Handlers side by side answer as if one came after the other

Every handler takes effect in one of its own sections: an `OpenSession` where it stores
its record, a `ReportGdsPut` under its lock, a `CompleteUpload` where it reads the etag
or where its scan finds nothing.  The answers and the records are those of the requests
handled one by one in that order.  Ids are drawn before their records are stored, so an
`OpenSession` that names no session does not stand there as it was sent, but with the id
it drew.
-/

namespace Us3Turbo.Proxy

open Us3Turbo.Data Us3Turbo.Proto Us3Turbo.Transition

/-- A request and what its caller was answered. -/
structure Answered where
  request : Request
  response : Response

/-! ## One request after the other -/

structure Sequential where
  service : ProxyControlPlaneService
  answered : List Answered

def Sequential.system : System Sequential Exchange where
  initial state := proxySystem.initial state.service ∧ state.answered = []
  step before exchange after :=
    proxySystem.step before.service exchange after.service ∧
      after.answered = before.answered ++
        [⟨exchange.request, (before.service.handle exchange).1⟩]

/-! ## Handlers side by side -/

/-- The answer `OpenSession` writes from the record that `CreateSession` returns. -/
def ProxyControlPlaneService.answer (service : ProxyControlPlaneService)
    (request : OpenSessionRequest) (session : Session) : OpenSessionResponse where
  requestId := request.requestId
  sessionId := session.sessionId
  ticket := session.ticket
  gatewayId := service.gatewayId
  dataEndpoint := service.backendEndpoint
  expireAt := session.expireAt

/-- The handlers, with the requests under way and what has been answered, in the order
in which it took effect. -/
structure Calls where
  handlers : Handlers
  opening : Nat → Option OpenSessionRequest
  completing : Nat → Option CompleteUploadRequest
  answered : List Answered

namespace Calls

variable {state before after : Calls} {event : Section} {sequential : Sequential} {call : Nat}

/-- What takes effect in a section. -/
def effect (state : Calls) : Section → Option Answered
  | .prepare _ _ request =>
      (openSessionError request).map fun error =>
        ⟨.openSession request, .openSession (.error error)⟩
  | .store call =>
      (state.opening call).bind fun request =>
        (state.handlers.opening call).map fun session =>
          ⟨.openSession { request with sessionId := session.sessionId },
            .openSession (.ok (state.handlers.service.answer request session))⟩
  | .report request =>
      some ⟨.reportGdsPut request, .reportGdsPut (state.handlers.service.reportGdsPut request).1⟩
  | .find _ order ticket =>
      if getCompletedSession order ticket = none then
        some ⟨.completeUpload ⟨ticket⟩, .completeUpload (completeUpload order ⟨ticket⟩)⟩
      else none
  | .read call =>
      (state.completing call).bind fun request =>
        (state.handlers.completing call).bind fun reference =>
          (state.handlers.service.lookup reference.key).map fun session =>
            ⟨.completeUpload request, .completeUpload (.ok ⟨session.etag⟩)⟩

def note (state : Calls) : Section → Calls
  | .prepare call _ request =>
      { state with opening := Function.update state.opening call (some request) }
  | .find call _ ticket =>
      { state with completing := Function.update state.completing call (some ⟨ticket⟩) }
  | _ => state

def advance (state : Calls) (event : Section) : Option Calls :=
  (state.handlers.advance event).map fun handlers => {
    handlers
    opening := (state.note event).opening
    completing := (state.note event).completing
    answered := state.answered ++ (state.effect event).toList }

def system : System Calls Section :=
  (System.ofAdvance
    (fun state => Handlers.initial state.handlers ∧ state.opening = (fun _ => none) ∧
      state.completing = (fun _ => none) ∧ state.answered = []) advance).restrict
    fun before event after => before.handlers.walked event = true ∧
      Handlers.Undisturbed before.handlers event after.handlers

theorem handlers_step (step : system.step before event after) :
    Handlers.system.step before.handlers event after.handlers := by
  obtain ⟨advanced, walked, _⟩ := step
  obtain ⟨handlers, moved, rfl⟩ := Option.map_eq_some_iff.mp advanced
  exact ⟨moved, walked⟩

/-! ## The calls under way -/

/-- What no request changes. -/
def config (service : ProxyControlPlaneService) : String × String × Int :=
  (service.gatewayId, service.backendEndpoint, service.sessionMgr.ttlSec)

theorem config_handle (service : ProxyControlPlaneService) (exchange : Exchange) :
    config (service.handle exchange).2 = config service := by
  obtain ⟨gateway, endpoint, ttl⟩ := handle_config service exchange
  simp only [config, gateway, endpoint, ttl]

theorem config_reportGdsPut (service : ProxyControlPlaneService) (request : ReportGdsPutRequest) :
    config (service.reportGdsPut request).2 = config service :=
  config_handle service ⟨0, ∅, .reportGdsPut request⟩

theorem opened_congr {service other : ProxyControlPlaneService} (request : OpenSessionRequest)
    (same : config service = config other) (now : Int) (hinted : request.sessionId ≠ "") :
    service.opened now request = other.opened now request := by
  have ttl : service.sessionMgr.ttlSec = other.sessionMgr.ttlSec := congrArg (·.2.2) same
  simp only [ProxyControlPlaneService.opened, SessionManager.mintSession, SessionManager.expireTime,
    SessionManager.pickSessionId_hint hinted, ttl]

/-- A record is the same whether its id was drawn or asked for. -/
theorem opened_named (service : ProxyControlPlaneService) (now : Int) (request : OpenSessionRequest) :
    service.opened now { request with sessionId := (service.opened now request).sessionId } =
      service.opened now request := by
  have named : service.sessionMgr.pickSessionId (service.opened now request).sessionId =
      (service.opened now request).sessionId :=
    SessionManager.pickSessionId_hint (pickSessionId_nonempty _ _)
  simp only [ProxyControlPlaneService.opened, SessionManager.mintSession] at named ⊢
  simp only [named]

theorem prepare_eq_some {service prepared : ProxyControlPlaneService} {now : Int}
    {request : OpenSessionRequest} {session : Session}
    (prepares : service.prepare now request = some (session, prepared)) :
    openSessionError request = none ∧ session = service.opened now request ∧
      config prepared = config service ∧ ∀ key, prepared.lookup key = service.lookup key := by
  rw [ProxyControlPlaneService.prepare] at prepares
  split at prepares
  · rw [Option.some.injEq, Prod.mk.injEq] at prepares
    obtain ⟨rfl, rfl⟩ := prepares
    exact ⟨‹_›, rfl, rfl, fun _ => rfl⟩
  · cases prepares

theorem prepare_eq_none {service : ProxyControlPlaneService} {now : Int}
    {request : OpenSessionRequest} (prepares : service.prepare now request = none) :
    ∃ error, openSessionError request = some error := by
  rw [ProxyControlPlaneService.prepare] at prepares
  split at prepares
  · cases prepares
  · exact Option.ne_none_iff_exists'.mp ‹_›

theorem config_step (step : system.step before event after) :
    config after.handlers.service = config before.handlers.service := by
  obtain same | ⟨_, now, request, session, service, prepares, same⟩ | ⟨_, _, _, same⟩ |
    ⟨request, same⟩ | ⟨_, _, _, _, same⟩ | ⟨_, _, _, _, _, _, same⟩ :=
    Handlers.step_cases (handlers_step step)
  · rw [same]
  · rw [same]
    exact (prepare_eq_some prepares).2.2.1
  · rw [same]
    rfl
  · rw [same]
    exact config_reportGdsPut _ request
  · rw [same]
    rfl
  · rw [same]
    rfl

/-- What the handlers hold for a call comes from its request. -/
structure Pending (state : Calls) : Prop where
  opening : ∀ {call session}, state.handlers.opening call = some session → ∃ now request,
    state.opening call = some request ∧ openSessionError request = none ∧
      session.sessionId ≠ "" ∧
      state.handlers.service.opened now { request with sessionId := session.sessionId } = session
  completing : ∀ {call reference}, state.handlers.completing call = some reference →
    state.completing call = some ⟨ticketOf reference.key⟩

theorem Pending.carry (pending : before.Pending)
    (config : config after.handlers.service = config before.handlers.service)
    (opening : ∀ {call session}, after.handlers.opening call = some session →
      before.handlers.opening call = some session ∧ after.opening call = before.opening call)
    (completing : ∀ {call reference}, after.handlers.completing call = some reference →
      before.handlers.completing call = some reference ∧
        after.completing call = before.completing call) : after.Pending where
  opening held := by
    obtain ⟨earlier, same⟩ := opening held
    obtain ⟨now, request, known, checked, named, record⟩ := pending.opening earlier
    refine ⟨now, request, same.trans known, checked, named, ?_⟩
    rw [opened_congr { request with sessionId := _ } config now named]
    exact record
  completing held := by
    obtain ⟨earlier, same⟩ := completing held
    exact same.trans (pending.completing earlier)

theorem Pending.step (pending : before.Pending) (step : system.step before event after) :
    after.Pending := by
  have config := config_step step
  obtain ⟨advanced, walked, _⟩ := step
  obtain ⟨handlers, moved, rfl⟩ := Option.map_eq_some_iff.mp advanced
  cases event with
  | prepare call now request =>
      simp only [Handlers.advance] at moved
      split at moved
      · rename_i session service free prepares
        rw [Option.some.injEq] at moved
        subst moved
        obtain ⟨checked, minted, same, _⟩ := prepare_eq_some prepares
        refine ⟨?_, pending.completing⟩
        intro other stored held
        simp only [Handlers.prepareStep, note, Function.update_apply] at held ⊢
        split at held
        · rename_i here
          rw [Option.some.injEq] at held
          subst held minted
          refine ⟨now, request, if_pos here, checked, pickSessionId_nonempty _ _, ?_⟩
          rw [opened_congr _ same now (pickSessionId_nonempty _ _)]
          exact opened_named _ now request
        · rename_i elsewhere
          obtain ⟨earlier, asked, known, passed, named, record⟩ := pending.opening held
          refine ⟨earlier, asked, (if_neg elsewhere).trans known, passed, named, ?_⟩
          rw [opened_congr { asked with sessionId := _ } same earlier named]
          exact record
      · rename_i free prepares
        rw [Option.some.injEq] at moved
        subst moved
        apply pending.carry config
        · intro other session held
          have elsewhere : other ≠ call := by
            rintro rfl
            rw [free] at held
            cases held
          exact ⟨held, Function.update_of_ne elsewhere _ _⟩
        · exact fun held => ⟨held, rfl⟩
      · cases moved
  | store call =>
      obtain ⟨session, waiting, rfl⟩ := Option.map_eq_some_iff.mp moved
      apply pending.carry config
      · intro other stored held
        simp only [Handlers.storeStep, Function.update_apply] at held
        split at held
        · cases held
        · exact ⟨held, rfl⟩
      · exact fun held => ⟨held, rfl⟩
  | report request =>
      rw [Handlers.advance, Option.some.injEq] at moved
      subst moved
      exact pending.carry config (fun held => ⟨held, rfl⟩) fun held => ⟨held, rfl⟩
  | find call order ticket =>
      simp only [Handlers.advance] at moved
      split at moved
      · rename_i session free found
        rw [Option.some.injEq] at moved
        subst moved
        refine ⟨pending.opening, ?_⟩
        intro other reference held
        simp only [Handlers.findStep, note, Function.update_apply] at held ⊢
        split at held
        · rename_i here
          rw [Option.some.injEq] at held
          have asked : ticket = ticketOf session.sessionId := by
            obtain ⟨_, _, accepted⟩ := (of_decide_eq_true walked : Walks order _).scan_sound found
            simp only [Bool.and_eq_true, beq_iff_eq] at accepted
            rw [← accepted.1, session.ticketed]
          rw [if_pos here, ← held, asked]
        · rename_i elsewhere
          rw [if_neg elsewhere]
          exact pending.completing held
      · rename_i free missing
        rw [Option.some.injEq] at moved
        subst moved
        apply pending.carry config
        · exact fun held => ⟨held, rfl⟩
        · intro other reference held
          have elsewhere : other ≠ call := by
            rintro rfl
            rw [free] at held
            cases held
          exact ⟨held, Function.update_of_ne elsewhere _ _⟩
      · cases moved
  | read call =>
      obtain ⟨reference, waiting, read⟩ := Option.bind_eq_some_iff.mp moved
      obtain ⟨session, stored, rfl⟩ := Option.map_eq_some_iff.mp read
      apply pending.carry config
      · exact fun held => ⟨held, rfl⟩
      · intro other held waits
        simp only [Handlers.readStep, Function.update_apply] at waits
        split at waits
        · cases waits
        · exact ⟨waits, rfl⟩

/-! ## The same requests one by one -/

structure Matches (state : Calls) (sequential : Sequential) : Prop where
  config : config sequential.service = config state.handlers.service
  records : ∀ key, sequential.service.lookup key = state.handlers.service.lookup key
  answered : sequential.answered = state.answered

/-- A request that is handled with the answer and the records of a section. -/
theorem Matches.commit (same : before.Matches sequential) (now : Int) (request : Request)
    (response : Response) {order : AList fun _ : String => Session}
    (walks : Walks order sequential.service.sessionMgr.sessions.entries)
    (unchanged : Calls.config after.handlers.service = Calls.config before.handlers.service)
    (answers : (sequential.service.handle ⟨now, order, request⟩).1 = response)
    (records : ∀ key, (sequential.service.handle ⟨now, order, request⟩).2.lookup key =
      after.handlers.service.lookup key)
    (appended : after.answered = before.answered ++ [⟨request, response⟩]) :
    ∃ exchanges next, Sequential.system.Run sequential exchanges next ∧ after.Matches next := by
  refine ⟨[⟨now, order, request⟩], ⟨(sequential.service.handle ⟨now, order, request⟩).2,
    sequential.answered ++ [⟨request, response⟩]⟩, .single ⟨⟨walks, rfl⟩, ?_⟩, ?_, records, ?_⟩
  · rw [← answers]
  · rw [unchanged, config_handle, same.config]
  · rw [appended, same.answered]

theorem Matches.idle (same : before.Matches sequential)
    (unchanged : Calls.config after.handlers.service = Calls.config before.handlers.service)
    (records : ∀ key, after.handlers.service.lookup key = before.handlers.service.lookup key)
    (appended : after.answered = before.answered) :
    ∃ exchanges next, Sequential.system.Run sequential exchanges next ∧ after.Matches next :=
  ⟨[], sequential, .nil _, same.config.trans unchanged.symm,
    fun key => (same.records key).trans (records key).symm, same.answered.trans appended.symm⟩

/-- The two stores are walked alike. -/
theorem Matches.entries (same : state.Matches sequential) :
    sequential.service.sessionMgr.sessions.entries =
      state.handlers.service.sessionMgr.sessions.entries :=
  Finmap.ext_lookup same.records

theorem Matches.prepare {now : Int} {request : OpenSessionRequest} (same : before.Matches sequential)
    (step : system.step before (.prepare call now request) after) :
    ∃ exchanges next, Sequential.system.Run sequential exchanges next ∧ after.Matches next := by
  have config := config_step step
  obtain ⟨advanced, _, _⟩ := step
  obtain ⟨handlers, moved, rfl⟩ := Option.map_eq_some_iff.mp advanced
  simp only [Handlers.advance] at moved
  split at moved
  · rename_i session service _ prepares
    rw [Option.some.injEq] at moved
    subst moved
    obtain ⟨checked, _, _, unchanged⟩ := prepare_eq_some prepares
    exact same.idle config unchanged (by simp [effect, checked])
  · rename_i _ prepares
    rw [Option.some.injEq] at moved
    subst moved
    obtain ⟨error, checked⟩ := prepare_eq_none prepares
    obtain ⟨order, walks⟩ := exists_walk sequential.service.sessionMgr.sessions.entries
    have handled : sequential.service.handle ⟨now, order, .openSession request⟩ =
        (.openSession (.error error), sequential.service) := by
      simp only [ProxyControlPlaneService.handle, ProxyControlPlaneService.openSession, checked]
    exact same.commit now (.openSession request) _ walks config (congrArg (·.1) handled)
      (fun key => (congrArg (·.2.lookup key) handled).trans (same.records key))
      (by simp [effect, checked])
  · cases moved

theorem Matches.store (same : before.Matches sequential) (pending : before.Pending)
    (step : system.step before (.store call) after) :
    ∃ exchanges next, Sequential.system.Run sequential exchanges next ∧ after.Matches next := by
  have config := config_step step
  obtain ⟨advanced, _, _⟩ := step
  obtain ⟨handlers, moved, rfl⟩ := Option.map_eq_some_iff.mp advanced
  obtain ⟨session, waiting, rfl⟩ := Option.map_eq_some_iff.mp moved
  obtain ⟨now, request, asked, checked, named, record⟩ := pending.opening waiting
  obtain ⟨order, walks⟩ := exists_walk sequential.service.sessionMgr.sessions.entries
  let asking : OpenSessionRequest := { request with sessionId := session.sessionId }
  have passes : openSessionError asking = none := checked
  have minted : sequential.service.opened now asking = session :=
    (opened_congr asking same.config now named).trans record
  have lands {key : String} : sequential.service.opens asking = some key ↔ key = session.sessionId := by
    rw [ProxyControlPlaneService.opens_eq_some, SessionManager.pickSessionId_hint named]
    simp [passes, asking, eq_comm]
  apply same.commit now (.openSession asking)
    (.openSession (.ok (before.handlers.service.answer request session))) walks config
  · have gateway : sequential.service.gatewayId = before.handlers.service.gatewayId :=
      congrArg (·.1) same.config
    have endpoint : sequential.service.backendEndpoint = before.handlers.service.backendEndpoint :=
      congrArg (·.2.1) same.config
    have granted : sequential.service.grant now asking =
        before.handlers.service.answer request session := by
      simp only [ProxyControlPlaneService.grant, minted, gateway, endpoint, asking,
        SessionManager.pickSessionId_hint named, ProxyControlPlaneService.answer, session.ticketed]
    change Response.openSession (sequential.service.openSession now asking).1 = _
    rw [openSession_accepted passes, granted]
  · intro key
    change (sequential.service.openSession now asking).2.lookup key = _
    rw [ProxyControlPlaneService.lookup_openSession, minted, Handlers.storeStep, Handlers.lookup_store,
      same.records]
    simp only [lands]
  · simp [effect, asked, waiting, asking]

theorem Matches.report {request : ReportGdsPutRequest} (same : before.Matches sequential)
    (step : system.step before (.report request) after) :
    ∃ exchanges next, Sequential.system.Run sequential exchanges next ∧ after.Matches next := by
  have config := config_step step
  obtain ⟨advanced, _, _⟩ := step
  obtain ⟨handlers, moved, rfl⟩ := Option.map_eq_some_iff.mp advanced
  rw [Handlers.advance, Option.some.injEq] at moved
  subst moved
  obtain ⟨order, walks⟩ := exists_walk sequential.service.sessionMgr.sessions.entries
  apply same.commit 0 (.reportGdsPut request)
    (.reportGdsPut (before.handlers.service.reportGdsPut request).1) walks config
  · have accepted : (sequential.service.reportGdsPut request).1.accepted =
        (before.handlers.service.reportGdsPut request).1.accepted := by
      rw [ProxyControlPlaneService.accepted_reportGdsPut,
        ProxyControlPlaneService.accepted_reportGdsPut, same.records]
    exact congrArg (Response.reportGdsPut ⟨·⟩) accepted
  · intro key
    change (sequential.service.reportGdsPut request).2.lookup key =
      (before.handlers.service.reportGdsPut request).2.lookup key
    rw [ProxyControlPlaneService.lookup_reportGdsPut, ProxyControlPlaneService.lookup_reportGdsPut,
      same.records]
  · simp [effect]

theorem Matches.find {order : AList fun _ : String => Session} {ticket : String}
    (same : before.Matches sequential) (step : system.step before (.find call order ticket) after) :
    ∃ exchanges next, Sequential.system.Run sequential exchanges next ∧ after.Matches next := by
  have config := config_step step
  obtain ⟨advanced, walked, _⟩ := step
  obtain ⟨handlers, moved, rfl⟩ := Option.map_eq_some_iff.mp advanced
  have walks : Walks order sequential.service.sessionMgr.sessions.entries := by
    rw [same.entries]
    exact of_decide_eq_true walked
  simp only [Handlers.advance] at moved
  split at moved
  · rename_i found
    rw [Option.some.injEq] at moved
    subst moved
    exact same.idle config (fun _ => rfl) (by simp [effect, found])
  · rename_i missing
    rw [Option.some.injEq] at moved
    subst moved
    exact same.commit 0 (.completeUpload ⟨ticket⟩) (.completeUpload (completeUpload order ⟨ticket⟩))
      walks config rfl same.records
      (by simp [effect, missing])
  · cases moved

/-- The pointer is read while the record it was taken for is in its place, and that record
is completed: the scan would find it now. -/
theorem Matches.read (same : before.Matches sequential) (pending : before.Pending)
    (tracked : before.handlers.Tracked) (step : system.step before (.read call) after) :
    ∃ exchanges next, Sequential.system.Run sequential exchanges next ∧ after.Matches next := by
  have config := config_step step
  obtain ⟨advanced, _, undisturbed⟩ := step
  obtain ⟨handlers, moved, rfl⟩ := Option.map_eq_some_iff.mp advanced
  obtain ⟨reference, held, read⟩ := Option.bind_eq_some_iff.mp moved
  obtain ⟨session, stored, rfl⟩ := Option.map_eq_some_iff.mp read
  have current : reference.instanceNumber = before.handlers.stored reference.key :=
    (undisturbed call reference rfl held).symm
  obtain ⟨found, known, done⟩ := tracked.seen held current
  rw [stored, Option.some.injEq] at known
  subst known
  obtain ⟨order, walks⟩ := exists_walk sequential.service.sessionMgr.sessions.entries
  have answered := sequential.service.completeUpload_completed walks
    ((same.records reference.key).trans stored) done
  exact same.commit 0 (.completeUpload ⟨ticketOf reference.key⟩) _ walks config
    (congrArg Response.completeUpload answered) same.records
    (by simp [effect, pending.completing held, held, stored])

theorem Matches.step (same : before.Matches sequential) (pending : before.Pending)
    (tracked : before.handlers.Tracked) (step : system.step before event after) :
    ∃ exchanges next, Sequential.system.Run sequential exchanges next ∧ after.Matches next := by
  cases event with
  | prepare call now request => exact same.prepare step
  | store call => exact same.store pending step
  | report request => exact same.report step
  | find call order ticket => exact same.find step
  | read call => exact same.read pending tracked step

theorem simulation : system.Simulation Sequential.system fun state sequential =>
    state.Matches sequential ∧ state.Pending ∧ state.handlers.Tracked where
  initial := by
    intro state initial
    obtain ⟨started, _, _, answered⟩ := initial
    have ⟨service, opening, completing, _⟩ := started
    refine ⟨⟨state.handlers.service, []⟩, ⟨service, rfl⟩, ⟨rfl, fun _ => rfl, answered.symm⟩,
      ⟨?_, ?_⟩, Handlers.tracked_invariant.initial started⟩
    · simp [opening]
    · simp [completing]
  step := by
    intro before event after sequential holds step
    obtain ⟨same, pending, tracked⟩ := holds
    obtain ⟨exchanges, next, run, matched⟩ := same.step pending tracked step
    exact ⟨exchanges, next, run, matched, pending.step step,
      Handlers.tracked_invariant.step tracked (handlers_step step)⟩

/-- While no record is stored anew between a lookup and its read, the handlers answer as their
requests handled one by one would be answered, and leave the same records.  The requests are
the same but for an `OpenSession` without a session id, which names the id it drew. -/
theorem linearizable (reachable : system.Reachable state) :
    ∃ sequential, Sequential.system.Reachable sequential ∧ sequential.answered = state.answered ∧
      ∀ key, sequential.service.lookup key = state.handlers.service.lookup key := by
  obtain ⟨sequential, reached, same, _⟩ := simulation.reachable reachable
  exact ⟨sequential, reached, same.answered, same.records⟩

def idle : Calls := ⟨Handlers.idle, fun _ => none, fun _ => none, []⟩

/-- Two `OpenSession`s that store their records in the other order than they drew their ids. -/
def crossing : List Section :=
  [.prepare 0 0 (putOpening ""), .prepare 1 0 (putOpening ""), .store 1, .store 0,
    .report (putReport "pxs-1")]

theorem crossing_linearizable : ∃ sequential, Sequential.system.Reachable sequential ∧
    sequential.answered.map (·.request) = [.openSession (putOpening "pxs-1"),
      .openSession (putOpening "pxs-0"), .reportGdsPut (putReport "pxs-1")] := by
  let outcome := System.replay advance idle crossing
  obtain ⟨state, replayed⟩ : ∃ state, outcome = some state := ⟨_, rfl⟩
  have requests : outcome.map (·.answered.map (·.request)) = some [.openSession (putOpening "pxs-1"),
      .openSession (putOpening "pxs-0"), .reportGdsPut (putReport "pxs-1")] := by decide
  rw [replayed, Option.map_some, Option.some.injEq] at requests
  have run : system.Run idle crossing state := by
    apply (System.Run.of_replay replayed).restrict_labels
    intro event member before after
    simp only [crossing, List.mem_cons, List.not_mem_nil, or_false] at member
    obtain rfl | rfl | rfl | rfl | rfl := member
    all_goals exact ⟨rfl, nofun⟩
  obtain ⟨sequential, reached, answered, _⟩ :=
    linearizable ⟨idle, crossing, ⟨⟨⟨rfl, rfl⟩, rfl, rfl, rfl, rfl, rfl⟩, rfl, rfl, rfl⟩, run⟩
  exact ⟨sequential, reached, by rw [answered, requests]⟩

end Calls

end Us3Turbo.Proxy
