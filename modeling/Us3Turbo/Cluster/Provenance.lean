import Us3Turbo.Cluster.Effect

/-! # Where a completed record comes from

A record names the attempt that opened it; what completes it is a report; a
report is written from one successful execution.  `Consistent` says so of every
copy on the way, in the network and in the three processes.
-/

namespace Us3Turbo.Cluster

open Us3Turbo.Data Us3Turbo.Proto Us3Turbo.Client Us3Turbo.Transition
open Us3Turbo.Backend (DataPlaneService Served reportGdsPutRequest)
open Us3Turbo.Backend.DataPlaneService (ServedBy)
open Us3Turbo.Proxy (ProxyControlPlaneService Session)

variable {before after world : World} {event : Event} {put : PutOnce} {key : String}
  {session : Session} {report : ReportGdsPutRequest}

def Named (world : World) : Prop :=
  ∀ key put, world.attempts key = some put → put.attempt.sessionId = key ∧ key ≠ ""

def OpenedBy (world : World) (key : String) (session : Session) : Prop :=
  ∃ put, world.attempts key = some put ∧ session.bucket = put.attempt.bucket ∧
    session.objectKey = put.attempt.key ∧ session.expectedSize = put.attempt.length.getD 0

/-- The report is the one of some execution that received its data. -/
def Reported (world : World) (report : ReportGdsPutRequest) : Prop :=
  ∃ id execution served, world.executions id = some execution ∧
    execution.served = some served ∧ report = reportGdsPutRequest execution.request served.outcome

def CompletedBy (world : World) (key : String) (session : Session) : Prop :=
  ∃ report, Reported world report ∧ report.sessionId = key ∧ session.etag = report.etag ∧
    session.crc32c = report.crc32c ∧ session.bytesTransferred = report.bytesTransferred

structure Consistent (world : World) : Prop where
  named : Named world
  openings : ∀ {request}, .openSession request ∈ world.network →
    ∃ put, world.attempts request.sessionId = some put ∧ request = openSessionRequest put.attempt
  servedBy : ∀ {id execution served}, world.executions id = some execution →
    execution.served = some served →
    ∃ server, ServedBy world.backend server execution.request served
  reports : ∀ {id report}, .reportGdsPut id report ∈ world.network → Reported world report
  records : ∀ {key session}, world.proxy.lookup key = some session → OpenedBy world key session
  completed : ∀ {key session}, world.proxy.lookup key = some session →
    session.status = .completed → CompletedBy world key session

/-! ## What a step keeps -/

theorem OpenedBy.effect (opened : OpenedBy before key session)
    (effect : Effect before event after) : OpenedBy after key session := by
  obtain ⟨put, known, bucket, objectKey, size⟩ := opened
  obtain ⟨next, known', continues⟩ := effect.attempts known
  rw [← continues.attempt] at bucket objectKey size
  exact ⟨next, known', bucket, objectKey, size⟩

theorem Reported.effect (reported : Reported before report) (effect : Effect before event after) :
    Reported after report := by
  obtain ⟨id, execution, served, known, brought, rfl⟩ := reported
  obtain ⟨next, known', proceeds⟩ := effect.executions known
  exact ⟨id, next, served, known', proceeds.served served brought, by rw [proceeds.request]⟩

theorem CompletedBy.effect (completed : CompletedBy before key session)
    (effect : Effect before event after) : CompletedBy after key session := by
  obtain ⟨report, reported, fields⟩ := completed
  exact ⟨report, reported.effect effect, fields⟩

theorem Named.effect (named : Named before) (effect : Effect before event after) : Named after := by
  intro key put found
  cases known : before.attempts key with
  | none => exact effect.new_attempt found known
  | some old =>
      obtain ⟨next, found', continues⟩ := effect.attempts known
      rw [found, Option.some.injEq] at found'
      rw [found', continues.attempt]
      exact named key old known

namespace Consistent

theorem openings_effect {request : OpenSessionRequest} (consistent : Consistent before)
    (effect : Effect before event after) (member : .openSession request ∈ after.network) :
    ∃ put, after.attempts request.sessionId = some put ∧
      request = openSessionRequest put.attempt := by
  rcases effect.issued member with old | new
  · obtain ⟨put, known, same⟩ := consistent.openings old
    obtain ⟨next, known', continues⟩ := effect.attempts known
    exact ⟨next, known', by rw [continues.attempt, ← same]⟩
  · cases new with
    | openSession session put known =>
        have name : (openSessionRequest put.attempt).sessionId = session :=
          (consistent.named.effect effect session put known).1
        exact ⟨put, name.symm ▸ known, rfl⟩

theorem servedBy_effect {id : Nat} {execution : Execution} {served : Served}
    (consistent : Consistent before) (effect : Effect before event after)
    (known : after.executions id = some execution) (brought : execution.served = some served) :
    ∃ server, ServedBy after.backend server execution.request served := by
  rw [effect.backend]
  rcases effect.execution_origin known with ⟨caller, _, nothing⟩ | ⟨old, known', same, origin⟩
  · rw [nothing] at brought
    cases brought
  · rw [same]
    rcases origin served brought with earlier | ⟨server, _, accepted⟩
    · exact consistent.servedBy known' earlier
    · exact ⟨server, DataPlaneService.gdsPut_ok_iff.mp accepted⟩

theorem reports_effect {id : Nat} (consistent : Consistent before)
    (effect : Effect before event after) (member : .reportGdsPut id report ∈ after.network) :
    Reported after report := by
  rcases effect.issued member with old | new
  · exact (consistent.reports old).effect effect
  · cases new with
    | reportGdsPut id execution served report known brought notification =>
        obtain ⟨server, servedBy⟩ := consistent.servedBy_effect effect known brought
        exact ⟨id, execution, served, known, brought, servedBy.report_eq notification⟩

/-- An attempt names its session, so the proxy takes that name. -/
theorem own_id {request : OpenSessionRequest} (consistent : Consistent world)
    (pending : .openSession request ∈ world.network) :
    world.proxy.sessionMgr.pickSessionId request.sessionId = request.sessionId := by
  obtain ⟨put, known, _⟩ := consistent.openings pending
  exact Proxy.SessionManager.pickSessionId_hint (consistent.named _ put known).2

theorem opened_record {request : OpenSessionRequest} {now : Int} (consistent : Consistent before)
    (pending : .openSession request ∈ before.network)
    (lands : before.proxy.opens request = some key) :
    OpenedBy before key (before.proxy.opened now request) := by
  obtain ⟨_, picked⟩ := ProxyControlPlaneService.opens_eq_some.mp lands
  rw [consistent.own_id pending] at picked
  obtain ⟨put, known, rfl⟩ := consistent.openings pending
  exact ⟨put, picked ▸ known, rfl, rfl, rfl⟩

theorem records_effect (consistent : Consistent before) (effect : Effect before event after)
    (found : after.proxy.lookup key = some session) : OpenedBy after key session := by
  suffices earlier : OpenedBy before key session from earlier.effect effect
  rcases effect.proxy with same | ⟨request, now, pending, same⟩ | ⟨id, request, pending, same⟩
  · rw [same] at found
    exact consistent.records found
  · rw [same, ProxyControlPlaneService.lookup_openSession] at found
    split at found
    · rename_i lands
      cases found
      exact consistent.opened_record pending lands
    · exact consistent.records found
  · rw [same, ProxyControlPlaneService.lookup_reportGdsPut] at found
    split at found
    · obtain ⟨old, known, rfl⟩ := Option.map_eq_some_iff.mp found
      have opened : OpenedBy before key old := consistent.records known
      exact opened
    · exact consistent.records found

theorem completed_effect (consistent : Consistent before) (effect : Effect before event after)
    (found : after.proxy.lookup key = some session) (done : session.status = .completed) :
    CompletedBy after key session := by
  suffices earlier : CompletedBy before key session from earlier.effect effect
  rcases effect.proxy with same | ⟨request, now, pending, same⟩ | ⟨id, request, pending, same⟩
  · rw [same] at found
    exact consistent.completed found done
  · rw [same, ProxyControlPlaneService.lookup_openSession] at found
    split at found
    · cases found
      cases done
    · exact consistent.completed found done
  · rw [same, ProxyControlPlaneService.lookup_reportGdsPut] at found
    split at found
    · rename_i name
      obtain ⟨old, known, rfl⟩ := Option.map_eq_some_iff.mp found
      exact ⟨request, consistent.reports pending, name.symm, rfl, rfl, rfl⟩
    · exact consistent.completed found done

theorem effect (consistent : Consistent before) (effect : Effect before event after) :
    Consistent after where
  named := consistent.named.effect effect
  openings := consistent.openings_effect effect
  servedBy := consistent.servedBy_effect effect
  reports := consistent.reports_effect effect
  records := consistent.records_effect effect
  completed := consistent.completed_effect effect

end Consistent

theorem consistent_invariant : World.system.Invariant Consistent where
  initial initial := {
    named := fun _ _ found => absurd found (initial_attempts initial)
    openings := fun member => absurd member (initial_network initial)
    servedBy := fun found => absurd found (initial_executions initial)
    reports := fun member => absurd member (initial_network initial)
    records := fun found => by simp [initial_lookup initial] at found
    completed := fun found => by simp [initial_lookup initial] at found }
  step consistent step := consistent.effect (advance_effect step)

/-! ## Where a `GdsPut` comes from -/

/-- The request names what its attempt names, and carries a token the attempt holds. -/
def SentBy (world : World) (request : GdsChunkRequest) : Prop :=
  ∃ put, world.attempts request.sessionId = some put ∧ request.bucket = put.attempt.bucket ∧
    request.objectKey = put.attempt.key ∧ put.token.isSome = true

/-- Every `GdsPut`, under way or begun, comes from an attempt. -/
structure Attributed (world : World) : Prop where
  named : Named world
  puts : ∀ {caller request}, .gdsPut caller request ∈ world.network → SentBy world request
  executions : ∀ {id execution}, world.executions id = some execution →
    SentBy world execution.request

theorem SentBy.effect {request : GdsChunkRequest} (sentBy : SentBy before request)
    (effect : Effect before event after) : SentBy after request := by
  obtain ⟨put, known, bucket, objectKey, held⟩ := sentBy
  obtain ⟨next, known', continues⟩ := effect.attempts known
  rw [← continues.attempt] at bucket objectKey
  exact ⟨next, known', bucket, objectKey, continues.token held⟩

theorem Attributed.effect (attributed : Attributed before) (effect : Effect before event after)
    (own : event.own = true) : Attributed after := by
  have named : Named after := attributed.named.effect effect
  have fresh : ∀ {caller request}, Issued event after (.gdsPut caller request) →
      SentBy after request := by
    intro caller request new
    cases new with
    | gdsPut session put token known held =>
        have name : (gdsChunkRequest put.attempt put.grant token put.buffer.size).sessionId =
            session := (named session put known).1
        exact ⟨put, name.symm ▸ known, rfl, rfl, by rw [held]; rfl⟩
    | otherGdsPut request other =>
        rw [other] at own
        cases own
  obtain ⟨puts, executions⟩ := effect.requests SentBy (fun sentBy => sentBy.effect effect) fresh
    attributed.puts attributed.executions
  exact ⟨named, puts, executions⟩

theorem attributed_invariant : World.ownPuts.Invariant Attributed where
  initial initial := {
    named := fun _ _ found => absurd found (initial_attempts initial)
    puts := fun member => absurd member (initial_network initial)
    executions := fun found => absurd found (initial_executions initial) }
  step attributed step := attributed.effect (advance_effect step.1) step.2

/-- Every completed record shows the result of one successful execution of `GdsPut`
for its session and object, and of one only. -/
theorem completed_session_has_execution (reachable : World.ownPuts.Reachable world)
    (found : world.proxy.lookup key = some session) (done : session.status = .completed) :
    ∃ id execution served server, world.executions id = some execution ∧
      execution.served = some served ∧
      served.outcome = world.backend.receive server execution.request ∧
      served.outcome.ok = true ∧
      execution.request.sessionId = key ∧
      execution.request.bucket = session.bucket ∧
      execution.request.objectKey = session.objectKey ∧
      served.outcome.crc32c = session.crc32c ∧
      served.outcome.bytesTransferred = session.bytesTransferred ∧
      IsLowerHex 8 session.crc32c.toNat session.etag := by
  have consistent := consistent_invariant.reachable reachable.of_restrict
  have attributed := attributed_invariant.reachable reachable
  obtain ⟨report, reported, name, etag, crc32c, bytes⟩ := consistent.completed found done
  obtain ⟨id, execution, served, known, brought, rfl⟩ := reported
  obtain ⟨server, servedBy⟩ := consistent.servedBy known brought
  obtain ⟨put, opened, bucket, objectKey, _⟩ := consistent.records found
  obtain ⟨sender, sent, bucket', objectKey', _⟩ := attributed.executions known
  have session_ : execution.request.sessionId = key := name
  rw [session_, opened, Option.some.injEq] at sent
  subst sent
  refine ⟨id, execution, served, server, known, brought, servedBy.outcome, servedBy.received,
    session_, bucket'.trans bucket.symm, objectKey'.trans objectKey.symm, crc32c.symm, bytes.symm,
    ?_⟩
  rw [etag, crc32c]
  exact Backend.isLowerHex_buildEtag _

/-! ## A PUT of four bytes -/

def worldAfter (events : List Event) : World :=
  (System.replay World.advance { proxy := Proxy.defaultProxy } events).getD
    { proxy := Proxy.defaultProxy }

theorem started_initial : World.system.initial { proxy := Proxy.defaultProxy } :=
  ⟨⟨rfl, rfl⟩, rfl, rfl, rfl⟩

theorem worldAfter_run {events : List Event}
    (possible : (System.replay World.advance { proxy := Proxy.defaultProxy } events).isSome = true) :
    World.system.Run { proxy := Proxy.defaultProxy } events (worldAfter events) := by
  obtain ⟨world, replayed⟩ := Option.isSome_iff_exists.mp possible
  have here : worldAfter events = world := by rw [worldAfter, replayed, Option.getD_some]
  rw [here]
  exact System.Run.of_replay replayed

theorem worldAfter_reachable {events : List Event}
    (possible : (System.replay World.advance { proxy := Proxy.defaultProxy } events).isSome = true)
    (own : events.all Event.own = true) : World.ownPuts.Reachable (worldAfter events) := by
  have run := worldAfter_run possible
  exact ⟨_, events, started_initial, run.restrict_labels fun event member _ _ =>
    List.all_eq_true.mp own event member⟩

def fourBytes : Backend.Server where
  available := true
  lease := true
  channel := true
  handlePutObject _ := { transferred := 4, memory := [1, 2, 3, 4], status := "success" }

def sessionTwo : String := "ses-0000000000000002"

/-- A PUT of four bytes up to the moment at which the proxy has handled the report. -/
def putEvents (expectedSize : UInt64) : List Event := [
  .start {} { bucket := "bucket", key := "object", expectedSize := some expectedSize }
    { data := 4096, size := 4 } {} 1 2,
  .deliver 0 0 0,
  .deliver 0 0 0,
  .acquired sessionTwo {} ⟨true, true, some "1000:42"⟩,
  .deliver 0 0 0,
  .receive 0 fourBytes,
  .deliver 0 0 0]

theorem put_completes : ∃ session,
    (worldAfter (putEvents 4)).proxy.lookup sessionTwo = some session ∧
      session.status = .completed := by
  have status : ((worldAfter (putEvents 4)).proxy.lookup sessionTwo).map (·.status) =
      some .completed := by decide
  exact Option.map_eq_some_iff.mp status

theorem completed_put_has_execution : ∃ id execution served,
    (worldAfter (putEvents 4)).executions id = some execution ∧ execution.served = some served ∧
      served.outcome.ok = true ∧ execution.request.sessionId = sessionTwo := by
  obtain ⟨session, found, done⟩ := put_completes
  obtain ⟨id, execution, served, _, known, brought, _, received, name, _⟩ :=
    completed_session_has_execution (worldAfter_reachable (by decide) (by decide)) found done
  exact ⟨id, execution, served, known, brought, received, name⟩

end Us3Turbo.Cluster
