import Us3Turbo.Proxy.ControlPlaneService

/-! # What happens to a completed session

The store keeps a completed record as long as nothing writes its key.  A
`ReportGdsPut` for the session is one writer; an accepted `OpenSession` whose
session id, chosen by the client or drawn from the counter, is the key of the
record is the other, and it puts a fresh pending record there.
-/

namespace Us3Turbo.Proxy

open Us3Turbo.Data Us3Turbo.Proto Us3Turbo.Transition

variable {service before after : ProxyControlPlaneService} {exchange : Exchange}
  {key etag : String} {session : Session} {exchanges : List Exchange}

def NoReportFor (key : String) (exchange : Exchange) : Prop :=
  ∀ report, exchange.request = .reportGdsPut report → report.sessionId ≠ key

/-- The exchange is no accepted `OpenSession` that writes the record of `key`. -/
def OpensElsewhere (key : String) (before : ProxyControlPlaneService) (exchange : Exchange) : Prop :=
  before.openedBy exchange ≠ some key

/-- The record of `key` is completed with `etag`, and whatever walk `CompleteUpload` makes,
the session's ticket gets that etag. -/
structure Retained (key etag : String) (service : ProxyControlPlaneService) : Prop where
  stored : ∃ session, service.lookup key = some session ∧ session.status = .completed ∧
    session.etag = etag
  answered : ∀ order, Walks order service.sessionMgr.sessions.entries →
    completeUpload order ⟨ticketOf key⟩ = .ok ⟨etag⟩

theorem Retained.of_lookup (found : service.lookup key = some session)
    (done : session.status = .completed) (tag : session.etag = etag) :
    Retained key etag service where
  stored := ⟨session, found, done, tag⟩
  answered order walks := by
    rw [service.completeUpload_completed walks found done, tag]

theorem lookup_preserved (quiet : NoReportFor key exchange)
    (elsewhere : OpensElsewhere key service exchange) :
    (service.handle exchange).2.lookup key = service.lookup key := by
  rw [service.lookup_handle]
  cases request : exchange.request with
  | openSession opening =>
      have misses : service.opens opening ≠ some key := by
        simpa only [OpensElsewhere, ProxyControlPlaneService.openedBy, request] using elsewhere
      exact if_neg misses
  | reportGdsPut report => exact if_neg (fun same => quiet report request same.symm)
  | completeUpload => rfl
  | abortSession => rfl
  | placeholder => rfl

theorem not_retained_of_opens (lands : service.openedBy exchange = some key) :
    ¬ Retained key etag (service.handle exchange).2 := by
  intro retained
  obtain ⟨session, found, done, _⟩ := retained.stored
  obtain ⟨fresh, stored, pending⟩ := service.status_of_openedBy lands
  rw [stored, Option.some.injEq] at found
  rw [← found, pending] at done
  cases done

theorem retained_handle_iff (quiet : NoReportFor key exchange)
    (retained : Retained key etag service) :
    Retained key etag (service.handle exchange).2 ↔ OpensElsewhere key service exchange := by
  constructor
  · intro kept lands
    exact not_retained_of_opens lands kept
  · intro elsewhere
    obtain ⟨session, found, done, tag⟩ := retained.stored
    have same := lookup_preserved quiet elsewhere
    exact .of_lookup (same.trans found) done tag

def quietProxy (key : String) : System ProxyControlPlaneService Exchange :=
  proxySystem.restrict fun _ exchange _ => NoReportFor key exchange

/-- Over a run without further reports for `key`, a completed record survives
every state of the run exactly when no accepted `OpenSession` of the run lands on `key`. -/
theorem completed_put_retained_iff (found : before.lookup key = some session)
    (done : session.status = .completed) (tag : session.etag = etag) :
    ((quietProxy key).restrict fun _ _ after => Retained key etag after).Run
        before exchanges after ↔
      ((quietProxy key).restrict fun before exchange _ => OpensElsewhere key before exchange).Run
        before exchanges after := by
  apply System.restrict_run_iff (Retained key etag)
  · intro start exchange final retained step
    obtain ⟨⟨_, rfl⟩, quiet⟩ := step
    exact retained_handle_iff quiet retained
  · intro start exchange final _ _ kept
    exact kept
  · exact .of_lookup found done tag

/-! ## A re-delivered `OpenSession` -/

def putOpening (sessionId : String) : OpenSessionRequest where
  sessionId := sessionId
  bucket := "test-bucket"
  objectKey := "obj1"
  opType := "PUT"
  dataFlow := "gds-cuobject"
  expectedSize := 4

def putReport (sessionId : String) : ReportGdsPutRequest where
  sessionId := sessionId
  etag := "0000002a"
  crc32c := 42
  bytesTransferred := 4

def completedProxy : ProxyControlPlaneService :=
  ((defaultProxy.openSession 0 (putOpening "ses-1")).2.reportGdsPut (putReport "ses-1")).2

theorem completedProxy_lookup : ∃ session, completedProxy.lookup "ses-1" = some session ∧
    session.status = .completed ∧ session.etag = "0000002a" := by
  have lands : defaultProxy.opens (putOpening "ses-1") = some "ses-1" := by decide
  have stored : completedProxy.lookup "ses-1" =
      some ((defaultProxy.opened 0 (putOpening "ses-1")).complete "0000002a" 42 4) := by
    rw [completedProxy, ProxyControlPlaneService.lookup_reportGdsPut,
      ProxyControlPlaneService.lookup_openSession, if_pos lands]
    rfl
  exact ⟨_, stored, rfl, rfl⟩

theorem completedProxy_reachable : proxySystem.Reachable completedProxy := by
  have started : proxySystem.Reachable defaultProxy := .of_initial ⟨rfl, rfl⟩
  obtain ⟨_, _, opened⟩ :=
    ProxyControlPlaneService.reachable_handle started 0 (.openSession (putOpening "ses-1"))
  obtain ⟨_, _, reported⟩ :=
    ProxyControlPlaneService.reachable_handle opened 0 (.reportGdsPut (putReport "ses-1"))
  exact reported

/-- The same `OpenSession`, delivered once more after the PUT is done, erases its result. -/
theorem duplicate_open_erases :
    ¬ ∀ (before after : ProxyControlPlaneService) (key etag : String) (session : Session)
        (exchanges : List Exchange),
      proxySystem.Reachable before → before.lookup key = some session →
      session.status = .completed → session.etag = etag →
      (quietProxy key).Run before exchanges after → Retained key etag after := by
  intro never
  obtain ⟨session, found, done, tag⟩ := completedProxy_lookup
  obtain ⟨order, walks⟩ := exists_walk completedProxy.sessionMgr.sessions.entries
  let exchange : Exchange := ⟨0, order, .openSession (putOpening "ses-1")⟩
  have quiet : NoReportFor "ses-1" exchange := by
    intro report request
    cases request
  have run : (quietProxy "ses-1").Run completedProxy [exchange] (completedProxy.handle exchange).2 :=
    .single ⟨⟨walks, rfl⟩, quiet⟩
  have lands : completedProxy.opens (putOpening "ses-1") = some "ses-1" := by decide
  exact not_retained_of_opens (show completedProxy.openedBy exchange = _ from lands)
    (never _ _ _ _ _ _ completedProxy_reachable found done tag run)

theorem completed_put_survives_other_open : ∃ exchange,
    ((quietProxy "ses-1").restrict fun _ _ after => Retained "ses-1" "0000002a" after).Run
      completedProxy [exchange] (completedProxy.openSession 0 (putOpening "ses-2")).2 := by
  obtain ⟨session, found, done, tag⟩ := completedProxy_lookup
  obtain ⟨order, walks⟩ := exists_walk completedProxy.sessionMgr.sessions.entries
  refine ⟨⟨0, order, .openSession (putOpening "ses-2")⟩, ?_⟩
  apply (completed_put_retained_iff found done tag).mpr
  apply System.Run.single
  refine ⟨⟨⟨walks, rfl⟩, ?_⟩, ?_⟩
  · intro report request
    cases request
  · change completedProxy.opens (putOpening "ses-2") ≠ some "ses-1"
    decide

end Us3Turbo.Proxy
