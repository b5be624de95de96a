import Us3Turbo.Proxy.Retention
import Mathlib.Logic.Function.Basic

/-! # Session expiry

`CreateSession` formats a deadline into `expire_at` and nothing reads it again.
To speak about deadlines at all, a run is watched together with the time of the
last `CreateSession` of each id.
-/

namespace Us3Turbo.Proxy

open Us3Turbo.Data Us3Turbo.Proto Us3Turbo.Transition

/-- A proxy, the clock reading of its last request and the time at which each id was last opened. -/
structure Timeline where
  service : ProxyControlPlaneService
  clock : Int
  createdAt : String → Option Int

namespace Timeline

variable {line before after start : Timeline} {exchange : Exchange} {exchanges : List Exchange}
  {key : String}

def advance (line : Timeline) (exchange : Exchange) : Timeline where
  service := (line.service.handle exchange).2
  clock := exchange.now
  createdAt key :=
    if line.service.openedBy exchange = some key then some exchange.now else line.createdAt key

def timeline : System Timeline Exchange where
  initial line := proxySystem.initial line.service ∧ 0 ≤ line.service.sessionMgr.ttlSec ∧
    line.createdAt = fun _ => none
  step before exchange after := before.clock ≤ exchange.now ∧
    Walks exchange.order before.service.sessionMgr.sessions.entries ∧ before.advance exchange = after

/-- The instant `expire_at` of the record of `key` was formatted from. -/
def deadline (line : Timeline) (key : String) : Option Int :=
  (line.createdAt key).map line.service.sessionMgr.expireTime

/-- What the header and the proto promise of a report: refused without any
effect after the deadline of its session, accepted up to it. -/
def Enforced (before : Timeline) (exchange : Exchange) (after : Timeline) : Prop :=
  ∀ report deadline, exchange.request = .reportGdsPut report →
    before.deadline report.sessionId = some deadline →
    (deadline < exchange.now →
      (before.service.handle exchange).1 = .reportGdsPut ⟨false⟩ ∧
        after.service.sessionMgr = before.service.sessionMgr) ∧
    (exchange.now ≤ deadline → (before.service.handle exchange).1 = .reportGdsPut ⟨true⟩)

def InTime (before : Timeline) (exchange : Exchange) : Prop :=
  ∀ report deadline, exchange.request = .reportGdsPut report →
    before.deadline report.sessionId = some deadline → exchange.now ≤ deadline

def Recorded (line : Timeline) : Prop :=
  ∀ key time, line.createdAt key = some time → (line.service.lookup key).isSome

theorem lookup_survives (known : (line.service.lookup key).isSome) :
    ((line.advance exchange).service.lookup key).isSome := by
  simp only [advance, ProxyControlPlaneService.lookup_handle]
  cases exchange.request with
  | openSession opening =>
      simp only
      split
      · rfl
      · exact known
  | reportGdsPut report =>
      simp only
      split
      · simpa using known
      · exact known
  | completeUpload => exact known
  | abortSession => exact known
  | placeholder => exact known

theorem recorded_advance (recorded : line.Recorded) : (line.advance exchange).Recorded := by
  intro key time created
  by_cases opened : line.service.openedBy exchange = some key
  · obtain ⟨session, stored, _⟩ := line.service.status_of_openedBy opened
    exact Option.isSome_of_eq_some stored
  · have earlier : line.createdAt key = some time := by
      simpa only [advance, if_neg opened] using created
    exact lookup_survives (recorded key time earlier)

theorem recorded_invariant : timeline.Invariant Recorded where
  initial := by
    intro line initial key time created
    rw [initial.2.2] at created
    cases created
  step := by
    intro before exchange after recorded step
    obtain ⟨_, _, rfl⟩ := step
    exact recorded_advance recorded

theorem report_accepted {report : ReportGdsPutRequest} {time : Int} (recorded : line.Recorded)
    (request : exchange.request = .reportGdsPut report)
    (created : line.createdAt report.sessionId = some time) :
    (line.service.handle exchange).1 = .reportGdsPut ⟨true⟩ := by
  have known := recorded report.sessionId time created
  have accepted : (line.service.reportGdsPut report).1.accepted = true :=
    ProxyControlPlaneService.accepted_reportGdsPut.trans known
  simp only [ProxyControlPlaneService.handle, request, ← accepted]

theorem enforced_advance_iff (recorded : line.Recorded) :
    Enforced line exchange (line.advance exchange) ↔ InTime line exchange := by
  constructor
  · intro enforced report deadline request due
    by_contra late
    have refused := ((enforced report deadline request due).1 (by omega)).1
    obtain ⟨time, created, _⟩ := Option.map_eq_some_iff.mp due
    rw [report_accepted recorded request created] at refused
    cases refused
  · intro inTime report deadline request due
    have punctual := inTime report deadline request due
    obtain ⟨time, created, _⟩ := Option.map_eq_some_iff.mp due
    exact ⟨fun late => absurd late (by omega),
      fun _ => report_accepted recorded request created⟩

/-- A run keeps the promise about deadlines at every request exactly when no
report of the run comes after the deadline of its session. -/
theorem expiry_enforced_iff (initial : timeline.initial start) :
    (timeline.restrict Enforced).Run start exchanges after ↔
      (timeline.restrict fun before exchange _ => InTime before exchange).Run
        start exchanges after := by
  apply System.restrict_run_iff Recorded
  · intro before exchange after recorded step
    obtain ⟨_, _, rfl⟩ := step
    exact enforced_advance_iff recorded
  · intro before exchange after recorded step _
    exact recorded_invariant.step recorded step
  · exact recorded_invariant.initial initial

/-! ## A report after the deadline -/

/-- The proxy with the default time to live of 300 seconds, started at time zero. -/
def fresh : Timeline := ⟨defaultProxy, 0, fun _ => none⟩

theorem fresh_initial : timeline.initial fresh := ⟨⟨rfl, rfl⟩, by decide, rfl⟩

def openAt (time : Int) (order : AList fun _ : String => Session) : Exchange :=
  ⟨time, order, .openSession (putOpening "ses-1")⟩

def reportAt (time : Int) (order : AList fun _ : String => Session) : Exchange :=
  ⟨time, order, .reportGdsPut (putReport "ses-1")⟩

theorem fresh_opens {first : AList fun _ : String => Session}
    (walks : Walks first fresh.service.sessionMgr.sessions.entries) :
    timeline.step fresh (openAt 0 first) (fresh.advance (openAt 0 first)) :=
  ⟨le_refl _, walks, rfl⟩

theorem fresh_reports {time : Int} {first second : AList fun _ : String => Session} (later : 0 ≤ time)
    (walks : Walks second (fresh.advance (openAt 0 first)).service.sessionMgr.sessions.entries) :
    timeline.step (fresh.advance (openAt 0 first)) (reportAt time second)
      ((fresh.advance (openAt 0 first)).advance (reportAt time second)) :=
  ⟨later, walks, rfl⟩

theorem fresh_deadline (order : AList fun _ : String => Session) :
    (fresh.advance (openAt 0 order)).deadline "ses-1" = some 300000000000 := by
  have lands : fresh.service.openedBy (openAt 0 order) = some "ses-1" := by
    change defaultProxy.opens (putOpening "ses-1") = some "ses-1"
    decide
  have created : (fresh.advance (openAt 0 order)).createdAt "ses-1" = some 0 := by
    simp only [advance, lands, if_true]
    rfl
  simp only [deadline, created]
  rfl

/-- A report 301 seconds after the session was opened is accepted, although the
session lives for 300. -/
theorem late_report_accepted :
    ¬ ∀ (start after : Timeline) (exchanges : List Exchange), timeline.initial start →
      timeline.Run start exchanges after → (timeline.restrict Enforced).Run start exchanges after := by
  intro always
  obtain ⟨first, firstWalk⟩ := exists_walk fresh.service.sessionMgr.sessions.entries
  obtain ⟨second, secondWalk⟩ :=
    exists_walk (fresh.advance (openAt 0 first)).service.sessionMgr.sessions.entries
  have opens := fresh_opens firstWalk
  have reports := fresh_reports (show (0 : Int) ≤ 301000000000 by decide) secondWalk
  cases always _ _ _ fresh_initial (.cons opens (.single reports)) with
  | cons opened rest =>
    obtain ⟨⟨_, _, rfl⟩, _⟩ := opened
    cases rest with
    | cons reported _ =>
      obtain ⟨⟨_, _, rfl⟩, enforced⟩ := reported
      have recorded : (fresh.advance (openAt 0 first)).Recorded :=
        recorded_advance (recorded_invariant.initial fresh_initial)
      have punctual := (enforced_advance_iff recorded).mp enforced (putReport "ses-1") 300000000000
        rfl (fresh_deadline first)
      simp only [reportAt] at punctual
      omega

theorem punctual_report_enforced : ∃ first second,
    (timeline.restrict Enforced).Run fresh [openAt 0 first, reportAt 300000000000 second]
      ((fresh.advance (openAt 0 first)).advance (reportAt 300000000000 second)) := by
  obtain ⟨first, firstWalk⟩ := exists_walk fresh.service.sessionMgr.sessions.entries
  obtain ⟨second, secondWalk⟩ :=
    exists_walk (fresh.advance (openAt 0 first)).service.sessionMgr.sessions.entries
  refine ⟨first, second, (expiry_enforced_iff fresh_initial).mpr ?_⟩
  have opens := fresh_opens firstWalk
  have reports := fresh_reports (show (0 : Int) ≤ 300000000000 by decide) secondWalk
  refine .cons ⟨opens, ?_⟩ (.single ⟨reports, ?_⟩)
  · intro report deadline request
    cases request
  · intro report deadline request due
    cases request
    rw [show (putReport "ses-1").sessionId = "ses-1" from rfl, fresh_deadline,
      Option.some.injEq] at due
    rw [← due]
    rfl

end Timeline

end Us3Turbo.Proxy
