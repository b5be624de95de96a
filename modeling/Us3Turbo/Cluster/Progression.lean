import Us3Turbo.Cluster.AtMostOnce

/-! # Sessions only move forward

Where no message arrives twice, a session is opened once and one execution
reports on it.  Its record is then never lost and is written once more at most.
-/

namespace Us3Turbo.Cluster

open Us3Turbo.Data Us3Turbo.Proto Us3Turbo.Client Us3Turbo.Transition
open Us3Turbo.Proxy (ProxyControlPlaneService Session completeUpload ticketOf)

variable {before after world later : World} {event : Event} {events : List Event} {key : String}
  {record next last : Session} {report : ReportGdsPutRequest}

/-- What a record may become: itself, or an unfinished one completed. -/
inductive Advances (record : Session) : Session → Prop where
  | same : Advances record record
  | completed (etag : String) (crc32c : UInt32) (bytesTransferred : UInt64)
      (unfinished : record.status ≠ .completed) :
      Advances record (record.complete etag crc32c bytesTransferred)

theorem Advances.trans (first : Advances record next) (second : Advances next last) :
    Advances record last := by
  cases second with
  | same => exact first
  | completed etag crc32c bytesTransferred unfinished =>
      cases first with
      | same => exact .completed etag crc32c bytesTransferred unfinished
      | completed => exact absurd rfl unfinished

theorem Advances.of_completed (advances : Advances record next) (done : record.status = .completed) :
    next = record := by
  cases advances with
  | same => rfl
  | completed _ _ _ unfinished => exact absurd done unfinished

/-- The runs in which every `GdsPut` is an attempt's own and no message arrives twice. -/
def World.atMostOnce : System World Event :=
  World.system.restrict fun _ event _ => event.own = true ∧ event.once = true

structure Steady (world : World) : Prop where
  consistent : Consistent world
  attributed : Attributed world
  orderly : Orderly world

theorem steady_invariant : World.atMostOnce.Invariant Steady where
  initial initial :=
    { consistent := consistent_invariant.initial initial
      attributed := attributed_invariant.initial initial
      orderly := orderly_initial initial }
  step := by
    intro before event after steady step
    obtain ⟨advanced, own, once⟩ := step
    have passage := advance_passage advanced
    exact
      { consistent := steady.consistent.effect passage.effect
        attributed := steady.attributed.effect passage.effect own
        orderly := steady.orderly.passage steady.consistent steady.attributed passage own once }

namespace Steady

variable (steady : Steady before)
include steady

/-- A session that is on record has no `OpenSession` under way. -/
theorem not_reopened {request : OpenSessionRequest} (pending : .openSession request ∈ before.network)
    (found : before.proxy.lookup key = some record) : before.proxy.opens request ≠ some key := by
  intro opens
  obtain ⟨_, picked⟩ := ProxyControlPlaneService.opens_eq_some.mp opens
  rw [steady.consistent.own_id pending] at picked
  have absent := steady.orderly.unopened pending
  rw [picked, found] at absent
  cases absent

/-- Two reports on one session come from the same execution, and say the same. -/
theorem reports_agree {other : ReportGdsPutRequest} (reported : Reported before report)
    (reported' : Reported before other) (same : report.sessionId = other.sessionId) :
    report = other := by
  obtain ⟨id, execution, served, known, brought, rfl⟩ := reported
  obtain ⟨id', execution', served', known', brought', rfl⟩ := reported'
  have one : id = id' := steady.orderly.single known known' same
  subst one
  rw [known, Option.some.injEq] at known'
  subst known'
  rw [brought, Option.some.injEq] at brought'
  rw [brought']

theorem report_repeats {id : Nat} (pending : .reportGdsPut id report ∈ before.network)
    (found : before.proxy.lookup report.sessionId = some record) (done : record.status = .completed) :
    record.complete report.etag report.crc32c report.bytesTransferred = record := by
  obtain ⟨other, reported, name, etag, crc32c, bytesTransferred⟩ :=
    steady.consistent.completed found done
  rw [← steady.reports_agree reported (steady.consistent.reports pending) name, ← etag, ← crc32c,
    ← bytesTransferred, Session.complete, ← done]

theorem record_effect (effect : Effect before event after)
    (found : before.proxy.lookup key = some record) :
    ∃ next, after.proxy.lookup key = some next ∧ Advances record next := by
  rcases effect.proxy with same | ⟨request, now, pending, same⟩ | ⟨id, report, pending, same⟩
  · rw [same]
    exact ⟨record, found, .same⟩
  · rw [same, ProxyControlPlaneService.lookup_openSession,
      if_neg (steady.not_reopened pending found)]
    exact ⟨record, found, .same⟩
  · rw [same, ProxyControlPlaneService.lookup_reportGdsPut, found]
    split
    · rename_i name
      refine ⟨record.complete report.etag report.crc32c report.bytesTransferred, rfl, ?_⟩
      by_cases done : record.status = .completed
      · rw [steady.report_repeats pending (name ▸ found) done]
        exact .same
      · exact .completed _ _ _ done
    · exact ⟨record, rfl, .same⟩

theorem record_run (run : World.atMostOnce.Run before events later)
    (found : before.proxy.lookup key = some record) :
    ∃ next, later.proxy.lookup key = some next ∧ Advances record next := by
  induction run generalizing record with
  | nil => exact ⟨record, found, .same⟩
  | cons head _ ih =>
      obtain ⟨next, found', first⟩ := steady.record_effect (advance_effect head.1) found
      obtain ⟨last, found'', second⟩ := ih (steady_invariant.step steady head) found'
      exact ⟨last, found'', first.trans second⟩

end Steady

/-- A session stays on record, its record changes at most once, when it is completed, and
the etag it is completed with is what its ticket gets from then on. -/
theorem session_progresses (reachable : World.atMostOnce.Reachable world)
    (run : World.atMostOnce.Run world events later) (found : world.proxy.lookup key = some record) :
    (∃ next, later.proxy.lookup key = some next ∧ Advances record next) ∧
      (record.status = .completed →
        ∀ order, Walks order later.proxy.sessionMgr.sessions.entries →
          completeUpload order ⟨ticketOf key⟩ = .ok ⟨record.etag⟩) := by
  have steady := steady_invariant.reachable reachable
  obtain ⟨next, found', advances⟩ := steady.record_run run found
  refine ⟨⟨next, found', advances⟩, fun done order walks => ?_⟩
  rw [advances.of_completed done] at found'
  exact ProxyControlPlaneService.completeUpload_completed walks found' done

/-! ## A PUT of four bytes, from its opening to its completion -/

theorem worldAfter_atMostOnce {events : List Event}
    (possible : (System.replay World.advance { proxy := Proxy.defaultProxy } events).isSome = true)
    (admitted : events.all (fun event => event.own && event.once) = true) :
    World.atMostOnce.Reachable (worldAfter events) :=
  ⟨_, events, started_initial, (worldAfter_run possible).restrict_labels fun event member _ _ =>
    Bool.and_eq_true_iff.mp (List.all_eq_true.mp admitted event member)⟩

theorem opened_put_progresses : ∃ (opened later : World) (record next : Session),
    World.atMostOnce.Reachable opened ∧ opened.proxy.lookup sessionTwo = some record ∧
      record.status = .pending ∧ later.proxy.lookup sessionTwo = some next ∧
      next.status = .completed ∧ Advances record next := by
  have status : ((worldAfter ((putEvents 4).take 2)).proxy.lookup sessionTwo).map (·.status) =
      some .pending := by decide
  have done : ((System.replay World.advance (worldAfter ((putEvents 4).take 2))
      ((putEvents 4).drop 2)).bind fun world => (world.proxy.lookup sessionTwo).map (·.status)) =
      some .completed := by decide
  have admitted : ((putEvents 4).drop 2).all (fun event => event.own && event.once) = true := by decide
  obtain ⟨record, found, pending⟩ := Option.map_eq_some_iff.mp status
  obtain ⟨later, replayed, completed⟩ := Option.bind_eq_some_iff.mp done
  have reachable : World.atMostOnce.Reachable (worldAfter ((putEvents 4).take 2)) :=
    worldAfter_atMostOnce (by decide) (by decide)
  have run : World.system.Run (worldAfter ((putEvents 4).take 2)) ((putEvents 4).drop 2) later :=
    System.Run.of_replay replayed
  obtain ⟨⟨next, found', advances⟩, _⟩ := session_progresses reachable
    (run.restrict_labels fun event member _ _ =>
      Bool.and_eq_true_iff.mp (List.all_eq_true.mp admitted event member)) found
  rw [found', Option.map_some, Option.some.injEq] at completed
  exact ⟨_, later, record, next, reachable, found, pending, found', completed, advances⟩

end Us3Turbo.Cluster
