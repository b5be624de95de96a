import Us3Turbo.Proxy.Retention
import Mathlib.Logic.Function.Basic

/-! # `CompleteUpload` in two steps

`GetCompletedSession` returns a pointer into the map after its lock is gone, and
the handler reads the etag through it later.  Here the handlers run side by side,
one locked section (or the unlocked read) a step, and the store remembers which
`OpenSession` wrote each record last and what was reported for it.
-/

namespace Us3Turbo.Proxy

open Us3Turbo.Data Us3Turbo.Proto Us3Turbo.Transition

/-! ## Handlers cut at their locks -/

/-- `OpenSession` up to the lock of `CreateSession`: the checks, the id and the record to store. -/
def ProxyControlPlaneService.prepare (service : ProxyControlPlaneService) (now : Int)
    (request : OpenSessionRequest) : Option (Session × ProxyControlPlaneService) :=
  if openSessionError request = none then
    some (service.opened now request, { service with sessionMgr := { service.sessionMgr with
      seq := if request.sessionId ≠ "" then service.sessionMgr.seq else service.sessionMgr.seq + 1 } })
  else none

def ProxyControlPlaneService.store (service : ProxyControlPlaneService) (session : Session) :
    ProxyControlPlaneService :=
  { service with sessionMgr := { service.sessionMgr with
      sessions := service.sessionMgr.sessions.assign session } }

/-- A pointer to the record of `key`, with the number of records stored there when it was taken. -/
structure Reference where
  key : String
  instanceNumber : Nat
deriving DecidableEq, Repr

structure Handlers where
  service : ProxyControlPlaneService
  /-- `OpenSession`s that have yet to store their record. -/
  opening : Nat → Option Session
  /-- `CompleteUpload`s that have yet to read through their pointer. -/
  completing : Nat → Option Reference
  /-- What the successful `CompleteUpload`s answered, latest first. -/
  answers : List (Reference × String)
  stored : String → Nat
  reported : String → Nat → List String

inductive Section where
  | prepare (call : Nat) (now : Int) (request : OpenSessionRequest)
  | store (call : Nat)
  | report (request : ReportGdsPutRequest)
  | find (call : Nat) (order : AList fun _ : String => Session) (ticket : String)
  | read (call : Nat)

namespace Handlers

variable {state before after start : Handlers} {event : Section} {events : List Section} {key : String}
  {session : Session} {reference : Reference} {call : Nat}

def reportStep (state : Handlers) (request : ReportGdsPutRequest) : Handlers :=
  let outcome := state.service.reportGdsPut request
  { state with
    service := outcome.2
    reported := fun key number =>
      if outcome.1.accepted ∧ key = request.sessionId ∧ number = state.stored key then
        request.etag :: state.reported key number
      else state.reported key number }

def prepareStep (state : Handlers) (call : Nat) (session : Session)
    (service : ProxyControlPlaneService) : Handlers :=
  { state with service, opening := Function.update state.opening call (some session) }

def storeStep (state : Handlers) (call : Nat) (session : Session) : Handlers :=
  { state with
    service := state.service.store session
    opening := Function.update state.opening call none
    stored := Function.update state.stored session.sessionId (state.stored session.sessionId + 1) }

def findStep (state : Handlers) (call : Nat) (session : Session) : Handlers :=
  { state with
    completing := Function.update state.completing call
      (some ⟨session.sessionId, state.stored session.sessionId⟩) }

def readStep (state : Handlers) (call : Nat) (reference : Reference) (session : Session) : Handlers :=
  { state with
    completing := Function.update state.completing call none
    answers := (reference, session.etag) :: state.answers }

/-- A rejected `OpenSession` and a `CompleteUpload` that finds nothing are over at once. -/
def advance (state : Handlers) : Section → Option Handlers
  | .prepare call now request =>
      match state.opening call, state.service.prepare now request with
      | none, some (session, service) =>
          some (state.prepareStep call session service)
      | none, none => some state
      | some _, _ => none
  | .store call => (state.opening call).map (state.storeStep call)
  | .report request => some (state.reportStep request)
  | .find call order ticket =>
      match state.completing call, getCompletedSession order ticket with
      | none, some session => some (state.findStep call session)
      | none, none => some state
      | some _, _ => none
  | .read call =>
      (state.completing call).bind fun reference =>
        (state.service.lookup reference.key).map (state.readStep call reference)

/-- A scan walks the store as it is during the scan. -/
def walked (state : Handlers) : Section → Bool
  | .find _ order _ => Walks order state.service.sessionMgr.sessions.entries
  | _ => true

def initial (state : Handlers) : Prop :=
  proxySystem.initial state.service ∧ state.opening = (fun _ => none) ∧
    state.completing = (fun _ => none) ∧ state.answers = [] ∧ state.stored = (fun _ => 0) ∧
    state.reported = fun _ _ => []

def system : System Handlers Section :=
  (System.ofAdvance initial advance).restrict fun state event _ => state.walked event = true

/-! ## Sections run back to back are the handlers -/

theorem prepare_store (service : ProxyControlPlaneService) (now : Int) (request : OpenSessionRequest) :
    (service.openSession now request).2 =
      match service.prepare now request with
      | some (session, prepared) => prepared.store session
      | none => service := by
  cases checked : openSessionError request with
  | some error => simp [ProxyControlPlaneService.openSession, ProxyControlPlaneService.prepare, checked]
  | none =>
      simp only [ProxyControlPlaneService.openSession, ProxyControlPlaneService.prepare, checked,
        if_true]
      rfl

theorem found_session {order : AList fun _ : String => Session} {ticket : String}
    (walks : Walks order state.service.sessionMgr.sessions.entries)
    (found : getCompletedSession order ticket = some session) :
    state.service.lookup session.sessionId = some session ∧ session.status = .completed := by
  obtain ⟨key, stored, accepted⟩ := walks.scan_sound found
  simp only [Bool.and_eq_true, beq_iff_eq] at accepted
  have named : session.sessionId = key := SessionTable.lookup_keyed stored
  exact ⟨named ▸ stored, accepted.2⟩

theorem find_read {order : AList fun _ : String => Session} {ticket : String}
    (walks : Walks order state.service.sessionMgr.sessions.entries)
    (found : getCompletedSession order ticket = some session) :
    completeUpload order ⟨ticket⟩ = .ok ⟨session.etag⟩ ∧
      (state.findStep call session).advance (.read call) = some ((state.findStep call session).readStep
        call ⟨session.sessionId, state.stored session.sessionId⟩ session) := by
  have stored := (found_session walks found).1
  refine ⟨by simp only [completeUpload, found], ?_⟩
  simp only [advance, findStep, Function.update_self, Option.bind_some, stored, Option.map_some]

theorem step_cases (step : system.step before event after) :
    after = before ∨
    (∃ call now request session service, before.service.prepare now request = some (session, service) ∧
      after = before.prepareStep call session service) ∨
    (∃ call session, before.opening call = some session ∧ after = before.storeStep call session) ∨
    (∃ request, after = before.reportStep request) ∨
    (∃ call session, before.service.lookup session.sessionId = some session ∧
      session.status = .completed ∧ after = before.findStep call session) ∨
    (∃ call reference session, event = .read call ∧ before.completing call = some reference ∧
      before.service.lookup reference.key = some session ∧
      after = before.readStep call reference session) := by
  obtain ⟨advanced, walked⟩ := step
  change before.advance event = some after at advanced
  cases event with
  | prepare call now request =>
      simp only [advance] at advanced
      split at advanced
      · rename_i session service _ prepared
        rw [Option.some.injEq] at advanced
        exact .inr (.inl ⟨call, now, request, session, service, prepared, advanced.symm⟩)
      · rw [Option.some.injEq] at advanced
        exact .inl advanced.symm
      · cases advanced
  | store call =>
      obtain ⟨session, waiting, rfl⟩ := Option.map_eq_some_iff.mp advanced
      exact .inr (.inr (.inl ⟨call, session, waiting, rfl⟩))
  | report request =>
      rw [advance, Option.some.injEq] at advanced
      exact .inr (.inr (.inr (.inl ⟨request, advanced.symm⟩)))
  | find call order ticket =>
      simp only [advance] at advanced
      split at advanced
      · rename_i session _ found
        obtain ⟨stored, done⟩ := found_session (of_decide_eq_true walked) found
        rw [Option.some.injEq] at advanced
        exact .inr (.inr (.inr (.inr (.inl ⟨call, session, stored, done, advanced.symm⟩))))
      · rw [Option.some.injEq] at advanced
        exact .inl advanced.symm
      · cases advanced
  | read call =>
      obtain ⟨reference, held, read⟩ := Option.bind_eq_some_iff.mp advanced
      obtain ⟨session, stored, rfl⟩ := Option.map_eq_some_iff.mp read
      exact .inr (.inr (.inr (.inr (.inr ⟨call, reference, session, rfl, held, stored, rfl⟩))))

/-! ## What the pointers may show -/

/-- Every answer is an etag that was reported for the record the lookup saw, as
the `OpenSession` before the lookup had stored it. -/
def Consistent (state : Handlers) : Prop :=
  ∀ reference etag, (reference, etag) ∈ state.answers →
    etag ∈ state.reported reference.key reference.instanceNumber

/-- No `OpenSession` has stored a record of the key between a lookup and its read. -/
def Undisturbed (before : Handlers) (event : Section) (_ : Handlers) : Prop :=
  ∀ call reference, event = .read call → before.completing call = some reference →
    before.stored reference.key = reference.instanceNumber

structure Tracked (state : Handlers) : Prop where
  fresh : ∀ {call session}, state.opening call = some session → session.status = .pending
  tagged : ∀ {key session}, state.service.lookup key = some session → session.status = .completed →
    session.etag ∈ state.reported key (state.stored key)
  past : ∀ {call reference}, state.completing call = some reference →
    reference.instanceNumber ≤ state.stored reference.key
  seen : ∀ {call reference}, state.completing call = some reference →
    reference.instanceNumber = state.stored reference.key →
    ∃ session, state.service.lookup reference.key = some session ∧ session.status = .completed

theorem lookup_store (service : ProxyControlPlaneService) :
    (service.store session).lookup key =
      if key = session.sessionId then some session else service.lookup key :=
  SessionTable.lookup_assign

theorem reported_grows {request : ReportGdsPutRequest} {number : Nat} {etag : String}
    (known : etag ∈ state.reported key number) :
    etag ∈ (state.reportStep request).reported key number := by
  simp only [reportStep]
  split
  · exact List.mem_cons_of_mem _ known
  · exact known

theorem Tracked.prepareStep (tracked : state.Tracked) {now : Int} {request : OpenSessionRequest}
    {service : ProxyControlPlaneService}
    (prepared : state.service.prepare now request = some (session, service)) :
    (state.prepareStep call session service).Tracked := by
  rw [ProxyControlPlaneService.prepare] at prepared
  split at prepared
  · rw [Option.some.injEq, Prod.mk.injEq] at prepared
    obtain ⟨rfl, rfl⟩ := prepared
    refine ⟨?_, tracked.tagged, tracked.past, tracked.seen⟩
    intro other pending waiting
    simp only [Handlers.prepareStep, Function.update_apply] at waiting
    split at waiting
    · rw [Option.some.injEq] at waiting
      rw [← waiting]
      rfl
    · exact tracked.fresh waiting
  · cases prepared

theorem Tracked.storeStep (tracked : state.Tracked) (waiting : state.opening call = some session) :
    (state.storeStep call session).Tracked := by
  have pending := tracked.fresh waiting
  refine ⟨?_, ?_, ?_, ?_⟩
  · intro other fresh opened
    simp only [Handlers.storeStep, Function.update_apply] at opened
    split at opened
    · cases opened
    · exact tracked.fresh opened
  · intro key stored found done
    simp only [Handlers.storeStep, lookup_store] at found
    split at found
    · rw [Option.some.injEq] at found
      rw [← found, pending] at done
      cases done
    · rename_i other
      simpa only [Handlers.storeStep, Function.update_of_ne other] using tracked.tagged found done
  · intro other reference held
    have bound := tracked.past held
    simp only [Handlers.storeStep, Function.update_apply]
    split
    · rename_i same
      rw [← same]
      omega
    · exact bound
  · intro other reference held current
    have bound := tracked.past held
    simp only [Handlers.storeStep, Function.update_apply] at current
    split at current
    · rename_i same
      rw [← same] at current
      omega
    · rename_i elsewhere
      simpa only [Handlers.storeStep, lookup_store, if_neg elsewhere] using tracked.seen held current

theorem Tracked.reportStep (tracked : state.Tracked) (request : ReportGdsPutRequest) :
    (state.reportStep request).Tracked := by
  have lookup : ∀ key, (state.reportStep request).service.lookup key =
      if key = request.sessionId then (state.service.lookup key).map fun session =>
        session.complete request.etag request.crc32c request.bytesTransferred
      else state.service.lookup key :=
    fun key => ProxyControlPlaneService.lookup_reportGdsPut
  refine ⟨tracked.fresh, ?_, tracked.past, ?_⟩
  · intro key session found done
    rw [lookup] at found
    split at found
    · rename_i same
      obtain ⟨earlier, stored, rfl⟩ := Option.map_eq_some_iff.mp found
      have accepted : (state.service.reportGdsPut request).1.accepted = true := by
        rw [ProxyControlPlaneService.accepted_reportGdsPut, ← same, stored]
        rfl
      simp [Handlers.reportStep, accepted, same, Session.complete]
    · exact reported_grows (tracked.tagged found done)
  · intro other reference held current
    obtain ⟨session, stored, done⟩ := tracked.seen held current
    rw [lookup, stored]
    split
    · exact ⟨_, rfl, rfl⟩
    · exact ⟨_, rfl, done⟩

theorem Tracked.findStep (tracked : state.Tracked)
    (stored : state.service.lookup session.sessionId = some session)
    (done : session.status = .completed) : (state.findStep call session).Tracked := by
  refine ⟨tracked.fresh, tracked.tagged, ?_, ?_⟩
  · intro other reference held
    simp only [Handlers.findStep, Function.update_apply] at held
    split at held
    · rw [Option.some.injEq] at held
      rw [← held]
      rfl
    · exact tracked.past held
  · intro other reference held current
    simp only [Handlers.findStep, Function.update_apply] at held
    split at held
    · rw [Option.some.injEq] at held
      rw [← held]
      exact ⟨session, stored, done⟩
    · exact tracked.seen held current

theorem Tracked.readStep (tracked : state.Tracked) :
    (state.readStep call reference session).Tracked := by
  have earlier : ∀ {other held}, (state.readStep call reference session).completing other = some held →
      state.completing other = some held := by
    intro other held waiting
    simp only [Handlers.readStep, Function.update_apply] at waiting
    split at waiting
    · cases waiting
    · exact waiting
  exact ⟨tracked.fresh, tracked.tagged, fun held => tracked.past (earlier held),
    fun held => tracked.seen (earlier held)⟩

theorem tracked_invariant : system.Invariant Tracked where
  initial := by
    intro state initial
    obtain ⟨started, opening, completing, _, _, _⟩ := initial
    have blank : ∀ key, state.service.lookup key = none := by
      intro key
      rw [ProxyControlPlaneService.lookup, started.2, SessionTable.lookup_empty]
    refine ⟨?_, ?_, ?_, ?_⟩
    · simp [opening]
    · simp [blank]
    · simp [completing]
    · simp [completing]
  step := by
    intro before event after tracked step
    obtain rfl | ⟨call, now, request, session, service, prepared, rfl⟩ |
      ⟨call, session, waiting, rfl⟩ | ⟨request, rfl⟩ | ⟨call, session, stored, done, rfl⟩ |
      ⟨call, reference, session, _, _, _, rfl⟩ := step_cases step
    · exact tracked
    · exact tracked.prepareStep prepared
    · exact tracked.storeStep waiting
    · exact tracked.reportStep request
    · exact tracked.findStep stored done
    · exact tracked.readStep

theorem consistent_step (tracked : before.Tracked) (consistent : before.Consistent)
    (step : system.step before event after) (undisturbed : Undisturbed before event after) :
    after.Consistent := by
  obtain rfl | ⟨call, now, request, session, service, _, rfl⟩ | ⟨call, session, _, rfl⟩ |
    ⟨request, rfl⟩ | ⟨call, session, _, _, rfl⟩ | ⟨call, reference, session, event, held, stored, rfl⟩ :=
    step_cases step
  · exact consistent
  · exact consistent
  · exact consistent
  · intro reference etag answered
    exact reported_grows (consistent reference etag answered)
  · exact consistent
  · have current : reference.instanceNumber = before.stored reference.key :=
      (undisturbed call reference event held).symm
    obtain ⟨found, lookup, done⟩ := tracked.seen held current
    rw [stored, Option.some.injEq] at lookup
    have tagged := tracked.tagged stored (lookup ▸ done)
    intro seen etag answered
    simp only [readStep, List.mem_cons, Prod.mk.injEq] at answered
    obtain ⟨rfl, rfl⟩ | earlier := answered
    · rw [← current] at tagged
      exact tagged
    · exact consistent seen etag earlier

/-- When no record is stored anew between a lookup and its read, every answer is
an etag reported for the session instance that the lookup saw. -/
theorem completeUpload_consistent (reachable : (system.restrict Undisturbed).Reachable state) :
    state.Consistent := by
  have invariant : (system.restrict Undisturbed).Invariant fun state =>
      state.Tracked ∧ state.Consistent := {
    initial := by
      intro state initial
      refine ⟨tracked_invariant.initial initial, ?_⟩
      intro reference etag answered
      rw [initial.2.2.2.1] at answered
      cases answered
    step := by
      intro before event after holds step
      exact ⟨tracked_invariant.step holds.1 step.1, consistent_step holds.1 holds.2 step.1 step.2⟩ }
  exact (invariant.reachable reachable).2

/-! ## A session re-opened between the lookup and the read -/

def idle : Handlers where
  service := defaultProxy
  opening := fun _ => none
  completing := fun _ => none
  answers := []
  stored := fun _ => 0
  reported := fun _ _ => []

theorem idle_initial : system.initial idle := ⟨⟨rfl, rfl⟩, rfl, rfl, rfl, rfl, rfl⟩

def finished : Session := (defaultProxy.opened 0 (putOpening "ses-1")).complete "0000002a" 42 4

def walk : AList fun _ : String => Session :=
  (∅ : AList fun _ : String => Session).insert "ses-1" finished

def put : List Section :=
  [.prepare 0 0 (putOpening "ses-1"), .store 0, .report (putReport "ses-1"), .find 0 walk "tkt-ses-1"]

def reopening : List Section := [.prepare 1 0 (putOpening "ses-1"), .store 1]

/-- The session is opened again after a `CompleteUpload` has found its record; the read
then sees the empty etag of the new record. -/
theorem reopened_session_read_empty : ¬ ∀ state, system.Reachable state → state.Consistent := by
  intro always
  let outcome := System.replay (System.guarded walked advance) idle (put ++ reopening ++ [.read 0])
  obtain ⟨state, replayed⟩ : ∃ state, outcome = some state := ⟨_, rfl⟩
  have reachable : system.Reachable state :=
    ⟨idle, _, idle_initial, .of_guarded replayed⟩
  have answered : outcome.map (·.answers) = some [(⟨"ses-1", 1⟩, "")] := by decide
  have reported : outcome.map (·.reported "ses-1" 1) = some ["0000002a"] := by decide
  simp only [replayed, Option.map_some, Option.some.injEq] at answered reported
  have held : (⟨"ses-1", 1⟩, "") ∈ state.answers := by
    rw [answered]
    exact List.mem_singleton_self _
  have consistent := always state reachable ⟨"ses-1", 1⟩ "" held
  rw [reported] at consistent
  simp at consistent

def afterPut : Handlers := (System.replay (System.guarded walked advance) idle put).getD idle

theorem prompt_read_consistent :
    ∃ state : Handlers, state.answers = [(⟨"ses-1", 1⟩, "0000002a")] ∧ state.Consistent := by
  have replayed : System.replay (System.guarded walked advance) idle put = some afterPut := rfl
  have found : (system.restrict Undisturbed).Run idle put afterPut := by
    apply System.Run.restrict_labels (.of_guarded replayed)
    intro event member before after call reference isRead
    rw [isRead] at member
    simp [put] at member
  have held : afterPut.completing 0 = some ⟨"ses-1", 1⟩ := by decide
  have stored : afterPut.service.lookup "ses-1" = some finished := by decide
  have read : (system.restrict Undisturbed).step afterPut (.read 0)
      (afterPut.readStep 0 ⟨"ses-1", 1⟩ finished) := by
    refine ⟨⟨?_, rfl⟩, ?_⟩
    · change afterPut.advance (.read 0) = _
      simp only [advance, held, Option.bind_some, stored, Option.map_some]
    · intro call reference event waiting
      cases event
      rw [held, Option.some.injEq] at waiting
      rw [← waiting]
      decide
  refine ⟨_, ?_, completeUpload_consistent
    (System.Reachable.run ⟨idle, put, idle_initial, found⟩ (.single read))⟩
  decide

end Handlers

end Us3Turbo.Proxy
