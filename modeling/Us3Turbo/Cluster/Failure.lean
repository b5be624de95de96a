import Us3Turbo.Cluster.Provenance

/-! # What a failed attempt leaves at the proxy

`AbortSession` is a placeholder at the proxy, so nothing takes a result back: a
failed attempt stays invisible only as long as no execution of its `GdsPut` succeeded.
-/

namespace Us3Turbo.Cluster

open Us3Turbo.Data Us3Turbo.Proto Us3Turbo.Client Us3Turbo.Transition
open Us3Turbo.Proxy (ProxyControlPlaneService Session ticketOf completeUpload)

variable {world later : World} {events : List Event} {put : PutOnce} {key : String}

/-- No execution of a `GdsPut` for `key` has received its data. -/
def NothingReceived (world : World) (key : String) : Prop :=
  ∀ id execution, world.executions id = some execution → execution.request.sessionId = key →
    execution.served = none

theorem nothingReceived_of_no_token (attributed : Attributed world)
    (known : world.attempts key = some put) (none : put.token = none) :
    NothingReceived world key := by
  intro id execution begun name
  exfalso
  obtain ⟨sender, sent, _, _, held⟩ := attributed.executions begun
  rw [name, known, Option.some.injEq] at sent
  rw [← sent, none] at held
  cases held

theorem not_completed (consistent : Consistent world) (nothing : NothingReceived world key)
    {session : Session} (found : world.proxy.lookup key = some session) :
    session.status ≠ .completed := by
  intro done
  obtain ⟨report, reported, name, _⟩ := consistent.completed found done
  obtain ⟨id, execution, served, known, brought, rfl⟩ := reported
  rw [nothing id execution known name] at brought
  cases brought

theorem returned_run {result : Bool} (run : World.ownPuts.Run world events later)
    (known : world.attempts key = some put) (returned : put.stage = .returned result) :
    later.attempts key = some put := by
  induction run with
  | nil => exact known
  | cons head _ ih =>
      obtain ⟨next, known', continues⟩ := (advance_effect head.1).attempts known
      rw [continues.returned result returned] at known'
      exact ih known'

/-- What a failed attempt may count on ever after: if it never got a token, or no
execution of its `GdsPut` has received the data, nobody sees its session completed.
An `AbortSession` is refused and leaves the proxy as it is. -/
theorem failed_attempt_invisible (reachable : World.ownPuts.Reachable world)
    (known : world.attempts key = some put) (failed : put.stage = .returned false)
    (run : World.ownPuts.Run world events later)
    (idle : put.token = none ∨ NothingReceived later key) :
    (∀ session, later.proxy.lookup key = some session → session.status ≠ .completed) ∧
    (∀ order, Walks order later.proxy.sessionMgr.sessions.entries →
      completeUpload order ⟨ticketOf key⟩ = .error
        ⟨Proxy.PROXY_ERR_SESSION_NOT_FOUND, "session not found or not yet completed"⟩) ∧
    ∀ now order request, later.proxy.handle ⟨now, order, .abortSession request⟩ =
      (.abortSession (.error Proxy.notImplemented), later.proxy) := by
  have consistent := consistent_invariant.reachable (reachable.run run).of_restrict
  have attributed := attributed_invariant.reachable (reachable.run run)
  have nothing : NothingReceived later key := by
    rcases idle with none | nothing
    · exact nothingReceived_of_no_token attributed (returned_run run known failed) none
    · exact nothing
  have unfinished : ∀ session, later.proxy.lookup key = some session →
      session.status ≠ .completed := fun _ => not_completed consistent nothing
  refine ⟨unfinished, ?_, fun _ _ _ => rfl⟩
  intro order walks
  exact later.proxy.completeUpload_unfinished walks unfinished

/-! ## A `GdsPut` that times out at the client only -/

/-- The report has completed the session when the attempt gives up; then every
message still under way is handled. -/
def timeoutEvents : List Event := putEvents 4 ++ [
  .timeout sessionTwo ⟨1008, "reached timeout"⟩,
  .deliver 0 0 0,
  .deliver 0 0 0,
  .deliver 0 0 0,
  .deliver 0 0 0]

/-- The attempt has failed and all is quiet, but the session is completed. -/
theorem timed_out_put_completed :
    ¬ ∀ (world : World) (key : String) (put : PutOnce), World.ownPuts.Reachable world →
      world.attempts key = some put → put.stage = .returned false → world.network = [] →
      (∀ id execution, world.executions id = some execution →
        ∃ result, execution.stage = .done result) →
      (∀ session, world.proxy.lookup key = some session → session.status ≠ .completed) ∧
      ∀ order, Walks order world.proxy.sessionMgr.sessions.entries →
        ∃ error, completeUpload order ⟨ticketOf key⟩ = .error error := by
  intro never
  have reachable : World.ownPuts.Reachable (worldAfter timeoutEvents) :=
    worldAfter_reachable (by decide) (by decide)
  have stage : ((worldAfter timeoutEvents).attempts sessionTwo).map (·.stage) =
      some (.returned false) := by decide
  obtain ⟨put, known, failed⟩ := Option.map_eq_some_iff.mp stage
  have quiet : (worldAfter timeoutEvents).network = [] := List.isEmpty_iff.mp (by decide)
  have done : ∀ id execution, (worldAfter timeoutEvents).executions id = some execution →
      ∃ result, execution.stage = .done result := by
    intro id execution begun
    cases id with
    | zero => cases begun; exact ⟨_, rfl⟩
    | succ id => cases begun
  have status : ((worldAfter timeoutEvents).proxy.lookup sessionTwo).map (·.status) =
      some .completed := by decide
  obtain ⟨session, found, completed⟩ := Option.map_eq_some_iff.mp status
  exact (never _ _ _ reachable known failed quiet done).1 session found completed

def tokenlessEvents : List Event := [
  .start {} { bucket := "bucket", key := "object", expectedSize := some 4 }
    { data := 4096, size := 4 } {} 1 2,
  .deliver 0 0 0,
  .deliver 0 0 0,
  .acquired sessionTwo {} ⟨false, true, none⟩,
  .timeout sessionTwo ⟨1008, "reached timeout"⟩]

theorem tokenless_put_invisible :
    ((worldAfter tokenlessEvents).proxy.lookup sessionTwo).map (·.status) ≠ some .completed := by
  have locals : ((worldAfter tokenlessEvents).attempts sessionTwo).map
      (fun put => (put.stage, put.token)) = some (.returned false, none) := by decide
  obtain ⟨put, known, locals⟩ := Option.map_eq_some_iff.mp locals
  rw [Prod.mk.injEq] at locals
  have invisible := failed_attempt_invisible (worldAfter_reachable (by decide) (by decide)) known
    locals.1 (.nil _) (.inl locals.2)
  intro completed
  obtain ⟨session, found, done⟩ := Option.map_eq_some_iff.mp completed
  exact invisible.1 session found done

end Us3Turbo.Cluster
