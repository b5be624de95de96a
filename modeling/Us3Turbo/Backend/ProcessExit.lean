import Us3Turbo.Backend.Process
import Us3Turbo.Backend.ReceiveProgress
import Us3Turbo.Transition.Potential

/-! # The process comes to its exit

After the signal no `GdsPut` begins, and each that is in progress takes only so many more
steps, however they interleave; `Shutdown` then deregisters and frees what is cached.
-/

namespace Us3Turbo.Backend

open Us3Turbo.Data Us3Turbo.Transition

variable {success : Bool} {operation : Operation} {call moved : Receive} {buckets : Nat}

def ProcessStage.work (buckets : Nat) : ProcessStage → Nat
  | .starting | .serving => 0
  | .joining => 2 * buckets + 6
  | .shutting operation false => operation.work buckets + buckets + 3
  | .shutting operation true => operation.work buckets + 1
  | .resetting => 1
  | .exited => 0

namespace Process

variable {brpc : BrpcServer} {process before after : Process} {event : Event} {receives next : Receives}
  {destructing : Bool} {events : List Event}

def callsWork (buckets : Nat) (receives : Receives) : Nat :=
  (receives.calls.map fun call => call.stage.work buckets).sum

def work (process : Process) : Nat :=
  callsWork process.receives.sink.pool.buckets.length process.receives +
    2 * process.receives.sink.pool.cachedBuffers +
    process.stage.work process.receives.sink.pool.buckets.length

/-- The process is on its way out. -/
def Leaving (process : Process) : Prop :=
  match process.stage with
  | .starting | .serving => False
  | _ => True

theorem closer_calls {sink : BackendGdsSink} {index : Nat}
    (found : receives.calls[index]? = some call) (closer : Closer receives.sink call sink moved) :
    let next := receives.settle index (sink, moved)
    next.sink.pool.buckets.length = receives.sink.pool.buckets.length ∧
      callsWork receives.sink.pool.buckets.length next + 2 * next.sink.pool.cachedBuffers + 1 ≤
        callsWork receives.sink.pool.buckets.length receives + 2 * receives.sink.pool.cachedBuffers := by
  refine ⟨closer.buckets, ?_⟩
  have closer := closer.nearer.work
  have calls := sum_map_set (fun call : Receive => call.stage.work receives.sink.pool.buckets.length)
    moved found
  simp only [callsWork, Receives.settle]
  omega

theorem continues_calls {event : Receives.Event} (goes_on : continues event = true)
    (advanced : receives.advance event = some next) :
    next.sink.pool.buckets.length = receives.sink.pool.buckets.length ∧
      callsWork receives.sink.pool.buckets.length next + 2 * next.sink.pool.cachedBuffers + 1 ≤
        callsWork receives.sink.pool.buckets.length receives + 2 * receives.sink.pool.cachedBuffers := by
  cases event with
  | step index success =>
      obtain ⟨call, found, stepped⟩ := Option.bind_eq_some_iff.mp advanced
      obtain ⟨⟨sink, moved⟩, performed, rfl⟩ := Option.map_eq_some_iff.mp stepped
      exact closer_calls found (BackendGdsSink.perform_closer performed)
  | transfer index answer =>
      obtain ⟨call, found, stepped⟩ := Option.bind_eq_some_iff.mp advanced
      obtain ⟨⟨sink, moved⟩, transferred, rfl⟩ := Option.map_eq_some_iff.mp stepped
      exact closer_calls found (BackendGdsSink.transfer_closer transferred)
  | call objectId rdmaToken length => cases goes_on
  | pool event => cases goes_on

theorem shut_work (process : Process) (success : Bool) (operation : Operation) (destructing : Bool) :
    (process.shut success operation destructing).work + 1 ≤
      { process with stage := .shutting operation destructing }.work := by
  have performed := process.receives.sink.pool.performed success operation
  have works := performed.nearer.work
  have fixed := performed.fixed.2
  simp only [work, shut, fixed]
  generalize process.receives.sink.pool.perform success operation = result at works
  obtain ⟨pool, progress⟩ := result
  cases progress with
  | next operation =>
      cases destructing with
      | false => simp only [ProcessStage.work, Progress.work, callsWork] at works ⊢; omega
      | true => simp only [ProcessStage.work, Progress.work, callsWork] at works ⊢; omega
  | returned leases =>
      cases destructing with
      | false =>
          simp only [ProcessStage.work, Progress.work, Operation.work, callsWork, Bool.false_eq_true,
            if_false] at works ⊢
          omega
      | true => simp only [ProcessStage.work, Progress.work, callsWork, if_true] at works ⊢; omega

theorem shut_leaving (process : Process) (success : Bool) (operation : Operation) (destructing : Bool) :
    (process.shut success operation destructing).Leaving := by
  rw [Leaving, shut]
  generalize process.receives.sink.pool.perform success operation = result
  obtain ⟨pool, progress⟩ := result
  cases progress with
  | next operation => exact trivial
  | returned leases => cases destructing <;> exact trivial

theorem leaving_step (leaving : before.Leaving) (advanced : before.advance brpc event = some after) :
    after.Leaving ∧ after.work + 1 ≤ before.work := by
  cases moved advanced with
  | listens stage => simp [Leaving, stage] at leaving
  | refused stage => simp [Leaving, stage] at leaving
  | signalled stage => simp [Leaving, stage] at leaving
  | receives event next own running received =>
      rcases running with stage | ⟨stage, goes_on⟩
      · simp [Leaving, stage] at leaving
      · obtain ⟨fixed, closer⟩ := continues_calls goes_on received
        refine ⟨by simp [Leaving, stage], ?_⟩
        simp only [work, fixed, stage]
        omega
  | joined stage finished =>
      refine ⟨trivial, ?_⟩
      simp only [work, stage, ProcessStage.work, Operation.work]
      omega
  | shuts operation destructing success stage =>
      have same : { before with stage := .shutting operation destructing } = before := by
        rw [← stage]
      have works := before.shut_work success operation destructing
      rw [same] at works
      exact ⟨before.shut_leaving success operation destructing, works⟩
  | resets stage =>
      refine ⟨trivial, ?_⟩
      simp only [work, stage, ProcessStage.work]
      omega

def leavingPotential (brpc : BrpcServer) : System.Potential (system brpc) Leaving where
  level := work
  cost _ := 1
  gain _ := 0
  keeps leaving step := (leaving_step leaving step).1
  pays leaving step := (leaving_step leaving step).2

theorem work_le_of_valid (buckets : Nat) {sink : BackendGdsSink} (valid : call.Valid sink) :
    call.stage.work buckets ≤ 15 * (if inProgress call then 1 else 0) := by
  cases busy : inProgress call with
  | true => exact valid.work_le
  | false =>
      obtain ⟨outcome, stage⟩ := inProgress_eq_false.mp busy
      rw [stage]
      exact Nat.zero_le _

theorem callsWork_le (buckets : Nat)
    (valid : ∀ call ∈ receives.calls, call.Valid receives.sink) :
    callsWork buckets receives ≤ 15 * receives.calls.countP inProgress := by
  rw [callsWork]
  revert valid
  generalize receives.calls = calls
  intro valid
  induction calls with
  | nil => simp
  | cons call calls ih =>
      have first := work_le_of_valid buckets (valid call List.mem_cons_self)
      have rest := ih fun other member => valid other (List.mem_cons_of_mem _ member)
      rw [List.map_cons, List.sum_cons, List.countP_cons]
      omega

/-- The process stands still at its exit only. -/
theorem exited_of_stuck (valid : process.Valid) (leaving : process.Leaving)
    (stuck : (system brpc).Stuck process) : process.stage = .exited := by
  have moves : ∀ event, process.advance brpc event = none := by
    intro event
    by_contra moves
    obtain ⟨after, advanced⟩ := Option.ne_none_iff_exists'.mp moves
    exact stuck event after advanced
  cases stage : process.stage with
  | exited => rfl
  | starting => simp [Leaving, stage] at leaving
  | serving => simp [Leaving, stage] at leaving
  | shutting operation destructing => simpa [advance, stage] using moves (.proceed true)
  | resetting => simpa [advance, stage] using moves (.proceed true)
  | joining =>
      have joined := moves (.proceed true)
      simp only [advance, stage] at joined
      split at joined
      · cases joined
      · rename_i waits
        have busy : 0 < process.receives.calls.countP inProgress := by
          refine Nat.pos_of_ne_zero fun none => waits ?_
          rw [none]
          exact brpc.returns
        obtain ⟨call, member, progress⟩ := List.countP_pos_iff.mp busy
        obtain ⟨index, found⟩ := List.mem_iff_getElem?.mp member
        rw [Valid, stage] at valid
        have unreturned : ∀ outcome, call.stage ≠ .returned outcome := by
          intro outcome returned
          rw [inProgress_eq_false.mpr ⟨outcome, returned⟩] at progress
          cases progress
        rcases BackendGdsSink.goes_on (valid.good.valid call member) unreturned with
          performs | ⟨answer, transfers⟩
        · have step := moves (.receive (.step index true))
          simp only [advance, stage, continues, if_true, received, Option.map_eq_none_iff,
            Receives.advance, found, Option.bind_some] at step
          rw [step] at performs
          cases performs
        · have step := moves (.receive (.transfer index answer))
          simp only [advance, stage, continues, if_true, received, Option.map_eq_none_iff,
            Receives.advance, found, Option.bind_some] at step
          rw [step] at transfers
          cases transfers

/-- Once the `brpc` server is stopped the process takes boundedly many steps, in any order of
the `GdsPut`s in progress, and wherever it stands it can go on to its exit. -/
theorem comes_to_exit (reachable : (system brpc).Reachable process) (stopped : process.stage = .joining)
    (run : (system brpc).Run process events after) :
    events.length ≤ 15 * process.receives.calls.countP inProgress +
        2 * process.receives.sink.pool.cachedBuffers +
        2 * process.receives.sink.pool.buckets.length + 6 ∧
      ∃ more exit, (system brpc).Run after more exit ∧ exit.stage = .exited := by
  have leaving : process.Leaving := by simp [Leaving, stopped]
  have valid := valid_invariant.reachable reachable
  have length := (leavingPotential brpc).countP_le (fun _ => true) leaving run
    (fun _ _ => Nat.le_refl 1) fun _ => rfl
  have level : (leavingPotential brpc).level process = process.work := rfl
  rw [List.countP_true, level, work, stopped, ProcessStage.work] at length
  rw [Valid, stopped] at valid
  have calls := callsWork_le process.receives.sink.pool.buckets.length valid.good.valid
  refine ⟨by omega, ?_⟩
  obtain ⟨more, exit, rest, stuck⟩ := (leavingPotential brpc).exists_stuck
    ((leavingPotential brpc).kept leaving run) (fun _ => Nat.le_refl 1) fun _ => rfl
  have ends := (reachable.run run).run rest
  exact ⟨more, exit, rest, exited_of_stuck (valid_invariant.reachable ends)
    ((leavingPotential brpc).kept leaving (run.append rest)) stuck⟩

theorem interrupted_comes_to_exit : ∃ process events exit, process.stage = .joining ∧
    (system .whenIdle).Run process events exit ∧ exit.stage = .exited := by
  let outcome := System.replay (advance .whenIdle) launched interrupted
  obtain ⟨process, replayed⟩ : ∃ process, outcome = some process := ⟨_, rfl⟩
  have stopped : outcome.map (·.stage) = some .joining := rfl
  rw [replayed, Option.map_some, Option.some.injEq] at stopped
  have reachable : (system .whenIdle).Reachable process :=
    ⟨launched, _, launched_initial, .of_replay replayed⟩
  obtain ⟨_, events, exit, run, exited⟩ := comes_to_exit reachable stopped (.nil process)
  exact ⟨process, events, exit, stopped, run, exited⟩

end Process

end Us3Turbo.Backend
