import Us3Turbo.Backend.ReceiveExact
import Us3Turbo.Backend.PoolShutdown
import Us3Turbo.Transition.Potential

/-! # A `ReceiveAndDiscard` call comes to its end

Every step that a call takes brings it closer to its return, and nothing that other calls do
sends it back.  A locked section of the pool is one step of the call that runs it; how long
the call waits for the lock is not modelled.
-/

namespace Us3Turbo.Backend

open Us3Turbo.Data Us3Turbo.Transition

variable {success : Bool} {operation : Operation} {progress : Progress}
  {pool rest : PinnedBufferPool} {sink after : BackendGdsSink} {call moved : Receive}
  {answer : PutAnswer} {buckets : Nat}

/-! ## How many steps are left -/

def PinnedBufferPool.cachedBuffers (pool : PinnedBufferPool) : Nat := (pool.buckets.map List.length).sum

def Resumption.work : Resumption → Nat
  | .shutdown rest => 2 * rest.length
  | _ => 0

/-- A buffer that is cached costs the `Shutdown` two steps later, so a push counts for three. -/
def Operation.work (buckets : Nat) : Operation → Nat
  | .acquireLoad _ _ => 5
  | .acquireReuse _ _ => 4
  | .acquireAlloc _ _ => 3
  | .acquireRegister _ _ _ => 2
  | .acquireFree _ => 1
  | .releaseLoad _ _ next => 4 + next.work
  | .releasePush _ _ next => 3 + next.work
  | .disposeMr _ next => 2 + next.work
  | .disposeData _ next => 1 + next.work
  | .freeOnly _ next => 1 + next.work
  | .shutdownSwap => buckets + 2
  | .shutdownDrain index toDestroy => buckets - index + 1 + 2 * toDestroy.length

def Progress.work (buckets : Nat) : Progress → Nat
  | .next operation => operation.work buckets
  | .returned _ => 0

def ReceiveStage.work (buckets : Nat) : ReceiveStage → Nat
  | .entered => 15
  | .acquiring operation => 9 + operation.work buckets
  | .leased _ => 9
  | .connected _ _ => 8
  | .transferred _ _ _ => 7
  | .unwinding _ _ _ => 6
  | .dropping _ _ => 5
  | .releasing operation _ => operation.work buckets
  | .returned _ => 0

theorem Resumption.resume_work (next : Resumption) : next.resume.work buckets = next.work := by
  cases next with
  | shutdown rest =>
      cases rest with
      | nil => rfl
      | cons record rest =>
          simp only [resume, Progress.work, Operation.work, work, List.length_cons]
          omega
  | _ => rfl

/-- A drain moves what is cached to the list of the `Shutdown`, and may make it longer. -/
def Operation.drains : Operation → Bool
  | .shutdownDrain _ _ => true
  | _ => false

/-- What is left to do becomes less, also when what is cached counts; but for a drain it
becomes less by itself. -/
structure Nearer (drains : Bool) (left cached less rest : Nat) : Prop where
  work : less + 2 * rest + 1 ≤ left + 2 * cached
  steps : drains = false → less + 1 ≤ left

theorem Nearer.of_same {drains : Bool} {left cached less : Nat} (steps : less + 1 ≤ left) :
    Nearer drains left cached less cached :=
  ⟨by omega, fun _ => steps⟩

theorem Nearer.offset {drains : Bool} {left cached less rest : Nat}
    (nearer : Nearer drains left cached less rest) (offset other : Nat) (below : other ≤ offset + less) :
    Nearer drains (offset + left) cached other rest := by
  obtain ⟨work, steps⟩ := nearer
  refine ⟨by omega, ?_⟩
  intro undrained
  have steps := steps undrained
  omega

namespace PinnedBufferPool

theorem cachedBuffers_setBucket {index : Nat} {bucket : List CachedBuffer}
    (entries : List CachedBuffer)
    (found : pool.buckets[index]? = some bucket) :
    (pool.setBucket index entries).cachedBuffers + bucket.length = pool.cachedBuffers + entries.length :=
  sum_map_set List.length entries found

theorem Performed.nearer (performed : Performed pool success operation rest progress) :
    Nearer operation.drains (operation.work pool.buckets.length) pool.cachedBuffers
      (progress.work pool.buckets.length) rest.cachedBuffers := by
  cases performed with
  | reuses capacity sizeClass bucket record found last =>
      have cached := cachedBuffers_setBucket bucket.dropLast found
      have shorter : bucket.dropLast.length ≤ bucket.length := by simp
      simp only [Progress.work, Operation.work]
      exact ⟨by omega, fun _ => by omega⟩
  | pushes record sizeClass next bucket found room =>
      have cached := cachedBuffers_setBucket (bucket ++ [record]) found
      rw [List.length_append, List.length_singleton] at cached
      rw [next.resume_work, Operation.work]
      exact ⟨by omega, fun _ => by omega⟩
  | disposes data next =>
      rw [next.resume_work, Operation.work]
      exact .of_same (by omega)
  | leaks record next =>
      rw [next.resume_work, Operation.work]
      exact .of_same (by omega)
  | drained index toDestroy absent =>
      rw [Resumption.resume_work, Operation.work, Resumption.work]
      exact .of_same (by omega)
  | drains index toDestroy bucket found =>
      have cached := cachedBuffers_setBucket [] found
      have inside := (List.getElem?_eq_some_iff.mp found).1
      simp only [Progress.work, Operation.work, List.length_append, List.length_nil] at cached ⊢
      exact ⟨by omega, nofun⟩
  | shuts open_ => exact .of_same (Nat.le_refl (pool.buckets.length + 2))
  | _ =>
      simp only [Progress.work, Operation.work]
      exact .of_same (by omega)

end PinnedBufferPool

theorem PinnedBufferPool.acquire_work (size : UInt64) : (pool.acquire size).work buckets ≤ 5 := by
  rw [acquire]
  split
  · exact Nat.zero_le _
  · split
    · change 3 ≤ 5
      omega
    · exact Nat.le_refl 5

theorem PinnedBufferLease.release_work (lease : PinnedBufferLease) :
    (lease.release .destroyed).work buckets ≤ 4 := by
  rw [release]
  split
  · exact Nat.zero_le _
  · split
    · exact Nat.le_refl 4
    · change 1 ≤ 4
      omega

namespace Receive

theorem acquires_work (call : Receive) (progress : Progress) :
    (call.acquires progress).stage.work buckets ≤ 9 + progress.work buckets := by
  cases progress with
  | next operation => exact Nat.le_refl _
  | returned leases =>
      rw [acquires, takes]
      split
      · exact Nat.le_refl 9
      · change 5 ≤ 9
        omega

theorem releases_work (call : Receive) (outcome : DiscardOutcome) (progress : Progress) :
    (call.releases outcome progress).stage.work buckets ≤ progress.work buckets := by
  cases progress with
  | next operation => exact Nat.le_refl _
  | returned leases => exact Nat.zero_le _

theorem enter_work (call : Receive) (pool : PinnedBufferPool) :
    (call.enter pool).stage.work buckets ≤ 14 := by
  rw [enter]
  split
  · exact Nat.zero_le _
  · split
    · exact Nat.zero_le _
    · have acquires : (call.acquires (pool.acquire call.length)).stage.work buckets ≤
          9 + (pool.acquire call.length).work buckets := call.acquires_work _
      have first : (pool.acquire call.length).work buckets ≤ 5 := pool.acquire_work call.length
      omega

end Receive

def ReceiveStage.drains : ReceiveStage → Bool
  | .acquiring operation => operation.drains
  | .releasing operation _ => operation.drains
  | _ => false

structure Closer (sink : BackendGdsSink) (call : Receive) (after : BackendGdsSink)
    (moved : Receive) : Prop where
  buckets : after.pool.buckets.length = sink.pool.buckets.length
  nearer : Nearer call.stage.drains (call.stage.work sink.pool.buckets.length) sink.pool.cachedBuffers
    (moved.stage.work sink.pool.buckets.length) after.pool.cachedBuffers

theorem Closer.of_pool (pool : after.pool = sink.pool)
    (steps : moved.stage.work sink.pool.buckets.length + 1 ≤
      call.stage.work sink.pool.buckets.length) : Closer sink call after moved := by
  constructor
  · rw [pool]
  · rw [pool]
    exact .of_same steps

namespace BackendGdsSink

theorem perform_closer (performed : sink.perform success call = some (after, moved)) :
    Closer sink call after moved := by
  cases stage : call.stage with
  | entered =>
      simp only [perform, stage, Option.some.injEq, Prod.mk.injEq] at performed
      obtain ⟨rfl, rfl⟩ := performed
      refine .of_pool rfl ?_
      rw [stage]
      exact Nat.succ_le_succ (call.enter_work sink.pool)
  | acquiring operation =>
      simp only [perform, stage, Option.some.injEq, Prod.mk.injEq] at performed
      obtain ⟨rfl, rfl⟩ := performed
      refine ⟨(sink.pool.performed success operation).fixed.2, ?_⟩
      rw [stage]
      exact (sink.pool.performed success operation).nearer.offset 9 _ (call.acquires_work _)
  | leased lease =>
      simp only [perform, stage] at performed
      cases success with
      | true =>
          simp only [if_true, Option.some.injEq, Prod.mk.injEq] at performed
          obtain ⟨rfl, rfl⟩ := performed
          refine .of_pool rfl ?_
          rw [stage]
          exact Nat.le_refl 9
      | false =>
          simp only [Bool.false_eq_true, if_false, Option.some.injEq, Prod.mk.injEq] at performed
          obtain ⟨rfl, rfl⟩ := performed
          refine .of_pool rfl ?_
          rw [stage]
          change 6 ≤ 9
          omega
  | transferred lease channel bytes =>
      simp only [perform, stage, Option.some.injEq, Prod.mk.injEq] at performed
      obtain ⟨rfl, rfl⟩ := performed
      refine .of_pool rfl ?_
      rw [stage]
      exact Nat.le_refl 7
  | unwinding lease channel outcome =>
      simp only [perform, stage, Option.some.injEq, Prod.mk.injEq] at performed
      obtain ⟨rfl, rfl⟩ := performed
      refine .of_pool rfl ?_
      rw [stage]
      exact Nat.le_refl 6
  | dropping lease outcome =>
      simp only [perform, stage, Option.some.injEq, Prod.mk.injEq] at performed
      obtain ⟨rfl, rfl⟩ := performed
      refine .of_pool rfl ?_
      rw [stage]
      exact Nat.succ_le_succ (Nat.le_trans (Receive.releases_work _ outcome _) lease.release_work)
  | releasing operation outcome =>
      simp only [perform, stage, Option.some.injEq, Prod.mk.injEq] at performed
      obtain ⟨rfl, rfl⟩ := performed
      have nearer := (sink.pool.performed success operation).nearer.offset 0
        ((call.releases outcome (sink.pool.perform success operation).2).stage.work
          sink.pool.buckets.length)
        (by rw [Nat.zero_add]; exact call.releases_work outcome _)
      refine ⟨(sink.pool.performed success operation).fixed.2, ?_⟩
      rw [Nat.zero_add] at nearer
      rw [stage]
      exact nearer
  | connected lease channel => simp [perform, stage] at performed
  | returned outcome => simp [perform, stage] at performed

theorem transfer_closer (transferred : sink.transfer answer call = some (after, moved)) :
    Closer sink call after moved := by
  rw [transfer] at transferred
  split at transferred
  · rename_i lease channel stage
    split at transferred
    · cases transferred
    · split at transferred
      · cases transferred
      · rw [Option.some.injEq, Prod.mk.injEq] at transferred
        obtain ⟨rfl, rfl⟩ := transferred
        have moves : (call.transfers lease channel answer).stage.work sink.pool.buckets.length ≤ 7 := by
          rw [Receive.transfers]
          split
          · change 6 ≤ 7
            omega
          · exact Nat.le_refl 7
        refine .of_pool rfl ?_
        rw [stage]
        exact Nat.succ_le_succ moves
  · cases transferred

/-- A call that has not returned can go on, whatever the server answers it. -/
theorem goes_on (valid : call.Valid sink) (busy : ∀ outcome, call.stage ≠ .returned outcome) :
    (sink.perform true call).isSome = true ∨
      ∃ answer, (sink.transfer answer call).isSome = true := by
  cases stage : call.stage with
  | connected lease channel =>
      simp only [Receive.Valid, stage] at valid
      obtain ⟨record, buffer⟩ := Option.isSome_iff_exists.mp valid.1.ok
      let refused : PutAnswer := ⟨-1, [], "", fun kept => absurd (by decide) kept⟩
      refine .inr ⟨refused, ?_⟩
      have negative : ¬ (¬ refused.transferred < 0 ∧ refused.transferred.toUInt64 > call.length) :=
        fun both => both.1 (by decide)
      simp only [transfer, stage, if_neg negative, buffer, Option.isSome_some]
  | returned outcome => exact absurd stage (busy outcome)
  | _ => exact .inl (by simp [perform, stage])

end BackendGdsSink

/-! ## All calls -/

theorem PinnedBufferPool.advance_buckets {event : Event} (advanced : pool.advance event = some rest) :
    rest.buckets.length = pool.buckets.length := by
  cases effect advanced with
  | call rest progress shutdown maxPerClass buckets => rw [settle_buckets, buckets]
  | step index success operation found =>
      rw [settle_buckets]
      exact ((pool.takeOperation index).performed success operation).fixed.2

theorem Receive.Valid.undrained (valid : call.Valid sink) : call.stage.drains = false := by
  cases stage : call.stage with
  | acquiring operation =>
      simp only [Valid, stage] at valid
      have acquires := valid.1
      cases operation <;> first | rfl | exact acquires.elim
  | releasing operation outcome =>
      simp only [Valid, stage] at valid
      have releases := valid.1
      cases operation <;> first | rfl | exact releases.elim
  | _ => rfl

theorem Receive.Valid.work_le (valid : call.Valid sink) : call.stage.work buckets ≤ 15 := by
  cases stage : call.stage with
  | acquiring operation =>
      simp only [Valid, stage] at valid
      have acquires := valid.1
      cases operation <;> first | exact acquires.elim | simp [ReceiveStage.work, Operation.work]
  | releasing operation outcome =>
      simp only [Valid, stage] at valid
      have releases := valid.1
      cases operation <;>
        first
        | exact releases.elim
        | obtain rfl := releases; simp [ReceiveStage.work, Operation.work, Resumption.work]
  | _ => simp [ReceiveStage.work]

namespace Receives

variable {receives next : Receives} {event : Event} {events : List Event} {index : Nat}

/-- The steps left to the call at `index`; one that has yet to begin has all of them. -/
def left (buckets index : Nat) (receives : Receives) : Nat :=
  (receives.calls[index]?).elim 15 fun call => call.stage.work buckets

theorem advance_buckets (advanced : receives.advance event = some next) :
    next.sink.pool.buckets.length = receives.sink.pool.buckets.length := by
  cases event with
  | call objectId rdmaToken length =>
      cases advanced
      rfl
  | step other success =>
      obtain ⟨call, found, stepped⟩ := Option.bind_eq_some_iff.mp advanced
      obtain ⟨⟨sink, moved⟩, performed, rfl⟩ := Option.map_eq_some_iff.mp stepped
      exact (BackendGdsSink.perform_closer performed).buckets
  | transfer other answer =>
      obtain ⟨call, found, stepped⟩ := Option.bind_eq_some_iff.mp advanced
      obtain ⟨⟨sink, moved⟩, transferred, rfl⟩ := Option.map_eq_some_iff.mp stepped
      exact (BackendGdsSink.transfer_closer transferred).buckets
  | pool event =>
      obtain ⟨pool, used, rfl⟩ := Option.map_eq_some_iff.mp advanced
      exact PinnedBufferPool.advance_buckets used

theorem left_step (index : Nat) (good : receives.Good) (advanced : receives.advance event = some next) :
    let buckets := receives.sink.pool.buckets.length
    next.left buckets index + (if event.isOf index then 1 else 0) ≤ receives.left buckets index := by
  cases seen advanced index with
  | apart other same => simp [left, same, other]
  | arrives call other none found entered =>
      simp [left, none, found, other, entered, ReceiveStage.work]
  | own call moved mine found placed steps =>
      have closer : Closer receives.sink call next.sink moved := by
        rcases steps with ⟨success, performed⟩ | ⟨answer, transferred⟩
        · exact BackendGdsSink.perform_closer performed
        · exact BackendGdsSink.transfer_closer transferred
      have valid := good.valid call (List.mem_of_getElem? found)
      have steps := closer.nearer.steps valid.undrained
      simpa [left, found, placed, mine] using steps

/-- What the call at `index` may still spend, one step at a time. -/
def callPotential (buckets index : Nat) : System.Potential system fun receives =>
    receives.Good ∧ receives.sink.pool.buckets.length = buckets where
  level := left buckets index
  cost event := if event.isOf index then 1 else 0
  gain _ := 0
  keeps := by
    intro before event after holds step
    exact ⟨good_invariant.step holds.1 step, (advance_buckets step).trans holds.2⟩
  pays := by
    rintro before event after ⟨good, rfl⟩ step
    exact left_step index good step

/-- Whatever happens beside it, a call takes at most fifteen steps; and as long as it has not
returned, there is a next one. -/
theorem receive_steps_bounded (index : Nat) (reachable : system.Reachable receives)
    (run : system.Run receives events next) :
    events.countP (Event.isOf index) ≤ 15 ∧
      ∀ call, next.calls[index]? = some call →
        (∃ outcome, call.stage = .returned outcome) ∨
          ∃ event, event.isOf index = true ∧ (next.advance event).isSome = true := by
  have good := good_invariant.reachable reachable
  constructor
  · have spent := (callPotential receives.sink.pool.buckets.length index).countP_le
      (Event.isOf index) ⟨good, rfl⟩ run (fun _ counted => by simp [callPotential, counted])
      fun _ => rfl
    have whole : receives.left receives.sink.pool.buckets.length index ≤ 15 := by
      rw [left]
      cases found : receives.calls[index]? with
      | none => exact Nat.le_refl 15
      | some call => exact (good.valid call (List.mem_of_getElem? found)).work_le
    exact Nat.le_trans (Nat.le_of_add_right_le spent) whole
  · intro call found
    by_cases returned : ∃ outcome, call.stage = .returned outcome
    · exact .inl returned
    · have valid := (good_invariant.reachable (reachable.run run)).valid call
        (List.mem_of_getElem? found)
      refine .inr ?_
      rcases BackendGdsSink.goes_on valid (fun outcome stage => returned ⟨outcome, stage⟩) with
        performs | ⟨answer, transfers⟩
      · refine ⟨.step index true, by simp [Event.isOf], ?_⟩
        simpa [advance, found] using performs
      · refine ⟨.transfer index answer, by simp [Event.isOf], ?_⟩
        simpa [advance, found] using transfers

/-- The first call is yet to get its answer, the second one its channel. -/
theorem overlapping_steps_bounded : (overlapping.take 11).countP (Event.isOf 0) ≤ 15 ∧
    ∃ (receives : Receives) (event : Event), event.isOf 0 = true ∧
      (receives.advance event).isSome = true := by
  let outcome := System.replay advance ⟨staleSink, []⟩ (overlapping.take 11)
  obtain ⟨receives, replayed⟩ : ∃ receives, outcome = some receives := ⟨_, rfl⟩
  have waiting : outcome.bind (fun receives => (receives.calls[0]?).map (·.stage)) =
      some (.connected ⟨true, some ⟨0, 4, 0⟩, 0⟩ 0) := rfl
  rw [replayed, Option.bind_some] at waiting
  obtain ⟨call, found, stage⟩ := Option.map_eq_some_iff.mp waiting
  have start : system.Reachable ⟨staleSink, []⟩ := .of_initial ⟨rfl, rfl, cachedPool_reachable⟩
  obtain ⟨bounded, moves⟩ := receive_steps_bounded 0 start (.of_replay replayed)
  refine ⟨bounded, receives, ?_⟩
  rcases moves call found with ⟨outcome, returned⟩ | goes_on
  · rw [stage] at returned
    cases returned
  · exact goes_on

end Receives

end Us3Turbo.Backend
