import Us3Turbo.Backend.PoolFitting
import Us3Turbo.Backend.Process

/-! # How much memory the process keeps pinned

The host buffers that the server has handed out and not got back are those of the
`GdsPut`s in progress, one each, and the cached ones, four of each size class.
-/

namespace Us3Turbo.Backend

open Us3Turbo.Data Us3Turbo.Transition

variable {success : Bool} {operation : Operation} {pool : PinnedBufferPool} {sink : BackendGdsSink}
  {call : Receive} {maxPerClass : Nat}

theorem PinnedBufferPool.card_cached
    (bounded : ∀ bucket ∈ pool.buckets, bucket.length ≤ maxPerClass) :
    (gathered (List.map CachedBuffer.holding) pool.buckets).card ≤
      maxPerClass * pool.buckets.length := by
  revert bounded
  generalize pool.buckets = buckets
  intro bounded
  induction buckets with
  | nil => simp
  | cons bucket buckets ih =>
      have first := bounded bucket List.mem_cons_self
      have rest := ih fun other member => bounded other (List.mem_cons_of_mem _ member)
      rw [gathered_cons, Multiset.card_add, Multiset.coe_card, List.length_map, List.length_cons,
        Nat.mul_succ]
      omega

theorem PinnedBufferLease.length_holdings (lease : PinnedBufferLease) : lease.holdings.length ≤ 1 := by
  rw [holdings, List.length_map]
  cases lease.buffer <;> simp

/-- A call holds at most one buffer, and none once it has returned. -/
theorem Receive.Valid.length_holdings (valid : call.Valid sink) :
    call.stage.holdings.length ≤ if Process.inProgress call then 1 else 0 := by
  rw [Process.inProgress]
  cases stage : call.stage with
  | acquiring operation =>
      simp only [Valid, stage] at valid
      have acquires := valid.1
      cases operation <;> first | exact acquires.elim | simp [ReceiveStage.holdings, Operation.holdings]
  | releasing operation outcome =>
      simp only [Valid, stage] at valid
      have releases := valid.1
      cases operation <;>
        first
        | exact releases.elim
        | obtain rfl := releases
          simp [ReceiveStage.holdings, Operation.holdings, Resumption.holdings]
  | entered => exact Nat.zero_le _
  | returned outcome => exact Nat.zero_le _
  | leased lease | connected lease channel | transferred lease channel bytes =>
      exact lease.length_holdings
  | unwinding lease channel outcome | dropping lease outcome => exact lease.length_holdings

/-- A `Shutdown` pins nothing. -/
theorem Operation.Closing.buffers (closing : operation.Closing pool) (success : Bool) :
    (pool.perform success operation).1.buffers.issued = pool.buffers.issued ∧
      pool.buffers.returned.card ≤ (pool.perform success operation).1.buffers.returned.card := by
  have performed := pool.performed success operation
  generalize pool.perform success operation = result at performed
  obtain ⟨rest, progress⟩ := result
  cases performed with
  | allocates => exact closing.elim
  | frees => exact closing.elim
  | leaks => exact closing.elim
  | disposes data next => exact ⟨rfl, by simp [Ledger.giveBack]⟩
  | _ => exact ⟨rfl, Nat.le_refl _⟩

theorem PinnedBufferPool.Shaped.perform {configured : List UInt64}
    (shaped : pool.Shaped configured maxPerClass) (success : Bool) (operation : Operation) :
    (pool.perform success operation).1.Shaped configured maxPerClass := by
  have performed := pool.performed success operation
  have fixed := performed.fixed
  refine ⟨performed.classes.trans shaped.classes, fixed.1.trans shaped.limit, ?_,
    performed.bounded shaped.limit shaped.bounded⟩
  rw [fixed.2, performed.classes]
  exact shaped.buckets

namespace BackendGdsSink

variable {after : BackendGdsSink} {moved : Receive} {answer : PutAnswer}

/-- A call changes the pool through its operations only. -/
theorem perform_pool (performed : sink.perform success call = some (after, moved)) :
    after.pool = sink.pool ∨ ∃ operation, after.pool = (sink.pool.perform success operation).1 := by
  cases stage : call.stage with
  | acquiring operation | releasing operation outcome =>
      simp only [perform, stage, Option.some.injEq, Prod.mk.injEq] at performed
      exact .inr ⟨operation, by rw [← performed.1]⟩
  | leased lease =>
      simp only [perform, stage] at performed
      cases success with
      | true | false => cases performed; exact .inl rfl
  | connected lease channel => simp [perform, stage] at performed
  | returned outcome => simp [perform, stage] at performed
  | _ =>
      simp only [perform, stage, Option.some.injEq, Prod.mk.injEq] at performed
      exact .inl (by rw [← performed.1])

theorem transfer_pool (transferred : sink.transfer answer call = some (after, moved)) :
    after.pool = sink.pool := by
  rw [transfer] at transferred
  split at transferred
  · split at transferred
    · cases transferred
    · split at transferred
      · cases transferred
      · cases transferred
        rfl
  · cases transferred

end BackendGdsSink

namespace Process

variable {brpc : BrpcServer} {process before after : Process} {event : Event} {receives next : Receives}

theorem card_calls (valid : ∀ call ∈ receives.calls, call.Valid receives.sink) :
    (gathered (fun call => call.stage.holdings) receives.calls).card ≤
      receives.calls.countP inProgress := by
  revert valid
  generalize receives.calls = calls
  intro valid
  induction calls with
  | nil => simp
  | cons call calls ih =>
      have first := (valid call List.mem_cons_self).length_holdings
      have rest := ih fun other member => valid other (List.mem_cons_of_mem _ member)
      rw [gathered_cons, Multiset.card_add, Multiset.coe_card, List.countP_cons]
      omega

def Shaped (receives : Receives) : Prop :=
  receives.sink.pool.Shaped bufferSizeClasses kBufferMaxPerClass

theorem Shaped.four (shaped : Shaped receives) : receives.sink.pool.buckets.length = 4 := by
  rw [shaped.buckets, shaped.classes, Lifecycle.create_four]
  rfl

/-- What is pinned, in the calls and in the free lists. -/
def Bounded (receives : Receives) : Prop :=
  receives.sink.pool.buffers.issued ≤ receives.sink.pool.buffers.returned.card +
    receives.calls.countP inProgress + 16

theorem Open.bounded (open_ : Open receives) (shaped : Shaped receives) : Bounded receives := by
  have balance := congrArg Multiset.card open_.good.custody.items
  have calls := card_calls open_.good.valid
  have cached := PinnedBufferPool.card_cached shaped.bounded
  rw [shaped.four, kBufferMaxPerClass] at cached
  simp only [Receives.custody, PinnedBufferPool.custody, PinnedBufferPool.custodyWith, Custody.beside,
    PinnedBufferPool.holdings, open_.leases, open_.operations, gathered_nil, Multiset.coe_nil,
    Multiset.zero_add, Multiset.add_zero, Multiset.card_add, Multiset.card_map,
    Multiset.card_range] at balance
  rw [Bounded, ← balance]
  omega

theorem Shaped.advance {event : Receives.Event} (shaped : Shaped receives)
    (own : (opens event || continues event) = true) (advanced : receives.advance event = some next) :
    Shaped next := by
  cases event with
  | call objectId rdmaToken length =>
      cases advanced
      exact shaped
  | step index success =>
      obtain ⟨call, found, stepped⟩ := Option.bind_eq_some_iff.mp advanced
      obtain ⟨⟨sink, moved⟩, performed, rfl⟩ := Option.map_eq_some_iff.mp stepped
      change sink.pool.Shaped _ _
      rcases BackendGdsSink.perform_pool performed with same | ⟨operation, same⟩
      · rw [same]
        exact shaped
      · rw [same]
        exact PinnedBufferPool.Shaped.perform shaped success operation
  | transfer index answer =>
      obtain ⟨call, found, stepped⟩ := Option.bind_eq_some_iff.mp advanced
      obtain ⟨⟨sink, moved⟩, transferred, rfl⟩ := Option.map_eq_some_iff.mp stepped
      change sink.pool.Shaped _ _
      rw [BackendGdsSink.transfer_pool transferred]
      exact shaped
  | pool event => cases own

theorem Bounded.shut (bounded : Bounded before.receives) (shaped : Shaped before.receives)
    (valid : before.Valid) {destructing : Bool}
    (shutting : before.stage = .shutting operation destructing) (success : Bool) :
    Shaped (before.shut success operation destructing).receives ∧
      Bounded (before.shut success operation destructing).receives := by
  rw [Valid, shutting] at valid
  obtain ⟨issued, returned⟩ := valid.2.buffers success
  refine ⟨PinnedBufferPool.Shaped.perform shaped success operation, ?_⟩
  simp only [Bounded, Process.shut, issued] at bounded ⊢
  omega

theorem bounded_invariant : (system brpc).Invariant fun process =>
    process.Valid ∧ Shaped process.receives ∧ Bounded process.receives where
  initial := by
    intro process initial
    have valid := valid_invariant.initial initial
    obtain ⟨stage, calls, channels, pool⟩ := initial
    have shaped : Shaped process.receives := by
      rw [Shaped, pool]
      exact PinnedBufferPool.shaped_create
    have open_ := valid
    rw [Valid, stage] at open_
    exact ⟨valid, shaped, open_.1.bounded shaped⟩
  step := by
    intro before event after holds step
    obtain ⟨valid, shaped, bounded⟩ := holds
    refine ⟨valid_invariant.step valid step, ?_⟩
    cases moved step with
    | receives event next own running received =>
        have kept := shaped.advance own received
        have open_ : Open before.receives := by
          rcases running with stage | ⟨stage, _⟩ <;> rwa [Valid, stage] at valid
        exact ⟨kept, (open_.advance own received).bounded kept⟩
    | shuts operation destructing success stage => exact bounded.shut shaped valid stage success
    | _ => exact ⟨shaped, bounded⟩

/-- At any time the process keeps at most one host buffer pinned for each `GdsPut` in progress,
and sixteen more: each of its four size classes caches no more than four. -/
theorem pinned_bounded (reachable : (system brpc).Reachable process) :
    process.receives.sink.pool.buffers.issued - process.receives.sink.pool.buffers.returned.card ≤
        process.receives.calls.countP inProgress + 16 ∧
      process.receives.sink.pool.buckets.length = 4 ∧
      ∀ bucket ∈ process.receives.sink.pool.buckets, bucket.length ≤ 4 := by
  obtain ⟨_, shaped, bounded⟩ := bounded_invariant.reachable reachable
  rw [Bounded] at bounded
  exact ⟨by omega, shaped.four, shaped.bounded⟩

theorem interrupted_pinned : ∃ process : Process,
    process.receives.sink.pool.buffers.issued = 1 ∧
    process.receives.sink.pool.buffers.issued - process.receives.sink.pool.buffers.returned.card ≤
      process.receives.calls.countP inProgress + 16 := by
  let outcome := System.replay (advance .whenIdle) launched interrupted
  obtain ⟨process, replayed⟩ : ∃ process, outcome = some process := ⟨_, rfl⟩
  have issued : outcome.map (·.receives.sink.pool.buffers.issued) = some 1 := rfl
  rw [replayed, Option.map_some, Option.some.injEq] at issued
  have reachable : (system .whenIdle).Reachable process :=
    ⟨launched, _, launched_initial, .of_replay replayed⟩
  exact ⟨process, issued, (pinned_bounded reachable).1⟩

end Process

end Us3Turbo.Backend
