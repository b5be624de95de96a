import Us3Turbo.Backend.ReceiveStep

/-! # Concurrent `ReceiveAndDiscard` calls are isolated

Two calls never hold one buffer, so what one of them transfers stays out of the bytes
another one scans.
-/

namespace Us3Turbo.Backend

open Us3Turbo.Data Us3Turbo.Transition

variable {outcome : DiscardOutcome} {sink after : BackendGdsSink} {call moved : Receive}

theorem Receive.Valid.frame (valid : call.Valid sink)
    (computes : after.computeCrc32c = sink.computeCrc32c)
    (returned : ∀ channel ∈ sink.channels.returned, channel ∈ after.channels.returned)
    (kept : ∀ holding ∈ call.stage.holdings, after.memory holding.item = sink.memory holding.item) :
    call.Valid after := by
  cases stage : call.stage with
  | transferred lease channel bytes =>
      simp only [Receive.Valid, stage] at valid ⊢
      obtain ⟨leased, allocated, answer, put, succeeded, count, loaded⟩ := valid
      refine ⟨leased, allocated, answer, put, succeeded, count, fun record buffer => ?_⟩
      have mine : record.holding ∈ call.stage.holdings := by
        rw [stage]
        exact lease.mem_holdings buffer
      have same : after.memory record.data = sink.memory record.data := kept _ mine
      rw [← loaded record buffer, BackendGdsSink.load, same, ← BackendGdsSink.load]
  | unwinding lease channel outcome =>
      simp only [Receive.Valid, stage] at valid ⊢
      obtain ⟨took, allocated, freed, settled⟩ := valid
      exact ⟨took, allocated, freed, settled.frame computes returned⟩
  | dropping lease outcome =>
      simp only [Receive.Valid, stage] at valid ⊢
      obtain ⟨took, freed, settled⟩ := valid
      exact ⟨took, freed, settled.frame computes returned⟩
  | releasing operation outcome =>
      simp only [Receive.Valid, stage] at valid ⊢
      obtain ⟨releases, freed, settled⟩ := valid
      exact ⟨releases, freed, settled.frame computes returned⟩
  | returned outcome =>
      simp only [Receive.Valid, stage] at valid ⊢
      obtain ⟨freed, settled⟩ := valid
      exact ⟨freed, settled.frame computes returned⟩
  | _ =>
      simp only [Receive.Valid, stage] at valid ⊢
      exact valid

/-! ## All calls -/

namespace Receives

variable {receives next : Receives} {event : Event} {index : Nat}

def custody (receives : Receives) : Custody :=
  receives.sink.pool.custody.beside (gathered (fun call => call.stage.holdings) receives.calls)

def channelCustody (receives : Receives) : Custody where
  holdings := gathered (fun call => call.stage.channels) receives.calls
  items := receives.sink.channels

/-- The pool and the calls own the buffers together, the calls own the channels, and every
call holds what its record says. -/
structure Good (receives : Receives) : Prop where
  custody : receives.custody.Sound
  channels : receives.channelCustody.Sound
  pool : receives.sink.pool.Pooled
  pooled : ∀ call ∈ receives.calls, call.stage.Pooled
  valid : ∀ call ∈ receives.calls, call.Valid receives.sink

theorem custody_at (found : receives.calls[index]? = some call) :
    receives.custody = (receives.sink.pool.custodyWith call.stage.holdings).beside
      (gathered (fun call => call.stage.holdings) (receives.calls.eraseIdx index)) := by
  simp only [custody, PinnedBufferPool.custody, PinnedBufferPool.custodyWith, Custody.beside,
    gathered_eraseIdx found, Multiset.coe_nil, Custody.mk.injEq, and_true]
  abel

theorem settle_custody (bound : index < receives.calls.length) :
    (receives.settle index (after, moved)).custody =
      (after.pool.custodyWith moved.stage.holdings).beside
        (gathered (fun call => call.stage.holdings) (receives.calls.eraseIdx index)) := by
  simp only [custody, settle, PinnedBufferPool.custody, PinnedBufferPool.custodyWith, Custody.beside,
    gathered_set bound, Multiset.coe_nil, Custody.mk.injEq, and_true]
  abel

theorem channelCustody_at (found : receives.calls[index]? = some call) :
    receives.channelCustody =
      ({ holdings := call.stage.channels, items := receives.sink.channels } : Custody).beside
        (gathered (fun call => call.stage.channels) (receives.calls.eraseIdx index)) := by
  simp only [channelCustody, Custody.beside, gathered_eraseIdx found]

theorem settle_channelCustody (bound : index < receives.calls.length) :
    (receives.settle index (after, moved)).channelCustody =
      ({ holdings := moved.stage.channels, items := after.channels } : Custody).beside
        (gathered (fun call => call.stage.channels) (receives.calls.eraseIdx index)) := by
  simp only [channelCustody, settle, Custody.beside, gathered_set bound]

/-- A step of one call leaves every other call with the bytes it had. -/
theorem Good.settle (good : receives.Good) (found : receives.calls[index]? = some call)
    (stepped : Stepped receives.sink call after moved) :
    (receives.settle index (after, moved)).Good := by
  have bound : index < receives.calls.length := (List.getElem?_eq_some_iff.mp found).1
  have members : ∀ other ∈ (receives.settle index (after, moved)).calls,
      other = moved ∨ other ∈ receives.calls.eraseIdx index := by
    intro other member
    exact List.mem_cons.mp ((List.set_perm_cons_eraseIdx bound moved).mem_iff.mp member)
  constructor
  · have sound := good.custody
    rw [custody_at found] at sound
    rw [settle_custody bound]
    exact sound.step (stepped.pool.beside _)
  · have sound := good.channels
    rw [channelCustody_at found] at sound
    rw [settle_channelCustody bound]
    exact sound.step (stepped.channels.beside _)
  · exact stepped.kept good.pool
  · intro other member
    rcases members other member with rfl | old
    · exact stepped.pooled
    · exact good.pooled other (List.mem_of_mem_eraseIdx old)
  · intro other member
    rcases members other member with rfl | old
    · exact stepped.valid
    · have valid := good.valid other (List.mem_of_mem_eraseIdx old)
      refine valid.frame stepped.computes stepped.returned fun holding theirs => stepped.elsewhere _ ?_
      intro mine holds
      have sound := good.custody
      rw [custody_at found] at sound
      refine sound.exclusive (Multiset.add_assoc _ _ _) (Multiset.mem_coe.mpr holds) ?_
      exact Multiset.mem_add.mpr (.inr (mem_gathered old theirs))

theorem good_invariant : system.Invariant Good where
  initial := by
    rintro receives ⟨calls, channels, reachable⟩
    obtain ⟨sound, pooled⟩ := PinnedBufferPool.owned_invariant.reachable reachable
    constructor
    · simpa [custody, calls, Custody.beside] using sound
    · rw [channelCustody, calls, channels]
      exact Custody.sound_empty
    · exact pooled
    · simp [calls]
    · simp [calls]
  step := by
    intro before event after good advanced
    cases event with
    | call objectId rdmaToken length =>
        cases advanced
        constructor
        · simpa [custody, ReceiveStage.holdings] using good.custody
        · simpa [channelCustody, ReceiveStage.channels] using good.channels
        · exact good.pool
        · intro other member
          rcases List.mem_append.mp member with old | new
          · exact good.pooled other old
          · cases List.mem_singleton.mp new
            exact trivial
        · intro other member
          rcases List.mem_append.mp member with old | new
          · exact good.valid other old
          · cases List.mem_singleton.mp new
            exact ⟨rfl, rfl, rfl, rfl⟩
    | step index success =>
        obtain ⟨call, found, stepped⟩ := Option.bind_eq_some_iff.mp advanced
        obtain ⟨⟨sink, moved⟩, performed, rfl⟩ := Option.map_eq_some_iff.mp stepped
        have member := List.mem_of_getElem? found
        exact good.settle found (BackendGdsSink.perform_stepped (good.pooled call member)
          (good.valid call member) performed)
    | transfer index answer =>
        obtain ⟨call, found, stepped⟩ := Option.bind_eq_some_iff.mp advanced
        obtain ⟨⟨sink, moved⟩, transferred, rfl⟩ := Option.map_eq_some_iff.mp stepped
        have member := List.mem_of_getElem? found
        exact good.settle found (BackendGdsSink.transfer_stepped (good.pooled call member)
          (good.valid call member) transferred)
    | pool event =>
        obtain ⟨pool, used, rfl⟩ := Option.map_eq_some_iff.mp advanced
        obtain ⟨step, pooled⟩ := PinnedBufferPool.advance_step good.pool used
        exact
          { custody := good.custody.step (step.beside _)
            channels := good.channels
            pool := pooled
            pooled := good.pooled
            valid := fun call member =>
              (good.valid call member).frame rfl (fun _ known => known) fun _ _ => rfl }

/-! ## Two calls at once -/

/-- A pool with one cached buffer. -/
def cachedPool : PinnedBufferPool :=
  { PinnedBufferPool.oneClass with
    buckets := [[⟨0, 4, 0⟩]]
    buffers := ⟨1, 0⟩
    regions := ⟨1, 0⟩
    bufferOf := Function.update PinnedBufferPool.oneClass.bufferOf 0 0 }

theorem cachedPool_reachable : PinnedBufferPool.system.Reachable cachedPool := by
  have cached : System.replay PinnedBufferPool.advance PinnedBufferPool.oneClass
      [.acquire 3, .step 0 true, .step 0 true, .step 0 true, .step 0 true, .destroy 0, .step 0 true,
        .step 0 true] = some cachedPool := rfl
  exact PinnedBufferPool.oneClass_reachable.run (.of_replay cached)

def staleSink : BackendGdsSink where
  computeCrc32c := true
  pool := cachedPool
  memory _ _ := 0xAA

def threeBytes : PutAnswer := ⟨3, [1, 2, 3], "IBV_WC_SUCCESS", fun _ => rfl⟩

def fourBytes : PutAnswer := ⟨4, [9, 9, 9, 9], "IBV_WC_SUCCESS", fun _ => rfl⟩

/-- The first call takes the cached buffer, the second one allocates its own and is in the
middle of its transfer when the first one scans. -/
def overlapping : List Event :=
  [.call "a" "" 3, .call "b" "" 4, .step 0 true, .step 1 true, .step 0 true, .step 0 true,
    .step 1 true, .step 1 true, .step 1 true, .step 1 true, .step 0 true, .step 1 true,
    .transfer 0 threeBytes, .transfer 1 fourBytes, .step 0 true, .step 0 true, .step 0 true,
    .step 0 true, .step 0 true]

end Receives

end Us3Turbo.Backend
