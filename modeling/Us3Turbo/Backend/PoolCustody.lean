import Mathlib.Algebra.Order.Group.Multiset
import Mathlib.Tactic.Abel
import Us3Turbo.Backend.BufferPool

/-! # Ownership of the pooled buffers -/

namespace Us3Turbo.Backend

open Us3Turbo.Data Us3Turbo.Transition

variable {success : Bool} {operation : Operation} {next : Resumption} {progress : Progress}
  {lease : PinnedBufferLease} {pool after : PinnedBufferPool} {event : PinnedBufferPool.Event}
  {index : Nat}

/-! ## What the parts of a pool hold -/

def CachedBuffer.holding (record : CachedBuffer) : Holding := ⟨record.data, some record.mr⟩

def PinnedBufferLease.holdings (lease : PinnedBufferLease) : List Holding :=
  lease.buffer.toList.map CachedBuffer.holding

def Resumption.holdings : Resumption → List Holding
  | .destroyed => []
  | .assigned source => source.holdings
  | .shutdown rest => rest.map CachedBuffer.holding

def Operation.holdings : Operation → List Holding
  | .acquireRegister data _ _ => [⟨data, none⟩]
  | .acquireFree data => [⟨data, none⟩]
  | .releaseLoad record _ next => record.holding :: next.holdings
  | .releasePush record _ next => record.holding :: next.holdings
  | .disposeMr record next => record.holding :: next.holdings
  | .disposeData data next => ⟨data, none⟩ :: next.holdings
  | .freeOnly record next => record.holding :: next.holdings
  | .shutdownDrain _ toDestroy => toDestroy.map CachedBuffer.holding
  | _ => []

def Progress.holdings : Progress → List Holding
  | .next operation => operation.holdings
  | .returned leases => leases.flatMap PinnedBufferLease.holdings

@[simp] theorem PinnedBufferLease.holdings_empty : PinnedBufferLease.holdings {} = [] := rfl

theorem Resumption.resume_holdings (next : Resumption) : next.resume.holdings = next.holdings := by
  cases next with
  | destroyed => rfl
  | assigned source => simp [resume, Progress.holdings, holdings]
  | shutdown rest =>
      cases rest with
      | nil => rfl
      | cons record rest => rfl

theorem PinnedBufferLease.release_holdings (lease : PinnedBufferLease) (next : Resumption) :
    (lease.release next).holdings = lease.holdings ++ next.holdings := by
  cases found : lease.buffer with
  | none => simp [release, holdings, found, next.resume_holdings]
  | some record =>
      cases pooled : lease.pool <;>
        simp [release, holdings, found, pooled, Progress.holdings, Operation.holdings]

namespace PinnedBufferPool

def holdings (pool : PinnedBufferPool) : Multiset Holding :=
  gathered PinnedBufferLease.holdings pool.leases +
    gathered (List.map CachedBuffer.holding) pool.buckets +
    gathered Operation.holdings pool.operations

/-- The custody of a pool one of whose calls, set aside, holds `held`. -/
def custodyWith (pool : PinnedBufferPool) (held : List Holding) : Custody where
  holdings := held + pool.holdings
  items := pool.buffers
  attachments := pool.regions
  itemOf := pool.bufferOf

def custody (pool : PinnedBufferPool) : Custody := pool.custodyWith []

theorem settle_custody (pool : PinnedBufferPool) (progress : Progress) :
    (pool.settle progress).custody = pool.custodyWith progress.holdings := by
  cases progress with
  | next operation =>
      simp only [settle, custody, custodyWith, holdings, gathered_append, gathered_cons, gathered_nil,
        Progress.holdings, Multiset.coe_nil, Custody.mk.injEq, and_true]
      abel
  | returned leases =>
      have held : (↑(leases.flatMap PinnedBufferLease.holdings) : Multiset Holding) =
        gathered PinnedBufferLease.holdings leases := rfl
      simp only [settle, custody, custodyWith, holdings, gathered_append, Progress.holdings, held,
        Multiset.coe_nil, Custody.mk.injEq, and_true]
      abel

theorem takeLease_custody (found : pool.leases[index]? = some lease) (held : List Holding) :
    pool.custodyWith held = (pool.takeLease index).custodyWith (lease.holdings ++ held) := by
  simp only [takeLease, custodyWith, holdings, gathered_eraseIdx found, ← Multiset.coe_add,
    Custody.mk.injEq, and_true]
  abel

theorem takeOperation_custody (found : pool.operations[index]? = some operation) :
    pool.custody = (pool.takeOperation index).custodyWith operation.holdings := by
  simp only [takeOperation, custody, custodyWith, holdings, gathered_eraseIdx found, Multiset.coe_nil,
    Custody.mk.injEq, and_true]
  abel

/-- `entries` take the place of `bucket`, for a call that held `taken` and now holds `given`. -/
theorem setBucket_holdings {bucket entries : List CachedBuffer} {taken given : List Holding}
    (found : pool.buckets[index]? = some bucket)
    (exchanged : (given ++ entries.map CachedBuffer.holding).Perm
      (taken ++ bucket.map CachedBuffer.holding)) :
    ↑given + (pool.setBucket index entries).holdings = ↑taken + pool.holdings := by
  have bound : index < pool.buckets.length := (List.getElem?_eq_some_iff.mp found).1
  have same : (↑given + ↑(entries.map CachedBuffer.holding) : Multiset Holding) =
      ↑taken + ↑(bucket.map CachedBuffer.holding) := by
    rw [Multiset.coe_add, Multiset.coe_add]
    exact Multiset.coe_eq_coe.mpr exchanged
  simp only [setBucket, holdings, gathered_set bound, gathered_eraseIdx found]
  calc _ = (↑given + ↑(entries.map CachedBuffer.holding)) +
        (gathered PinnedBufferLease.holdings pool.leases +
          gathered (List.map CachedBuffer.holding) (pool.buckets.eraseIdx index) +
          gathered Operation.holdings pool.operations) := by abel
    _ = _ := by rw [same]; abel

end PinnedBufferPool

/-! ## Leases with a buffer belong to a pool -/

def PinnedBufferLease.Pooled (lease : PinnedBufferLease) : Prop :=
  lease.buffer.isSome → lease.pool = true

def Resumption.Pooled : Resumption → Prop
  | .assigned source => source.Pooled
  | _ => True

def Operation.Pooled : Operation → Prop
  | .releaseLoad _ _ next | .releasePush _ _ next => next.Pooled
  | .disposeMr _ next | .disposeData _ next => next.Pooled
  | .freeOnly _ _ => False
  | _ => True

def Progress.Pooled : Progress → Prop
  | .next operation => operation.Pooled
  | .returned leases => ∀ lease ∈ leases, lease.Pooled

@[simp] theorem PinnedBufferLease.pooled_empty : PinnedBufferLease.Pooled {} := by simp [Pooled]

theorem Resumption.Pooled.resume (pooled : next.Pooled) : next.resume.Pooled := by
  cases next with
  | destroyed => simp [Resumption.resume, Progress.Pooled]
  | assigned source =>
      have source_pooled : source.Pooled := pooled
      simpa [Resumption.resume, Progress.Pooled] using source_pooled
  | shutdown rest =>
      cases rest with
      | nil => simp [Resumption.resume, Progress.Pooled]
      | cons record rest => exact trivial

theorem PinnedBufferLease.Pooled.release (pooled : lease.Pooled) (resumes : next.Pooled) :
    (lease.release next).Pooled := by
  cases found : lease.buffer with
  | none =>
      simp only [PinnedBufferLease.release, found]
      exact resumes.resume
  | some record =>
      have belongs : lease.pool = true := pooled (by rw [found]; rfl)
      simp only [PinnedBufferLease.release, found, belongs, if_true]
      exact resumes

namespace PinnedBufferPool

/-- Every lease that has a buffer has its pool, also those held by a call. -/
structure Pooled (pool : PinnedBufferPool) : Prop where
  leases : ∀ lease ∈ pool.leases, lease.Pooled
  operations : ∀ operation ∈ pool.operations, operation.Pooled

theorem Performed.step (performed : Performed pool success operation after progress)
    (pooled : operation.Pooled) :
    (pool.custodyWith operation.holdings).Step (after.custodyWith progress.holdings) := by
  cases performed with
  | seesShut => exact .same _ rfl
  | seesOpen => exact .same _ rfl
  | misses => exact .same _ rfl
  | reuses capacity sizeClass bucket record found last =>
      have entries : bucket.map CachedBuffer.holding =
          bucket.dropLast.map CachedBuffer.holding ++ [record.holding] := by
        rw [← List.map_singleton, ← List.map_append, List.dropLast_append_getLast? record last]
      refine .same _ (setBucket_holdings found ?_)
      rw [entries]
      exact List.perm_append_comm
  | unallocated => exact .same _ rfl
  | allocates => exact .obtain _ rfl
  | unregistered => exact .same _ rfl
  | registers data => exact .attach data pool.holdings _ rfl rfl
  | frees data => exact .discard data _ rfl
  | refuses => exact .same _ rfl
  | accepts => exact .same _ rfl
  | unbucketed => exact .same _ rfl
  | overflows => exact .same _ rfl
  | pushes record sizeClass next bucket found room =>
      refine .same _ (setBucket_holdings found ?_)
      rw [next.resume_holdings, List.map_append, ← List.append_assoc]
      exact List.perm_append_comm
  | deregisters record next =>
      exact .detach record.data record.mr (next.holdings + pool.holdings) _ rfl rfl
  | disposes data next =>
      rw [next.resume_holdings]
      exact .discard data _ rfl
  | leaks => exact pooled.elim
  | alreadyShut => exact .same _ rfl
  | shuts => exact .same _ rfl
  | drained index toDestroy absent =>
      rw [Resumption.resume_holdings]
      exact .same _ rfl
  | drains index toDestroy bucket found =>
      refine .same _ (setBucket_holdings found ?_)
      simp only [Progress.holdings, Operation.holdings, List.map_append, List.map_nil,
        List.append_nil]
      exact .refl _

theorem Pooled.takeLease (pooled : pool.Pooled) : (pool.takeLease index).Pooled where
  leases _ member := pooled.leases _ (List.mem_of_mem_eraseIdx member)
  operations := pooled.operations

theorem Pooled.takeOperation (pooled : pool.Pooled) : (pool.takeOperation index).Pooled where
  leases := pooled.leases
  operations _ member := pooled.operations _ (List.mem_of_mem_eraseIdx member)

theorem Pooled.lease_at (pooled : pool.Pooled) (found : pool.leases[index]? = some lease) :
    lease.Pooled :=
  pooled.leases lease (List.mem_of_getElem? found)

theorem Pooled.settle (pooled : pool.Pooled) (kept : progress.Pooled) :
    (pool.settle progress).Pooled := by
  cases progress with
  | next operation =>
      refine ⟨pooled.leases, fun other member => ?_⟩
      rcases List.mem_append.mp member with old | new
      · exact pooled.operations other old
      · rw [List.mem_singleton.mp new]
        exact kept
  | returned leases =>
      refine ⟨fun other member => ?_, pooled.operations⟩
      rcases List.mem_append.mp member with old | new
      · exact pooled.leases other old
      · exact kept other new

theorem acquire_pooled (size : UInt64) : (pool.acquire size).Pooled := by
  rw [acquire]
  split
  · simp [Progress.Pooled]
  · split <;> exact trivial

theorem acquire_holdings (size : UInt64) : (pool.acquire size).holdings = [] := by
  rw [acquire]
  split
  · rfl
  · split <;> rfl

theorem Performed.kept (performed : Performed pool success operation after progress) :
    after.leases = pool.leases ∧ after.operations = pool.operations := by
  cases performed <;> exact ⟨rfl, rfl⟩

theorem Performed.pooled (performed : Performed pool success operation after progress)
    (pooled : operation.Pooled) : progress.Pooled := by
  cases performed with
  | reuses => simp [Progress.Pooled, PinnedBufferLease.Pooled]
  | unallocated => simp [Progress.Pooled]
  | registers => simp [Progress.Pooled, PinnedBufferLease.Pooled]
  | frees => simp [Progress.Pooled]
  | refuses => exact pooled
  | accepts => exact pooled
  | unbucketed => exact pooled
  | overflows => exact pooled
  | pushes record sizeClass next =>
      have resumes : next.Pooled := pooled
      exact resumes.resume
  | deregisters => exact pooled
  | disposes data next =>
      have resumes : next.Pooled := pooled
      exact resumes.resume
  | leaks => exact pooled.elim
  | alreadyShut => simp [Progress.Pooled]
  | drained index toDestroy =>
      have resumes : (Resumption.shutdown toDestroy).Pooled := trivial
      exact resumes.resume
  | _ => exact trivial

/-- Every event is a step of the custody, and leaves the pool with pooled leases. -/
theorem advance_step (pooled : pool.Pooled) (advanced : pool.advance event = some after) :
    pool.custody.Step after.custody ∧ after.Pooled := by
  cases event with
  | acquire size =>
      cases advanced
      refine ⟨?_, pooled.settle (acquire_pooled size)⟩
      rw [settle_custody, acquire_holdings]
      exact .same _ rfl
  | construct source =>
      obtain ⟨moved, found, rfl⟩ := Option.map_eq_some_iff.mp advanced
      refine ⟨?_, pooled.takeLease.settle ?_⟩
      · rw [settle_custody, custody, takeLease_custody found]
        exact .same _ rfl
      · simpa [Progress.Pooled] using pooled.lease_at found
  | assign target source =>
      obtain ⟨lease, found, assigned⟩ := Option.bind_eq_some_iff.mp advanced
      obtain ⟨moved, source_found, rfl⟩ := Option.map_eq_some_iff.mp assigned
      have moved_pooled : moved.Pooled := pooled.takeLease.lease_at source_found
      refine ⟨?_, pooled.takeLease.takeLease.settle ((pooled.lease_at found).release moved_pooled)⟩
      rw [settle_custody, custody, takeLease_custody found, takeLease_custody source_found,
        lease.release_holdings]
      refine .same _ (congrArg (· + _) (Multiset.coe_eq_coe.mpr ?_))
      simpa [Resumption.holdings] using List.perm_append_comm
  | assignSelf target =>
      obtain ⟨_, _, rfl⟩ := Option.map_eq_some_iff.mp advanced
      exact ⟨.same _ rfl, pooled⟩
  | destroy index =>
      obtain ⟨lease, found, rfl⟩ := Option.map_eq_some_iff.mp advanced
      refine ⟨?_, pooled.takeLease.settle ((pooled.lease_at found).release trivial)⟩
      rw [settle_custody, custody, takeLease_custody found, lease.release_holdings]
      exact .same _ rfl
  | shutdown =>
      cases advanced
      refine ⟨?_, pooled.settle trivial⟩
      rw [settle_custody]
      exact .same _ rfl
  | step index success =>
      obtain ⟨operation, found, rfl⟩ := Option.map_eq_some_iff.mp advanced
      have performed := (pool.takeOperation index).performed success operation
      have kept := performed.kept
      have operation_pooled := pooled.operations operation (List.mem_of_getElem? found)
      constructor
      · rw [settle_custody, takeOperation_custody found]
        exact performed.step operation_pooled
      · have rest : (pool.takeOperation index).Pooled := pooled.takeOperation
        refine Pooled.settle ⟨?_, ?_⟩ (performed.pooled operation_pooled)
        · rw [kept.1]
          exact rest.leases
        · rw [kept.2]
          exact rest.operations

def Owned (pool : PinnedBufferPool) : Prop :=
  pool.custody.Sound ∧ pool.Pooled

theorem owned_create (sizeClasses : List UInt64) (maxPerClass : Nat) :
    (create sizeClasses maxPerClass).Owned := by
  have nothing : (create sizeClasses maxPerClass).custody = {} := by
    simp [create, custody, custodyWith, holdings, gathered]
  refine ⟨?_, ⟨by simp [create], by simp [create]⟩⟩
  rw [nothing]
  exact Custody.sound_empty

theorem owned_invariant : system.Invariant Owned where
  initial := by
    rintro pool ⟨sizeClasses, maxPerClass, rfl⟩
    exact owned_create sizeClasses maxPerClass
  step := by
    intro before event after owned advanced
    obtain ⟨step, pooled⟩ := advance_step owned.2 advanced
    exact ⟨owned.1.step step, pooled⟩

/-- A buffer that was allocated and not freed is held once by the leases, the free lists
and the calls in progress together; MRs are deregistered once, and buffers freed once and
after their MR; and no lease takes the branch that leaks an MR. -/
theorem ownership_linear (reachable : system.Reachable pool) :
    (∀ data < pool.buffers.issued, data ∉ pool.buffers.returned →
      (pool.holdings.map (·.item)).count data = 1) ∧
    pool.regions.returned.Nodup ∧
    pool.buffers.returned.Nodup ∧
    (∀ mr < pool.regions.issued, mr ∉ pool.regions.returned →
      pool.bufferOf mr ∉ pool.buffers.returned) ∧
    (∀ lease ∈ pool.leases, lease.buffer.isSome → lease.pool = true) ∧
    ∀ record next, .freeOnly record next ∉ pool.operations := by
  obtain ⟨sound, pooled⟩ := owned_invariant.reachable reachable
  have holdings : pool.custody.holdings = pool.holdings := Multiset.zero_add _
  refine ⟨?_, sound.attachments.nodup_returned, sound.items.nodup_returned,
    fun mr known kept => sound.item_kept known kept, pooled.leases,
    fun record next member => pooled.operations _ member⟩
  intro data known kept
  rw [← holdings]
  exact sound.items.count_held known kept

def oneClass : PinnedBufferPool where
  sizeClasses := [4]
  maxPerClass := 1
  buckets := [[]]

def oneLeased : PinnedBufferPool :=
  { oneClass with
    buffers := ⟨1, 0⟩
    regions := ⟨1, 0⟩
    bufferOf := Function.update oneClass.bufferOf 0 0
    leases := [⟨true, some ⟨0, 4, 0⟩, 0⟩] }

theorem create_one : create [4] 1 = oneClass := by simp [create, oneClass]

theorem oneClass_reachable : system.Reachable oneClass :=
  .of_initial ⟨[4], 1, create_one.symm⟩

theorem first_buffer_held_once : (oneLeased.holdings.map (·.item)).count 0 = 1 := by
  have acquired : System.replay advance oneClass
      [.acquire 3, .step 0 true, .step 0 true, .step 0 true, .step 0 true] = some oneLeased := rfl
  have reachable := oneClass_reachable.run (.of_replay acquired)
  exact (ownership_linear reachable).1 0 (by decide) (by simp [oneLeased])

end PinnedBufferPool

end Us3Turbo.Backend
