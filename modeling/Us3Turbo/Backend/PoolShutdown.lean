import Us3Turbo.Backend.PoolCustody

/-! # What `Shutdown` leaves behind

`Release` reads `shutdown_` before it takes the lock of its bucket.  A call that read
`false` may push after `Shutdown` has drained that bucket, which nothing drains again.
-/

namespace Us3Turbo.Backend

open Us3Turbo.Data Us3Turbo.Transition

variable {success : Bool} {operation : Operation} {next : Resumption} {progress : Progress}

/-- A `Release` that has read `shutdown_` as unset and has yet to push to its bucket. -/
def Operation.pushesTo (index : Nat) : Operation → Bool
  | .releasePush _ sizeClass _ => sizeClass = index
  | _ => false

def Progress.Pushes (progress : Progress) : Prop :=
  ∃ operation index, progress = .next operation ∧ operation.pushesTo index = true

theorem Progress.next_not_push (quiet : ∀ index, operation.pushesTo index = false) :
    ¬ (Progress.next operation).Pushes := by
  rintro ⟨_, index, same, pushes⟩
  cases same
  rw [quiet index] at pushes
  cases pushes

theorem Progress.returned_not_push (leases : List PinnedBufferLease) :
    ¬ (Progress.returned leases).Pushes := by
  rintro ⟨_, _, next, _⟩
  cases next

theorem Resumption.resume_not_push (next : Resumption) : ¬ next.resume.Pushes := by
  cases next with
  | destroyed => exact Progress.returned_not_push _
  | assigned source => exact Progress.returned_not_push _
  | shutdown toDestroy =>
      cases toDestroy with
      | nil => exact Progress.returned_not_push _
      | cons record rest => exact Progress.next_not_push fun _ => rfl

theorem PinnedBufferLease.release_not_push (lease : PinnedBufferLease) (next : Resumption) :
    ¬ (lease.release next).Pushes := by
  rw [release]
  split
  · exact next.resume_not_push
  · split <;> exact Progress.next_not_push fun _ => rfl

namespace PinnedBufferPool

variable {pool after later : PinnedBufferPool} {event : Event} {index : Nat} {events : List Event}

def Pending (pool : PinnedBufferPool) (index : Nat) : Prop :=
  ∃ operation ∈ pool.operations, operation.pushesTo index = true

def DrainAhead (pool : PinnedBufferPool) (index : Nat) : Prop :=
  ∃ first ≤ index, ∃ toDestroy, .shutdownDrain first toDestroy ∈ pool.operations

/-- The bucket is empty, and nothing is about to be pushed to it. -/
def Emptied (pool : PinnedBufferPool) (index : Nat) : Prop :=
  index < pool.buckets.length →
    pool.buckets[index]? = some [] ∧ (pool.maxPerClass = 0 ∨ ¬ pool.Pending index)

theorem acquire_not_push (size : UInt64) : ¬ (pool.acquire size).Pushes := by
  rw [acquire]
  split
  · exact Progress.returned_not_push _
  · split <;> exact Progress.next_not_push fun _ => rfl

theorem Performed.not_push (performed : Performed pool success operation after progress)
    (shut : pool.shutdown = true) : ¬ progress.Pushes := by
  cases performed with
  | reuses => exact Progress.returned_not_push _
  | unallocated => exact Progress.returned_not_push _
  | registers => exact Progress.returned_not_push _
  | frees => exact Progress.returned_not_push _
  | accepts record sizeClass next accepted => exact absurd (.inl shut) accepted
  | pushes record sizeClass next => exact next.resume_not_push
  | disposes data next => exact next.resume_not_push
  | leaks record next => exact next.resume_not_push
  | alreadyShut => exact Progress.returned_not_push _
  | drained => exact Resumption.resume_not_push _
  | _ => exact Progress.next_not_push fun _ => rfl

theorem Performed.fixed (performed : Performed pool success operation after progress) :
    after.maxPerClass = pool.maxPerClass ∧ after.buckets.length = pool.buckets.length := by
  cases performed with
  | reuses => exact ⟨rfl, List.length_set⟩
  | pushes => exact ⟨rfl, List.length_set⟩
  | drains => exact ⟨rfl, List.length_set⟩
  | _ => exact ⟨rfl, rfl⟩

/-- The flag is set by `compare_exchange_strong` alone, and never cleared. -/
theorem Performed.shutdown (performed : Performed pool success operation after progress) :
    after.shutdown = pool.shutdown ∨
      operation = .shutdownSwap ∧ pool.shutdown = false ∧ after.shutdown = true ∧
        progress = .next (.shutdownDrain 0 []) := by
  cases performed with
  | shuts open_ => exact .inr ⟨rfl, open_, rfl, rfl⟩
  | _ => exact .inl rfl

theorem Performed.emptied (performed : Performed pool success operation after progress)
    (found : pool.buckets[index]? = some [])
    (quiet : pool.maxPerClass = 0 ∨ operation.pushesTo index = false) :
    after.buckets[index]? = some [] := by
  cases performed with
  | reuses capacity sizeClass bucket record other last =>
      have distinct : sizeClass ≠ index := by
        rintro rfl
        rw [found, Option.some.injEq] at other
        rw [← other] at last
        cases last
      simpa [setBucket, List.getElem?_set_ne distinct] using found
  | pushes record sizeClass next bucket other room =>
      have distinct : sizeClass ≠ index := by
        rintro rfl
        rcases quiet with none_kept | quiet
        · simp [none_kept] at room
        · simp [Operation.pushesTo] at quiet
      simpa [setBucket, List.getElem?_set_ne distinct] using found
  | drains first toDestroy bucket other =>
      by_cases same : first = index
      · subst same
        exact List.getElem?_set_self (List.getElem?_eq_some_iff.mp found).1
      · simpa [setBucket, List.getElem?_set_ne same] using found
  | _ => exact found

/-! ## What an event does to the free lists -/

section Settle

variable (pool) (progress)

@[simp] theorem settle_buckets : (pool.settle progress).buckets = pool.buckets := by
  cases progress <;> rfl

@[simp] theorem settle_maxPerClass : (pool.settle progress).maxPerClass = pool.maxPerClass := by
  cases progress <;> rfl

@[simp] theorem settle_shutdown : (pool.settle progress).shutdown = pool.shutdown := by
  cases progress <;> rfl

end Settle

theorem settle_pending (quiet : ¬ progress.Pushes) (pending : (pool.settle progress).Pending index) :
    pool.Pending index := by
  cases progress with
  | returned leases => exact pending
  | next operation =>
      obtain ⟨other, member, pushes⟩ := pending
      rcases List.mem_append.mp member with old | new
      · exact ⟨other, old, pushes⟩
      · rw [List.mem_singleton] at new
        subst new
        exact absurd ⟨other, index, rfl, pushes⟩ quiet

theorem settle_keeps (member : operation ∈ pool.operations) (progress : Progress) :
    operation ∈ (pool.settle progress).operations := by
  cases progress with
  | returned leases => exact member
  | next other => exact List.mem_append_left _ member

/-- Where an event leads: to a first step of a call, or to the next step of one. -/
inductive Effect (pool : PinnedBufferPool) : Event → PinnedBufferPool → Prop where
  | call {event : Event} (rest : PinnedBufferPool) (progress : Progress)
      (shutdown : rest.shutdown = pool.shutdown) (maxPerClass : rest.maxPerClass = pool.maxPerClass)
      (buckets : rest.buckets = pool.buckets) (operations : rest.operations = pool.operations)
      (quiet : ¬ progress.Pushes) :
      Effect pool event (rest.settle progress)
  | step (index : Nat) (success : Bool) (operation : Operation)
      (found : pool.operations[index]? = some operation) :
      Effect pool (.step index success)
        (((pool.takeOperation index).perform success operation).1.settle
          ((pool.takeOperation index).perform success operation).2)

theorem effect (advanced : pool.advance event = some after) : Effect pool event after := by
  cases event with
  | acquire size =>
      cases advanced
      exact .call pool _ rfl rfl rfl rfl (acquire_not_push size)
  | construct source =>
      obtain ⟨moved, _, rfl⟩ := Option.map_eq_some_iff.mp advanced
      exact .call _ _ rfl rfl rfl rfl (Progress.returned_not_push _)
  | assign target source =>
      obtain ⟨lease, _, assigned⟩ := Option.bind_eq_some_iff.mp advanced
      obtain ⟨moved, _, rfl⟩ := Option.map_eq_some_iff.mp assigned
      exact .call _ _ rfl rfl rfl rfl (lease.release_not_push _)
  | assignSelf target =>
      obtain ⟨lease, _, rfl⟩ := Option.map_eq_some_iff.mp advanced
      have nothing : pool.settle (.returned []) = pool := by simp [settle]
      rw [← nothing]
      exact .call _ _ rfl rfl rfl rfl (Progress.returned_not_push _)
  | destroy index =>
      obtain ⟨lease, _, rfl⟩ := Option.map_eq_some_iff.mp advanced
      exact .call _ _ rfl rfl rfl rfl (lease.release_not_push _)
  | shutdown =>
      cases advanced
      exact .call pool _ rfl rfl rfl rfl (Progress.next_not_push fun _ => rfl)
  | step index success =>
      obtain ⟨operation, found, rfl⟩ := Option.map_eq_some_iff.mp advanced
      exact .step index success operation found

/-- After `shutdown_` is set, a bucket that is empty with no push to come stays so. -/
theorem Emptied.step (emptied : pool.Emptied index) (shut : pool.shutdown = true)
    (effect : Effect pool event after) : after.Emptied index := by
  cases effect with
  | call rest progress shutdown maxPerClass buckets operations quiet =>
      rw [Emptied, settle_buckets, settle_maxPerClass, buckets, maxPerClass]
      intro bound
      obtain ⟨found, idle⟩ := emptied bound
      refine ⟨found, idle.imp_right fun idle pending => idle ?_⟩
      have pending := settle_pending quiet pending
      rwa [Pending, operations] at pending
  | step taken success operation taken_found =>
      have performed := (pool.takeOperation taken).performed success operation
      have fixed := performed.fixed
      rw [Emptied, settle_buckets, settle_maxPerClass, fixed.1, fixed.2]
      intro bound
      obtain ⟨found, idle⟩ := emptied bound
      constructor
      · refine performed.emptied found (idle.imp_right fun idle => ?_)
        rw [← Bool.not_eq_true]
        exact fun pushes => idle ⟨operation, List.mem_of_getElem? taken_found, pushes⟩
      · refine idle.imp_right fun idle pending => idle ?_
        have quiet : ¬ ((pool.takeOperation taken).perform success operation).2.Pushes :=
          performed.not_push shut
        obtain ⟨other, member, pushes⟩ := settle_pending quiet pending
        rw [performed.kept.2] at member
        exact ⟨other, List.mem_of_mem_eraseIdx member, pushes⟩

/-- A bucket is drained with no push to it to come, unless none is ever kept. -/
def drainsLast (pool : PinnedBufferPool) : Event → Bool
  | .step taken _ =>
      match pool.operations[taken]? with
      | some (.shutdownDrain index _) => pool.maxPerClass = 0 || !pool.operations.any (·.pushesTo index)
      | _ => true
  | _ => true

def drainingLast : System PinnedBufferPool Event :=
  system.restrict fun pool event _ => pool.drainsLast event = true

/-- Every bucket is emptied or still ahead of `Shutdown`, once the flag is set. -/
def Closing (pool : PinnedBufferPool) : Prop :=
  pool.shutdown = true → ∀ index, pool.Emptied index ∨ pool.DrainAhead index

theorem mem_takeOperation {other : Operation} (found : pool.operations[index]? = some operation) :
    other ∈ pool.operations ↔
      other = operation ∨ other ∈ (pool.takeOperation index).operations := by
  obtain ⟨bound, rfl⟩ := List.getElem?_eq_some_iff.mp found
  rw [← (List.getElem_cons_eraseIdx_perm bound).mem_iff, List.mem_cons, takeOperation]

/-- A drain step empties its bucket and goes on to the next one. -/
theorem DrainAhead.step (ahead : pool.DrainAhead index)
    (guarded : pool.drainsLast event = true) (effect : Effect pool event after) :
    after.Emptied index ∨ after.DrainAhead index := by
  obtain ⟨first, before, toDestroy, member⟩ := ahead
  cases effect with
  | call rest progress shutdown maxPerClass buckets operations quiet =>
      rw [← operations] at member
      exact .inr ⟨first, before, toDestroy, settle_keeps member progress⟩
  | step taken success operation found =>
      rcases (mem_takeOperation found).mp member with rfl | other
      · cases bucket : pool.buckets[first]? with
        | none =>
            left
            intro bound
            have performed :=
              (pool.takeOperation taken).performed success (.shutdownDrain first toDestroy)
            rw [settle_buckets, performed.fixed.2] at bound
            have inside : index < pool.buckets.length := bound
            have outside := List.getElem?_eq_none_iff.mp bucket
            omega
        | some entries =>
            have result : (pool.takeOperation taken).perform success (.shutdownDrain first toDestroy) =
                ((pool.takeOperation taken).setBucket first [],
                  .next (.shutdownDrain (first + 1) (toDestroy ++ entries))) := by
              simp [perform, takeOperation, bucket]
            rw [result]
            rcases Nat.eq_or_lt_of_le before with rfl | further
            · left
              have bound := (List.getElem?_eq_some_iff.mp bucket).1
              intro _
              have last : pool.maxPerClass = 0 ∨ ¬ pool.Pending first := by
                simpa [drainsLast, found, Pending] using guarded
              refine ⟨List.getElem?_set_self bound, last.imp_right fun idle pending => idle ?_⟩
              obtain ⟨other, member, pushes⟩ :=
                settle_pending (Progress.next_not_push fun _ => rfl) pending
              exact ⟨other, List.mem_of_mem_eraseIdx member, pushes⟩
            · right
              exact ⟨first + 1, further, toDestroy ++ entries,
                List.mem_append_right _ (List.mem_singleton.mpr rfl)⟩
      · right
        rw [← ((pool.takeOperation taken).performed success operation).kept.2] at other
        exact ⟨first, before, toDestroy, settle_keeps other _⟩

theorem closing_step (closing : pool.Closing) (guarded : pool.drainsLast event = true)
    (effect : Effect pool event after) : after.Closing := by
  intro shut index
  cases before : pool.shutdown with
  | true =>
      rcases closing before index with emptied | ahead
      · exact .inl (emptied.step before effect)
      · exact ahead.step guarded effect
  | false =>
      -- only the exchange sets the flag, and it goes on to the first bucket
      cases effect with
      | call rest progress shutdown => simp [shutdown, before] at shut
      | step taken success operation found =>
          rw [settle_shutdown] at shut
          rcases ((pool.takeOperation taken).performed success operation).shutdown with
            same | ⟨_, _, _, drain⟩
          · rw [same] at shut
            have unset : (pool.takeOperation taken).shutdown = false := before
            rw [unset] at shut
            cases shut
          · right
            rw [drain]
            exact ⟨0, Nat.zero_le index, [], List.mem_append_right _ (List.mem_singleton.mpr rfl)⟩

theorem closing_invariant : drainingLast.Invariant Closing where
  initial := by
    rintro pool ⟨sizeClasses, maxPerClass, rfl⟩ shut
    cases shut
  step closing step := closing_step closing step.2 (effect step.1)

def Closed (pool : PinnedBufferPool) : Prop :=
  pool.shutdown = true ∧ ∀ index, pool.Emptied index

theorem Closed.step (closed : pool.Closed) (effect : Effect pool event after) : after.Closed := by
  refine ⟨?_, fun index => (closed.2 index).step closed.1 effect⟩
  cases effect with
  | call rest progress shutdown =>
      rw [settle_shutdown, shutdown]
      exact closed.1
  | step taken success operation found =>
      rw [settle_shutdown]
      rcases ((pool.takeOperation taken).performed success operation).shutdown with
        same | ⟨_, _, set, _⟩
      · rw [same]
        exact closed.1
      · exact set

theorem Closed.run (closed : pool.Closed) (run : system.Run pool events later) : later.Closed := by
  induction run with
  | nil => exact closed
  | cons head _ ih => exact ih (closed.step (effect head))

theorem Closed.bucket (closed : pool.Closed) : ∀ bucket ∈ pool.buckets, bucket = [] := by
  intro bucket member
  obtain ⟨index, bound, rfl⟩ := List.getElem_of_mem member
  have found := (closed.2 index bound).1
  rwa [List.getElem?_eq_getElem bound, Option.some.injEq] at found

/-- Once the exchange was won and every bucket drained, the free lists are empty in every
later state; and with no call in progress and no buffer leased everything was given back. -/
theorem shutdown_drains (reachable : drainingLast.Reachable pool)
    (shut : pool.shutdown = true)
    (drained : ∀ index toDestroy, .shutdownDrain index toDestroy ∉ pool.operations)
    (run : system.Run pool events later) :
    (∀ bucket ∈ later.buckets, bucket = []) ∧
      (later.operations = [] → (∀ lease ∈ later.leases, lease.buffer = none) →
        later.regions.returned = Multiset.range later.regions.issued ∧
          later.buffers.returned = Multiset.range later.buffers.issued) := by
  have closed : pool.Closed := by
    refine ⟨shut, fun index => ?_⟩
    rcases closing_invariant.reachable reachable shut index with
      emptied | ⟨first, _, toDestroy, member⟩
    · exact emptied
    · exact absurd member (drained first toDestroy)
  have empty := (closed.run run).bucket
  refine ⟨empty, fun idle free => ?_⟩
  have owned := owned_invariant.reachable ((System.Reachable.of_restrict reachable).run run)
  have nothing : later.custody.holdings = 0 := by
    have leases : gathered PinnedBufferLease.holdings later.leases = 0 :=
      gathered_empty fun lease member => by simp [PinnedBufferLease.holdings, free lease member]
    have buckets : gathered (List.map CachedBuffer.holding) later.buckets = 0 :=
      gathered_empty fun bucket member => by simp [empty bucket member]
    simp [custody, custodyWith, holdings, leases, buckets, idle]
  exact (owned.1.all_returned nothing).symm

/-- A `Release` reads the flag before the exchange and pushes after the drain; the
destructor's own `Shutdown` then returns at once. -/
def lateRelease : List Event :=
  [.acquire 3, .step 0 true, .step 0 true, .step 0 true, .step 0 true,
    .destroy 0, .step 0 true,
    .shutdown, .step 1 true, .step 1 true, .step 1 true,
    .step 0 true,
    .shutdown, .step 0 true]

def oneCached : PinnedBufferPool :=
  { oneLeased with leases := [], buckets := [[⟨0, 4, 0⟩]], shutdown := true }

theorem late_release_left_behind :
    system.Reachable oneCached ∧ oneCached.shutdown = true ∧
      oneCached.operations = [] ∧ oneCached.leases = [] ∧
      ¬ (∀ bucket ∈ oneCached.buckets, bucket = []) ∧
      0 ∉ oneCached.regions.returned ∧ 0 ∉ oneCached.buffers.returned := by
  have reached : System.replay advance oneClass lateRelease = some oneCached := rfl
  refine ⟨oneClass_reachable.run (.of_replay reached), rfl, rfl, rfl, ?_, ?_, ?_⟩ <;>
    simp [oneCached, oneLeased]

def punctualRelease : List Event :=
  [.acquire 3, .step 0 true, .step 0 true, .step 0 true, .step 0 true,
    .destroy 0, .step 0 true, .step 0 true,
    .shutdown, .step 0 true, .step 0 true, .step 0 true, .step 0 true, .step 0 true]

def oneReturned : PinnedBufferPool :=
  { oneLeased with
    leases := []
    shutdown := true
    buffers := ⟨1, {0}⟩
    regions := ⟨1, {0}⟩ }

theorem punctual_release_returned :
    (∀ bucket ∈ oneReturned.buckets, bucket = []) ∧
      oneReturned.regions.returned = Multiset.range 1 ∧
      oneReturned.buffers.returned = Multiset.range 1 := by
  have reached : System.replay (System.guarded drainsLast advance) oneClass punctualRelease =
      some oneReturned := rfl
  have drains := shutdown_drains ⟨oneClass, _, ⟨[4], 1, create_one.symm⟩, .of_guarded reached⟩ rfl
    (by simp [oneReturned, oneLeased, oneClass]) (.nil oneReturned)
  exact ⟨drains.1, drains.2 rfl (by simp [oneReturned])⟩

end PinnedBufferPool

end Us3Turbo.Backend
