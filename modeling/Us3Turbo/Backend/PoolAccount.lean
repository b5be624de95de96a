import Mathlib.Data.List.Forall2
import Us3Turbo.Backend.PoolShutdown

/-! # What a pool registers and hands out

An `Account` is a pool with the registrations it has made and, for each call in
progress, the bytes that its `Acquire` was asked for.  The pool in it takes the same
steps as by itself.
-/

namespace Us3Turbo.Backend

open Us3Turbo.Data Us3Turbo.Transition

/-- A `registerBuffer` that succeeded, with the class of the lease it was made for. -/
structure Registration where
  data : Nat
  length : UInt64
  sizeClass : Nat
deriving DecidableEq, Repr

/-- What the step of a call registers. -/
def Operation.registers (success : Bool) : Operation → List Registration
  | .acquireRegister data capacity sizeClass => if success then [⟨data, capacity, sizeClass⟩] else []
  | _ => []

namespace PinnedBufferPool

/-- What an event takes out of the pool, and where the call it belongs to goes. -/
def outcome (pool : PinnedBufferPool) : Event → Option (PinnedBufferPool × Progress)
  | .acquire size => some (pool, pool.acquire size)
  | .construct source =>
      (pool.leases[source]?).map fun moved => (pool.takeLease source, .returned [moved, {}])
  | .assign target source =>
      (pool.leases[target]?).bind fun lease =>
        let others := pool.takeLease target
        (others.leases[source]?).map fun moved =>
          (others.takeLease source, lease.release (.assigned moved))
  | .assignSelf target => (pool.leases[target]?).map fun _ => (pool, .returned [])
  | .destroy index =>
      (pool.leases[index]?).map fun lease => (pool.takeLease index, lease.release .destroyed)
  | .shutdown => some (pool, .next .shutdownSwap)
  | .step index success =>
      (pool.operations[index]?).map fun operation => (pool.takeOperation index).perform success operation

theorem advance_outcome (pool : PinnedBufferPool) (event : Event) :
    pool.advance event = (pool.outcome event).map fun result => result.1.settle result.2 := by
  cases event with
  | acquire size => rfl
  | construct source =>
      rw [advance, outcome, Option.map_map]
      rfl
  | assign target source =>
      rw [advance, outcome]
      cases pool.leases[target]? with
      | none => rfl
      | some lease =>
          simp only [Option.bind_some, Option.map_map]
          rfl
  | assignSelf target =>
      rw [advance, outcome, Option.map_map]
      simp [settle, Function.comp_def]
  | destroy index =>
      rw [advance, outcome, Option.map_map]
      rfl
  | shutdown => rfl
  | step index success =>
      rw [advance, outcome, Option.map_map]
      rfl

/-! ## The account -/

/-- The registration with the MR number `n` is the `n`-th one; `demands` goes along
with the operations of the pool. -/
structure Account where
  pool : PinnedBufferPool
  registrations : List Registration := []
  demands : List (Option UInt64) := []

namespace Account

variable {account next : Account}

def create (sizeClasses : List UInt64) (maxPerClass : Nat) : Account where
  pool := .create sizeClasses maxPerClass

/-- The bytes that the `Acquire` of an event was asked for. -/
def demand (account : Account) : Event → Option UInt64
  | .acquire size => some size
  | .step index _ => (account.demands[index]?).join
  | _ => none

def others (account : Account) : Event → List (Option UInt64)
  | .step index _ => account.demands.eraseIdx index
  | _ => account.demands

def registered (account : Account) : Event → List Registration
  | .step index success =>
      (account.pool.operations[index]?).elim [] (Operation.registers success)
  | _ => []

def settle (account : Account) (demand : Option UInt64) (progress : Progress) : Account where
  pool := account.pool.settle progress
  registrations := account.registrations
  demands := match progress with
    | .next _ => account.demands ++ [demand]
    | .returned _ => account.demands

def advance (account : Account) (event : Event) : Option Account :=
  (account.pool.outcome event).map fun result =>
    let taken : Account := {
      pool := result.1
      registrations := account.registrations ++ account.registered event
      demands := account.others event }
    taken.settle (account.demand event) result.2

/-- What an `Acquire` returns in an event, with the bytes it was asked for. -/
def grants (account : Account) (event : Event) : List (UInt64 × PinnedBufferLease) :=
  match account.demand event, account.pool.outcome event with
  | some size, some (_, .returned leases) => leases.map fun lease => (size, lease)
  | _, _ => []

def system (sizeClasses : List UInt64) (maxPerClass : Nat) : System Account Event :=
  .ofAdvance (fun account => account = create sizeClasses maxPerClass) advance

theorem advance_pool (account : Account) (event : Event) :
    (account.advance event).map (·.pool) = account.pool.advance event := by
  rw [advance_outcome, advance, Option.map_map]
  rfl

theorem reachable_pool {sizeClasses : List UInt64} {maxPerClass : Nat}
    (reachable : (system sizeClasses maxPerClass).Reachable account) :
    PinnedBufferPool.system.Reachable account.pool := by
  obtain ⟨start, events, rfl, run⟩ := reachable
  have initial : PinnedBufferPool.system.Reachable (create sizeClasses maxPerClass).pool :=
    .of_initial ⟨sizeClasses, maxPerClass, rfl⟩
  generalize create sizeClasses maxPerClass = start at run initial
  induction run with
  | nil => exact initial
  | @cons before middle after event events head _ ih =>
      have step : before.pool.advance event = some middle.pool :=
        (advance_pool before event).symm.trans (congrArg (Option.map (·.pool)) head)
      exact ih (initial.step step)

end Account

end PinnedBufferPool

/-! ## Buffers on their way, with the class they count for -/

def PinnedBufferLease.records (lease : PinnedBufferLease) : List (CachedBuffer × Nat) :=
  lease.buffer.toList.map fun record => (record, lease.sizeClass)

def Resumption.records : Resumption → List (CachedBuffer × Nat)
  | .assigned source => source.records
  | _ => []

/-- A record that is being disposed of counts for no class. -/
def Operation.records : Operation → List (CachedBuffer × Nat)
  | .releaseLoad record sizeClass next => (record, sizeClass) :: next.records
  | .releasePush record sizeClass next => (record, sizeClass) :: next.records
  | .disposeMr _ next => next.records
  | .disposeData _ next => next.records
  | .freeOnly _ next => next.records
  | _ => []

def Progress.records : Progress → List (CachedBuffer × Nat)
  | .next operation => operation.records
  | .returned leases => leases.flatMap PinnedBufferLease.records

@[simp] theorem PinnedBufferLease.records_empty : PinnedBufferLease.records {} = [] := rfl

theorem Resumption.resume_records (next : Resumption) : next.resume.records = next.records := by
  cases next with
  | destroyed => rfl
  | assigned source => simp [resume, Progress.records, records]
  | shutdown rest =>
      cases rest with
      | nil => rfl
      | cons record rest => rfl

theorem PinnedBufferLease.Pooled.release_records {lease : PinnedBufferLease} (pooled : lease.Pooled)
    (next : Resumption) : (lease.release next).records = lease.records ++ next.records := by
  cases found : lease.buffer with
  | none => simp [PinnedBufferLease.release, records, found, next.resume_records]
  | some record =>
      have belongs : lease.pool = true := pooled (by rw [found]; rfl)
      simp [PinnedBufferLease.release, records, found, belongs, Progress.records, Operation.records]

/-! ## Calls that look for a buffer -/

/-- The capacity and the class that an `Acquire` is about to get a buffer of. -/
def Operation.asked : Operation → Option (UInt64 × Nat)
  | .acquireLoad capacity sizeClass => some (capacity, sizeClass)
  | .acquireReuse capacity sizeClass => some (capacity, sizeClass)
  | .acquireAlloc capacity sizeClass => some (capacity, sizeClass)
  | .acquireRegister _ capacity sizeClass => some (capacity, sizeClass)
  | _ => none

def Progress.Asks : Progress → Prop
  | .next operation => operation.asked.isSome
  | .returned _ => False

theorem Progress.next_not_asks {operation : Operation} (idle : operation.asked = none) :
    ¬ (Progress.next operation).Asks := by
  rw [Asks, idle]
  simp

theorem Progress.returned_not_asks (leases : List PinnedBufferLease) :
    ¬ (Progress.returned leases).Asks := id

theorem Resumption.resume_not_asks (next : Resumption) : ¬ next.resume.Asks := by
  cases next with
  | destroyed => exact Progress.returned_not_asks _
  | assigned source => exact Progress.returned_not_asks _
  | shutdown rest =>
      cases rest with
      | nil => exact Progress.returned_not_asks _
      | cons record rest => exact Progress.next_not_asks rfl

theorem PinnedBufferLease.release_not_asks (lease : PinnedBufferLease) (next : Resumption) :
    ¬ (lease.release next).Asks := by
  rw [release]
  split
  · exact next.resume_not_asks
  · split <;> exact Progress.next_not_asks rfl

namespace PinnedBufferPool

variable {pool rest : PinnedBufferPool} {event : Event} {operation : Operation}
  {progress : Progress} {success : Bool} {index : Nat} {lease : PinnedBufferLease}

/-- What leases and calls have, apart from what is being disposed of. -/
def handed (pool : PinnedBufferPool) : Multiset (CachedBuffer × Nat) :=
  ↑(pool.leases.flatMap PinnedBufferLease.records) + ↑(pool.operations.flatMap Operation.records)

theorem settle_handed (pool : PinnedBufferPool) (progress : Progress) :
    (pool.settle progress).handed = ↑progress.records + pool.handed := by
  cases progress with
  | next operation =>
      simp only [settle, handed, List.flatMap_append, List.flatMap_singleton, ← Multiset.coe_add,
        Progress.records]
      abel
  | returned leases =>
      simp only [settle, handed, List.flatMap_append, ← Multiset.coe_add, Progress.records]
      abel

theorem takeLease_handed (found : pool.leases[index]? = some lease) :
    pool.handed = ↑lease.records + (pool.takeLease index).handed := by
  obtain ⟨bound, rfl⟩ := List.getElem?_eq_some_iff.mp found
  have order := (List.getElem_cons_eraseIdx_perm bound).flatMap_right PinnedBufferLease.records
  rw [handed, ← Multiset.coe_eq_coe.mpr order, List.flatMap_cons, ← Multiset.coe_add, handed, takeLease,
    add_assoc]

theorem takeOperation_handed (found : pool.operations[index]? = some operation) :
    pool.handed = ↑operation.records + (pool.takeOperation index).handed := by
  obtain ⟨bound, rfl⟩ := List.getElem?_eq_some_iff.mp found
  have order := (List.getElem_cons_eraseIdx_perm bound).flatMap_right Operation.records
  rw [handed, ← Multiset.coe_eq_coe.mpr order, List.flatMap_cons, ← Multiset.coe_add, handed,
    takeOperation, add_left_comm]

theorem Performed.handed (performed : Performed pool success operation rest progress) :
    rest.handed = pool.handed := by
  obtain ⟨leases, operations⟩ := performed.kept
  rw [PinnedBufferPool.handed, leases, operations, PinnedBufferPool.handed]

/-- The first step of a call other than `Acquire`. -/
inductive Begins : Event → Progress → Prop where
  | returns (event : Event) (leases : List PinnedBufferLease) : Begins event (.returned leases)
  | destroys (event : Event) (lease : PinnedBufferLease) : Begins event (lease.release .destroyed)
  | assigns (event : Event) (lease moved : PinnedBufferLease) :
      Begins event (lease.release (.assigned moved))
  | shutdown : Begins .shutdown (.next .shutdownSwap)

theorem Begins.not_asks (begins : Begins event progress) : ¬ progress.Asks := by
  cases begins with
  | returns => exact Progress.returned_not_asks _
  | destroys => exact PinnedBufferLease.release_not_asks _ _
  | assigns => exact PinnedBufferLease.release_not_asks _ _
  | shutdown => exact Progress.next_not_asks rfl

/-- An event is a call of some thread or a step of a call. -/
inductive Enacted (pool : PinnedBufferPool) : Event → PinnedBufferPool → Progress → Prop where
  | acquire (size : UInt64) : Enacted pool (.acquire size) pool (pool.acquire size)
  | move (event : Event) (rest : PinnedBufferPool) (progress : Progress)
      (demands : ∀ size, event ≠ .acquire size) (calls : ∀ index success, event ≠ .step index success)
      (same : rest = { pool with leases := rest.leases }) (begins : Begins event progress)
      (records : ↑progress.records + rest.handed = pool.handed) :
      Enacted pool event rest progress
  | step (index : Nat) (success : Bool) (operation : Operation)
      (found : pool.operations[index]? = some operation) :
      Enacted pool (.step index success) ((pool.takeOperation index).perform success operation).1
        ((pool.takeOperation index).perform success operation).2

theorem outcome_enacted (pooled : pool.Pooled) (enacted : pool.outcome event = some (rest, progress)) :
    Enacted pool event rest progress := by
  cases event with
  | acquire size =>
      cases enacted
      exact .acquire size
  | construct source =>
      obtain ⟨moved, found, same⟩ := Option.map_eq_some_iff.mp enacted
      cases same
      refine .move _ _ _ nofun nofun rfl (.returns _ _) ?_
      simp [takeLease_handed found, Progress.records]
  | assign target source =>
      obtain ⟨lease, found, assigned⟩ := Option.bind_eq_some_iff.mp enacted
      obtain ⟨moved, source_found, same⟩ := Option.map_eq_some_iff.mp assigned
      cases same
      refine .move _ _ _ nofun nofun rfl (.assigns _ lease moved) ?_
      rw [(pooled.lease_at found).release_records, takeLease_handed found, takeLease_handed source_found,
        ← Multiset.coe_add, add_assoc]
      rfl
  | assignSelf target =>
      obtain ⟨lease, found, same⟩ := Option.map_eq_some_iff.mp enacted
      cases same
      exact .move _ _ _ nofun nofun rfl (.returns _ _) (zero_add _)
  | destroy index =>
      obtain ⟨lease, found, same⟩ := Option.map_eq_some_iff.mp enacted
      cases same
      refine .move _ _ _ nofun nofun rfl (.destroys _ lease) ?_
      have nothing : Resumption.destroyed.records = [] := rfl
      rw [(pooled.lease_at found).release_records, takeLease_handed found, nothing, List.append_nil]
  | shutdown =>
      cases enacted
      exact .move _ _ _ nofun nofun rfl .shutdown (zero_add _)
  | step index success =>
      obtain ⟨operation, found, same⟩ := Option.map_eq_some_iff.mp enacted
      rw [Prod.ext_iff] at same
      obtain ⟨rfl, rfl⟩ := same
      exact .step index success operation found

def Cached (pool : PinnedBufferPool) (entry : CachedBuffer × Nat) : Prop :=
  ∃ bucket, pool.buckets[entry.2]? = some bucket ∧ entry.1 ∈ bucket

end PinnedBufferPool

end Us3Turbo.Backend
