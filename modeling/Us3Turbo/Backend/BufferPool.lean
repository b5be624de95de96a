import Us3Turbo.Data.Custody
import Us3Turbo.Transition.System

/-! # `backend/src/gds/buffer_pool.cpp`

Calls on the pool overlap: an `Operation` is where one of them stands, and one
step of it is one atomic access, one critical section or one call of
`cuObjServer`.  Host buffers and MRs are numbered as the server hands them out.
-/

namespace Us3Turbo.Backend

open Us3Turbo.Data Us3Turbo.Transition

/-- A buffer with its MR; neither pointer is null. -/
structure CachedBuffer where
  data : Nat
  capacity : UInt64
  mr : Nat
deriving DecidableEq, Repr

/-- `buffer` is `data_`, `capacity_` and `mr_`, which are set and cleared together;
`pool` is whether `pool_` is set. -/
structure PinnedBufferLease where
  pool : Bool := false
  buffer : Option CachedBuffer := none
  sizeClass : Nat := 0
deriving DecidableEq, Repr

inductive Resumption where
  | destroyed
  /-- A move assignment takes over the fields of `source` and clears them there. -/
  | assigned (source : PinnedBufferLease)
  | shutdown (rest : List CachedBuffer)
deriving DecidableEq, Repr

inductive Operation where
  | acquireLoad (capacity : UInt64) (sizeClass : Nat)
  | acquireReuse (capacity : UInt64) (sizeClass : Nat)
  | acquireAlloc (capacity : UInt64) (sizeClass : Nat)
  | acquireRegister (data : Nat) (capacity : UInt64) (sizeClass : Nat)
  | acquireFree (data : Nat)
  | releaseLoad (record : CachedBuffer) (sizeClass : Nat) (next : Resumption)
  | releasePush (record : CachedBuffer) (sizeClass : Nat) (next : Resumption)
  | disposeMr (record : CachedBuffer) (next : Resumption)
  | disposeData (data : Nat) (next : Resumption)
  /-- The branch of `PinnedBufferLease::Release` without a pool. -/
  | freeOnly (record : CachedBuffer) (next : Resumption)
  | shutdownSwap
  | shutdownDrain (index : Nat) (toDestroy : List CachedBuffer)
deriving DecidableEq, Repr

/-- A call goes on, or returns and leaves behind some lease objects. -/
inductive Progress where
  | next (operation : Operation)
  | returned (leases : List PinnedBufferLease)

def Resumption.resume : Resumption → Progress
  | .destroyed => .returned []
  | .assigned source => .returned [source, {}]
  | .shutdown [] => .returned []
  | .shutdown (record :: rest) => .next (.disposeMr record (.shutdown rest))

def PinnedBufferLease.release (lease : PinnedBufferLease) (next : Resumption) : Progress :=
  match lease.buffer with
  | none => next.resume
  | some record =>
      if lease.pool then .next (.releaseLoad record lease.sizeClass next)
      else .next (.freeOnly record next)

structure PinnedBufferPool where
  sizeClasses : List UInt64
  maxPerClass : Nat
  buckets : List (List CachedBuffer)
  shutdown : Bool := false
  buffers : Ledger := {}
  regions : Ledger := {}
  bufferOf : Nat → Nat := fun _ => 0
  leases : List PinnedBufferLease := []
  operations : List Operation := []

namespace PinnedBufferPool

def create (sizeClasses : List UInt64) (maxPerClass : Nat) : PinnedBufferPool where
  sizeClasses := sizeClasses.mergeSort fun left right => decide (left ≤ right)
  maxPerClass := maxPerClass
  buckets := List.replicate sizeClasses.length []

def pickClass (pool : PinnedBufferPool) (size : UInt64) : Nat :=
  pool.sizeClasses.findIdx fun capacity => capacity ≥ size

/-- `Acquire`, up to its first step. -/
def acquire (pool : PinnedBufferPool) (size : UInt64) : Progress :=
  if size = 0 then .returned [{}]
  else
    match pool.sizeClasses[pool.pickClass size]? with
    | none => .next (.acquireAlloc size pool.sizeClasses.length)
    | some capacity => .next (.acquireLoad capacity (pool.pickClass size))

def setBucket (pool : PinnedBufferPool) (index : Nat) (entries : List CachedBuffer) :
    PinnedBufferPool :=
  { pool with buckets := pool.buckets.set index entries }

def free (pool : PinnedBufferPool) (data : Nat) : PinnedBufferPool :=
  { pool with buffers := pool.buffers.giveBack data }

/-- One step of an operation; `success` is the answer of `allocHostBuffer` or
`registerBuffer` where the step asks one of them. -/
def perform (pool : PinnedBufferPool) (success : Bool) : Operation → PinnedBufferPool × Progress
  | .acquireLoad capacity sizeClass =>
      if pool.shutdown then (pool, .next (.acquireAlloc capacity sizeClass))
      else (pool, .next (.acquireReuse capacity sizeClass))
  | .acquireReuse capacity sizeClass =>
      match pool.buckets[sizeClass]? with
      | none => (pool, .next (.acquireAlloc capacity sizeClass))
      | some bucket =>
          match bucket.getLast? with
          | none => (pool, .next (.acquireAlloc capacity sizeClass))
          | some record =>
              (pool.setBucket sizeClass bucket.dropLast, .returned [⟨true, some record, sizeClass⟩])
  | .acquireAlloc capacity sizeClass =>
      if success then
        ({ pool with buffers := pool.buffers.issue },
          .next (.acquireRegister pool.buffers.issued capacity sizeClass))
      else (pool, .returned [{}])
  | .acquireRegister data capacity sizeClass =>
      if success then
        let mr := pool.regions.issued
        ({ pool with
            regions := pool.regions.issue
            bufferOf := Function.update pool.bufferOf mr data },
          .returned [⟨true, some ⟨data, capacity, mr⟩, sizeClass⟩])
      else (pool, .next (.acquireFree data))
  | .acquireFree data => (pool.free data, .returned [{}])
  | .releaseLoad record sizeClass next =>
      if pool.shutdown ∨ sizeClass ≥ pool.sizeClasses.length then
        (pool, .next (.disposeMr record next))
      else (pool, .next (.releasePush record sizeClass next))
  | .releasePush record sizeClass next =>
      match pool.buckets[sizeClass]? with
      -- there is a bucket for every size class
      | none => (pool, .next (.disposeMr record next))
      | some bucket =>
          if bucket.length ≥ pool.maxPerClass then (pool, .next (.disposeMr record next))
          else (pool.setBucket sizeClass (bucket ++ [record]), next.resume)
  | .disposeMr record next =>
      ({ pool with regions := pool.regions.giveBack record.mr }, .next (.disposeData record.data next))
  | .disposeData data next => (pool.free data, next.resume)
  | .freeOnly record next => (pool.free record.data, next.resume)
  | .shutdownSwap =>
      if pool.shutdown then (pool, .returned [])
      else ({ pool with shutdown := true }, .next (.shutdownDrain 0 []))
  | .shutdownDrain index toDestroy =>
      match pool.buckets[index]? with
      | none => (pool, (Resumption.shutdown toDestroy).resume)
      | some bucket =>
          (pool.setBucket index [], .next (.shutdownDrain (index + 1) (toDestroy ++ bucket)))

def settle (pool : PinnedBufferPool) : Progress → PinnedBufferPool
  | .next operation => { pool with operations := pool.operations ++ [operation] }
  | .returned leases => { pool with leases := pool.leases ++ leases }

/-- A call of some thread, or a step of an operation.  Leases and operations are named
by their place; the source of an assignment by its place once the target is set aside. -/
inductive Event where
  | acquire (size : UInt64)
  | construct (source : Nat)
  | assign (target source : Nat)
  | assignSelf (target : Nat)
  | destroy (lease : Nat)
  | shutdown
  | step (operation : Nat) (success : Bool)
deriving DecidableEq, Repr

def takeLease (pool : PinnedBufferPool) (index : Nat) : PinnedBufferPool :=
  { pool with leases := pool.leases.eraseIdx index }

def takeOperation (pool : PinnedBufferPool) (index : Nat) : PinnedBufferPool :=
  { pool with operations := pool.operations.eraseIdx index }

def advance (pool : PinnedBufferPool) : Event → Option PinnedBufferPool
  | .acquire size => some (pool.settle (pool.acquire size))
  | .construct source =>
      (pool.leases[source]?).map fun moved => (pool.takeLease source).settle (.returned [moved, {}])
  | .assign target source =>
      (pool.leases[target]?).bind fun lease =>
        let others := pool.takeLease target
        (others.leases[source]?).map fun moved =>
          (others.takeLease source).settle (lease.release (.assigned moved))
  | .assignSelf target => (pool.leases[target]?).map fun _ => pool
  | .destroy index =>
      (pool.leases[index]?).map fun lease =>
        (pool.takeLease index).settle (lease.release .destroyed)
  | .shutdown => some (pool.settle (.next .shutdownSwap))
  | .step index success =>
      (pool.operations[index]?).map fun operation =>
        let result := (pool.takeOperation index).perform success operation
        result.1.settle result.2

def system : System PinnedBufferPool Event :=
  .ofAdvance (fun pool => ∃ sizeClasses maxPerClass, pool = create sizeClasses maxPerClass) advance

/-! ## What one step does -/

/-- The ways a step of a call ends: the pool it leaves and how the call goes on. -/
inductive Performed (pool : PinnedBufferPool) (success : Bool) :
    Operation → PinnedBufferPool → Progress → Prop where
  | seesShut (capacity : UInt64) (sizeClass : Nat) (shut : pool.shutdown = true) :
      Performed pool success (.acquireLoad capacity sizeClass) pool
        (.next (.acquireAlloc capacity sizeClass))
  | seesOpen (capacity : UInt64) (sizeClass : Nat) (open_ : pool.shutdown = false) :
      Performed pool success (.acquireLoad capacity sizeClass) pool
        (.next (.acquireReuse capacity sizeClass))
  | misses (capacity : UInt64) (sizeClass : Nat)
      (empty : (pool.buckets[sizeClass]?).getD [] = []) :
      Performed pool success (.acquireReuse capacity sizeClass) pool
        (.next (.acquireAlloc capacity sizeClass))
  | reuses (capacity : UInt64) (sizeClass : Nat) (bucket : List CachedBuffer)
      (record : CachedBuffer) (found : pool.buckets[sizeClass]? = some bucket)
      (last : bucket.getLast? = some record) :
      Performed pool success (.acquireReuse capacity sizeClass)
        (pool.setBucket sizeClass bucket.dropLast) (.returned [⟨true, some record, sizeClass⟩])
  | unallocated (capacity : UInt64) (sizeClass : Nat) (refused : success = false) :
      Performed pool success (.acquireAlloc capacity sizeClass) pool (.returned [{}])
  | allocates (capacity : UInt64) (sizeClass : Nat) (granted : success = true) :
      Performed pool success (.acquireAlloc capacity sizeClass)
        { pool with buffers := pool.buffers.issue }
        (.next (.acquireRegister pool.buffers.issued capacity sizeClass))
  | unregistered (data : Nat) (capacity : UInt64) (sizeClass : Nat) (refused : success = false) :
      Performed pool success (.acquireRegister data capacity sizeClass) pool
        (.next (.acquireFree data))
  | registers (data : Nat) (capacity : UInt64) (sizeClass : Nat) (granted : success = true) :
      Performed pool success (.acquireRegister data capacity sizeClass)
        { pool with
          regions := pool.regions.issue
          bufferOf := Function.update pool.bufferOf pool.regions.issued data }
        (.returned [⟨true, some ⟨data, capacity, pool.regions.issued⟩, sizeClass⟩])
  | frees (data : Nat) :
      Performed pool success (.acquireFree data) (pool.free data) (.returned [{}])
  | refuses (record : CachedBuffer) (sizeClass : Nat) (next : Resumption)
      (refused : pool.shutdown ∨ sizeClass ≥ pool.sizeClasses.length) :
      Performed pool success (.releaseLoad record sizeClass next) pool (.next (.disposeMr record next))
  | accepts (record : CachedBuffer) (sizeClass : Nat) (next : Resumption)
      (accepted : ¬ (pool.shutdown ∨ sizeClass ≥ pool.sizeClasses.length)) :
      Performed pool success (.releaseLoad record sizeClass next) pool
        (.next (.releasePush record sizeClass next))
  | unbucketed (record : CachedBuffer) (sizeClass : Nat) (next : Resumption)
      (absent : pool.buckets[sizeClass]? = none) :
      Performed pool success (.releasePush record sizeClass next) pool (.next (.disposeMr record next))
  | overflows (record : CachedBuffer) (sizeClass : Nat) (next : Resumption)
      (bucket : List CachedBuffer) (found : pool.buckets[sizeClass]? = some bucket)
      (full : bucket.length ≥ pool.maxPerClass) :
      Performed pool success (.releasePush record sizeClass next) pool (.next (.disposeMr record next))
  | pushes (record : CachedBuffer) (sizeClass : Nat) (next : Resumption)
      (bucket : List CachedBuffer) (found : pool.buckets[sizeClass]? = some bucket)
      (room : bucket.length < pool.maxPerClass) :
      Performed pool success (.releasePush record sizeClass next)
        (pool.setBucket sizeClass (bucket ++ [record])) next.resume
  | deregisters (record : CachedBuffer) (next : Resumption) :
      Performed pool success (.disposeMr record next)
        { pool with regions := pool.regions.giveBack record.mr }
        (.next (.disposeData record.data next))
  | disposes (data : Nat) (next : Resumption) :
      Performed pool success (.disposeData data next) (pool.free data) next.resume
  | leaks (record : CachedBuffer) (next : Resumption) :
      Performed pool success (.freeOnly record next) (pool.free record.data) next.resume
  | alreadyShut (shut : pool.shutdown = true) :
      Performed pool success .shutdownSwap pool (.returned [])
  | shuts (open_ : pool.shutdown = false) :
      Performed pool success .shutdownSwap { pool with shutdown := true }
        (.next (.shutdownDrain 0 []))
  | drained (index : Nat) (toDestroy : List CachedBuffer) (absent : pool.buckets[index]? = none) :
      Performed pool success (.shutdownDrain index toDestroy) pool
        (Resumption.shutdown toDestroy).resume
  | drains (index : Nat) (toDestroy bucket : List CachedBuffer)
      (found : pool.buckets[index]? = some bucket) :
      Performed pool success (.shutdownDrain index toDestroy) (pool.setBucket index [])
        (.next (.shutdownDrain (index + 1) (toDestroy ++ bucket)))

theorem performed (pool : PinnedBufferPool) (success : Bool) (operation : Operation) :
    Performed pool success operation (pool.perform success operation).1
      (pool.perform success operation).2 := by
  cases operation with
  | acquireLoad capacity sizeClass =>
      cases shut : pool.shutdown with
      | false =>
          rw [perform, shut]
          exact .seesOpen capacity sizeClass shut
      | true =>
          rw [perform, shut]
          exact .seesShut capacity sizeClass shut
  | acquireReuse capacity sizeClass =>
      rw [perform]
      split
      · rename_i absent
        exact .misses capacity sizeClass (by rw [absent, Option.getD_none])
      · rename_i bucket found
        split
        · rename_i none_last
          have empty : bucket = [] := List.getLast?_eq_none_iff.mp none_last
          exact .misses capacity sizeClass (by rw [found, Option.getD_some, empty])
        · rename_i record last
          exact .reuses capacity sizeClass bucket record found last
  | acquireAlloc capacity sizeClass =>
      cases success with
      | false => exact .unallocated capacity sizeClass rfl
      | true => exact .allocates capacity sizeClass rfl
  | acquireRegister data capacity sizeClass =>
      cases success with
      | false => exact .unregistered data capacity sizeClass rfl
      | true => exact .registers data capacity sizeClass rfl
  | acquireFree data => exact .frees data
  | releaseLoad record sizeClass next =>
      rw [perform]
      split
      · rename_i refused
        exact .refuses record sizeClass next refused
      · rename_i accepted
        exact .accepts record sizeClass next accepted
  | releasePush record sizeClass next =>
      rw [perform]
      split
      · rename_i absent
        exact .unbucketed record sizeClass next absent
      · rename_i bucket found
        split
        · rename_i full
          exact .overflows record sizeClass next bucket found full
        · rename_i room
          exact .pushes record sizeClass next bucket found (Nat.lt_of_not_le room)
  | disposeMr record next => exact .deregisters record next
  | disposeData data next => exact .disposes data next
  | freeOnly record next => exact .leaks record next
  | shutdownSwap =>
      cases shut : pool.shutdown with
      | false =>
          rw [perform, shut]
          exact .shuts shut
      | true =>
          rw [perform, shut]
          exact .alreadyShut shut
  | shutdownDrain index toDestroy =>
      rw [perform]
      split
      · rename_i absent
        exact .drained index toDestroy absent
      · rename_i bucket found
        exact .drains index toDestroy bucket found

end PinnedBufferPool

end Us3Turbo.Backend
