import Us3Turbo.Backend.PoolFitting

/-! # The pool registers no more than it needs

Buffers of one size class are cached, leased or on their way back; an `Acquire`
that has missed will add one.  As long as the uses of the class never exceed what
its free list may hold, these four never add up to more than the uses did at once.
-/

namespace Us3Turbo.Backend

open Us3Turbo.Data Us3Turbo.Transition

/-! ## Without `Shutdown` -/

def Resumption.Running : Resumption → Prop
  | .shutdown _ => False
  | _ => True

/-- The operation is no part of a `Shutdown`. -/
def Operation.Running : Operation → Prop
  | .releaseLoad _ _ next | .releasePush _ _ next => next.Running
  | .disposeMr _ next | .disposeData _ next | .freeOnly _ next => next.Running
  | .shutdownSwap => False
  | .shutdownDrain _ _ => False
  | _ => True

def Progress.Running : Progress → Prop
  | .next operation => operation.Running
  | .returned _ => True

theorem Resumption.Running.resume {next : Resumption} (running : next.Running) :
    ∃ leases, next.resume = .returned leases := by
  cases next with
  | destroyed => exact ⟨_, rfl⟩
  | assigned source => exact ⟨_, rfl⟩
  | shutdown rest => exact running.elim

theorem PinnedBufferLease.release_running {next : Resumption} (lease : PinnedBufferLease)
    (running : next.Running) : (lease.release next).Running := by
  rw [release]
  split
  · obtain ⟨leases, returns⟩ := running.resume
    rw [returns]
    trivial
  · split <;> exact running

/-- The record of which a call is about to give back the MR. -/
def Operation.disposes : Operation → Option CachedBuffer
  | .disposeMr record _ => some record
  | _ => none

/-- The class that an `Acquire` is about to get a new buffer for. -/
def Operation.missed : Operation → Option Nat
  | .acquireAlloc _ sizeClass => some sizeClass
  | .acquireRegister _ _ sizeClass => some sizeClass
  | _ => none

/-- Where a call goes on, if it does. -/
def Progress.operations : Progress → List Operation
  | .next operation => [operation]
  | .returned _ => []

def Operation.looking (operation : Operation) : Option Nat := operation.asked.map (·.2)

namespace PinnedBufferPool

variable {pool after rest : PinnedBufferPool} {event : Event} {operation : Operation}
  {progress : Progress} {success : Bool} {index sizeClass : Nat} {lease : PinnedBufferLease}

/-! ## Counting one class -/

def ofClass (sizeClass : Nat) (records : List (CachedBuffer × Nat)) : Nat :=
  records.countP fun entry => entry.2 = sizeClass

def cached (pool : PinnedBufferPool) (sizeClass : Nat) : Nat :=
  ((pool.buckets[sizeClass]?).getD []).length

def held (pool : PinnedBufferPool) (sizeClass : Nat) : Nat :=
  pool.handed.countP fun entry => entry.2 = sizeClass

def lookers (pool : PinnedBufferPool) (sizeClass : Nat) : Nat :=
  pool.operations.countP fun operation => operation.looking = some sizeClass

def missing (pool : PinnedBufferPool) (sizeClass : Nat) : Nat :=
  pool.operations.countP fun operation => operation.missed = some sizeClass

/-- The uses of a class that overlap: an `Acquire` that has picked it, a lease of it, or
the `Release` of one.  An `Acquire` that only frees its buffer again and a record being
disposed of are not counted, which admits more runs. -/
def uses (pool : PinnedBufferPool) (sizeClass : Nat) : Nat :=
  pool.lookers sizeClass + pool.held sizeClass

theorem ofClass_cons {record : CachedBuffer} {other : Nat} {records : List (CachedBuffer × Nat)} :
    ofClass sizeClass ((record, other) :: records) =
      ofClass sizeClass records + if other = sizeClass then 1 else 0 := by
  simp [ofClass, List.countP_cons]

theorem ofClass_pos {entry : CachedBuffer × Nat} {records : List (CachedBuffer × Nat)}
    (member : entry ∈ records) (same : entry.2 = sizeClass) : 0 < ofClass sizeClass records :=
  List.countP_pos_iff.mpr ⟨entry, member, decide_eq_true same⟩

theorem setBucket_count {bucket : List CachedBuffer} (found : pool.buckets[index]? = some bucket)
    (entries : List CachedBuffer) :
    (pool.setBucket index entries).cached sizeClass =
      if index = sizeClass then entries.length else pool.cached sizeClass := by
  rw [cached, setBucket]
  split
  · rename_i same
    rw [same, List.getElem?_set_self (same ▸ (List.getElem?_eq_some_iff.mp found).1), Option.getD_some]
  · rename_i different
    rw [List.getElem?_set_ne different, cached]

theorem cached_of_found {bucket : List CachedBuffer} (found : pool.buckets[sizeClass]? = some bucket) :
    pool.cached sizeClass = bucket.length := by
  rw [cached, found, Option.getD_some]

/-- A free list with no room is of another class. -/
theorem full_elsewhere {bucket : List CachedBuffer} {entry : CachedBuffer × Nat}
    {records : List (CachedBuffer × Nat)}
    (spare : 0 < ofClass sizeClass records → pool.cached sizeClass < pool.maxPerClass)
    (member : entry ∈ records) (found : pool.buckets[entry.2]? = some bucket)
    (full : bucket.length ≥ pool.maxPerClass) : entry.2 ≠ sizeClass := by
  intro same
  have room := spare (ofClass_pos member same)
  rw [cached_of_found (same ▸ found)] at room
  omega

/-! ## One step of a call -/

section Performed

variable (performed : Performed pool success operation after progress) (running : operation.Running)
  (open_ : pool.shutdown = false) (configured : sizeClass < pool.sizeClasses.length)
  (bucketed : pool.buckets.length = pool.sizeClasses.length)
  (spare : 0 < ofClass sizeClass operation.records → pool.cached sizeClass < pool.maxPerClass)
include performed running open_ configured bucketed spare

/-- Buffers of a class that are cached or with the call change by what is registered. -/
theorem Performed.conserves :
    after.cached sizeClass + ofClass sizeClass progress.records =
      pool.cached sizeClass + ofClass sizeClass operation.records +
        (operation.registers success).countP (fun made => made.sizeClass = sizeClass) := by
  cases performed with
  | seesShut => rfl
  | seesOpen => rfl
  | misses => rfl
  | reuses capacity other bucket record found last =>
      have filled : 0 < bucket.length := by
        rw [List.length_pos_iff]
        rintro rfl
        cases last
      rw [setBucket_count found]
      by_cases same : other = sizeClass
      · subst same
        simp [Progress.records, PinnedBufferLease.records, ofClass, Operation.records,
          Operation.registers, cached_of_found found]
        omega
      · simp [Progress.records, PinnedBufferLease.records, ofClass, Operation.records,
          Operation.registers, same]
  | unallocated => rfl
  | allocates => rfl
  | unregistered _ _ _ refused =>
      rw [refused]
      rfl
  | registers _ _ _ granted =>
      simp [granted, Progress.records, PinnedBufferLease.records, ofClass, Operation.records,
        Operation.registers, PinnedBufferPool.cached]
  | frees => rfl
  | refuses record other next refused =>
      have different : other ≠ sizeClass := by
        simp only [open_, Bool.false_eq_true, false_or] at refused
        omega
      simp [Progress.records, Operation.records, Operation.registers, ofClass_cons, different]
  | accepts => rfl
  | unbucketed record other next absent =>
      have different : other ≠ sizeClass := by
        have outside := List.getElem?_eq_none_iff.mp absent
        omega
      simp [Progress.records, Operation.records, Operation.registers, ofClass_cons, different]
  | overflows record other next bucket found full =>
      have different : other ≠ sizeClass := full_elsewhere spare List.mem_cons_self found full
      simp [Progress.records, Operation.records, Operation.registers, ofClass_cons, different]
  | pushes record other next bucket found room =>
      rw [setBucket_count found, next.resume_records, Operation.records, ofClass_cons]
      by_cases same : other = sizeClass
      · subst same
        simp [cached_of_found found, Operation.registers]
        omega
      · simp [same, Operation.registers]
  | deregisters => rfl
  | disposes data next =>
      rw [next.resume_records]
      rfl
  | leaks record next =>
      rw [next.resume_records]
      rfl
  | alreadyShut => exact running.elim
  | shuts => exact running.elim
  | drained => exact running.elim
  | drains => exact running.elim

/-- A record that a step is about to dispose of is of another class. -/
theorem Performed.disposes_elsewhere {following : Operation} {record : CachedBuffer}
    (goes : progress = .next following) (disposes : following.disposes = some record) :
    ∃ other, (record, other) ∈ operation.records ∧ other ≠ sizeClass := by
  cases performed with
  | refuses mine other next refused =>
      cases goes
      cases disposes
      simp only [open_, Bool.false_eq_true, false_or] at refused
      exact ⟨other, List.mem_cons_self, by omega⟩
  | unbucketed mine other next absent =>
      cases goes
      cases disposes
      have outside := List.getElem?_eq_none_iff.mp absent
      exact ⟨other, List.mem_cons_self, by omega⟩
  | overflows mine other next bucket found full =>
      cases goes
      cases disposes
      exact ⟨other, List.mem_cons_self, full_elsewhere spare List.mem_cons_self found full⟩
  | pushes =>
      obtain ⟨leases, returns⟩ := Resumption.Running.resume running
      rw [returns] at goes
      cases goes
  | disposes =>
      obtain ⟨leases, returns⟩ := Resumption.Running.resume running
      rw [returns] at goes
      cases goes
  | leaks =>
      obtain ⟨leases, returns⟩ := Resumption.Running.resume running
      rw [returns] at goes
      cases goes
  | shuts => exact running.elim
  | drained => exact running.elim
  | drains => exact running.elim
  | _ => cases goes <;> cases disposes

end Performed

theorem Performed.running (performed : Performed pool success operation after progress)
    (running : operation.Running) : progress.Running := by
  cases performed with
  | refuses => exact running
  | accepts => exact running
  | unbucketed => exact running
  | overflows => exact running
  | pushes record sizeClass next =>
      have resumes : next.Running := running
      obtain ⟨leases, returns⟩ := resumes.resume
      rw [returns]
      trivial
  | deregisters => exact running
  | disposes data next =>
      have resumes : next.Running := running
      obtain ⟨leases, returns⟩ := resumes.resume
      rw [returns]
      trivial
  | leaks record next =>
      have resumes : next.Running := running
      obtain ⟨leases, returns⟩ := resumes.resume
      rw [returns]
      trivial
  | shuts => exact running.elim
  | drained => exact running.elim
  | drains => exact running.elim
  | _ => trivial

theorem missed_asked (idle : operation.asked = none) : operation.missed = none := by
  cases operation with
  | acquireAlloc => cases idle
  | acquireRegister => cases idle
  | _ => rfl

theorem looking_of_missed (missed : operation.missed = some sizeClass) :
    operation.looking = some sizeClass := by
  cases operation with
  | acquireAlloc => exact missed
  | acquireRegister => exact missed
  | _ => cases missed

theorem missing_le_lookers (pool : PinnedBufferPool) (sizeClass : Nat) :
    pool.missing sizeClass ≤ pool.lookers sizeClass := by
  apply List.countP_mono_left
  intro operation _ missed
  exact decide_eq_true (looking_of_missed (of_decide_eq_true missed))

theorem not_missed {progress : Progress} (idle : ¬ progress.Asks) :
    progress.operations.countP (fun operation => operation.missed = some sizeClass) = 0 := by
  cases progress with
  | returned leases => rfl
  | next operation =>
      have nothing : operation.asked = none := by simpa [Progress.Asks] using idle
      simp [Progress.operations, missed_asked nothing]

/-- A step misses no more than before, or the free list of the class was empty. -/
theorem Performed.missed (performed : Performed pool success operation after progress)
    (sizeClass : Nat) (open_ : pool.shutdown = false) :
    progress.operations.countP (fun operation => operation.missed = some sizeClass) +
        (operation.registers success).countP (fun made => made.sizeClass = sizeClass) ≤
      [operation].countP (fun operation => operation.missed = some sizeClass) ∨
    pool.cached sizeClass = 0 ∧ operation.looking = some sizeClass ∧ operation.missed = none ∧
      operation.registers success = [] := by
  cases asked : operation.asked with
  | none =>
      have nothing : operation.registers success = [] := by
        cases operation with
        | acquireRegister => cases asked
        | _ => rfl
      rw [not_missed (performed.not_asks asked), nothing]
      exact .inl (Nat.zero_le _)
  | some chosen =>
      cases performed with
      | seesShut _ _ shut =>
          rw [open_] at shut
          cases shut
      | seesOpen => exact .inl (Nat.zero_le _)
      | misses capacity other empty =>
          by_cases same : other = sizeClass
          · subst same
            exact .inr ⟨by rw [PinnedBufferPool.cached, empty]; rfl, rfl, rfl, rfl⟩
          · left
            simp [Progress.operations, Operation.missed, Operation.registers, same]
      | reuses => exact .inl (Nat.zero_le _)
      | unallocated => exact .inl (Nat.zero_le _)
      | allocates => exact .inl (Nat.le_refl _)
      | unregistered _ _ _ refused =>
          rw [refused]
          exact .inl (Nat.zero_le _)
      | registers _ _ _ granted =>
          left
          simp [granted, Progress.operations, Operation.missed, Operation.registers,
            List.countP_cons]
      | _ => cases asked

/-! ## One event -/

theorem settle_operations (pool : PinnedBufferPool) (progress : Progress) :
    (pool.settle progress).operations = pool.operations ++ progress.operations := by
  cases progress with
  | next operation => rfl
  | returned leases => exact (List.append_nil _).symm

theorem settle_held (pool : PinnedBufferPool) (progress : Progress) :
    (pool.settle progress).held sizeClass =
      ofClass sizeClass progress.records + pool.held sizeClass := by
  rw [held, settle_handed, Multiset.countP_add, Multiset.coe_countP, held, ofClass]

theorem settle_cached (pool : PinnedBufferPool) (progress : Progress) :
    (pool.settle progress).cached sizeClass = pool.cached sizeClass := by
  rw [cached, settle_buckets, cached]

theorem settle_missing (pool : PinnedBufferPool) (progress : Progress) :
    (pool.settle progress).missing sizeClass = pool.missing sizeClass +
      progress.operations.countP (fun operation => operation.missed = some sizeClass) := by
  rw [missing, settle_operations, List.countP_append, missing]

theorem held_taken (found : pool.operations[index]? = some operation) :
    pool.held sizeClass =
      ofClass sizeClass operation.records + (pool.takeOperation index).held sizeClass := by
  rw [held, takeOperation_handed found, Multiset.countP_add, Multiset.coe_countP, held, ofClass]

theorem count_taken (found : pool.operations[index]? = some operation) (wanted : Operation → Bool) :
    pool.operations.countP wanted =
      [operation].countP wanted + (pool.takeOperation index).operations.countP wanted := by
  obtain ⟨bound, rfl⟩ := List.getElem?_eq_some_iff.mp found
  rw [← (List.getElem_cons_eraseIdx_perm bound).countP_eq wanted, ← List.singleton_append,
    List.countP_append, takeOperation]

theorem Performed.held (performed : Performed pool success operation after progress) :
    after.held sizeClass = pool.held sizeClass := by
  rw [PinnedBufferPool.held, performed.handed, PinnedBufferPool.held]

theorem Performed.missing (performed : Performed pool success operation after progress) :
    after.missing sizeClass = pool.missing sizeClass := by
  rw [PinnedBufferPool.missing, performed.kept.2, PinnedBufferPool.missing]

theorem acquire_missed (configured : sizeClass < pool.sizeClasses.length) (size : UInt64) :
    (pool.acquire size).operations.countP (fun operation => operation.missed = some sizeClass) = 0 := by
  rw [acquire]
  split
  · rfl
  · split
    · have different : pool.sizeClasses.length ≠ sizeClass := by omega
      simp [Progress.operations, Operation.missed, different]
    · rfl

/-- There is room for what the call brings back, as there is for all that is held. -/
theorem spare_taken (found : pool.operations[index]? = some operation)
    (spare : 0 < pool.held sizeClass → pool.cached sizeClass < pool.maxPerClass)
    (mine : 0 < ofClass sizeClass operation.records) :
    (pool.takeOperation index).cached sizeClass < (pool.takeOperation index).maxPerClass := by
  have held : pool.held sizeClass = _ := held_taken found
  exact spare (by omega)

/-- What an event does to the buffers of a class, `fresh` of which it registers. -/
structure Balance (pool after : PinnedBufferPool) (sizeClass fresh : Nat) : Prop where
  conserves : after.cached sizeClass + after.held sizeClass =
    pool.cached sizeClass + pool.held sizeClass + fresh
  misses : after.missing sizeClass + fresh ≤ pool.missing sizeClass ∨
    pool.cached sizeClass = 0 ∧ fresh = 0 ∧ after.missing sizeClass ≤ pool.missing sizeClass + 1 ∧
      pool.missing sizeClass + 1 ≤ pool.lookers sizeClass

theorem step_balance (found : pool.operations[index]? = some operation) (running : operation.Running)
    (open_ : pool.shutdown = false) (configured : sizeClass < pool.sizeClasses.length)
    (bucketed : pool.buckets.length = pool.sizeClasses.length)
    (spare : 0 < pool.held sizeClass → pool.cached sizeClass < pool.maxPerClass) :
    Balance pool (((pool.takeOperation index).perform success operation).1.settle
      ((pool.takeOperation index).perform success operation).2) sizeClass
      ((operation.registers success).countP fun made => made.sizeClass = sizeClass) := by
  have held : pool.held sizeClass = _ := held_taken found
  have missing := count_taken found fun operation => operation.missed = some sizeClass
  have lookers := count_taken found fun operation => operation.looking = some sizeClass
  have performed := (pool.takeOperation index).performed success operation
  have conserves := performed.conserves running open_ configured bucketed (spare_taken found spare)
  constructor
  · rw [settle_cached, settle_held, performed.held]
    have same : (pool.takeOperation index).cached sizeClass = pool.cached sizeClass := rfl
    omega
  · rw [settle_missing, performed.missing]
    have rest := missing_le_lookers (pool.takeOperation index) sizeClass
    simp only [PinnedBufferPool.missing, PinnedBufferPool.lookers] at rest ⊢
    rcases performed.missed sizeClass open_ with
      fewer | ⟨empty, looks, unmissed, nothing⟩
    · left
      omega
    · right
      have one : ((pool.takeOperation index).perform success operation).2.operations.countP
          (fun operation => operation.missed = some sizeClass) ≤ 1 := by
        refine Nat.le_trans List.countP_le_length ?_
        cases ((pool.takeOperation index).perform success operation).2 <;> simp [Progress.operations]
      simp only [List.countP_singleton, looks, unmissed] at missing lookers
      refine ⟨empty, by rw [nothing]; rfl, ?_, ?_⟩
      · simp at missing
        omega
      · simp at missing lookers
        omega

theorem Begins.running (begins : Begins event progress) (open_ : event ≠ .shutdown) :
    progress.Running := by
  cases begins with
  | returns => trivial
  | destroys event lease => exact lease.release_running trivial
  | assigns event lease moved => exact lease.release_running trivial
  | shutdown => exact absurd rfl open_

theorem Begins.not_disposes (begins : Begins event progress) :
    ∀ operation ∈ progress.operations, operation.disposes = none := by
  have released (lease : PinnedBufferLease) {next : Resumption} (running : next.Running) :
      ∀ operation ∈ (lease.release next).operations, operation.disposes = none := by
    obtain ⟨leases, returns⟩ := running.resume
    intro operation member
    rw [PinnedBufferLease.release] at member
    split at member
    · rw [returns] at member
      cases member
    · split at member <;> (rw [List.mem_singleton.mp member]; rfl)
  cases begins with
  | returns =>
      intro operation member
      cases member
  | destroys event lease => exact released lease trivial
  | assigns event lease moved => exact released lease trivial
  | shutdown =>
      intro operation member
      rw [List.mem_singleton.mp member]
      rfl

theorem acquire_running (pool : PinnedBufferPool) (size : UInt64) : (pool.acquire size).Running := by
  rw [acquire]
  split
  · trivial
  · split <;> trivial

theorem acquire_not_disposes (pool : PinnedBufferPool) (size : UInt64) :
    ∀ operation ∈ (pool.acquire size).operations, operation.disposes = none := by
  intro operation member
  rw [acquire] at member
  split at member
  · cases member
  · split at member <;> (rw [List.mem_singleton.mp member]; rfl)

theorem Performed.returned (performed : Performed pool success operation after progress) :
    after.regions.returned = pool.regions.returned ∨
      ∃ record, operation.disposes = some record ∧
        after.regions.returned = record.mr ::ₘ pool.regions.returned := by
  cases performed with
  | deregisters record => exact .inr ⟨record, rfl, rfl⟩
  | _ => exact .inl rfl

theorem Enacted.operations (enacted : Enacted pool event rest progress) :
    ∀ operation ∈ rest.operations, operation ∈ pool.operations := by
  cases enacted with
  | acquire size => exact fun _ => id
  | move event rest progress demands calls same =>
      rw [same]
      exact fun _ => id
  | step index success operation found =>
      rw [((pool.takeOperation index).performed success operation).kept.2]
      exact fun _ => List.mem_of_mem_eraseIdx

theorem Enacted.open_ (enacted : Enacted pool event rest progress) (open_ : pool.shutdown = false)
    (running : ∀ operation ∈ pool.operations, operation.Running) : rest.shutdown = false := by
  cases enacted with
  | acquire size => exact open_
  | move event rest progress demands calls same =>
      rw [same]
      exact open_
  | step index success operation found =>
      have performed := (pool.takeOperation index).performed success operation
      rcases performed.shutdown with same | ⟨rfl, _⟩
      · rw [same]
        exact open_
      · exact (running _ (List.mem_of_getElem? found)).elim

theorem Enacted.running (enacted : Enacted pool event rest progress) (keeps : event ≠ .shutdown)
    (running : ∀ operation ∈ pool.operations, operation.Running) : progress.Running := by
  cases enacted with
  | acquire size => exact acquire_running pool size
  | move event rest progress demands calls same begins => exact begins.running keeps
  | step index success operation found =>
      have performed := (pool.takeOperation index).performed success operation
      exact performed.running (running operation (List.mem_of_getElem? found))

theorem Enacted.returned (enacted : Enacted pool event rest progress) :
    rest.regions.returned = pool.regions.returned ∨
      ∃ operation ∈ pool.operations, ∃ record, operation.disposes = some record ∧
        rest.regions.returned = record.mr ::ₘ pool.regions.returned := by
  cases enacted with
  | acquire size => exact .inl rfl
  | move event rest progress demands calls same =>
      rw [same]
      exact .inl rfl
  | step index success operation found =>
      have performed := (pool.takeOperation index).performed success operation
      rcases performed.returned with same | ⟨record, disposes, returned⟩
      · exact .inl same
      · exact .inr ⟨operation, List.mem_of_getElem? found, record, disposes, returned⟩

/-! ## The account of one class -/

namespace Account

variable {account next : Account} {configured : List UInt64} {maxPerClass bound mr : Nat}

def registeredFor (account : Account) (sizeClass : Nat) : Nat :=
  account.registrations.countP fun made => made.sizeClass = sizeClass

/-- The class that an MR was registered for. -/
def classOf (account : Account) (mr : Nat) : Option Nat :=
  (account.registrations[mr]?).map (·.sizeClass)

/-- The runs without `Shutdown` in which the uses of a class never exceed `bound`. -/
def lightly (configured : List UInt64) (maxPerClass sizeClass bound : Nat) : System Account Event :=
  (system configured maxPerClass).restrict fun _ event next =>
    event ≠ .shutdown ∧ next.pool.uses sizeClass ≤ bound

def Elsewhere (account : Account) (sizeClass mr : Nat) : Prop :=
  ∃ other, account.classOf mr = some other ∧ other ≠ sizeClass

structure Thrifty (sizeClass bound : Nat) (account : Account) : Prop where
  open_ : account.pool.shutdown = false
  running : ∀ operation ∈ account.pool.operations, operation.Running
  used : account.pool.uses sizeClass ≤ bound
  accounted : account.registeredFor sizeClass =
    account.pool.cached sizeClass + account.pool.held sizeClass
  bounded : account.registeredFor sizeClass + account.pool.missing sizeClass ≤ bound
  undisposed : ∀ operation ∈ account.pool.operations, ∀ record,
    operation.disposes = some record → account.Elsewhere sizeClass record.mr
  kept : ∀ mr ∈ account.pool.regions.returned, account.Elsewhere sizeClass mr

theorem Elsewhere.append (elsewhere : account.Elsewhere sizeClass mr) {made : List Registration}
    (registrations : next.registrations = account.registrations ++ made) :
    next.Elsewhere sizeClass mr := by
  obtain ⟨other, found, different⟩ := elsewhere
  obtain ⟨registration, known, rfl⟩ := Option.map_eq_some_iff.mp found
  refine ⟨_, ?_, different⟩
  rw [classOf, registrations,
    List.getElem?_append_left (List.getElem?_eq_some_iff.mp known).1, known, Option.map_some]

theorem thrifty_create : (create configured maxPerClass).Thrifty sizeClass bound := by
  have empty : (create configured maxPerClass).pool.cached sizeClass = 0 := by
    rw [PinnedBufferPool.cached]
    cases found : (create configured maxPerClass).pool.buckets[sizeClass]? with
    | none => rfl
    | some bucket =>
        rw [List.eq_of_mem_replicate (List.mem_of_getElem? found)]
        rfl
  refine ⟨rfl, nofun, Nat.zero_le _, ?_, Nat.zero_le _, nofun, nofun⟩
  rw [empty]
  rfl

theorem Fitting.inside (fitting : account.Fitting configured maxPerClass)
    (known : sizeClass < configured.length) : sizeClass < account.pool.sizeClasses.length := by
  rw [fitting.shaped.classes]
  simpa [PinnedBufferPool.create] using known

theorem Thrifty.spare (thrifty : account.Thrifty sizeClass bound)
    (fitting : account.Fitting configured maxPerClass) (small : bound ≤ maxPerClass)
    (held : 0 < account.pool.held sizeClass) :
    account.pool.cached sizeClass < account.pool.maxPerClass := by
  have accounted := thrifty.accounted
  have bounded := thrifty.bounded
  rw [fitting.shaped.limit]
  omega

theorem Thrifty.balance (thrifty : account.Thrifty sizeClass bound)
    (fitting : account.Fitting configured maxPerClass) (small : bound ≤ maxPerClass)
    (known : sizeClass < configured.length)
    (enacted : Enacted account.pool event rest progress) :
    Balance account.pool (rest.settle progress) sizeClass
      ((account.registered event).countP fun made => made.sizeClass = sizeClass) := by
  have inside := fitting.inside known
  cases enacted with
  | acquire size =>
      constructor
      · rw [settle_cached, settle_held, acquire_records]
        simp [ofClass, registered]
      · left
        rw [settle_missing, acquire_missed inside]
        exact Nat.le_refl _
  | move event rest progress demands calls same begins records =>
      have held : (rest.settle progress).held sizeClass = account.pool.held sizeClass := by
        rw [settle_held, PinnedBufferPool.held, PinnedBufferPool.held, ← records,
          Multiset.countP_add, Multiset.coe_countP, ofClass]
      constructor
      · rw [held, settle_cached, registered_move calls, same]
        rfl
      · left
        rw [settle_missing, not_missed begins.not_asks, registered_move calls, same]
        exact Nat.le_refl _
  | step index success operation found =>
      rw [registered_step found]
      exact step_balance found (thrifty.running operation (List.mem_of_getElem? found))
        thrifty.open_ inside fitting.shaped.buckets (thrifty.spare fitting small)

/-- What is about to be disposed of is of another class. -/
theorem Thrifty.disposes (thrifty : account.Thrifty sizeClass bound)
    (fitting : account.Fitting configured maxPerClass) (small : bound ≤ maxPerClass)
    (known : sizeClass < configured.length)
    (enacted : Enacted account.pool event rest progress) {record : CachedBuffer}
    (member : operation ∈ progress.operations) (disposes : operation.disposes = some record) :
    account.Elsewhere sizeClass record.mr := by
  cases enacted with
  | acquire size =>
      rw [acquire_not_disposes _ _ operation member] at disposes
      cases disposes
  | move event rest progress demands calls same begins =>
      rw [begins.not_disposes operation member] at disposes
      cases disposes
  | step index success taken found =>
      have spare := spare_taken found (thrifty.spare fitting small)
      cases goes : ((account.pool.takeOperation index).perform success taken).2 with
      | returned leases =>
          rw [goes] at member
          cases member
      | next following =>
          rw [goes] at member
          rw [List.mem_singleton.mp member] at disposes
          have performed := (account.pool.takeOperation index).performed success taken
          obtain ⟨other, mine, different⟩ := performed.disposes_elsewhere
            (thrifty.running taken (List.mem_of_getElem? found)) thrifty.open_
            (fitting.inside known) fitting.shaped.buckets spare goes disposes
          have has : account.pool.Has (record, other) := by
            rw [Has, takeOperation_handed found, Multiset.mem_add]
            exact .inl (.inl mine)
          have registered : account.Knows (record, other) := fitting.known _ has
          refine ⟨other, ?_, different⟩
          rw [classOf, registered, Option.map_some]

theorem Thrifty.step (thrifty : account.Thrifty sizeClass bound)
    (fitting : account.Fitting configured maxPerClass) (small : bound ≤ maxPerClass)
    (known : sizeClass < configured.length) (advanced : account.advance event = some next)
    (keeps : event ≠ .shutdown) (light : next.pool.uses sizeClass ≤ bound) :
    next.Thrifty sizeClass bound := by
  obtain ⟨rest, progress, enacted, _, pool, registrations, _⟩ :=
    advance_eq_some advanced fitting.owned.2
  obtain ⟨conserves, misses⟩ := thrifty.balance fitting small known enacted
  rw [← pool] at conserves misses
  have registered : next.registeredFor sizeClass = account.registeredFor sizeClass +
      (account.registered event).countP (fun made => made.sizeClass = sizeClass) := by
    rw [registeredFor, registrations, List.countP_append, registeredFor]
  have accounted := thrifty.accounted
  have bounded := thrifty.bounded
  have used := thrifty.used
  rw [uses] at used
  refine ⟨?_, ?_, light, by omega, by omega, ?_, ?_⟩
  · rw [pool, settle_shutdown]
    exact enacted.open_ thrifty.open_ thrifty.running
  · intro operation member
    rw [pool, settle_operations] at member
    rcases List.mem_append.mp member with old | new
    · exact thrifty.running operation (enacted.operations operation old)
    · have running := enacted.running keeps thrifty.running
      cases progress with
      | returned leases => cases new
      | next following =>
          rw [List.mem_singleton.mp new]
          exact running
  · intro operation member record disposes
    rw [pool, settle_operations] at member
    rcases List.mem_append.mp member with old | new
    · have elsewhere := thrifty.undisposed operation (enacted.operations operation old) record disposes
      exact elsewhere.append registrations
    · exact (thrifty.disposes fitting small known enacted new disposes).append registrations
  · intro mr member
    rw [pool, settle_regions] at member
    rcases enacted.returned with same | ⟨operation, here, record, disposes, returned⟩
    · rw [same] at member
      exact (thrifty.kept mr member).append registrations
    · rw [returned] at member
      rcases Multiset.mem_cons.mp member with rfl | old
      · exact (thrifty.undisposed operation here record disposes).append registrations
      · exact (thrifty.kept mr old).append registrations

theorem thrifty_invariant (small : bound ≤ maxPerClass) (known : sizeClass < configured.length) :
    (lightly configured maxPerClass sizeClass bound).Invariant fun account =>
      account.Fitting configured maxPerClass ∧ account.Thrifty sizeClass bound where
  initial := by
    rintro account rfl
    exact ⟨fitting_create, thrifty_create⟩
  step := by
    rintro account event next ⟨fitting, thrifty⟩ ⟨advanced, keeps, light⟩
    exact ⟨fitting.step advanced, thrifty.step fitting small known advanced keeps light⟩

/-- While the uses of a class that overlap never exceed what its free list may hold, the
whole run registers no more buffers for it than that, and disposes of none. -/
theorem registrations_bounded (small : bound ≤ maxPerClass) (known : sizeClass < configured.length)
    (reachable : (lightly configured maxPerClass sizeClass bound).Reachable account) :
    account.registeredFor sizeClass ≤ bound ∧
    (∀ record next, .disposeMr record next ∈ account.pool.operations →
      account.classOf record.mr ≠ some sizeClass) ∧
    ∀ mr ∈ account.pool.regions.returned, account.classOf mr ≠ some sizeClass := by
  obtain ⟨_, thrifty⟩ := (thrifty_invariant small known).reachable reachable
  have apart {mr : Nat} (elsewhere : account.Elsewhere sizeClass mr) :
      account.classOf mr ≠ some sizeClass := by
    obtain ⟨other, found, different⟩ := elsewhere
    rw [found]
    exact fun same => different (Option.some.inj same)
  refine ⟨?_, ?_, fun mr member => apart (thrifty.kept mr member)⟩
  · have bounded := thrifty.bounded
    omega
  · intro record next member
    exact apart (thrifty.undisposed _ member record rfl)

/-- An `Acquire(3)` that goes as far as its lease, which is destroyed; then another one. -/
def acquireTwice : List Event :=
  [.acquire 3, .step 0 true, .step 0 true, .step 0 true, .step 0 true, .destroy 0, .step 0 true,
    .step 0 true, .acquire 3, .step 0 true, .step 0 true]

def leasedTwice : Account where
  pool := oneLeased
  registrations := [⟨0, 4, 0⟩]

/-- Whether an event keeps a run of `lightly` within one use of the first class. -/
def once (account : Account) (event : Event) : Bool :=
  event ≠ .shutdown && ((account.advance event).all fun next => next.pool.uses 0 ≤ 1)

theorem registered_once : leasedTwice.registeredFor 0 ≤ 1 := by
  have start : create [4] 1 = { pool := oneClass } := congrArg (Account.mk · [] []) create_one
  have replayed : System.replay (System.guarded once advance) { pool := oneClass } acquireTwice =
      some leasedTwice := rfl
  have guarded : ((system [4] 1).restrict fun account event _ => account.once event = true).Run
      { pool := oneClass } acquireTwice leasedTwice := .of_guarded replayed
  have agree {before after : Account} {event : Event} (_ : True)
      (step : before.advance event = some after) :
      before.once event = true ↔ event ≠ .shutdown ∧ after.pool.uses 0 ≤ 1 := by
    simp [once, step]
  have run : (lightly [4] 1 0 1).Run { pool := oneClass } acquireTwice leasedTwice :=
    (System.restrict_run_iff (fun _ => True) agree (fun _ _ _ => trivial) trivial).mp guarded
  exact (registrations_bounded (Nat.le_refl 1) (by decide) ⟨_, _, start.symm, run⟩).1

end Account

end PinnedBufferPool

end Us3Turbo.Backend
