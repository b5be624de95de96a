import Us3Turbo.Backend.PoolAccount

/-! # Leases fit, and buckets stay well formed

Whatever the size classes, a buffer only ever counts for the class it was
registered for, and `PickClass` finds the least class that is large enough.
-/

namespace Us3Turbo.Backend

open Us3Turbo.Data Us3Turbo.Transition

namespace PinnedBufferPool

variable {pool after rest : PinnedBufferPool} {event : Event} {operation : Operation}
  {progress : Progress} {success : Bool} {index sizeClass : Nat} {lease : PinnedBufferLease}
  {entry : CachedBuffer × Nat} {sizeClasses configured : List UInt64} {size capacity : UInt64}
  {maxPerClass : Nat}

/-! ## The class of a request -/

/-- The capacity and the class that `Acquire` settles on. -/
def choice (sizeClasses : List UInt64) (size : UInt64) : UInt64 × Nat :=
  let sizeClass := sizeClasses.findIdx fun capacity => capacity ≥ size
  ((sizeClasses[sizeClass]?).getD size, sizeClass)

/-- `capacity` is the least configured class that `size` fits in, or `size` itself. -/
def LeastFit (configured : List UInt64) (size capacity : UInt64) : Prop :=
  (capacity ∈ configured ∧ size ≤ capacity ∧
    ∀ other ∈ configured, size ≤ other → capacity ≤ other) ∨
  ((∀ other ∈ configured, other < size) ∧ capacity = size)

theorem LeastFit.fits (least : LeastFit configured size capacity) : size ≤ capacity := by
  rcases least with ⟨_, fits, _⟩ | ⟨_, rfl⟩
  · exact fits
  · exact UInt64.le_refl _

/-- The first of the sorted classes that is large enough is the least one. -/
theorem choice_least (configured : List UInt64) (maxPerClass : Nat) (size : UInt64) :
    LeastFit configured size (choice (create configured maxPerClass).sizeClasses size).1 := by
  have sorted : (create configured maxPerClass).sizeClasses.Pairwise (· ≤ ·) := by
    have transitive (first second third : UInt64) : decide (first ≤ second) = true →
        decide (second ≤ third) = true → decide (first ≤ third) = true := by
      simpa using UInt64.le_trans
    have total (left right : UInt64) : (decide (left ≤ right) || decide (right ≤ left)) = true := by
      simpa using UInt64.le_total left right
    exact (List.pairwise_mergeSort transitive total configured).imp fun le => of_decide_eq_true le
  have member (capacity : UInt64) :
      capacity ∈ (create configured maxPerClass).sizeClasses ↔ capacity ∈ configured :=
    List.mem_mergeSort
  generalize (create configured maxPerClass).sizeClasses = sizeClasses at sorted member
  rw [choice]
  cases found : sizeClasses[sizeClasses.findIdx fun capacity => capacity ≥ size]? with
  | none =>
      right
      refine ⟨fun other known => ?_, rfl⟩
      have all := List.findIdx_eq_length.mp
        (Nat.le_antisymm List.findIdx_le_length (List.getElem?_eq_none_iff.mp found))
      simpa using all other ((member other).mpr known)
  | some capacity =>
      left
      obtain ⟨bound, here⟩ := List.getElem?_eq_some_iff.mp found
      have fits : size ≤ capacity := by simpa using List.findIdx_of_getElem?_eq_some found
      refine ⟨(member capacity).mp (List.mem_of_getElem? found), fits, fun other known large => ?_⟩
      obtain ⟨place, inside, rfl⟩ := List.getElem_of_mem ((member other).mpr known)
      have later : sizeClasses.findIdx (fun capacity => decide (capacity ≥ size)) ≤ place := by
        by_contra before
        have small := List.not_of_lt_findIdx (Nat.lt_of_not_le before)
        simp [large] at small
      rw [Option.getD_some, ← here]
      rcases Nat.eq_or_lt_of_le later with same | further
      · simp [same]
      · exact List.pairwise_iff_getElem.mp sorted _ _ bound inside further

/-! ## Where records come from -/

def Has (pool : PinnedBufferPool) (entry : CachedBuffer × Nat) : Prop :=
  entry ∈ pool.handed ∨ pool.Cached entry

/-- The entry is the one that a step registers. -/
def Fresh (pool : PinnedBufferPool) (success : Bool) (operation : Operation)
    (entry : CachedBuffer × Nat) : Prop :=
  operation.registers success = [⟨entry.1.data, entry.1.capacity, entry.2⟩] ∧
    entry.1.mr = pool.regions.issued

theorem acquire_records (pool : PinnedBufferPool) (size : UInt64) :
    (pool.acquire size).records = [] := by
  rw [acquire]
  split
  · rfl
  · split <;> rfl

theorem setBucket_cached {entries : List CachedBuffer}
    (cached : (pool.setBucket index entries).Cached entry) :
    pool.Cached entry ∨ entry.2 = index ∧ entry.1 ∈ entries := by
  obtain ⟨bucket, found, member⟩ := cached
  rw [setBucket] at found
  by_cases same : index = entry.2
  · rw [← same, List.getElem?_set_self'] at found
    obtain ⟨_, _, rfl⟩ := Option.map_eq_some_iff.mp found
    exact .inr ⟨same.symm, member⟩
  · rw [List.getElem?_set_ne same] at found
    exact .inl ⟨bucket, found, member⟩

/-- What a call has after a step it had before, took out of a bucket or has registered. -/
theorem Performed.records (performed : Performed pool success operation after progress)
    (has : entry ∈ progress.records) :
    entry ∈ operation.records ∨ pool.Cached entry ∨ pool.Fresh success operation entry := by
  cases performed with
  | reuses capacity sizeClass bucket record found last =>
      have here : entry = (record, sizeClass) := by
        simpa [Progress.records, PinnedBufferLease.records] using has
      rw [here]
      exact .inr (.inl ⟨bucket, found, List.mem_of_getLast? last⟩)
  | registers data capacity sizeClass granted =>
      have here : entry = (⟨data, capacity, pool.regions.issued⟩, sizeClass) := by
        simpa [Progress.records, PinnedBufferLease.records] using has
      rw [here, granted]
      exact .inr (.inr ⟨rfl, rfl⟩)
  | refuses => exact .inl (List.mem_cons_of_mem _ has)
  | accepts => exact .inl has
  | unbucketed => exact .inl (List.mem_cons_of_mem _ has)
  | overflows => exact .inl (List.mem_cons_of_mem _ has)
  | pushes record sizeClass next =>
      rw [next.resume_records] at has
      exact .inl (List.mem_cons_of_mem _ has)
  | deregisters => exact .inl has
  | disposes data next =>
      rw [next.resume_records] at has
      exact .inl has
  | leaks record next =>
      rw [next.resume_records] at has
      exact .inl has
  | drained =>
      rw [Resumption.resume_records] at has
      cases has
  | _ => cases has

theorem Performed.cached (performed : Performed pool success operation after progress)
    (cached : after.Cached entry) : pool.Cached entry ∨ entry ∈ operation.records := by
  cases performed with
  | reuses capacity sizeClass bucket record found last =>
      rcases setBucket_cached cached with old | ⟨same, member⟩
      · exact .inl old
      · exact .inl ⟨bucket, same ▸ found, List.dropLast_subset _ member⟩
  | pushes record sizeClass next bucket found room =>
      rcases setBucket_cached cached with old | ⟨same, member⟩
      · exact .inl old
      · rcases List.mem_append.mp member with old | new
        · exact .inl ⟨bucket, same ▸ found, old⟩
        · have here : entry = (record, sizeClass) := Prod.ext (List.mem_singleton.mp new) same
          exact .inr (here ▸ List.mem_cons_self)
  | drains =>
      rcases setBucket_cached cached with old | ⟨_, member⟩
      · exact .inl old
      · cases member
  | _ => exact .inl cached

/-- After an event there are the records of before, and the one that it registers. -/
theorem Enacted.has (enacted : Enacted pool event rest progress)
    (has : (rest.settle progress).Has entry) :
    pool.Has entry ∨ ∃ index success operation, event = .step index success ∧
      pool.operations[index]? = some operation ∧ pool.Fresh success operation entry := by
  rw [Has, settle_handed, Cached, settle_buckets] at has
  cases enacted with
  | acquire size =>
      rw [acquire_records, Multiset.coe_nil, zero_add] at has
      exact .inl has
  | move event rest progress demands calls same begins records =>
      rw [records, same] at has
      exact .inl has
  | step index success operation found =>
      have performed := (pool.takeOperation index).performed success operation
      rw [Multiset.mem_add, performed.handed] at has
      have called (member : entry ∈ operation.records) : pool.Has entry := by
        rw [Has, takeOperation_handed found, Multiset.mem_add]
        exact .inl (.inl member)
      rcases has with (member | handed) | cached
      · rcases performed.records member with old | cached | fresh
        · exact .inl (called old)
        · exact .inl (.inr cached)
        · exact .inr ⟨index, success, operation, rfl, found, fresh⟩
      · left
        rw [Has, takeOperation_handed found, Multiset.mem_add]
        exact .inl (.inr handed)
      · rcases performed.cached cached with old | member
        · exact .inl (.inr old)
        · exact .inl (called member)

/-! ## The size classes and the lengths of the free lists -/

structure Shaped (configured : List UInt64) (maxPerClass : Nat) (pool : PinnedBufferPool) :
    Prop where
  classes : pool.sizeClasses = (create configured maxPerClass).sizeClasses
  limit : pool.maxPerClass = maxPerClass
  buckets : pool.buckets.length = pool.sizeClasses.length
  bounded : ∀ bucket ∈ pool.buckets, bucket.length ≤ maxPerClass

theorem shaped_create : (create configured maxPerClass).Shaped configured maxPerClass where
  classes := rfl
  limit := rfl
  buckets := by simp [create]
  bounded bucket member := by
    rw [List.eq_of_mem_replicate member]
    exact Nat.zero_le _

theorem Performed.classes (performed : Performed pool success operation after progress) :
    after.sizeClasses = pool.sizeClasses := by
  cases performed <;> rfl

theorem setBucket_bounded {entries : List CachedBuffer}
    (bounded : ∀ bucket ∈ pool.buckets, bucket.length ≤ maxPerClass)
    (short : entries.length ≤ maxPerClass) :
    ∀ bucket ∈ (pool.setBucket index entries).buckets, bucket.length ≤ maxPerClass := by
  intro bucket member
  rcases List.mem_or_eq_of_mem_set member with old | rfl
  · exact bounded bucket old
  · exact short

theorem Performed.bounded (performed : Performed pool success operation after progress)
    (limit : pool.maxPerClass = maxPerClass)
    (bounded : ∀ bucket ∈ pool.buckets, bucket.length ≤ maxPerClass) :
    ∀ bucket ∈ after.buckets, bucket.length ≤ maxPerClass := by
  cases performed with
  | reuses capacity sizeClass bucket record found =>
      have room := bounded bucket (List.mem_of_getElem? found)
      exact setBucket_bounded bounded (by rw [List.length_dropLast]; omega)
  | pushes record sizeClass next bucket found room =>
      rw [limit] at room
      exact setBucket_bounded bounded (by rw [List.length_append, List.length_singleton]; omega)
  | drains => exact setBucket_bounded bounded (Nat.zero_le _)
  | _ => exact bounded

theorem Shaped.settle (shaped : pool.Shaped configured maxPerClass) (progress : Progress) :
    (pool.settle progress).Shaped configured maxPerClass := by
  cases progress with
  | next operation => exact ⟨shaped.classes, shaped.limit, shaped.buckets, shaped.bounded⟩
  | returned leases => exact ⟨shaped.classes, shaped.limit, shaped.buckets, shaped.bounded⟩

theorem Enacted.shaped (enacted : Enacted pool event rest progress)
    (shaped : pool.Shaped configured maxPerClass) : rest.Shaped configured maxPerClass := by
  cases enacted with
  | acquire size => exact shaped
  | move event rest progress demands calls same =>
      rw [same]
      exact ⟨shaped.classes, shaped.limit, shaped.buckets, shaped.bounded⟩
  | step index success operation found =>
      have performed := (pool.takeOperation index).performed success operation
      have fixed := performed.fixed
      refine ⟨performed.classes.trans shaped.classes, fixed.1.trans shaped.limit, ?_,
        performed.bounded shaped.limit shaped.bounded⟩
      rw [fixed.2, performed.classes]
      exact shaped.buckets

/-! ## What an `Acquire` in progress will return -/

/-- The call goes on with what it was asked for; only an `Acquire` has been asked for bytes. -/
def Serves (sizeClasses : List UInt64) (demand : Option UInt64) (operation : Operation) : Prop :=
  match operation.asked with
  | some chosen => ∃ size, demand = some size ∧ chosen = choice sizeClasses size
  | none => demand = none ∨ ∃ data, operation = .acquireFree data

def ProgressServes (sizeClasses : List UInt64) (demand : Option UInt64) : Progress → Prop
  | .next operation => Serves sizeClasses demand operation
  | .returned _ => True

theorem serves_idle {progress : Progress} (idle : ¬ progress.Asks) :
    ProgressServes sizeClasses none progress := by
  cases progress with
  | returned leases => trivial
  | next operation =>
      have nothing : operation.asked = none := by simpa [Progress.Asks] using idle
      simp [ProgressServes, Serves, nothing]

theorem acquire_serves (pool : PinnedBufferPool) (size : UInt64) :
    ProgressServes pool.sizeClasses (some size) (pool.acquire size) := by
  rw [acquire]
  split
  · trivial
  · split
    · rename_i found
      have outside := List.getElem?_eq_none_iff.mp found
      have last : pool.pickClass size = pool.sizeClasses.length :=
        Nat.le_antisymm List.findIdx_le_length outside
      refine ⟨size, rfl, ?_⟩
      rw [pickClass] at found last
      rw [choice, found, last, Option.getD_none]
    · rename_i capacity found
      refine ⟨size, rfl, ?_⟩
      rw [pickClass] at found
      rw [choice, found, Option.getD_some, pickClass]

theorem Performed.not_asks (performed : Performed pool success operation after progress)
    (idle : operation.asked = none) : ¬ progress.Asks := by
  cases performed with
  | frees => exact Progress.returned_not_asks _
  | refuses => exact Progress.next_not_asks rfl
  | accepts => exact Progress.next_not_asks rfl
  | unbucketed => exact Progress.next_not_asks rfl
  | overflows => exact Progress.next_not_asks rfl
  | pushes record sizeClass next => exact next.resume_not_asks
  | deregisters => exact Progress.next_not_asks rfl
  | disposes data next => exact next.resume_not_asks
  | leaks record next => exact next.resume_not_asks
  | alreadyShut => exact Progress.returned_not_asks _
  | shuts => exact Progress.next_not_asks rfl
  | drained => exact Resumption.resume_not_asks _
  | drains => exact Progress.next_not_asks rfl
  | _ => cases idle

/-- An `Acquire` asks for the same to its end. -/
theorem Performed.asks {chosen : UInt64 × Nat}
    (performed : Performed pool success operation after progress)
    (asked : operation.asked = some chosen) :
    (∃ next, progress = .next next ∧
      (next.asked = some chosen ∨ ∃ data, next = .acquireFree data)) ∨
    ∃ lease, progress = .returned [lease] ∧
      ∀ record, lease.buffer = some record → lease.sizeClass = chosen.2 ∧
        (pool.Cached (record, chosen.2) ∨ record.capacity = chosen.1) := by
  cases performed with
  | seesShut => exact .inl ⟨_, rfl, .inl asked⟩
  | seesOpen => exact .inl ⟨_, rfl, .inl asked⟩
  | misses => exact .inl ⟨_, rfl, .inl asked⟩
  | reuses capacity sizeClass bucket record found last =>
      cases asked
      refine .inr ⟨_, rfl, fun other same => ⟨rfl, .inl ?_⟩⟩
      cases same
      exact ⟨bucket, found, List.mem_of_getLast? last⟩
  | unallocated =>
      refine .inr ⟨{}, rfl, fun record held => ?_⟩
      cases held
  | allocates => exact .inl ⟨_, rfl, .inl asked⟩
  | unregistered data => exact .inl ⟨_, rfl, .inr ⟨data, rfl⟩⟩
  | registers =>
      cases asked
      refine .inr ⟨_, rfl, fun other same => ⟨rfl, .inr ?_⟩⟩
      cases same
      rfl
  | _ => cases asked

theorem Performed.serves {demand : Option UInt64}
    (performed : Performed pool success operation after progress)
    (serves : Serves sizeClasses demand operation) :
    ProgressServes sizeClasses demand progress := by
  cases asked : operation.asked with
  | none =>
      rw [Serves, asked] at serves
      rcases serves with rfl | ⟨data, rfl⟩
      · exact serves_idle (performed.not_asks asked)
      · cases performed
        trivial
  | some chosen =>
      rw [Serves, asked] at serves
      obtain ⟨size, rfl, same⟩ := serves
      rcases performed.asks asked with ⟨next, rfl, asks | ⟨data, rfl⟩⟩ | ⟨lease, rfl, _⟩
      · rw [ProgressServes, Serves, asks]
        exact ⟨size, rfl, same⟩
      · exact .inr ⟨data, rfl⟩
      · trivial

/-! ## The account -/

section Paired

variable {First Second : Type*} {related : First → Second → Prop} {firsts : List First}
  {seconds : List Second} {second : Second}

theorem forall₂_eraseIdx (all : List.Forall₂ related firsts seconds) (index : Nat) :
    List.Forall₂ related (firsts.eraseIdx index) (seconds.eraseIdx index) := by
  induction all generalizing index with
  | nil => exact .nil
  | cons head tail ih =>
      cases index with
      | zero => exact tail
      | succ index => exact .cons head (ih index)

theorem forall₂_lookup (all : List.Forall₂ related firsts seconds)
    (found : seconds[index]? = some second) :
    ∃ first, firsts[index]? = some first ∧ related first second := by
  induction all generalizing index with
  | nil => cases found
  | cons head tail ih =>
      cases index with
      | zero =>
          cases found
          exact ⟨_, rfl, head⟩
      | succ index => exact ih found

end Paired

theorem Performed.issued (performed : Performed pool success operation after progress) :
    after.regions.issued = pool.regions.issued + (operation.registers success).length := by
  cases performed with
  | unregistered _ _ _ refused => rw [refused]; rfl
  | registers _ _ _ granted => rw [granted]; rfl
  | _ => rfl

@[simp] theorem settle_regions (pool : PinnedBufferPool) (progress : Progress) :
    (pool.settle progress).regions = pool.regions := by
  cases progress <;> rfl

@[simp] theorem settle_sizeClasses (pool : PinnedBufferPool) (progress : Progress) :
    (pool.settle progress).sizeClasses = pool.sizeClasses := by
  cases progress <;> rfl

namespace Account

variable {account next : Account}

/-- The record's MR was registered for just its capacity at its buffer, for that class. -/
def Knows (account : Account) (entry : CachedBuffer × Nat) : Prop :=
  account.registrations[entry.1.mr]? = some ⟨entry.1.data, entry.1.capacity, entry.2⟩

def Fits (sizeClasses : List UInt64) (registration : Registration) : Prop :=
  sizeClasses[registration.sizeClass]? = some registration.length ∨
    registration.sizeClass = sizeClasses.length

structure Fitting (configured : List UInt64) (maxPerClass : Nat) (account : Account) : Prop where
  owned : account.pool.Owned
  shaped : account.pool.Shaped configured maxPerClass
  issued : account.registrations.length = account.pool.regions.issued
  fits : ∀ registration ∈ account.registrations, Fits account.pool.sizeClasses registration
  known : ∀ entry, account.pool.Has entry → account.Knows entry
  serves : List.Forall₂ (Serves account.pool.sizeClasses) account.demands account.pool.operations

theorem fitting_create : (create configured maxPerClass).Fitting configured maxPerClass where
  owned := owned_create configured maxPerClass
  shaped := shaped_create
  issued := rfl
  fits _ member := by cases member
  known entry has := by
    rcases has with handed | ⟨bucket, found, member⟩
    · cases handed
    · rw [List.eq_of_mem_replicate (List.mem_of_getElem? found)] at member
      cases member
  serves := .nil

theorem choice_fits (sizeClasses : List UInt64) (size : UInt64) :
    sizeClasses[(choice sizeClasses size).2]? = some (choice sizeClasses size).1 ∨
      (choice sizeClasses size).2 = sizeClasses.length := by
  rw [choice]
  cases found : sizeClasses[sizeClasses.findIdx fun capacity => capacity ≥ size]? with
  | none =>
      exact .inr (Nat.le_antisymm List.findIdx_le_length (List.getElem?_eq_none_iff.mp found))
  | some capacity => exact .inl rfl

theorem advance_eq_some (advanced : account.advance event = some next) (pooled : account.pool.Pooled) :
    ∃ rest progress, Enacted account.pool event rest progress ∧
      account.pool.outcome event = some (rest, progress) ∧
      next.pool = rest.settle progress ∧
      next.registrations = account.registrations ++ account.registered event ∧
      next.demands = match progress with
        | .next _ => account.others event ++ [account.demand event]
        | .returned _ => account.others event := by
  obtain ⟨⟨rest, progress⟩, outcome, rfl⟩ := Option.map_eq_some_iff.mp advanced
  exact ⟨rest, progress, outcome_enacted pooled outcome, outcome, rfl, rfl, rfl⟩

theorem demand_move (demands : ∀ size, event ≠ .acquire size)
    (calls : ∀ index success, event ≠ .step index success) : account.demand event = none := by
  cases event with
  | acquire size => exact absurd rfl (demands size)
  | step index success => exact absurd rfl (calls index success)
  | _ => rfl

/-- A call in progress serves what its `Acquire` was asked for. -/
theorem Fitting.serves_step (fitting : account.Fitting configured maxPerClass)
    (found : account.pool.operations[index]? = some operation) (success : Bool) :
    Serves account.pool.sizeClasses (account.demand (.step index success)) operation := by
  obtain ⟨demand, asked, serves⟩ := forall₂_lookup fitting.serves found
  have here : account.demand (.step index success) = demand := congrArg Option.join asked
  rw [here]
  exact serves

/-- The call of an event serves what its `Acquire` was asked for, as do the others. -/
theorem Fitting.serves_enacted (fitting : account.Fitting configured maxPerClass)
    (enacted : Enacted account.pool event rest progress) :
    List.Forall₂ (Serves account.pool.sizeClasses) (account.others event) rest.operations ∧
      ProgressServes account.pool.sizeClasses (account.demand event) progress := by
  cases enacted with
  | acquire size => exact ⟨fitting.serves, acquire_serves account.pool size⟩
  | move event rest progress demands calls same begins records =>
      have all_others : account.others event = account.demands := by
        cases event with
        | step index success => exact absurd rfl (calls index success)
        | _ => rfl
      rw [demand_move demands calls, all_others, same]
      exact ⟨fitting.serves, serves_idle begins.not_asks⟩
  | step index success operation found =>
      have performed := (account.pool.takeOperation index).performed success operation
      rw [performed.kept.2]
      exact ⟨forall₂_eraseIdx fitting.serves index,
        performed.serves (fitting.serves_step found success)⟩

theorem registered_move (calls : ∀ index success, event ≠ .step index success) :
    account.registered event = [] := by
  cases event with
  | step index success => exact absurd rfl (calls index success)
  | _ => rfl

theorem registered_step (found : account.pool.operations[index]? = some operation) :
    account.registered (.step index success) = operation.registers success := by
  rw [registered, found, Option.elim_some]

theorem issued_enacted (enacted : Enacted account.pool event rest progress) :
    rest.regions.issued = account.pool.regions.issued + (account.registered event).length := by
  cases enacted with
  | acquire size => rfl
  | move event rest progress demands calls same =>
      rw [same, registered_move calls]
      rfl
  | step index success operation found =>
      rw [registered_step found, ((account.pool.takeOperation index).performed success operation).issued]
      rfl

theorem Fitting.fits_registered (fitting : account.Fitting configured maxPerClass) :
    ∀ registration ∈ account.registered event, Fits account.pool.sizeClasses registration := by
  intro registration member
  cases event with
  | step index success =>
      cases found : account.pool.operations[index]? with
      | none =>
          rw [registered, found] at member
          cases member
      | some operation =>
          rw [registered_step found] at member
          cases operation with
          | acquireRegister data capacity sizeClass =>
              obtain ⟨size, _, chosen⟩ := fitting.serves_step found success
              cases success with
              | false => cases member
              | true =>
                  have fits := choice_fits account.pool.sizeClasses size
                  rw [← chosen] at fits
                  rw [List.mem_singleton.mp member]
                  exact fits
          | _ => cases member
  | _ => cases member

theorem Fitting.step (fitting : account.Fitting configured maxPerClass)
    (advanced : account.advance event = some next) : next.Fitting configured maxPerClass := by
  obtain ⟨rest, progress, enacted, _, pool, registrations, demands⟩ :=
    advance_eq_some advanced fitting.owned.2
  have stepped : account.pool.advance event = some next.pool :=
    (advance_pool account event).symm.trans (congrArg (Option.map (·.pool)) advanced)
  have classes : rest.sizeClasses = account.pool.sizeClasses :=
    (enacted.shaped fitting.shaped).classes.trans fitting.shaped.classes.symm
  refine ⟨owned_invariant.step fitting.owned stepped, ?_, ?_, ?_, ?_, ?_⟩
  · rw [pool]
    exact (enacted.shaped fitting.shaped).settle progress
  · rw [registrations, pool, settle_regions, issued_enacted enacted, List.length_append, fitting.issued]
  · rw [registrations, pool, settle_sizeClasses, classes]
    intro registration member
    rcases List.mem_append.mp member with old | new
    · exact fitting.fits registration old
    · exact fitting.fits_registered registration new
  · intro entry has
    rw [Knows, registrations]
    rw [pool] at has
    rcases enacted.has has with old | ⟨index, success, operation, rfl, found, fresh, mr⟩
    · have known := fitting.known entry old
      rw [List.getElem?_append_left (List.getElem?_eq_some_iff.mp known).1]
      exact known
    · rw [registered_step found, fresh, mr, ← fitting.issued, List.getElem?_concat_length]
  · obtain ⟨others, serves⟩ := fitting.serves_enacted enacted
    rw [pool, settle_sizeClasses, classes, demands]
    cases progress with
    | returned leases => exact others
    | next operation => exact List.rel_append others (.cons serves .nil)

theorem fitting_invariant :
    (system configured maxPerClass).Invariant (Fitting configured maxPerClass) where
  initial := by
    rintro account rfl
    exact fitting_create
  step fitting step := fitting.step step

/-! ## What leases and free lists have -/

/-- The buffer and the MR are out, not given back, and the MR is for just the capacity. -/
structure Pinned (account : Account) (record : CachedBuffer) : Prop where
  data : record.data < account.pool.buffers.issued ∧ record.data ∉ account.pool.buffers.returned
  mr : record.mr < account.pool.regions.issued ∧ record.mr ∉ account.pool.regions.returned
  registered : (account.registrations[record.mr]?).map (fun made => (made.data, made.length)) =
    some (record.data, record.capacity)

theorem Fitting.pinned (fitting : account.Fitting configured maxPerClass) {record : CachedBuffer}
    (has : account.pool.Has (record, sizeClass)) (held : record.holding ∈ account.pool.holdings) :
    account.Pinned record := by
  obtain ⟨sound, _⟩ := fitting.owned
  have member : record.holding ∈ account.pool.custody.holdings := Multiset.mem_add.mpr (.inr held)
  have item : record.data ∈ account.pool.custody.holdings.map (·.item) :=
    Multiset.mem_map_of_mem (·.item) member
  have attachment : record.mr ∈ account.pool.custody.holdings.filterMap (·.attachment) :=
    (Multiset.mem_filterMap _ _).mpr ⟨_, member, rfl⟩
  have known : account.Knows (record, sizeClass) := fitting.known _ has
  exact ⟨⟨sound.items.known item, sound.items.not_returned item⟩,
    ⟨sound.attachments.known attachment, sound.attachments.not_returned attachment⟩,
    by rw [known, Option.map_some]⟩

theorem Fitting.cached (fitting : account.Fitting configured maxPerClass) {record : CachedBuffer}
    (cached : account.pool.Cached (record, sizeClass)) :
    account.pool.sizeClasses[sizeClass]? = some record.capacity ∧ account.Pinned record := by
  have known : account.Knows (record, sizeClass) := fitting.known _ (.inr cached)
  obtain ⟨bucket, found, member⟩ := cached
  have bound : sizeClass < account.pool.sizeClasses.length := by
    rw [← fitting.shaped.buckets]
    exact (List.getElem?_eq_some_iff.mp found).1
  constructor
  · rcases fitting.fits _ (List.mem_of_getElem? known) with fits | outside
    · exact fits
    · exact absurd outside (Nat.ne_of_lt bound)
  · refine fitting.pinned (.inr ⟨bucket, found, member⟩) ?_
    have gathered := mem_gathered (List.mem_of_getElem? found)
      (List.mem_map_of_mem (f := CachedBuffer.holding) member)
    rw [holdings, Multiset.mem_add, Multiset.mem_add]
    exact .inl (.inr gathered)

theorem Fitting.leased (fitting : account.Fitting configured maxPerClass) {record : CachedBuffer}
    (member : lease ∈ account.pool.leases) (buffer : lease.buffer = some record) :
    account.Pinned record := by
  have entry : (record, lease.sizeClass) ∈ lease.records := by
    simp [PinnedBufferLease.records, buffer]
  have holding : record.holding ∈ lease.holdings := by
    simp [PinnedBufferLease.holdings, buffer]
  have has : account.pool.Has (record, lease.sizeClass) := by
    rw [Has, handed, Multiset.mem_add]
    exact .inl (.inl (Multiset.mem_coe.mpr (List.mem_flatMap.mpr ⟨lease, member, entry⟩)))
  apply fitting.pinned has
  rw [holdings, Multiset.mem_add, Multiset.mem_add]
  exact .inl (.inl (mem_gathered member holding))

/-- What an `Acquire` returns has the capacity it settled on. -/
theorem Fitting.granted (fitting : account.Fitting configured maxPerClass)
    (enacted : Enacted account.pool event rest progress) {leases : List PinnedBufferLease}
    (returned : progress = .returned leases) (demanded : account.demand event = some size)
    (member : lease ∈ leases) {record : CachedBuffer} (buffer : lease.buffer = some record) :
    record.capacity = (choice account.pool.sizeClasses size).1 := by
  cases enacted with
  | acquire size =>
      rw [acquire] at returned
      split at returned
      · cases returned
        rw [List.mem_singleton.mp member] at buffer
        cases buffer
      · split at returned <;> cases returned
  | move event rest progress demands calls =>
      rw [demand_move demands calls] at demanded
      cases demanded
  | step index success operation found =>
      have serves := fitting.serves_step found success
      rw [demanded] at serves
      cases looking : operation.asked with
      | none =>
          rw [Serves, looking] at serves
          rcases serves with impossible | ⟨data, rfl⟩
          · cases impossible
          · cases returned
            rw [List.mem_singleton.mp member] at buffer
            cases buffer
      | some chosen =>
          rw [Serves, looking] at serves
          obtain ⟨other, same, rfl⟩ := serves
          cases same
          rcases ((account.pool.takeOperation index).performed success operation).asks looking with
            ⟨next, goes, _⟩ | ⟨only, goes, has⟩
          · rw [goes] at returned
            cases returned
          · rw [goes] at returned
            cases returned
            rw [List.mem_singleton.mp member] at buffer
            rcases (has record buffer).2 with cached | capacity
            · have classes := (fitting.cached cached).1
              rw [choice] at classes ⊢
              rw [classes, Option.getD_some]
            · exact capacity

/-- `grants` misses no lease that an `Acquire` in progress returns. -/
theorem Fitting.grants_step (fitting : account.Fitting configured maxPerClass)
    (found : account.pool.operations[index]? = some operation)
    (asking : operation.asked.isSome = true) {leases : List PinnedBufferLease}
    (outcome : account.pool.outcome (.step index success) = some (rest, .returned leases)) :
    ∃ size, account.grants (.step index success) = leases.map fun lease => (size, lease) := by
  have serves := fitting.serves_step found success
  obtain ⟨chosen, looking⟩ := Option.isSome_iff_exists.mp asking
  rw [Serves, looking] at serves
  obtain ⟨size, demanded, _⟩ := serves
  exact ⟨size, by simp only [grants, demanded, outcome]⟩

/-- In every state, every free list is within the limit and has only buffers of its own
class, and whatever `Acquire` returns has the least class that the request fits in. -/
theorem leases_fit (reachable : (system configured maxPerClass).Reachable account) :
    (∀ (sizeClass : Nat) (bucket : List CachedBuffer),
      account.pool.buckets[sizeClass]? = some bucket →
      bucket.length ≤ maxPerClass ∧ ∀ record ∈ bucket,
        (create configured maxPerClass).pool.sizeClasses[sizeClass]? = some record.capacity ∧
        account.Pinned record) ∧
    ∀ event next size lease record, account.advance event = some next →
      (size, lease) ∈ account.grants event → lease.buffer = some record →
      size ≤ record.capacity ∧ LeastFit configured size record.capacity ∧
        lease ∈ next.pool.leases ∧ next.Pinned record := by
  have fitting := fitting_invariant.reachable reachable
  have classes : account.pool.sizeClasses = (create configured maxPerClass).pool.sizeClasses :=
    fitting.shaped.classes
  constructor
  · intro sizeClass bucket found
    refine ⟨fitting.shaped.bounded bucket (List.mem_of_getElem? found), fun record member => ?_⟩
    rw [← classes]
    exact fitting.cached ⟨bucket, found, member⟩
  · intro event next size lease record advanced granted buffer
    obtain ⟨rest, progress, enacted, outcome, pool, _, _⟩ := advance_eq_some advanced fitting.owned.2
    unfold grants at granted
    split at granted
    · rename_i asked returned leases demanded returns
      obtain ⟨_, member, same⟩ := List.mem_map.mp granted
      cases same
      rw [outcome, Option.some.injEq, Prod.ext_iff] at returns
      have capacity := fitting.granted enacted returns.2 demanded member buffer
      have least : LeastFit configured size record.capacity := by
        rw [capacity, classes]
        exact choice_least configured maxPerClass size
      have here : lease ∈ next.pool.leases := by
        rw [pool, show progress = .returned leases from returns.2]
        exact List.mem_append_right _ member
      exact ⟨least.fits, least, here, (fitting.step advanced).leased here buffer⟩
    · cases granted

/-- An `Acquire(3)` that has its buffer and is about to register it. -/
def registeringThree : Account where
  pool := { oneClass with buffers := ⟨1, 0⟩, operations := [.acquireRegister 0 4 0] }
  demands := [some 3]

theorem three_fits_four : LeastFit [4] 3 4 := by
  have start : create [4] 1 = { pool := oneClass } := congrArg (Account.mk · [] []) create_one
  have acquired : System.replay advance { pool := oneClass }
      [.acquire 3, .step 0 true, .step 0 true, .step 0 true] = some registeringThree := rfl
  have reachable : (system [4] 1).Reachable registeringThree :=
    (System.Reachable.of_initial start.symm).run (.of_replay acquired)
  exact ((leases_fit reachable).2 (.step 0 true) _ 3 ⟨true, some ⟨0, 4, 0⟩, 0⟩ ⟨0, 4, 0⟩ rfl
    List.mem_cons_self rfl).2.1

end Account

end PinnedBufferPool

end Us3Turbo.Backend
