import Us3Turbo.Backend.SinkLifecycle

/-! # What a `cuObjServer` may be asked, and what a pool asks of its own

The log says which server was asked what.  A server that was destroyed is not used again,
and it is destroyed once every MR of it was deregistered.
-/

namespace Us3Turbo.Backend

open Us3Turbo.Data

variable {log : ServerLog} {server other : Nat} {success : Bool} {operation : Operation}
  {progress : Progress} {pool rest : PinnedBufferPool} {held : List Holding} {regions : Ledger}

namespace ServerLog

def registered (log : ServerLog) (server : Nat) : List Nat :=
  log.filterMap fun entry =>
    match entry.2 with
    | .registerBuffer mr => if entry.1 = some server then mr else none
    | _ => none

def deRegistered (log : ServerLog) (server : Nat) : List Nat :=
  log.filterMap fun entry =>
    match entry.2 with
    | .deRegisterBuffer mr => if entry.1 = some server then some mr else none
    | _ => none

def Destroyed (log : ServerLog) (server : Nat) : Prop := (some server, .destroyed) ∈ log

/-- Every MR of the server was deregistered, once. -/
def Cleared (log : ServerLog) (server : Nat) : Prop :=
  (log.registered server).Nodup ∧ (log.deRegistered server).Perm (log.registered server)

/-- What may come after `earlier`. -/
def Admissible (earlier : ServerLog) (entry : Option Nat × ServerUse) : Prop :=
  ∃ server, entry.1 = some server ∧ ¬ earlier.Destroyed server ∧
    (entry.2 = .destroyed → earlier.Cleared server)

def Lawful (log : ServerLog) : Prop :=
  ∀ earlier entry later, log = earlier ++ entry :: later → Admissible earlier entry

/-- The server was never asked anything. -/
def Fresh (log : ServerLog) (server : Nat) : Prop := ∀ use, (some server, use) ∉ log

@[simp] theorem registered_append (log more : ServerLog) (server : Nat) :
    registered (log ++ more) server = log.registered server ++ more.registered server :=
  List.filterMap_append ..

@[simp] theorem deRegistered_append (log more : ServerLog) (server : Nat) :
    deRegistered (log ++ more) server = log.deRegistered server ++ more.deRegistered server :=
  List.filterMap_append ..

@[simp] theorem registered_registerBuffer (server : Nat) (mr : Option Nat) :
    registered [(some server, .registerBuffer mr)] server = mr.toList := by
  cases mr <;> simp [registered]

@[simp] theorem deRegistered_deRegisterBuffer (server mr : Nat) :
    deRegistered [(some server, .deRegisterBuffer mr)] server = [mr] := by
  simp [deRegistered]

theorem lawful_nil : Lawful [] := by
  intro earlier entry later split
  simp at split

theorem Lawful.snoc {entry : Option Nat × ServerUse} (lawful : log.Lawful)
    (admissible : log.Admissible entry) : Lawful (log ++ [entry]) := by
  intro earlier other later split
  rcases List.eq_nil_or_concat later with rfl | ⟨rest, last, rfl⟩
  · obtain ⟨rfl, same⟩ := List.append_inj' split rfl
    cases same
    exact admissible
  · have front : log = earlier ++ other :: rest := by
      have shifted : log ++ [entry] = (earlier ++ other :: rest) ++ [last] := by simpa using split
      exact (List.append_inj' shifted rfl).1
    exact lawful earlier other rest front

theorem Lawful.last {entry : Option Nat × ServerUse} (lawful : Lawful (log ++ [entry])) :
    log.Admissible entry :=
  lawful log entry [] rfl

theorem Destroyed.append (destroyed : log.Destroyed server) (more : ServerLog) :
    Destroyed (log ++ more) server :=
  List.mem_append_left more destroyed

/-- A server stays there as long as nobody destroys it. -/
theorem alive_append {more : ServerLog} (alive : ¬ log.Destroyed server)
    (kept : (some server, .destroyed) ∉ more) : ¬ Destroyed (log ++ more) server := by
  intro destroyed
  rcases List.mem_append.mp destroyed with before | after
  · exact alive before
  · exact kept after

theorem Lawful.uses {uses : List ServerUse} (lawful : log.Lawful) (alive : ¬ log.Destroyed server)
    (kept : .destroyed ∉ uses) : Lawful (log ++ uses.map fun use => (some server, use)) := by
  induction uses generalizing log with
  | nil => simpa using lawful
  | cons use uses ih =>
      have other : use ≠ .destroyed := fun same => kept (same ▸ List.mem_cons_self)
      have next : Lawful (log ++ [(some server, use)]) :=
        lawful.snoc ⟨server, rfl, alive, fun same => absurd same other⟩
      have still : ¬ Destroyed (log ++ [(some server, use)]) server :=
        alive_append alive (by simpa using other.symm)
      have rest := ih next still fun member => kept (List.mem_cons_of_mem _ member)
      simpa using rest

/-- What becomes of the server that a pointer held. -/
def retiring (server : Option Nat) : ServerLog :=
  server.toList.map fun server => (some server, .destroyed)

theorem Lawful.retire {server : Option Nat} (lawful : log.Lawful)
    (cleared : ∀ held, server = some held → ¬ log.Destroyed held ∧ log.Cleared held) :
    Lawful (log ++ retiring server) := by
  cases server with
  | none => simpa [retiring] using lawful
  | some held =>
      obtain ⟨alive, cleared⟩ := cleared held rfl
      exact lawful.snoc ⟨held, rfl, alive, fun _ => cleared⟩

theorem Fresh.alive (fresh : log.Fresh server) : ¬ log.Destroyed server := fresh .destroyed

theorem Fresh.append {more : ServerLog} (fresh : log.Fresh server)
    (apart : ∀ entry ∈ more, entry.1 ≠ some server) : Fresh (log ++ more) server := by
  intro use member
  rcases List.mem_append.mp member with before | after
  · exact fresh use before
  · exact apart _ after rfl

theorem Fresh.uses (fresh : log.Fresh server) (apart : other ≠ server) (uses : List ServerUse) :
    Fresh (log ++ uses.map fun use => (some other, use)) server := by
  refine fresh.append fun entry member same => ?_
  obtain ⟨use, _, rfl⟩ := List.mem_map.mp member
  exact apart (Option.some.inj same)

theorem Fresh.retire {held : Option Nat} (fresh : log.Fresh server) (apart : held ≠ some server) :
    Fresh (log ++ retiring held) server := by
  refine fresh.append fun entry member same => ?_
  obtain ⟨other, holds, rfl⟩ := List.mem_map.mp member
  exact apart ((Option.mem_toList.mp holds).trans same)

/-- What other servers are asked is about none of this server's MRs. -/
theorem unaccounted (apart : ∀ entry ∈ log, entry.1 ≠ some server) :
    log.registered server = [] ∧ log.deRegistered server = [] := by
  constructor
  · refine List.filterMap_eq_nil_iff.mpr fun entry member => ?_
    cases use : entry.2 <;> simp [apart entry member]
  · refine List.filterMap_eq_nil_iff.mpr fun entry member => ?_
    cases use : entry.2 <;> simp [apart entry member]

theorem Fresh.unaccounted (fresh : log.Fresh server) :
    log.registered server = [] ∧ log.deRegistered server = [] :=
  ServerLog.unaccounted fun entry member same => fresh entry.2 (same ▸ member)

theorem Fresh.cleared (fresh : log.Fresh server) : log.Cleared server := by
  rw [Cleared, fresh.unaccounted.1, fresh.unaccounted.2]
  exact ⟨.nil, .nil⟩

/-- The log agrees with what a pool says it registered and deregistered. -/
structure Accounts (log : ServerLog) (server : Nat) (regions : Ledger) : Prop where
  registered : log.registered server = List.range regions.issued
  deRegistered : (log.deRegistered server : Multiset Nat) = regions.returned

theorem Fresh.accounts (fresh : log.Fresh server) : log.Accounts server {} where
  registered := fresh.unaccounted.1
  deRegistered := by
    rw [fresh.unaccounted.2]
    rfl

/-- Uses that are not about MRs change no account. -/
theorem Accounts.append {more : ServerLog} (accounts : log.Accounts server regions)
    (unregistered : more.registered server = []) (kept : more.deRegistered server = []) :
    Accounts (log ++ more) server regions where
  registered := by rw [registered_append, unregistered, List.append_nil, accounts.registered]
  deRegistered := by rw [deRegistered_append, kept, List.append_nil, accounts.deRegistered]

theorem Accounts.cleared_iff (accounts : log.Accounts server regions) :
    log.Cleared server ↔ regions.returned = Multiset.range regions.issued := by
  rw [Cleared, accounts.registered, ← accounts.deRegistered]
  constructor
  · rintro ⟨_, same⟩
    exact Multiset.coe_eq_coe.mpr same
  · intro same
    exact ⟨List.nodup_range, Multiset.coe_eq_coe.mp same⟩

end ServerLog

/-! ## A pool and its server -/

theorem Operation.uses_keep (mr : Nat) : .destroyed ∉ operation.uses success mr := by
  cases operation <;> simp [uses]

theorem PinnedBufferPool.Performed.accounts
    (performed : Performed pool success operation rest progress)
    (accounts : log.Accounts server pool.regions) :
    ServerLog.Accounts
      (log ++ (operation.uses success pool.regions.issued).map fun use => (some server, use))
      server rest.regions := by
  cases performed with
  | unregistered _ _ _ refused =>
      rw [refused]
      exact accounts.append (ServerLog.registered_registerBuffer server none) rfl
  | registers data capacity sizeClass granted =>
      rw [granted]
      constructor
      · have asked := ServerLog.registered_registerBuffer server (some pool.regions.issued)
        rw [ServerLog.registered_append, accounts.registered]
        exact (congrArg (List.range pool.regions.issued ++ ·) asked).trans List.range_succ.symm
      · rw [ServerLog.deRegistered_append, ← Multiset.coe_add, accounts.deRegistered]
        exact Multiset.add_zero _
  | deregisters record =>
      constructor
      · rw [ServerLog.registered_append, accounts.registered]
        exact List.append_nil _
      · rw [ServerLog.deRegistered_append, ← Multiset.coe_add, accounts.deRegistered, Multiset.add_comm]
        exact congrArg (fun asked : List Nat => ↑asked + pool.regions.returned)
          (ServerLog.deRegistered_deRegisterBuffer server record.mr)
  | _ => exact accounts.append rfl rfl

def PinnedBufferPool.Empty (pool : PinnedBufferPool) : Prop := ∀ bucket ∈ pool.buckets, bucket = []

/-- The server of the pool is there and has accounted for its MRs; the one call in progress
holds `held`, and the rest is cached. -/
structure BuiltPool.Serving (log : ServerLog) (built : BuiltPool) (held : List Holding) : Prop where
  alive : ¬ log.Destroyed built.server
  accounts : log.Accounts built.server built.pool.regions
  sound : (built.pool.custodyWith held).Sound
  leases : built.pool.leases = []
  operations : built.pool.operations = []

namespace BuiltPool.Serving

variable {built : BuiltPool}

theorem create {sizeClasses : List UInt64} {maxPerClass : Nat} (fresh : log.Fresh server) :
    Serving log ⟨server, .create sizeClasses maxPerClass⟩ [] where
  alive := fresh.alive
  accounts := fresh.accounts
  sound := (PinnedBufferPool.owned_create sizeClasses maxPerClass).1
  leases := rfl
  operations := rfl

theorem append {more : ServerLog} (serving : built.Serving log held)
    (alive : (some built.server, .destroyed) ∉ more)
    (unregistered : more.registered built.server = []) (kept : more.deRegistered built.server = []) :
    built.Serving (log ++ more) held where
  alive := ServerLog.alive_append serving.alive alive
  accounts := serving.accounts.append unregistered kept
  sound := serving.sound
  leases := serving.leases
  operations := serving.operations

theorem perform (serving : built.Serving log operation.holdings) (pooled : operation.Pooled)
    (success : Bool) :
    Serving (log ++ (operation.uses success built.pool.regions.issued).map
        fun use => (some built.server, use))
      { built with pool := (built.pool.perform success operation).1 }
      (built.pool.perform success operation).2.holdings where
  alive := ServerLog.alive_append serving.alive (by simpa using Operation.uses_keep _)
  accounts := (built.pool.performed success operation).accounts serving.accounts
  sound := serving.sound.step ((built.pool.performed success operation).step pooled)
  leases := (built.pool.performed success operation).kept.1.trans serving.leases
  operations := (built.pool.performed success operation).kept.2.trans serving.operations

theorem holdings (serving : built.Serving log held) :
    built.pool.holdings = gathered (List.map CachedBuffer.holding) built.pool.buckets := by
  simp [PinnedBufferPool.holdings, serving.leases, serving.operations]

/-- Between two calls the MRs in force are those of the cached buffers. -/
theorem cleared_iff (serving : built.Serving log []) :
    log.Cleared built.server ↔ built.pool.Empty := by
  have cached := serving.holdings
  have balance := serving.sound.attachments
  simp only [PinnedBufferPool.custodyWith, Multiset.coe_nil, Multiset.zero_add] at balance
  rw [serving.accounts.cleared_iff]
  constructor
  · intro returned bucket member
    have nothing : built.pool.holdings.filterMap (·.attachment) = 0 := by
      rw [Ledger.Balanced, returned] at balance
      simpa using balance
    rw [List.eq_nil_iff_forall_not_mem]
    intro record inside
    have holds : record.holding ∈ built.pool.holdings := by
      rw [cached]
      exact mem_gathered member (List.mem_map_of_mem inside)
    have attached : record.mr ∈ built.pool.holdings.filterMap (·.attachment) :=
      (Multiset.mem_filterMap _ _).mpr ⟨record.holding, holds, rfl⟩
    rw [nothing] at attached
    exact Multiset.notMem_zero _ attached
  · intro empty
    have nothing : built.pool.holdings = 0 := by
      rw [cached]
      exact gathered_empty fun bucket member => by simp [empty bucket member]
    rw [nothing] at balance
    simpa [Ledger.Balanced] using balance

end BuiltPool.Serving

end Us3Turbo.Backend
