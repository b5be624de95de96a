import Us3Turbo.Backend.PoolShutdown
import Us3Turbo.Backend.ReceiveIsolation
import Us3Turbo.Backend.ServerLog

/-! # The sink and the servers it was given

A restart that finds `pool_` set destroys the server of that pool first, and the pool
deregisters what it has cached afterwards.
-/

namespace Us3Turbo.Backend

open Us3Turbo.Data Us3Turbo.Transition

variable {log : ServerLog} {server : Nat} {success : Bool} {operation : Operation}
  {pool : PinnedBufferPool} {built : BuiltPool} {sink result : BackendGdsSink}
  {call moved : Receive} {answer : PutAnswer}

/-! ## A `Shutdown` that nothing runs beside -/

/-- What is left of a `Shutdown` empties the pool. -/
def Operation.Closing (pool : PinnedBufferPool) : Operation → Prop
  | .shutdownSwap => pool.shutdown = true → pool.Empty
  | .shutdownDrain index _ =>
      ∀ before < index, ∀ bucket, pool.buckets[before]? = some bucket → bucket = []
  | .disposeMr _ (.shutdown _) | .disposeData _ (.shutdown _) => pool.Empty
  | _ => False

def Progress.Closing (pool : PinnedBufferPool) : Progress → Prop
  | .next operation => operation.Closing pool
  | .returned leases => leases = [] ∧ pool.Empty

theorem Operation.Closing.pooled (closing : operation.Closing pool) : operation.Pooled := by
  cases operation with
  | shutdownSwap | shutdownDrain index toDestroy => exact trivial
  | disposeMr record next | disposeData data next =>
      cases next with
      | shutdown rest => exact trivial
      | _ => exact closing.elim
  | _ => exact closing.elim

theorem Resumption.resume_closing (rest : List CachedBuffer) (empty : pool.Empty) :
    (Resumption.shutdown rest).resume.Closing pool := by
  cases rest with
  | nil => exact ⟨rfl, empty⟩
  | cons record rest => exact empty

theorem Operation.Closing.perform (closing : operation.Closing pool) (success : Bool) :
    (pool.perform success operation).2.Closing (pool.perform success operation).1 := by
  cases operation with
  | shutdownSwap =>
      rw [PinnedBufferPool.perform]
      split
      · rename_i shut
        exact ⟨rfl, closing shut⟩
      · intro before within
        exact absurd within (Nat.not_lt_zero before)
  | shutdownDrain index toDestroy =>
      rw [PinnedBufferPool.perform]
      split
      · rename_i outside
        refine Resumption.resume_closing toDestroy fun bucket member => ?_
        obtain ⟨before, inside, rfl⟩ := List.getElem_of_mem member
        have bound := List.getElem?_eq_none_iff.mp outside
        exact closing before (Nat.lt_of_lt_of_le inside bound) _ (List.getElem?_eq_getElem inside)
      · rename_i bucket found
        intro before within other at_before
        rcases Nat.lt_succ_iff_lt_or_eq.mp within with earlier | rfl
        · refine closing before earlier other ?_
          rwa [PinnedBufferPool.setBucket, List.getElem?_set_ne (by omega)] at at_before
        · rw [PinnedBufferPool.setBucket,
            List.getElem?_set_self (List.getElem?_eq_some_iff.mp found).1] at at_before
          exact (Option.some.inj at_before).symm
  | disposeMr record next =>
      cases next with
      | shutdown rest => exact closing
      | _ => exact closing.elim
  | disposeData data next =>
      cases next with
      | shutdown rest => exact Resumption.resume_closing rest closing
      | _ => exact closing.elim
  | _ => exact closing.elim

/-- A `Shutdown` of a pool that has nothing cached. -/
def Operation.Barren (pool : PinnedBufferPool) : Operation → Prop
  | .shutdownSwap => pool.Empty
  | .shutdownDrain _ toDestroy => toDestroy = [] ∧ pool.Empty
  | _ => False

theorem Operation.Barren.perform (barren : operation.Barren pool) (success : Bool) :
    (pool.perform success operation).2 = .returned [] ∨
      ∃ next, (pool.perform success operation).2 = .next next ∧
        next.Barren (pool.perform success operation).1 := by
  cases operation with
  | shutdownSwap =>
      rw [PinnedBufferPool.perform]
      split
      · exact .inl rfl
      · exact .inr ⟨_, rfl, rfl, barren⟩
  | shutdownDrain index toDestroy =>
      obtain ⟨rfl, empty⟩ := barren
      rw [PinnedBufferPool.perform]
      split
      · exact .inl rfl
      · rename_i bucket found
        refine .inr ⟨_, rfl, empty bucket (List.mem_of_getElem? found), fun other member => ?_⟩
        rcases List.mem_or_eq_of_mem_set member with old | rfl
        · exact empty other old
        · rfl
  | _ => exact barren.elim

theorem Operation.Barren.uses (barren : operation.Barren pool) (mr : Nat) :
    operation.uses success mr = [] := by
  cases operation with
  | shutdownSwap | shutdownDrain index toDestroy => rfl
  | _ => exact barren.elim

/-! ## What a step of a call asks of the pool -/

/-- `uses` is what the server of `pool` is asked on the way to `after`. -/
structure PinnedBufferPool.Uses (pool after : PinnedBufferPool) (uses : List ServerUse) : Prop where
  keep : .destroyed ∉ uses
  accounts : ∀ {log : ServerLog} {server : Nat}, log.Accounts server pool.regions →
    ServerLog.Accounts (log ++ uses.map fun use => (some server, use)) server after.regions
  leases : after.leases = pool.leases
  operations : after.operations = pool.operations
  shutdown : after.shutdown = pool.shutdown

namespace PinnedBufferPool

theorem uses_nothing (pool : PinnedBufferPool) : pool.Uses pool [] where
  keep := List.not_mem_nil
  accounts accounts := accounts.append rfl rfl
  leases := rfl
  operations := rfl
  shutdown := rfl

theorem perform_uses (other : operation ≠ .shutdownSwap) :
    pool.Uses (pool.perform success operation).1 (operation.uses success pool.regions.issued) where
  keep := Operation.uses_keep _
  accounts := (pool.performed success operation).accounts
  leases := (pool.performed success operation).kept.1
  operations := (pool.performed success operation).kept.2
  shutdown := (pool.performed success operation).shutdown.resolve_right fun ⟨same, _⟩ => other same

end PinnedBufferPool

namespace BackendGdsSink

theorem perform_uses (valid : call.Valid sink)
    (performed : sink.perform success call = some (result, moved)) :
    sink.pool.Uses result.pool (call.stage.poolUses success sink.pool.regions.issued) := by
  cases stage : call.stage with
  | acquiring operation =>
      simp only [Receive.Valid, stage] at valid
      simp only [perform, stage] at performed
      cases performed
      refine PinnedBufferPool.perform_uses ?_
      rintro rfl
      exact valid.1
  | releasing operation outcome =>
      simp only [Receive.Valid, stage] at valid
      simp only [perform, stage] at performed
      cases performed
      refine PinnedBufferPool.perform_uses ?_
      rintro rfl
      exact valid.1
  | leased lease =>
      simp only [perform, stage] at performed
      cases success <;> cases performed <;> exact sink.pool.uses_nothing
  | connected lease channel => simp [perform, stage] at performed
  | returned outcome => simp [perform, stage] at performed
  | _ =>
      simp only [perform, stage] at performed
      cases performed
      exact sink.pool.uses_nothing

theorem transfer_uses (transferred : sink.transfer answer call = some (result, moved)) :
    sink.pool.Uses result.pool [] := by
  rw [transfer] at transferred
  split at transferred
  · split at transferred
    · cases transferred
    · split at transferred
      · cases transferred
      · cases transferred
        exact sink.pool.uses_nothing
  · cases transferred

end BackendGdsSink

namespace ReceiveStage

variable {stage : ReceiveStage}

theorem sinkUses_keep (stage : ReceiveStage) : .destroyed ∉ stage.sinkUses := by
  cases stage <;> simp [sinkUses]

theorem sinkUses_registered (stage : ReceiveStage) (server : Nat) :
    ServerLog.registered (stage.sinkUses.map fun use => (some server, use)) server = [] := by
  cases stage <;> rfl

theorem sinkUses_deRegistered (stage : ReceiveStage) (server : Nat) :
    ServerLog.deRegistered (stage.sinkUses.map fun use => (some server, use)) server = [] := by
  cases stage <;> rfl

end ReceiveStage

/-! ## All runs -/

namespace Lifecycle

variable {left : PinnedBufferPool → Prop} {life before after start : Lifecycle} {event : Event}
  {events : List Event}

/-- Whenever `pool_` is set, `server_` is the server that the pool was built on. -/
def Bound (life : Lifecycle) : Prop :=
  ∀ built, life.pool = some built → life.server = some built.server

/-- Nothing is left once the destructor has returned. -/
def Settled (life : Lifecycle) : Prop :=
  life.stage = .ended →
    life.pool = none ∧ life.server = none ∧ ∀ server < life.servers, life.log.Destroyed server

/-- `pool_` is still unset where `Start` has yet to assign it. -/
def Tied (life : Lifecycle) : Prop :=
  (∀ server, life.stage ≠ .assigning server) → life.Bound

/-- `Start` is about to assign a connected server to `server_`. -/
def restarts (life : Lifecycle) (event : Event) : Bool :=
  match life.stage, event with
  | .starting _, .step connected => connected
  | _, _ => false

/-- A `Start` that gets a server finds `pool_` unset, as `Stop` leaves it. -/
def stopped (life : Lifecycle) (event : Event) : Bool :=
  !life.restarts event || life.pool.isNone

/-- No `Start` that gets a server finds a pool that has something cached. -/
def drained (life : Lifecycle) (event : Event) : Bool :=
  !life.restarts event || life.pool.all fun built => built.pool.buckets.all (·.isEmpty)

theorem restarts_iff :
    life.restarts event = true ↔ ∃ server, life.stage = .starting server ∧ event = .step true := by
  cases stage : life.stage <;> cases event <;> simp [restarts, stage]

theorem stopped_iff :
    life.stopped event = true ↔ (life.restarts event = true → life.pool = none) := by
  cases restart : life.restarts event <;> simp [stopped, restart]

theorem drained_iff : life.drained event = true ↔
    (life.restarts event = true → ∀ built, life.pool = some built → built.pool.Empty) := by
  cases restart : life.restarts event with
  | false => simp [drained, restart]
  | true => cases pool : life.pool <;> simp [drained, restart, pool, PinnedBufferPool.Empty]

/-- Outside of `Start` and `Stop`: the one call in progress holds `held`. -/
structure Ready (life : Lifecycle) (held : List Holding) : Prop where
  server : life.server = life.pool.map (·.server)
  serving : ∀ built, life.pool = some built → built.Serving life.log held
  opened : ∀ built, life.pool = some built → built.pool.shutdown = false

/-- `left` is what may be said of a pool that a restart replaces. -/
def Placed (left : PinnedBufferPool → Prop) (life : Lifecycle) : Prop :=
  match life.stage with
  | .idle => life.Ready []
  | .starting server =>
      life.Ready [] ∧ life.log.Fresh server ∧ life.server ≠ some server ∧ server < life.servers
  | .assigning server =>
      life.server = some server ∧ life.log.Fresh server ∧
        ∀ built, life.pool = some built → left built.pool
  | .receiving call =>
      life.Ready call.stage.holdings ∧
        ∀ built, life.pool = some built → call.stage.Pooled ∧ call.Valid (life.sink built)
  | .shutting built operation .started => life.Ready [] ∧ operation.Barren built.pool
  | .shutting built operation _ =>
      life.pool = none ∧ life.server = some built.server ∧
        built.Serving life.log operation.holdings ∧ operation.Closing built.pool
  | .resetting _ =>
      life.pool = none ∧
        ∀ server, life.server = some server → ¬ life.log.Destroyed server ∧ life.log.Cleared server
  | .ended => life.pool = none ∧ life.server = none

structure Valid (left : PinnedBufferPool → Prop) (life : Lifecycle) : Prop where
  lawful : life.log.Lawful
  fresh : ∀ server, life.servers ≤ server → life.log.Fresh server
  current : ∀ server, life.server = some server → server < life.servers
  accounted : ∀ server < life.servers, life.log.Destroyed server ∨ life.server = some server ∨
    life.stage = .starting server
  placed : life.Placed left

theorem Ready.bound {held : List Holding} (ready : life.Ready held) : life.Bound := by
  intro built pool
  rw [ready.server, pool]
  rfl

theorem Ready.append {held : List Holding} {more : ServerLog} (ready : life.Ready held)
    (apart : ∀ entry ∈ more, ∀ built, life.pool = some built → entry.1 ≠ some built.server)
    (log : after.log = life.log ++ more) (pool : after.pool = life.pool)
    (server : after.server = life.server) : after.Ready held where
  server := by rw [server, pool, ready.server]
  serving := by
    rw [pool, log]
    intro built found
    have elsewhere : ∀ entry ∈ more, entry.1 ≠ some built.server :=
      fun entry member => apart entry member built found
    obtain ⟨unregistered, kept⟩ := ServerLog.unaccounted elsewhere
    exact (ready.serving built found).append (fun member => elsewhere _ member rfl) unregistered kept
  opened := by
    rw [pool]
    exact ready.opened

theorem Valid.kept (valid : life.Valid left) (apart : ∀ server, life.stage ≠ .starting server) :
    ∀ server < life.servers, life.log.Destroyed server ∨ life.server = some server := by
  intro server known
  rcases valid.accounted server known with destroyed | current | starting
  · exact .inl destroyed
  · exact .inr current
  · exact absurd starting (apart server)

theorem Valid.settled (valid : life.Valid left) : life.Settled := by
  intro ended
  have placed := valid.placed
  simp only [Placed, ended] at placed
  refine ⟨placed.1, placed.2, fun server known => ?_⟩
  rcases valid.kept (by simp [ended]) server known with destroyed | current
  · exact destroyed
  · rw [placed.2] at current
    cases current

theorem Valid.bound (valid : life.Valid left) (placed : ∀ server, life.stage ≠ .assigning server) :
    life.Bound := by
  have here := valid.placed
  rw [Placed] at here
  split at here
  · exact here.bound
  · exact here.1.bound
  · rename_i server stage
    exact absurd stage (placed server)
  · exact here.1.bound
  · exact here.1.bound
  · intro built pool
    rw [here.1] at pool
    cases pool
  · intro built pool
    rw [here.1] at pool
    cases pool
  · intro built pool
    rw [here.1] at pool
    cases pool

theorem record_retired (life : Lifecycle) :
    (life.record life.server (if life.server.isSome then [.destroyed] else [])).log =
      life.log ++ ServerLog.retiring life.server := by
  cases server : life.server <;> simp [record, ServerLog.retiring]

/-- A step that keeps `server_`, and asks nothing of any other server. -/
theorem Valid.goes_on {more : ServerLog} (valid : life.Valid left)
    (apart : ∀ server, life.stage ≠ .starting server) (log : after.log = life.log ++ more)
    (asked : ∀ entry ∈ more, entry.1 = life.server) (server : after.server = life.server)
    (servers : after.servers = life.servers) (lawful : after.log.Lawful) (placed : after.Placed left) :
    after.Valid left where
  lawful := lawful
  fresh := by
    rw [servers, log]
    intro other later
    refine (valid.fresh other later).append fun entry member same => ?_
    exact Nat.not_lt.mpr later (valid.current other ((asked entry member).symm.trans same))
  current := by
    rw [server, servers]
    exact valid.current
  accounted := by
    rw [server, servers, log]
    intro other known
    rcases valid.kept apart other known with destroyed | current
    · exact .inl (destroyed.append more)
    · exact .inr (.inl current)
  placed := placed

theorem Valid.stays (valid : life.Valid left) (apart : ∀ server, life.stage ≠ .starting server)
    (log : after.log = life.log) (server : after.server = life.server)
    (servers : after.servers = life.servers) (placed : after.Placed left) : after.Valid left :=
  valid.goes_on apart (log.trans (List.append_nil _).symm) (List.forall_mem_nil _) server servers
    (log ▸ valid.lawful) placed

theorem Valid.starts (valid : life.Valid left) (idle : life.stage = .idle) :
    Valid left { life with servers := life.servers + 1, stage := .starting life.servers } := by
  have ready := valid.placed
  simp only [Placed, idle] at ready
  refine
    { lawful := valid.lawful
      fresh := fun server later => valid.fresh server (Nat.le_of_succ_le later)
      current := fun server held => Nat.lt_succ_of_lt (valid.current server held)
      accounted := fun server known => ?_
      placed := ?_ }
  · rcases Nat.lt_succ_iff_lt_or_eq.mp known with before | rfl
    · exact (valid.kept (by simp [idle]) server before).imp_right .inl
    · exact .inr (.inr rfl)
  · refine ⟨⟨ready.server, ready.serving, ready.opened⟩, valid.fresh _ (Nat.le_refl _), ?_,
      Nat.lt_succ_self _⟩
    exact fun current => Nat.lt_irrefl _ (valid.current _ current)

theorem Valid.enters (valid : life.Valid left) (idle : life.stage = .idle)
    (objectId rdmaToken : String) (length : UInt64) :
    Valid left { life with stage := .receiving { objectId, rdmaToken, length } } := by
  have ready := valid.placed
  simp only [Placed, idle] at ready
  refine valid.stays (by simp [idle]) rfl rfl rfl ⟨?_, fun _ _ => ⟨trivial, rfl, rfl, rfl, rfl⟩⟩
  exact ⟨ready.server, ready.serving, ready.opened⟩

theorem Valid.stops (valid : life.Valid left) (idle : life.stage = .idle) (ending : Bool) :
    (life.stop ending).Valid left := by
  have ready := valid.placed
  simp only [Placed, idle] at ready
  refine valid.stays (by simp [idle]) rfl rfl rfl ?_
  cases pool : life.pool with
  | none =>
      simp only [Lifecycle.stop, Placed, pool]
      refine ⟨trivial, fun server current => ?_⟩
      rw [ready.server, pool] at current
      cases current
  | some built =>
      simp only [Lifecycle.stop, Placed, pool]
      refine ⟨trivial, ready.bound built pool, ready.serving built pool, fun shut => ?_⟩
      rw [ready.opened built pool] at shut
      cases shut

/-- The old server goes; nothing of the old pool is left on it. -/
theorem Valid.replaces_server (valid : life.Valid left) (starting : life.stage = .starting server)
    (empties : ∀ {pool : PinnedBufferPool}, left pool → pool.Empty)
    (allowed : ∀ built, life.pool = some built → left built.pool) :
    (life.replaceServer server).Valid left := by
  have placed := valid.placed
  simp only [Placed, starting] at placed
  obtain ⟨ready, fresh, apart, known⟩ := placed
  have log : (life.replaceServer server).log = life.log ++ ServerLog.retiring life.server :=
    life.record_retired
  have lawful : (life.replaceServer server).log.Lawful := by
    rw [log]
    refine valid.lawful.retire fun held current => ?_
    rw [ready.server] at current
    obtain ⟨built, pool, rfl⟩ := Option.map_eq_some_iff.mp current
    have serving := ready.serving built pool
    exact ⟨serving.alive, serving.cleared_iff.mpr (empties (allowed built pool))⟩
  refine
    { lawful
      fresh := fun other later => ?_
      current := fun other same => Option.some.inj same ▸ known
      accounted := fun other before => ?_
      placed := ⟨rfl, ?_, allowed⟩ }
  · rw [log]
    refine (valid.fresh other later).retire fun current => ?_
    exact Nat.not_lt.mpr later (valid.current other current)
  · rcases valid.accounted other before with destroyed | current | stage
    · left
      rw [log]
      exact destroyed.append _
    · left
      rw [log, current]
      exact List.mem_append_right _ (List.mem_singleton.mpr rfl)
    · rw [starting] at stage
      cases stage
      exact .inr (.inl rfl)
  · rw [log]
    exact fresh.retire apart

theorem Valid.unconnected (valid : life.Valid left) (starting : life.stage = .starting server) :
    Valid left { life.record (some server) [.destroyed] with stage := .idle } := by
  have placed := valid.placed
  simp only [Placed, starting] at placed
  obtain ⟨ready, fresh, apart, known⟩ := placed
  refine
    { lawful := valid.lawful.snoc ⟨server, rfl, fresh.alive, fun _ => fresh.cleared⟩
      fresh := fun other later => ?_
      current := valid.current
      accounted := fun other before => ?_
      placed := ?_ }
  · refine (valid.fresh other later).append fun entry member same => ?_
    rw [List.mem_singleton.mp member] at same
    cases same
    exact Nat.not_lt.mpr later known
  · rcases valid.accounted other before with destroyed | current | stage
    · exact .inl (destroyed.append _)
    · exact .inr (.inl current)
    · rw [starting] at stage
      cases stage
      exact .inl (List.mem_append_right _ (List.mem_singleton.mpr rfl))
  · refine ready.append (fun entry member built pool same => ?_) rfl rfl rfl
    rw [List.mem_singleton.mp member] at same
    exact apart ((ready.bound built pool).trans same.symm)

theorem Valid.replaces_pool (valid : life.Valid left) (assigning : life.stage = .assigning server)
    (empties : ∀ {pool : PinnedBufferPool}, left pool → pool.Empty) :
    (life.replacePool server).Valid left := by
  have placed := valid.placed
  simp only [Placed, assigning] at placed
  obtain ⟨current, fresh, allowed⟩ := placed
  have ready : ∀ stage, Ready
      { life with
        pool := some ⟨server, .create bufferSizeClasses kBufferMaxPerClass⟩, stage } [] := by
    intro stage
    refine ⟨current, ?_, ?_⟩
    · rintro built ⟨⟩
      exact .create fresh
    · rintro built ⟨⟩
      rfl
  refine valid.stays (by simp [assigning]) rfl rfl rfl ?_
  cases pool : life.pool with
  | none =>
      simp only [replacePool, Placed, pool]
      exact ready _
  | some old =>
      simp only [replacePool, Placed, pool]
      exact ⟨ready _, empties (allowed old pool)⟩

theorem Valid.resets_server {ending : Bool} (valid : life.Valid left)
    (resetting : life.stage = .resetting ending) : (life.resetServer ending).Valid left := by
  have placed := valid.placed
  simp only [Placed, resetting] at placed
  obtain ⟨pool, cleared⟩ := placed
  have log : (life.resetServer ending).log = life.log ++ ServerLog.retiring life.server :=
    life.record_retired
  have lawful : (life.resetServer ending).log.Lawful := by
    rw [log]
    exact valid.lawful.retire cleared
  have unset : (life.resetServer ending).pool = none := pool
  refine
    { lawful
      fresh := fun other later => ?_
      current := nofun
      accounted := fun other known => .inl ?_
      placed := ?_ }
  · rw [log]
    refine (valid.fresh other later).retire fun current => ?_
    exact Nat.not_lt.mpr later (valid.current other current)
  · rw [log]
    rcases valid.kept (by simp [resetting]) other known with destroyed | current
    · exact destroyed.append _
    · rw [current]
      exact List.mem_append_right _ (List.mem_singleton.mpr rfl)
  · cases ending with
    | true => exact ⟨unset, rfl⟩
    | false =>
        refine ⟨?_, fun built found => ?_, fun built found => ?_⟩
        · rw [unset]
          rfl
        · rw [unset] at found
          cases found
        · rw [unset] at found
          cases found

/-- The old pool has nothing to deregister. -/
theorem Valid.shuts_replaced (valid : life.Valid left)
    (shutting : life.stage = .shutting built operation .started) :
    (life.shut success built operation .started).Valid left := by
  have placed := valid.placed
  simp only [Placed, shutting] at placed
  obtain ⟨ready, barren⟩ := placed
  have log : (life.shut success built operation .started).log = life.log := by
    simp [shut, record, barren.uses]
  have same : (life.shut success built operation .started).Ready [] := by
    refine ready.append (List.forall_mem_nil _) ?_ rfl rfl
    rw [log, List.append_nil]
  refine valid.stays (by simp [shutting]) log rfl rfl ?_
  rcases barren.perform success with returned | ⟨next, continues, barren⟩
  · have stage : (life.shut success built operation .started).stage = .idle := by
      simp only [shut, returned]
    rw [Placed, stage]
    exact same
  · have stage : (life.shut success built operation .started).stage =
        .shutting { built with pool := (built.pool.perform success operation).1 } next .started := by
      simp only [shut, continues]
    rw [Placed, stage]
    exact ⟨same, barren⟩

/-- `pool_to_destroy` deregisters while `server_` is still there. -/
theorem Valid.shuts_stopped {next : AfterShutdown} (valid : life.Valid left)
    (shutting : life.stage = .shutting built operation next) (stopping : next ≠ .started) :
    (life.shut success built operation next).Valid left := by
  have placed : life.pool = none ∧ life.server = some built.server ∧
      built.Serving life.log operation.holdings ∧ operation.Closing built.pool := by
    have placed := valid.placed
    simp only [Placed, shutting] at placed
    cases next with
    | started => exact absurd rfl stopping
    | destruct ending | reset ending => exact placed
  obtain ⟨pool, current, serving, closing⟩ := placed
  have served := serving.perform closing.pooled success
  have closes := closing.perform success
  refine valid.goes_on (by simp [shutting]) rfl ?_ rfl rfl
    (valid.lawful.uses serving.alive (Operation.uses_keep _)) ?_
  · intro entry member
    obtain ⟨use, _, rfl⟩ := List.mem_map.mp member
    exact current.symm
  rw [Placed]
  cases progress : (built.pool.perform success operation).2 with
  | next operation =>
      rw [progress] at served closes
      cases next with
      | started => exact absurd rfl stopping
      | destruct ending | reset ending =>
          simp only [shut, progress]
          exact ⟨pool, current, served, closes⟩
  | returned leases =>
      rw [progress] at served closes
      obtain ⟨rfl, empty⟩ := closes
      cases next with
      | started => exact absurd rfl stopping
      | destruct ending =>
          simp only [shut, progress]
          exact ⟨pool, current, served, fun _ => empty⟩
      | reset ending =>
          simp only [shut, progress]
          refine ⟨pool, fun held holds => ?_⟩
          cases current.symm.trans holds
          exact ⟨served.alive, served.cleared_iff.mpr empty⟩

theorem placed_moved (ready : after.Ready moved.stage.holdings)
    (valid : ∀ built, after.pool = some built → moved.stage.Pooled ∧ moved.Valid (after.sink built))
    (stage : after.stage = match moved.stage with
      | .returned _ => .idle
      | _ => .receiving moved) :
    after.Placed left := by
  cases reached : moved.stage with
  | returned outcome =>
      simp only [reached] at stage ready
      rw [Placed, stage]
      exact ready
  | _ =>
      simp only [reached] at stage
      rw [Placed, stage]
      exact ⟨ready, valid⟩

/-- A step of a call works on the server that is there. -/
theorem Valid.receives {uses : List ServerUse} (valid : life.Valid left)
    (receiving : life.stage = .receiving call) (pool : life.pool = some built)
    (stepped : Stepped (life.sink built) call result moved)
    (worked : built.pool.Uses result.pool uses) :
    (((life.moved built (result, moved)).record (some built.server) uses).record life.server
      call.stage.sinkUses).Valid left := by
  have placed := valid.placed
  simp only [Placed, receiving] at placed
  have current := placed.1.bound built pool
  have serving := placed.1.serving built pool
  have uses_keep : (some built.server, .destroyed) ∉ uses.map fun use => (some built.server, use) := by
    simpa using worked.keep
  have alive := ServerLog.alive_append serving.alive uses_keep
  have ready : Ready (((life.moved built (result, moved)).record (some built.server) uses).record
      (some built.server) call.stage.sinkUses) moved.stage.holdings := by
    refine ⟨current, ?_, ?_⟩
    · rintro _ ⟨⟩
      exact BuiltPool.Serving.append
        { alive := alive
          accounts := worked.accounts serving.accounts
          sound := serving.sound.step stepped.pool
          leases := worked.leases.trans serving.leases
          operations := worked.operations.trans serving.operations }
        (by simpa using call.stage.sinkUses_keep) (call.stage.sinkUses_registered _)
        (call.stage.sinkUses_deRegistered _)
    · rintro _ ⟨⟩
      exact worked.shutdown.trans (placed.1.opened built pool)
  rw [current]
  refine valid.goes_on (by simp [receiving]) (List.append_assoc ..) ?_ rfl rfl
    ((valid.lawful.uses serving.alive worked.keep).uses alive call.stage.sinkUses_keep)
    (placed_moved ready ?_ rfl)
  · intro entry member
    rw [← List.map_append] at member
    obtain ⟨use, _, rfl⟩ := List.mem_map.mp member
    exact current.symm
  · rintro _ ⟨⟩
    have same : life.computeCrc32c = result.computeCrc32c := stepped.computes.symm
    have goes_on : moved.Valid { result with computeCrc32c := life.computeCrc32c } := by
      rw [same]
      exact stepped.valid
    exact ⟨stepped.pooled, goes_on⟩

/-- Without a pool nothing is asked of any server. -/
theorem Valid.receives_unpooled (valid : life.Valid left) (receiving : life.stage = .receiving call)
    (unset : life.pool = none) :
    Valid left { life with
      stage := match moved.stage with
        | .returned _ => .idle
        | _ => .receiving moved } := by
  have placed := valid.placed
  simp only [Placed, receiving] at placed
  have nothing : ∀ built, life.pool ≠ some built := by simp [unset]
  refine valid.stays (by simp [receiving]) rfl rfl rfl
    (placed_moved ⟨placed.1.server, ?_, ?_⟩ ?_ rfl)
  · exact fun built pool => absurd pool (nothing built)
  · exact fun built pool => absurd pool (nothing built)
  · exact fun built pool => absurd pool (nothing built)

theorem Valid.received (valid : before.Valid left) (receiving : before.stage = .receiving call)
    (received : before.receive success call = some after) : after.Valid left := by
  have placed := valid.placed
  simp only [Placed, receiving] at placed
  rw [Lifecycle.receive] at received
  split at received
  · rename_i built pool
    obtain ⟨next, moves, rfl⟩ := Option.map_eq_some_iff.mp received
    obtain ⟨⟨result, moved⟩, performed, rfl⟩ := Option.map_eq_some_iff.mp moves
    obtain ⟨pooled, held⟩ := placed.2 built pool
    exact valid.receives receiving pool (BackendGdsSink.perform_stepped pooled held performed)
      (BackendGdsSink.perform_uses held performed)
  · rename_i unset
    obtain ⟨moved, _, rfl⟩ := Option.map_eq_some_iff.mp received
    exact valid.receives_unpooled receiving unset

theorem Valid.transferred (valid : before.Valid left) (receiving : before.stage = .receiving call)
    (transferred : before.transfer answer call = some after) : after.Valid left := by
  have placed := valid.placed
  simp only [Placed, receiving] at placed
  obtain ⟨built, pool, recorded⟩ := Option.bind_eq_some_iff.mp transferred
  obtain ⟨next, moves, rfl⟩ := Option.map_eq_some_iff.mp recorded
  obtain ⟨⟨result, moved⟩, put, rfl⟩ := Option.map_eq_some_iff.mp moves
  obtain ⟨pooled, held⟩ := placed.2 built pool
  have worked := valid.receives receiving pool (BackendGdsSink.transfer_stepped pooled held put)
    (BackendGdsSink.transfer_uses put)
  simpa [record] using worked

theorem Valid.step (valid : before.Valid left) (advanced : before.advance event = some after)
    (empties : ∀ {pool : PinnedBufferPool}, left pool → pool.Empty)
    (allowed : before.restarts event = true → ∀ built, before.pool = some built → left built.pool) :
    after.Valid left := by
  cases stage : before.stage with
  | idle =>
      cases event with
      | start =>
          simp only [advance, stage] at advanced
          cases advanced
          exact valid.starts stage
      | receive objectId rdmaToken length =>
          simp only [advance, stage] at advanced
          cases advanced
          exact valid.enters stage objectId rdmaToken length
      | stop | destroy =>
          simp only [advance, stage] at advanced
          cases advanced
          exact valid.stops stage _
      | _ => simp [advance, stage] at advanced
  | starting server =>
      cases event with
      | step connected =>
          simp only [advance, stage] at advanced
          cases connected with
          | false =>
              cases advanced
              exact valid.unconnected stage
          | true =>
              cases advanced
              exact valid.replaces_server stage empties (allowed (restarts_iff.mpr ⟨server, stage, rfl⟩))
      | _ => simp [advance, stage] at advanced
  | assigning server =>
      cases event with
      | step success =>
          simp only [advance, stage] at advanced
          cases advanced
          exact valid.replaces_pool stage empties
      | _ => simp [advance, stage] at advanced
  | receiving call =>
      cases event with
      | step success =>
          simp only [advance, stage] at advanced
          exact valid.received stage advanced
      | transfer answer =>
          simp only [advance, stage] at advanced
          exact valid.transferred stage advanced
      | _ => simp [advance, stage] at advanced
  | shutting built operation next =>
      cases event with
      | step success =>
          simp only [advance, stage] at advanced
          cases advanced
          cases next with
          | started => exact valid.shuts_replaced stage
          | destruct ending | reset ending => exact valid.shuts_stopped stage nofun
      | _ => simp [advance, stage] at advanced
  | resetting ending =>
      cases event with
      | step success =>
          simp only [advance, stage] at advanced
          cases advanced
          exact valid.resets_server stage
      | _ => simp [advance, stage] at advanced
  | ended => simp [advance, stage] at advanced

theorem valid_initial (initial : system.initial start) : start.Valid left := by
  obtain ⟨computeCrc32c, memory, rfl⟩ := initial
  exact
    { lawful := ServerLog.lawful_nil
      fresh := fun _ _ _ => List.not_mem_nil
      current := nofun
      accounted := nofun
      placed := ⟨rfl, nofun, nofun⟩ }

/-- With nothing left to replace, the two members never disagree. -/
theorem Valid.always_bound (valid : life.Valid fun _ => False) : life.Bound := by
  cases stage : life.stage with
  | assigning server =>
      have placed := valid.placed
      simp only [Placed, stage] at placed
      exact fun built pool => (placed.2.2 built pool).elim
  | _ => exact valid.bound (by simp [stage])

/-- A restart that finds a pool separates the two members. -/
theorem Valid.unbound (valid : before.Valid left) (restarts : before.restarts event = true)
    (advanced : before.advance event = some after) (bound : after.Bound) : before.pool = none := by
  obtain ⟨server, stage, rfl⟩ := restarts_iff.mp restarts
  have placed := valid.placed
  simp only [Placed, stage] at placed
  obtain ⟨ready, _, apart, _⟩ := placed
  simp only [advance, stage, if_true, Option.some.injEq] at advanced
  subst advanced
  cases pool : before.pool with
  | none => rfl
  | some built =>
      have assigned : some server = some built.server := bound built pool
      exact absurd ((ready.bound built pool).trans assigned.symm) apart

/-- A restart is lawful only if the pool that it replaces has nothing cached. -/
theorem Valid.emptied (valid : before.Valid left) (restarts : before.restarts event = true)
    (advanced : before.advance event = some after) (lawful : after.log.Lawful)
    (pool : before.pool = some built) : built.pool.Empty := by
  obtain ⟨server, stage, rfl⟩ := restarts_iff.mp restarts
  have placed := valid.placed
  simp only [Placed, stage] at placed
  have ready := placed.1
  simp only [advance, stage, if_true, Option.some.injEq] at advanced
  subst advanced
  have log : (before.replaceServer server).log = before.log ++ [(some built.server, .destroyed)] := by
    rw [replaceServer, ready.bound built pool]
    rfl
  rw [log] at lawful
  obtain ⟨held, same, _, cleared⟩ := lawful.last
  cases same
  exact (ready.serving built pool).cleared_iff.mp (cleared rfl)

/-- A `Start` over a set `pool_` breaks the tie of the two members.  If that pool has
something cached, the server goes with MRs in force and is asked to deregister them. -/
theorem server_outlives_pool (initial : system.initial start) :
    ((system.restrict fun _ _ after => after.Bound ∧ after.log.Lawful ∧ after.Settled).Run
        start events after ↔
      (system.restrict fun before event _ => before.stopped event = true).Run start events after) ∧
    ((system.restrict fun _ _ after => after.Tied ∧ after.log.Lawful ∧ after.Settled).Run
        start events after ↔
      (system.restrict fun before event _ => before.drained event = true).Run
        start events after) := by
  constructor
  · have nothing : ∀ {before after : Lifecycle} {event : Event},
        before.Valid (fun _ => False) → before.advance event = some after →
        before.stopped event = true → after.Valid fun _ => False := by
      intro before after event valid advanced stops
      refine valid.step advanced False.elim fun restarts built pool => ?_
      rw [stopped_iff.mp stops restarts] at pool
      cases pool
    refine System.restrict_run_iff (Valid fun _ => False) ?_ ?_ (valid_initial initial)
    · intro before event after valid advanced
      constructor
      · intro safe
        exact stopped_iff.mpr fun restarts => valid.unbound restarts advanced safe.1
      · intro stops
        have reached := nothing valid advanced stops
        exact ⟨reached.always_bound, reached.lawful, reached.settled⟩
    · intro before event after valid advanced safe
      exact nothing valid advanced
        (stopped_iff.mpr fun restarts => valid.unbound restarts advanced safe.1)
  · refine System.restrict_run_iff (Valid PinnedBufferPool.Empty) ?_ ?_ (valid_initial initial)
    · intro before event after valid advanced
      constructor
      · intro safe
        exact drained_iff.mpr fun restarts built pool =>
          valid.emptied restarts advanced safe.2.1 pool
      · intro drains
        have reached := valid.step advanced id (drained_iff.mp drains)
        exact ⟨reached.bound, reached.lawful, reached.settled⟩
    · intro before event after valid advanced safe
      exact valid.step advanced id fun restarts built pool =>
        valid.emptied restarts advanced safe.2.1 pool

/-- What `create` makes of the four classes. -/
def fourClasses : PinnedBufferPool where
  sizeClasses := bufferSizeClasses
  maxPerClass := kBufferMaxPerClass
  buckets := [[], [], [], []]

theorem create_four : .create bufferSizeClasses kBufferMaxPerClass = fourClasses := by
  have sorted : bufferSizeClasses.Pairwise fun left right => decide (left ≤ right) = true := by decide
  rw [PinnedBufferPool.create, List.mergeSort_of_pairwise sorted]
  rfl

def started : Lifecycle where
  servers := 1
  server := some 0
  pool := some ⟨0, fourClasses⟩

theorem started_run :
    (system.restrict fun before event _ => before.stopped event = true).Run {}
      [.start, .step true, .step true] started := by
  have first : System.replay (System.guarded stopped advance) {} [.start, .step true] =
      some { servers := 1, server := some 0, stage := .assigning 0 } := rfl
  have pooled : advance { servers := 1, server := some 0, stage := .assigning 0 } (.step true) =
      some started := by
    simp only [advance, replacePool, create_four]
    rfl
  exact (System.Run.of_guarded first).append (.single ⟨pooled, rfl⟩)

/-- A chunk whose buffer stays cached. -/
def receiveOnce : List Event :=
  [.receive "a" "" 3, .step true, .step true, .step true, .step true, .step true, .step true,
    .transfer Receives.threeBytes, .step true, .step true, .step true, .step true, .step true]

def received : ServerLog :=
  [(some 0, .allocHostBuffer), (some 0, .registerBuffer (some 0)), (some 0, .allocateChannelId),
    (some 0, .handlePutObject 0), (some 0, .freeChannelId 0)]

def destroyOnce : List Event :=
  [.destroy, .step true, .step true, .step true, .step true, .step true, .step true, .step true,
    .step true, .step true, .step true]

/-- `Start` a second time, up to the first use of the server by the pool that is replaced. -/
def restartOnce : List Event :=
  [.start, .step true, .step true, .step true, .step true, .step true, .step true, .step true,
    .step true, .step true]

theorem destroyed_sink_cleared : ∃ life : Lifecycle,
    (system.restrict fun _ _ after => after.Bound ∧ after.log.Lawful ∧ after.Settled).Run {}
      ([.start, .step true, .step true] ++ (receiveOnce ++ destroyOnce)) life ∧
    life.log = received ++ [(some 0, .deRegisterBuffer 0), (some 0, .destroyed)] := by
  have logged : (System.replay (System.guarded stopped advance) started
      (receiveOnce ++ destroyOnce)).map (·.log) =
        some (received ++ [(some 0, .deRegisterBuffer 0), (some 0, .destroyed)]) := rfl
  obtain ⟨life, replayed, log⟩ := Option.map_eq_some_iff.mp logged
  have initial : system.initial {} := ⟨true, fun _ _ => 0, rfl⟩
  exact ⟨life, (server_outlives_pool initial).1.mpr (started_run.append (.of_guarded replayed)), log⟩

theorem restarted_sink_touches_destroyed : ∃ life : Lifecycle, system.Run {}
      ([.start, .step true, .step true] ++ (receiveOnce ++ restartOnce)) life ∧
    life.log = received ++ [(some 0, .destroyed), (some 0, .deRegisterBuffer 0)] ∧
    ¬ life.log.Lawful := by
  have logged : (System.replay advance started (receiveOnce ++ restartOnce)).map (·.log) =
      some (received ++ [(some 0, .destroyed), (some 0, .deRegisterBuffer 0)]) := rfl
  obtain ⟨life, replayed, log⟩ := Option.map_eq_some_iff.mp logged
  refine ⟨life, started_run.of_restrict.append (.of_replay replayed), log, fun lawful => ?_⟩
  rw [log] at lawful
  obtain ⟨server, same, alive, _⟩ := lawful (received ++ [(some 0, .destroyed)])
    (some 0, .deRegisterBuffer 0) [] rfl
  cases same
  exact alive (List.mem_append_right _ List.mem_cons_self)

end Lifecycle

end Us3Turbo.Backend
