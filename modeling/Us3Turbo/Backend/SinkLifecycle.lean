import Us3Turbo.Backend.Receives

/-! # One `BackendGdsSink` from its construction to its destruction

`Start`, `ReceiveAndDiscard` and `Stop` come one after the other, in any order, and
every answer of a `cuObjServer` is free.  A call is cut at every member that it assigns
and at every use of a server; the servers are numbered as they are constructed.
-/

namespace Us3Turbo.Backend

open Us3Turbo.Data Us3Turbo.Transition

inductive ServerUse where
  | allocHostBuffer
  | registerBuffer (mr : Option Nat)
  | deRegisterBuffer (mr : Nat)
  | allocateChannelId
  | handlePutObject (channel : Nat)
  | freeChannelId (channel : Nat)
  | destroyed
deriving DecidableEq, Repr

/-- The server is the one that the pointer or reference in use refers to. -/
abbrev ServerLog := List (Option Nat × ServerUse)

/-- A pool keeps a reference to the server that it was built on. -/
structure BuiltPool where
  server : Nat
  pool : PinnedBufferPool

/-- What comes once a `Shutdown` of a pool has returned. -/
inductive AfterShutdown where
  /-- `Start` returns; the `Shutdown` is that of the pool that `pool_` had before. -/
  | started
  /-- `pool_to_destroy.reset()` in `Stop`. -/
  | destruct (ending : Bool)
  /-- `server_.reset()`. -/
  | reset (ending : Bool)
deriving DecidableEq, Repr

/-- Where the object stands; `ending` is whether `Stop` runs for the destructor. -/
inductive LifeStage where
  | idle
  | starting (server : Nat)
  | assigning (server : Nat)
  | receiving (call : Receive)
  | shutting (built : BuiltPool) (operation : Operation) (next : AfterShutdown)
  | resetting (ending : Bool)
  | ended

structure Lifecycle where
  computeCrc32c : Bool := true
  servers : Nat := 0
  server : Option Nat := none
  pool : Option BuiltPool := none
  channels : Ledger := {}
  memory : Nat → Nat → UInt8 := fun _ _ => 0
  stage : LifeStage := .idle
  log : ServerLog := []

def bufferSizeClasses : List UInt64 :=
  [1 * 1024 * 1024, 16 * 1024 * 1024, 256 * 1024 * 1024, 1 * 1024 * 1024 * 1024]

def kBufferMaxPerClass : Nat := 4

/-- What a step of a call on the pool asks of the server; `mr` is the next MR. -/
def Operation.uses (success : Bool) (mr : Nat) : Operation → List ServerUse
  | .acquireAlloc _ _ => [.allocHostBuffer]
  | .acquireRegister _ _ _ => [.registerBuffer (if success then some mr else none)]
  | .disposeMr record _ => [.deRegisterBuffer record.mr]
  | _ => []

namespace ReceiveStage

def poolUses (success : Bool) (mr : Nat) : ReceiveStage → List ServerUse
  | .acquiring operation => operation.uses success mr
  | .releasing operation _ => operation.uses success mr
  | _ => []

def sinkUses : ReceiveStage → List ServerUse
  | .leased _ => [.allocateChannelId]
  | .connected _ channel => [.handlePutObject channel]
  | .unwinding _ channel _ => [.freeChannelId channel]
  | _ => []

end ReceiveStage

/-- A call without a pool: its lease stays empty. -/
def Receive.unpooled (call : Receive) : Option Receive :=
  match call.stage with
  | .entered =>
      if call.length > kMaxChunkBytes then
        some (call.finish { error := "GDS PUT chunk exceeds 1 GiB cuObjServer limit" })
      else if call.length = 0 then some (call.finish { ok := true })
      else some (call.takes {})
  | .dropping lease outcome => some (call.drop lease outcome)
  | _ => none

namespace Lifecycle

def record (life : Lifecycle) (server : Option Nat) (uses : List ServerUse) : Lifecycle :=
  { life with log := life.log ++ uses.map fun use => (server, use) }

/-- The sink that a `ReceiveAndDiscard` works with. -/
def sink (life : Lifecycle) (built : BuiltPool) : BackendGdsSink where
  computeCrc32c := life.computeCrc32c
  pool := built.pool
  channels := life.channels
  memory := life.memory

def moved (life : Lifecycle) (built : BuiltPool) (result : BackendGdsSink × Receive) : Lifecycle :=
  { life with
    pool := some { built with pool := result.1.pool }
    channels := result.1.channels
    memory := result.1.memory
    stage := match result.2.stage with
      | .returned _ => .idle
      | _ => .receiving result.2 }

def receive (life : Lifecycle) (success : Bool) (call : Receive) : Option Lifecycle :=
  match life.pool with
  | some built =>
      (((life.sink built).perform success call).map (life.moved built)).map fun next =>
        (next.record (some built.server) (call.stage.poolUses success built.pool.regions.issued)).record
          life.server call.stage.sinkUses
  | none =>
      call.unpooled.map fun next =>
        { life with
          stage := match next.stage with
            | .returned _ => .idle
            | _ => .receiving next }

def transfer (life : Lifecycle) (answer : PutAnswer) (call : Receive) : Option Lifecycle :=
  life.pool.bind fun built =>
    (((life.sink built).transfer answer call).map (life.moved built)).map fun next =>
      next.record life.server call.stage.sinkUses

/-- `server_ = std::move(server)` in `Start`, which destroys the server that was there. -/
def replaceServer (life : Lifecycle) (server : Nat) : Lifecycle :=
  { life.record life.server (if life.server.isSome then [.destroyed] else []) with
    server := some server
    channels := {}
    stage := .assigning server }

/-- `pool_ = std::make_shared<PinnedBufferPool>(...)`, which destroys the pool that was there. -/
def replacePool (life : Lifecycle) (server : Nat) : Lifecycle :=
  { life with
    pool := some ⟨server, .create bufferSizeClasses kBufferMaxPerClass⟩
    stage := match life.pool with
      | some old => .shutting old .shutdownSwap .started
      | none => .idle }

/-- `Stop`, up to `Shutdown`. -/
def stop (life : Lifecycle) (ending : Bool) : Lifecycle :=
  { life with
    pool := none
    stage := match life.pool with
      | some built => .shutting built .shutdownSwap (.destruct ending)
      | none => .resetting ending }

def shut (life : Lifecycle) (success : Bool) (built : BuiltPool) (operation : Operation)
    (next : AfterShutdown) : Lifecycle :=
  let result := built.pool.perform success operation
  let after : BuiltPool := { built with pool := result.1 }
  { life.record (some built.server) (operation.uses success built.pool.regions.issued) with
    stage := match result.2 with
      | .next operation => .shutting after operation next
      | .returned _ =>
          match next with
          | .started => .idle
          | .destruct ending => .shutting after .shutdownSwap (.reset ending)
          | .reset ending => .resetting ending }

def resetServer (life : Lifecycle) (ending : Bool) : Lifecycle :=
  { life.record life.server (if life.server.isSome then [.destroyed] else []) with
    server := none
    stage := if ending then .ended else .idle }

/-- A call begins, or goes on: `success` is the answer of `isConnected` or of the server
call that the step makes. -/
inductive Event where
  | start
  | receive (objectId rdmaToken : String) (length : UInt64)
  | stop
  | destroy
  | step (success : Bool)
  | transfer (answer : PutAnswer)

def advance (life : Lifecycle) (event : Event) : Option Lifecycle :=
  match life.stage, event with
  | .idle, .start =>
      some { life with servers := life.servers + 1, stage := .starting life.servers }
  | .idle, .receive objectId rdmaToken length =>
      some { life with stage := .receiving { objectId, rdmaToken, length } }
  | .idle, .stop => some (life.stop false)
  | .idle, .destroy => some (life.stop true)
  | .starting server, .step connected =>
      if connected then some (life.replaceServer server)
      else some { life.record (some server) [.destroyed] with stage := .idle }
  | .assigning server, .step _ => some (life.replacePool server)
  | .receiving call, .step success => life.receive success call
  | .receiving call, .transfer answer => life.transfer answer call
  | .shutting built operation next, .step success => some (life.shut success built operation next)
  | .resetting ending, .step _ => some (life.resetServer ending)
  | _, _ => none

def system : System Lifecycle Event :=
  .ofAdvance (fun life => ∃ computeCrc32c memory, life = { computeCrc32c, memory }) advance

end Lifecycle

end Us3Turbo.Backend
