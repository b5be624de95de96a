import Us3Turbo.Backend.GdsSink
import Us3Turbo.Backend.PoolCustody

/-! # Concurrent `ReceiveAndDiscard` calls

A call stops at every use of the pool and of `cuObjServer`, and before the scan of its
buffer; other calls run in between.  Channels are numbered as the server hands them out.
-/

namespace Us3Turbo.Backend

open Us3Turbo.Data Us3Turbo.Transition

/-- `bytes` is what one `handlePutObject` wrote at the start of the buffer.  A transfer that
failed may have written something. -/
structure PutAnswer where
  transferred : Int64
  bytes : List UInt8
  status : String
  written : ¬ transferred < 0 → bytes.length = transferred.toUInt64.toNat

/-- Where a call stands, with the local variables its rest still uses. -/
inductive ReceiveStage where
  | entered
  | acquiring (operation : Operation)
  | leased (lease : PinnedBufferLease)
  | connected (lease : PinnedBufferLease) (channel : Nat)
  | transferred (lease : PinnedBufferLease) (channel : Nat) (bytes : UInt64)
  /-- The call returns: `chan_guard` is destroyed first, then `lease`. -/
  | unwinding (lease : PinnedBufferLease) (channel : Nat) (outcome : DiscardOutcome)
  | dropping (lease : PinnedBufferLease) (outcome : DiscardOutcome)
  | releasing (operation : Operation) (outcome : DiscardOutcome)
  | returned (outcome : DiscardOutcome)

/-- A call, with a record of what it took, what the server answered it and what it freed. -/
structure Receive where
  objectId : String
  rdmaToken : String
  length : UInt64
  stage : ReceiveStage := .entered
  took : Option CachedBuffer := none
  allocated : Option Nat := none
  put : Option PutAnswer := none
  freed : List Nat := []

/-- The sink between `Start` and `Stop`.  `memory` is what the server's host buffers hold. -/
structure BackendGdsSink where
  computeCrc32c : Bool
  pool : PinnedBufferPool
  channels : Ledger := {}
  memory : Nat → Nat → UInt8

namespace BackendGdsSink

def load (sink : BackendGdsSink) (data count : Nat) : List UInt8 :=
  (List.range count).map (sink.memory data)

def store (sink : BackendGdsSink) (data : Nat) (bytes : List UInt8) : BackendGdsSink :=
  { sink with
    memory := Function.update sink.memory data fun offset =>
      (bytes[offset]?).getD (sink.memory data offset) }

end BackendGdsSink

namespace Receive

def finish (call : Receive) (outcome : DiscardOutcome) : Receive :=
  { call with stage := .returned outcome }

def takes (call : Receive) (lease : PinnedBufferLease) : Receive :=
  let call := { call with took := lease.buffer }
  if lease.buffer.isSome then { call with stage := .leased lease }
  else { call with stage := .dropping lease { error := "cuObjServer pinned buffer alloc failed" } }

def acquires (call : Receive) : Progress → Receive
  | .next operation => { call with stage := .acquiring operation }
  -- `Acquire` returns one lease
  | .returned leases => call.takes (leases.headD {})

/-- What is left of the destructor of the lease. -/
def releases (call : Receive) (outcome : DiscardOutcome) : Progress → Receive
  | .next operation => { call with stage := .releasing operation outcome }
  | .returned _ => call.finish outcome

def enter (call : Receive) (pool : PinnedBufferPool) : Receive :=
  if call.length > kMaxChunkBytes then
    call.finish { error := "GDS PUT chunk exceeds 1 GiB cuObjServer limit" }
  else if call.length = 0 then call.finish { ok := true }
  else call.acquires (pool.acquire call.length)

/-- The lease goes out of scope. -/
def drop (call : Receive) (lease : PinnedBufferLease) (outcome : DiscardOutcome) : Receive :=
  call.releases outcome (lease.release .destroyed)

def transfers (call : Receive) (lease : PinnedBufferLease) (channel : Nat) (answer : PutAnswer) :
    Receive :=
  let call := { call with put := some answer }
  if answer.transferred < 0 then
    let outcome := { error := "cuObjServer handlePutObject failed: " ++ answer.status }
    { call with stage := .unwinding lease channel outcome }
  else { call with stage := .transferred lease channel answer.transferred.toUInt64 }

end Receive

namespace BackendGdsSink

/-- What the call reports once its transfer is in the buffer. -/
def scan (sink : BackendGdsSink) (lease : PinnedBufferLease) (bytes : UInt64) : DiscardOutcome where
  ok := true
  bytesTransferred := bytes
  crc32c :=
    if sink.computeCrc32c then
      match lease.buffer with
      | none => 0
      | some record => crc32c (sink.load record.data bytes.toNat)
    else 0

/-- A step of a call, but for the transfer.  `success` is the answer of the server where
the step asks it. -/
def perform (sink : BackendGdsSink) (success : Bool) (call : Receive) :
    Option (BackendGdsSink × Receive) :=
  match call.stage with
  | .entered => some (sink, call.enter sink.pool)
  | .acquiring operation =>
      let result := sink.pool.perform success operation
      some ({ sink with pool := result.1 }, call.acquires result.2)
  | .leased lease =>
      if success then
        let channel := sink.channels.issued
        some ({ sink with channels := sink.channels.issue },
          { call with allocated := some channel, stage := .connected lease channel })
      else
        some (sink,
          { call with stage := .dropping lease { error := "cuObjServer allocateChannelId failed" } })
  | .connected _ _ => none
  | .transferred lease channel bytes =>
      some (sink, { call with stage := .unwinding lease channel (sink.scan lease bytes) })
  | .unwinding lease channel outcome =>
      some ({ sink with channels := sink.channels.giveBack channel },
        { call with freed := call.freed ++ [channel], stage := .dropping lease outcome })
  | .dropping lease outcome => some (sink, call.drop lease outcome)
  | .releasing operation outcome =>
      let result := sink.pool.perform success operation
      some ({ sink with pool := result.1 }, call.releases outcome result.2)
  | .returned _ => none

/-- `handlePutObject`, which transfers at most the length it is given. -/
def transfer (sink : BackendGdsSink) (answer : PutAnswer) (call : Receive) :
    Option (BackendGdsSink × Receive) :=
  match call.stage with
  | .connected lease channel =>
      if ¬ answer.transferred < 0 ∧ answer.transferred.toUInt64 > call.length then none
      else
        match lease.buffer with
        | none => none
        | some record => some (sink.store record.data answer.bytes, call.transfers lease channel answer)
  | _ => none

end BackendGdsSink

structure Receives where
  sink : BackendGdsSink
  calls : List Receive := []

namespace Receives

/-- A call begins, or goes on; `pool` is any other use of the pool, `Shutdown` included. -/
inductive Event where
  | call (objectId rdmaToken : String) (length : UInt64)
  | step (index : Nat) (success : Bool)
  | transfer (index : Nat) (answer : PutAnswer)
  | pool (event : PinnedBufferPool.Event)

def settle (receives : Receives) (index : Nat) (result : BackendGdsSink × Receive) : Receives where
  sink := result.1
  calls := receives.calls.set index result.2

def advance (receives : Receives) : Event → Option Receives
  | .call objectId rdmaToken length =>
      some { receives with calls := receives.calls ++ [{ objectId, rdmaToken, length }] }
  | .step index success =>
      (receives.calls[index]?).bind fun call =>
        (receives.sink.perform success call).map (receives.settle index)
  | .transfer index answer =>
      (receives.calls[index]?).bind fun call =>
        (receives.sink.transfer answer call).map (receives.settle index)
  | .pool event =>
      (receives.sink.pool.advance event).map fun pool =>
        { receives with sink := { receives.sink with pool } }

/-- The pool may have been in use before, and its buffers hold anything. -/
def system : System Receives Event :=
  .ofAdvance
    (fun receives => receives.calls = [] ∧ receives.sink.channels = {} ∧
      PinnedBufferPool.system.Reachable receives.sink.pool) advance

end Receives

end Us3Turbo.Backend
