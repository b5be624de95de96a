import Mathlib.Data.Finmap
import Us3Turbo.Transition.System

/-! # `client/src/gds_transport/gds_memory_manager.cpp`

`cuObjClient` is outside the repository.  What the manager relies on is kept:
the set of live descriptors with the number of bytes each one pins, a success
that changes it the way the call says, and a failure that leaves it alone.
-/

namespace Us3Turbo.Client

open Us3Turbo.Transition

/-- A `void*`; `nullptr` is `0`. -/
abbrev DevicePtr := UInt64

structure GdsMemoryManager where
  registered : Finmap fun _ : DevicePtr => UInt64 := ∅
  /-- Live descriptors of `cuObjClient`: the bytes pinned at each pointer. -/
  descriptors : Finmap fun _ : DevicePtr => UInt64 := ∅

/-- How the calls into `cuObjClient` made by one method call end.  `true` is
`CU_OBJ_SUCCESS`; `getRDMAToken` is the token, if there is one. -/
structure Replies where
  getDescriptor : Bool
  putDescriptor : Bool
  getRDMAToken : Option String

inductive LibraryCall where
  | getDescriptor (ptr : DevicePtr) (size : UInt64)
  | putDescriptor (ptr : DevicePtr)
  | getRDMAToken (ptr : DevicePtr) (size offset : UInt64)
deriving DecidableEq

/-- A call into `cuObjClient`, with the bytes pinned at its pointer when it was made. -/
structure Observed where
  call : LibraryCall
  live : Option UInt64

structure Outcome where
  result : Bool
  token : Option String := none
  calls : List Observed := []
  manager : GdsMemoryManager

namespace GdsMemoryManager

def pin (manager : GdsMemoryManager) (ptr : DevicePtr) (size : UInt64) : GdsMemoryManager where
  registered := manager.registered.insert ptr size
  descriptors := manager.descriptors.insert ptr size

/-- Both copies after a `cuMemObjPutDescriptor`; the table entry goes whatever it answers. -/
def unpin (manager : GdsMemoryManager) (ptr : DevicePtr) (success : Bool) : GdsMemoryManager where
  registered := manager.registered.erase ptr
  descriptors := if success then manager.descriptors.erase ptr else manager.descriptors

def registerBufferUnderLock (manager : GdsMemoryManager) (replies : Replies) (ptr : DevicePtr)
    (size : UInt64) : Outcome :=
  match manager.registered.lookup ptr with
  | some _ => { result := true, manager }
  | none =>
      let calls := [⟨.getDescriptor ptr size, manager.descriptors.lookup ptr⟩]
      if replies.getDescriptor then { result := true, calls, manager := manager.pin ptr size }
      else { result := false, calls, manager }

def registerBuffer (manager : GdsMemoryManager) (replies : Replies) (ptr : DevicePtr)
    (size : UInt64) : Outcome :=
  if ptr = 0 ∨ size = 0 then { result := false, manager }
  else manager.registerBufferUnderLock replies ptr size

def unregisterBuffer (manager : GdsMemoryManager) (replies : Replies) (ptr : DevicePtr) : Outcome :=
  if ptr = 0 then { result := false, manager }
  else
    match manager.registered.lookup ptr with
    | none => { result := true, manager }
    | some _ =>
        { result := replies.putDescriptor
          calls := [⟨.putDescriptor ptr, manager.descriptors.lookup ptr⟩]
          manager := manager.unpin ptr replies.putDescriptor }

def requestToken (manager : GdsMemoryManager) (replies : Replies) (ptr : DevicePtr)
    (size offset : UInt64) : Outcome where
  result := replies.getRDMAToken.isSome
  token := replies.getRDMAToken
  calls := [⟨.getRDMAToken ptr size offset, manager.descriptors.lookup ptr⟩]
  manager := manager

def acquireToken (manager : GdsMemoryManager) (replies : Replies) (ptr : DevicePtr)
    (size offset : UInt64) : Outcome :=
  if ptr = 0 ∨ size = 0 then { result := false, manager }
  else
    match manager.registered.lookup ptr with
    | some _ => manager.requestToken replies ptr size offset
    | none =>
        -- lazy registration; `size + offset` is a `size_t` sum and may wrap
        let registration := manager.registerBufferUnderLock replies ptr (size + offset)
        if registration.result then
          let request := registration.manager.requestToken replies ptr size offset
          { request with calls := registration.calls ++ request.calls }
        else registration

inductive Invocation where
  | registerBuffer (ptr : DevicePtr) (size : UInt64)
  | unregisterBuffer (ptr : DevicePtr)
  | acquireToken (ptr : DevicePtr) (size offset : UInt64)

structure Call where
  invocation : Invocation
  replies : Replies

def perform (manager : GdsMemoryManager) (call : Call) : Outcome :=
  match call.invocation with
  | .registerBuffer ptr size => manager.registerBuffer call.replies ptr size
  | .unregisterBuffer ptr => manager.unregisterBuffer call.replies ptr
  | .acquireToken ptr size offset => manager.acquireToken call.replies ptr size offset

/-- The manager under any sequence of method calls, from the empty table of its constructor. -/
def history : System GdsMemoryManager Call where
  initial manager := manager = {}
  step before call after := (before.perform call).manager = after

end GdsMemoryManager

end Us3Turbo.Client
