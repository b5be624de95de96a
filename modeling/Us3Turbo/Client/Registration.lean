import Us3Turbo.Client.GdsMemoryManager

/-! # The registration table against the library's descriptors

Two copies of one fact, kept by hand.  `Pinned` is the half that every history
keeps; `Agrees` is lost for good once a `cuMemObjPutDescriptor` fails.
-/

namespace Us3Turbo.Client.GdsMemoryManager

open Us3Turbo.Transition

variable {manager before after start : GdsMemoryManager} {replies : Replies} {call : Call}
  {calls : List Call} {ptr other : DevicePtr} {size offset length : UInt64} {success : Bool}

/-! ## What one call does -/

theorem pin_registered : (manager.pin ptr size).registered.lookup other =
    if other = ptr then some size else manager.registered.lookup other := by
  by_cases same : other = ptr
  · rw [if_pos same, same]
    exact Finmap.lookup_insert _
  · rw [if_neg same]
    exact Finmap.lookup_insert_of_ne _ same

theorem pin_descriptors : (manager.pin ptr size).descriptors.lookup other =
    if other = ptr then some size else manager.descriptors.lookup other := by
  by_cases same : other = ptr
  · rw [if_pos same, same]
    exact Finmap.lookup_insert _
  · rw [if_neg same]
    exact Finmap.lookup_insert_of_ne _ same

theorem unpin_registered : (manager.unpin ptr success).registered.lookup other =
    if other = ptr then none else manager.registered.lookup other := by
  by_cases same : other = ptr
  · rw [if_pos same, same]
    exact Finmap.lookup_erase _ _
  · rw [if_neg same]
    exact Finmap.lookup_erase_ne same

theorem unpin_descriptors : (manager.unpin ptr success).descriptors.lookup other =
    if other = ptr ∧ success = true then none else manager.descriptors.lookup other := by
  cases success with
  | false => simp [unpin]
  | true =>
      by_cases same : other = ptr
      · rw [if_pos ⟨same, rfl⟩, same]
        exact Finmap.lookup_erase _ _
      · rw [if_neg (fun both => same both.1)]
        exact Finmap.lookup_erase_ne same

theorem registerBufferUnderLock_known (known : manager.registered.lookup ptr = some length) :
    manager.registerBufferUnderLock replies ptr size = { result := true, manager } := by
  simp only [registerBufferUnderLock, known]

theorem registerBufferUnderLock_pinned (unknown : manager.registered.lookup ptr = none)
    (pinned : replies.getDescriptor = true) :
    manager.registerBufferUnderLock replies ptr size =
      { result := true
        calls := [⟨.getDescriptor ptr size, manager.descriptors.lookup ptr⟩]
        manager := manager.pin ptr size } := by
  simp only [registerBufferUnderLock, unknown, pinned, if_true]

theorem registerBufferUnderLock_refused (unknown : manager.registered.lookup ptr = none)
    (refused : replies.getDescriptor = false) :
    manager.registerBufferUnderLock replies ptr size =
      { result := false
        calls := [⟨.getDescriptor ptr size, manager.descriptors.lookup ptr⟩]
        manager } := by
  simp only [registerBufferUnderLock, unknown, refused, Bool.false_eq_true, if_false]

theorem acquireToken_known (valid : ¬ (ptr = 0 ∨ size = 0))
    (known : manager.registered.lookup ptr = some length) :
    manager.acquireToken replies ptr size offset = manager.requestToken replies ptr size offset := by
  simp only [acquireToken, if_neg valid, known]

theorem acquireToken_pinned (valid : ¬ (ptr = 0 ∨ size = 0))
    (unknown : manager.registered.lookup ptr = none) (pinned : replies.getDescriptor = true) :
    manager.acquireToken replies ptr size offset =
      { result := replies.getRDMAToken.isSome
        token := replies.getRDMAToken
        calls := [⟨.getDescriptor ptr (size + offset), manager.descriptors.lookup ptr⟩,
          ⟨.getRDMAToken ptr size offset, some (size + offset)⟩]
        manager := manager.pin ptr (size + offset) } := by
  have live : (manager.pin ptr (size + offset)).descriptors.lookup ptr = some (size + offset) := by
    rw [pin_descriptors, if_pos rfl]
  simp only [acquireToken, if_neg valid, unknown, registerBufferUnderLock_pinned unknown pinned,
    if_true, requestToken, live, List.singleton_append]

theorem acquireToken_refused (valid : ¬ (ptr = 0 ∨ size = 0))
    (unknown : manager.registered.lookup ptr = none) (refused : replies.getDescriptor = false) :
    manager.acquireToken replies ptr size offset =
      { result := false
        calls := [⟨.getDescriptor ptr (size + offset), manager.descriptors.lookup ptr⟩]
        manager } := by
  simp only [acquireToken, if_neg valid, unknown, registerBufferUnderLock_refused unknown refused,
    Bool.false_eq_true, if_false]

/-- `RegisterBufferUnderLock` makes no other call into the library. -/
theorem registerBufferUnderLock_calls {observed : Observed}
    (member : observed ∈ (manager.registerBufferUnderLock replies ptr size).calls) :
    manager.registered.lookup ptr = none ∧
      observed = ⟨.getDescriptor ptr size, manager.descriptors.lookup ptr⟩ := by
  cases known : manager.registered.lookup ptr with
  | some length =>
      rw [registerBufferUnderLock_known known] at member
      cases member
  | none =>
      refine ⟨rfl, ?_⟩
      cases reply : replies.getDescriptor with
      | true =>
          rw [registerBufferUnderLock_pinned known reply] at member
          exact List.mem_singleton.mp member
      | false =>
          rw [registerBufferUnderLock_refused known reply] at member
          exact List.mem_singleton.mp member

inductive Change (manager : GdsMemoryManager) (call : Call) : GdsMemoryManager → Prop where
  | same : Change manager call manager
  | pin (ptr : DevicePtr) (size : UInt64) (unknown : manager.registered.lookup ptr = none) :
      Change manager call (manager.pin ptr size)
  | unpin (ptr : DevicePtr) (valid : ptr ≠ 0) (known : ptr ∈ manager.registered)
      (request : call.invocation = .unregisterBuffer ptr) :
      Change manager call (manager.unpin ptr call.replies.putDescriptor)

theorem registerBufferUnderLock_change :
    Change manager call (manager.registerBufferUnderLock replies ptr size).manager := by
  cases known : manager.registered.lookup ptr with
  | some length => rw [registerBufferUnderLock_known known]; exact .same
  | none =>
      cases reply : replies.getDescriptor with
      | true => rw [registerBufferUnderLock_pinned known reply]; exact .pin ptr size known
      | false => rw [registerBufferUnderLock_refused known reply]; exact .same

theorem perform_change (manager : GdsMemoryManager) (call : Call) :
    Change manager call (manager.perform call).manager := by
  cases request : call.invocation with
  | registerBuffer ptr size =>
      simp only [perform, request, registerBuffer]
      split
      · exact .same
      · exact registerBufferUnderLock_change
  | unregisterBuffer ptr =>
      simp only [perform, request, unregisterBuffer]
      split
      · exact .same
      · rename_i valid
        cases known : manager.registered.lookup ptr with
        | none => exact .same
        | some length =>
            exact .unpin ptr valid (Finmap.lookup_isSome.mp (by rw [known]; rfl)) request
  | acquireToken ptr size offset =>
      simp only [perform, request]
      by_cases valid : ptr = 0 ∨ size = 0
      · simp only [acquireToken, if_pos valid]
        exact .same
      · cases known : manager.registered.lookup ptr with
        | some length => rw [acquireToken_known valid known]; exact .same
        | none =>
            cases reply : call.replies.getDescriptor with
            | true => rw [acquireToken_pinned valid known reply]; exact .pin ptr _ known
            | false => rw [acquireToken_refused valid known reply]; exact .same

end Us3Turbo.Client.GdsMemoryManager
