import Us3Turbo.Client.Registration

/-! # Does the registration table tell the truth?

`RegisterBufferUnderLock` leaves the table alone when the library refuses;
`UnregisterBuffer` drops the entry before it looks at the library's answer.
-/

namespace Us3Turbo.Client.GdsMemoryManager

open Us3Turbo.Transition

variable {manager before after start : GdsMemoryManager} {call : Call} {calls : List Call}
  {ptr : DevicePtr} {size offset : UInt64} {replies : Replies} {observed : Observed}

def Agrees (manager : GdsMemoryManager) : Prop :=
  ∀ ptr, ptr ∈ manager.registered ↔ ptr ∈ manager.descriptors

/-- What a caller may conclude from one call. -/
structure Truthful (before : GdsMemoryManager) (call : Call) (after : GdsMemoryManager) : Prop where
  agrees : after.Agrees
  released : ∀ ptr, call.invocation = .unregisterBuffer ptr →
    (before.perform call).result = true → ptr ∉ after.descriptors
  retriable : ∀ ptr, call.invocation = .unregisterBuffer ptr → ptr ≠ 0 →
    (before.perform call).result = false → ∀ replies : Replies, replies.putDescriptor = true →
      ptr ∉ (after.unregisterBuffer replies ptr).manager.descriptors
  unpinned : ∀ observed ∈ (before.perform call).calls, ∀ ptr size,
    observed.call = .getDescriptor ptr size → observed.live = none

/-- The call is no `UnregisterBuffer` whose `cuMemObjPutDescriptor` fails. -/
def PutSucceeds (before : GdsMemoryManager) (call : Call) : Prop :=
  ∀ ptr, call.invocation = .unregisterBuffer ptr → ptr ≠ 0 → ptr ∈ before.registered →
    call.replies.putDescriptor = true

theorem Agrees.not_live (agrees : manager.Agrees) (unknown : ptr ∉ manager.registered) :
    manager.descriptors.lookup ptr = none :=
  Finmap.lookup_eq_none.mpr fun live => unknown ((agrees ptr).mpr live)

theorem Agrees.pin (agrees : manager.Agrees) : (manager.pin ptr size).Agrees := by
  intro other
  simp only [GdsMemoryManager.pin, Finmap.mem_insert, agrees other]

theorem Agrees.unpin (agrees : manager.Agrees) : (manager.unpin ptr true).Agrees := by
  intro other
  simp only [GdsMemoryManager.unpin, if_true, Finmap.mem_erase, agrees other]

/-- The descriptor that a failed unregistration leaves behind has no entry any more. -/
theorem unpin_failed_disagrees (live : ptr ∈ manager.descriptors) :
    ¬ (manager.unpin ptr false).Agrees := by
  intro agrees
  have kept : ptr ∈ (manager.unpin ptr false).registered := (agrees ptr).mpr live
  exact (Finmap.mem_erase.mp kept).1 rfl

theorem Agrees.change (agrees : manager.Agrees) (change : Change manager call after)
    (succeeds : PutSucceeds manager call) : after.Agrees := by
  cases change with
  | same => exact agrees
  | pin ptr size unknown => exact agrees.pin
  | unpin ptr valid known request =>
      rw [succeeds ptr request valid known]
      exact agrees.unpin

theorem unregisterBuffer_known (valid : ptr ≠ 0) (known : ptr ∈ manager.registered) :
    manager.unregisterBuffer replies ptr =
      { result := replies.putDescriptor
        calls := [⟨.putDescriptor ptr, manager.descriptors.lookup ptr⟩]
        manager := manager.unpin ptr replies.putDescriptor } := by
  obtain ⟨length, found⟩ := Finmap.mem_iff.mp known
  simp only [unregisterBuffer, if_neg valid, found]

theorem unregisterBuffer_unknown (valid : ptr ≠ 0) (unknown : ptr ∉ manager.registered) :
    manager.unregisterBuffer replies ptr = { result := true, manager } := by
  simp only [unregisterBuffer, if_neg valid, Finmap.lookup_eq_none.mpr unknown]

theorem getDescriptor_unknown (member : observed ∈ (manager.perform call).calls)
    (pins : observed.call = .getDescriptor ptr size) :
    ptr ∉ manager.registered ∧ observed.live = manager.descriptors.lookup ptr := by
  have locked : ∀ {target : DevicePtr} {length : UInt64},
      observed ∈ (manager.registerBufferUnderLock call.replies target length).calls →
      ptr ∉ manager.registered ∧ observed.live = manager.descriptors.lookup ptr := by
    intro target length called
    obtain ⟨unknown, rfl⟩ := registerBufferUnderLock_calls called
    cases pins
    exact ⟨Finmap.lookup_eq_none.mp unknown, rfl⟩
  cases request : call.invocation with
  | registerBuffer target length =>
      simp only [perform, request, registerBuffer] at member
      split at member
      · cases member
      · exact locked member
  | unregisterBuffer target =>
      simp only [perform, request, unregisterBuffer] at member
      split at member
      · cases member
      · split at member
        · cases member
        · rw [List.mem_singleton.mp member] at pins
          cases pins
  | acquireToken target length offset =>
      simp only [perform, request, acquireToken] at member
      split at member
      · cases member
      · split at member
        · rw [requestToken, List.mem_singleton] at member
          rw [member] at pins
          cases pins
        · split at member
          · rcases List.mem_append.mp member with registering | requesting
            · exact locked registering
            · rw [requestToken, List.mem_singleton] at requesting
              rw [requesting] at pins
              cases pins
          · exact locked member

theorem putSucceeds_of_agrees (agrees : before.Agrees)
    (truth : Truthful before call (before.perform call).manager) : PutSucceeds before call := by
  intro ptr request valid known
  cases reply : call.replies.putDescriptor with
  | true => rfl
  | false =>
      have left : (before.perform call).manager = before.unpin ptr false := by
        simp only [perform, request, unregisterBuffer_known valid known, reply]
      have broken := truth.agrees
      rw [left] at broken
      exact absurd broken (unpin_failed_disagrees ((agrees ptr).mp known))

theorem truthful_of_putSucceeds (agrees : before.Agrees) (succeeds : PutSucceeds before call) :
    Truthful before call (before.perform call).manager := by
  have kept : (before.perform call).manager.Agrees :=
    agrees.change (perform_change before call) succeeds
  refine ⟨kept, ?_, ?_, ?_⟩
  · intro ptr request success
    rw [← kept ptr]
    simp only [perform, request] at success ⊢
    by_cases valid : ptr = 0
    · simp [unregisterBuffer, valid] at success
    · by_cases known : ptr ∈ before.registered
      · rw [unregisterBuffer_known valid known]
        exact fun remains => (Finmap.mem_erase.mp remains).1 rfl
      · rw [unregisterBuffer_unknown valid known]
        exact known
  · intro ptr request valid failed
    exfalso
    simp only [perform, request] at failed
    by_cases known : ptr ∈ before.registered
    · rw [unregisterBuffer_known valid known, succeeds ptr request valid known] at failed
      cases failed
    · rw [unregisterBuffer_unknown valid known] at failed
      cases failed
  · intro observed member ptr size pins
    obtain ⟨unknown, live⟩ := getDescriptor_unknown member pins
    rw [live, agrees.not_live unknown]

/-- A history in which every call can be believed is one in which no
`cuMemObjPutDescriptor` fails. -/
theorem table_truthful_iff (initial : history.initial start) :
    (history.restrict Truthful).Run start calls after ↔
      (history.restrict fun before call _ => PutSucceeds before call).Run start calls after := by
  apply System.restrict_run_iff Agrees
  · intro before call after agrees step
    rw [← show (before.perform call).manager = after from step]
    exact ⟨putSucceeds_of_agrees agrees, truthful_of_putSucceeds agrees⟩
  · intro before call after _ _ truth
    exact truth.agrees
  · intro ptr
    rw [show start = {} from initial]

/-! ## A refused unregistration -/

def pinnedOnly : Replies where
  getDescriptor := true
  putDescriptor := false
  getRDMAToken := none

theorem failed_unregister_forgets :
    ¬ ∀ (start after : GdsMemoryManager) (calls : List Call), history.initial start →
      history.Run start calls after → (history.restrict Truthful).Run start calls after := by
  intro always
  have run : history.Run {}
      [⟨.registerBuffer 4096 8, pinnedOnly⟩, ⟨.unregisterBuffer 4096, pinnedOnly⟩] _ :=
    .cons rfl (.single rfl)
  cases always _ _ _ rfl run with
  | cons head rest =>
    obtain ⟨rfl, _⟩ := head
    cases rest with
    | cons head _ =>
      have forgotten := (head.2.agrees 4096).mpr (by rw [← head.1]; decide)
      rw [← head.1] at forgotten
      exact absurd forgotten (by decide)

def obliging : Replies where
  getDescriptor := true
  putDescriptor := true
  getRDMAToken := none

theorem unregister_truthful : ∃ after,
    (history.restrict Truthful).Run {}
      [⟨.registerBuffer 4096 8, obliging⟩, ⟨.unregisterBuffer 4096, obliging⟩] after := by
  refine ⟨_, (table_truthful_iff rfl).mpr (.cons ⟨rfl, ?_⟩ (.single ⟨rfl, ?_⟩))⟩
  · intro ptr request
    cases request
  · intro ptr _ _ _
    rfl

end Us3Turbo.Client.GdsMemoryManager
