import Us3Turbo.Client.Registration

/-! # Does a registration cover the bytes asked for?

A pointer that is in the table is never registered again, at whatever size it
is asked for later; a lazy registration asks for `size + offset` bytes, and that
sum may wrap.
-/

namespace Us3Turbo.Client.GdsMemoryManager

open Us3Turbo.Transition

variable {manager before after start : GdsMemoryManager} {replies : Replies} {call : Call}
  {calls : List Call} {ptr : DevicePtr} {size offset length : UInt64}

def Pinned (manager : GdsMemoryManager) : Prop :=
  ∀ ptr length, manager.registered.lookup ptr = some length →
    manager.descriptors.lookup ptr = some length

theorem Pinned.change (pinned : manager.Pinned) (change : Change manager call after) :
    after.Pinned := by
  cases change with
  | same => exact pinned
  | pin ptr size unknown =>
      intro other length found
      rw [pin_registered] at found
      rw [pin_descriptors]
      split at found
      · rw [if_pos ‹_›]
        exact found
      · rw [if_neg ‹_›]
        exact pinned other length found
  | unpin ptr valid known request =>
      intro other length found
      rw [unpin_registered] at found
      split at found
      · cases found
      · rename_i different
        rw [unpin_descriptors, if_neg (fun both => different both.1)]
        exact pinned other length found

theorem pinned_invariant : history.Invariant Pinned where
  initial := by
    intro manager initial ptr length found
    rw [initial] at found
    simp at found
  step := by
    intro before call after pinned step
    rw [← step]
    exact pinned.change (perform_change before call)

/-- A success of this call means what the caller takes it to mean: a registration
leaves at least `size` bytes pinned, a token is cut from bytes that are pinned. -/
structure Covers (before : GdsMemoryManager) (call : Call) : Prop where
  registration : ∀ ptr size, call.invocation = .registerBuffer ptr size →
    (before.perform call).result = true →
    ∃ length, (before.perform call).manager.descriptors.lookup ptr = some length ∧ size ≤ length
  tokens : ∀ observed ∈ (before.perform call).calls, ∀ ptr size offset,
    observed.call = .getRDMAToken ptr size offset →
    ∃ length, observed.live = some length ∧ offset.toNat + size.toNat ≤ length.toNat

/-- The request fits the table entry of its pointer, if there is one, and the
sum of a lazy registration that succeeds does not wrap. -/
def Fits (before : GdsMemoryManager) (call : Call) : Prop :=
  match call.invocation with
  | .registerBuffer ptr size =>
      ptr ≠ 0 → ∀ length, before.registered.lookup ptr = some length → size ≤ length
  | .unregisterBuffer _ => True
  | .acquireToken ptr size offset =>
      ¬ (ptr = 0 ∨ size = 0) →
        match before.registered.lookup ptr with
        | some length => offset.toNat + size.toNat ≤ length.toNat
        | none => call.replies.getDescriptor = true → offset.toNat + size.toNat < 2 ^ 64

theorem registerBuffer_covers_iff (pinned : manager.Pinned) (replies : Replies) (ptr : DevicePtr)
    (size : UInt64) :
    ((manager.registerBuffer replies ptr size).result = true →
        ∃ length, (manager.registerBuffer replies ptr size).manager.descriptors.lookup ptr =
          some length ∧ size ≤ length) ↔
      (ptr ≠ 0 → ∀ length, manager.registered.lookup ptr = some length → size ≤ length) := by
  by_cases invalid : ptr = 0 ∨ size = 0
  · have rejected : (manager.registerBuffer replies ptr size).result = false := by
      rw [registerBuffer, if_pos invalid]
    refine ⟨fun _ nonnull length _ => ?_, fun _ success => by rw [rejected] at success; cases success⟩
    rw [invalid.resolve_left nonnull, UInt64.le_iff_toNat_le]
    exact Nat.zero_le _
  · have nonnull : ptr ≠ 0 := fun null => invalid (.inl null)
    have locked : manager.registerBuffer replies ptr size =
        manager.registerBufferUnderLock replies ptr size := by
      rw [registerBuffer, if_neg invalid]
    rw [locked]
    cases known : manager.registered.lookup ptr with
    | some length =>
        have live := pinned ptr length known
        rw [registerBufferUnderLock_known known]
        simp [live, nonnull]
    | none =>
        cases reply : replies.getDescriptor with
        | true =>
            rw [registerBufferUnderLock_pinned known reply]
            simp [pin_descriptors]
        | false =>
            rw [registerBufferUnderLock_refused known reply]
            simp

theorem covers_registerBuffer_iff (pinned : before.Pinned)
    (request : call.invocation = .registerBuffer ptr size) :
    Covers before call ↔ Fits before call := by
  have performed : before.perform call = before.registerBuffer call.replies ptr size := by
    simp only [perform, request]
  have condition := registerBuffer_covers_iff pinned call.replies ptr size
  simp only [Fits, request]
  rw [← condition, ← performed]
  constructor
  · intro covers
    exact covers.registration ptr size request
  · intro covered
    constructor
    · intro ptr' size' request' success
      rw [request] at request'
      cases request'
      exact covered success
    · intro observed member _ _ _ token
      rw [performed, registerBuffer] at member
      split at member
      · cases member
      · rw [(registerBufferUnderLock_calls member).2] at token
        cases token

theorem covers_unregisterBuffer (request : call.invocation = .unregisterBuffer ptr) :
    Covers before call := by
  constructor
  · intro ptr' size' request' _
    rw [request] at request'
    cases request'
  · intro observed member _ _ _ token
    simp only [perform, request, unregisterBuffer] at member
    split at member
    · cases member
    · split at member
      · cases member
      · rw [List.mem_singleton.mp member] at token
        cases token

theorem covers_acquireToken_iff (pinned : before.Pinned)
    (request : call.invocation = .acquireToken ptr size offset) :
    Covers before call ↔ Fits before call := by
  have performed : before.perform call = before.acquireToken call.replies ptr size offset := by
    simp only [perform, request]
  -- only the token requests matter: this call is no `RegisterBuffer`
  have tokensOnly : Covers before call ↔
      ∀ observed ∈ (before.acquireToken call.replies ptr size offset).calls, ∀ ptr size offset,
        observed.call = .getRDMAToken ptr size offset →
        ∃ length, observed.live = some length ∧ offset.toNat + size.toNat ≤ length.toNat := by
    rw [← performed]
    refine ⟨fun covers => covers.tokens, fun tokens => ⟨?_, tokens⟩⟩
    intro ptr' size' request' _
    rw [request] at request'
    cases request'
  rw [tokensOnly]
  simp only [Fits, request]
  by_cases invalid : ptr = 0 ∨ size = 0
  · simp [acquireToken, invalid]
  · simp only [invalid, not_false_eq_true, true_imp_iff]
    cases known : before.registered.lookup ptr with
    | some length =>
        have live := pinned ptr length known
        rw [acquireToken_known invalid known]
        simp [requestToken, live]
    | none =>
        cases reply : call.replies.getDescriptor with
        | true =>
            rw [acquireToken_pinned invalid known reply]
            have wraps : offset.toNat + size.toNat ≤ (size + offset).toNat ↔
                offset.toNat + size.toNat < 2 ^ 64 := by
              rw [UInt64.toNat_add]
              omega
            simp [wraps, -UInt64.toNat_add]
        | false =>
            rw [acquireToken_refused invalid known reply]
            simp

theorem covers_iff_fits (pinned : before.Pinned) : Covers before call ↔ Fits before call := by
  cases request : call.invocation with
  | registerBuffer ptr size => exact covers_registerBuffer_iff pinned request
  | unregisterBuffer ptr =>
      have covers : Covers before call := covers_unregisterBuffer request
      simp [Fits, request, covers]
  | acquireToken ptr size offset => exact covers_acquireToken_iff pinned request

/-- In a history, every success covers the bytes asked for exactly when every
request fits what its pointer was registered with before. -/
theorem registration_covers_iff (initial : history.initial start) :
    (history.restrict fun before call _ => Covers before call).Run start calls after ↔
      (history.restrict fun before call _ => Fits before call).Run start calls after := by
  apply System.restrict_run_iff Pinned
  · intro before call after pinned _
    exact covers_iff_fits pinned
  · intro before call after pinned step _
    exact pinned_invariant.step pinned step
  · exact pinned_invariant.initial initial

/-! ## A PUT of a few bytes, then a PUT of the whole buffer -/

def granted : Replies where
  getDescriptor := true
  putDescriptor := true
  getRDMAToken := some "token"

def tokenFor (size : UInt64) : Call := ⟨.acquireToken 4096 size 0, granted⟩

/-- The second token is cut from the four bytes that the first PUT pinned. -/
theorem longer_put_not_covered :
    ¬ ∀ (start after : GdsMemoryManager) (calls : List Call), history.initial start →
      history.Run start calls after →
      (history.restrict fun before call _ => Covers before call).Run start calls after := by
  intro always
  have run : history.Run {} [tokenFor 4, tokenFor 8] _ := .cons rfl (.single rfl)
  cases always _ _ _ rfl run with
  | cons head rest =>
    obtain ⟨rfl, _⟩ := head
    cases rest with
    | cons head _ =>
      have observed : ⟨.getRDMAToken 4096 8 0, some 4⟩ ∈
          ((({} : GdsMemoryManager).perform (tokenFor 4)).manager.perform (tokenFor 8)).calls :=
        List.mem_singleton.mpr rfl
      obtain ⟨length, live, fits⟩ := head.2.tokens _ observed 4096 8 0 rfl
      cases live
      exact absurd fits (by decide)

theorem registered_buffer_covered : ∃ after,
    (history.restrict fun before call _ => Covers before call).Run {}
      [⟨.registerBuffer 4096 8, granted⟩, ⟨.acquireToken 4096 4 2, granted⟩] after := by
  refine ⟨_, (registration_covers_iff rfl).mpr (.cons ⟨rfl, ?_⟩ (.single ⟨rfl, ?_⟩))⟩
  · intro _ length known
    cases known
  · intro _
    change (2 : UInt64).toNat + (4 : UInt64).toNat ≤ (8 : UInt64).toNat
    decide

end Us3Turbo.Client.GdsMemoryManager
