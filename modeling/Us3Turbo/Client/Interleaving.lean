import Us3Turbo.Client.TableTruth

/-! # `GdsMemoryManager` under several threads

`RegisterBuffer` and `UnregisterBuffer` are one locked section each.  `AcquireToken` looks
into the table under the lock, registers under the lock taken again, and asks for its token
under no lock; other threads run in between.
-/

namespace Us3Turbo.Client

open Us3Turbo.Transition

inductive AcquireStage where
  | registering
  | requesting
deriving DecidableEq, Repr

/-- An `AcquireToken` that has let go of the lock; `need_register` is its stage. -/
structure AcquireCall where
  ptr : DevicePtr
  size : UInt64
  offset : UInt64
  stage : AcquireStage
deriving DecidableEq, Repr

structure SharedManager where
  manager : GdsMemoryManager := {}
  acquiring : List AcquireCall := []
  observed : List Observed := []

namespace SharedManager

inductive Event where
  | registerBuffer (ptr : DevicePtr) (size : UInt64) (replies : Replies)
  | unregisterBuffer (ptr : DevicePtr) (replies : Replies)
  /-- `AcquireToken` up to the end of its first locked section. -/
  | acquireToken (ptr : DevicePtr) (size offset : UInt64)
  | step (index : Nat) (replies : Replies)

def record (shared : SharedManager) (outcome : Outcome) : SharedManager :=
  { shared with manager := outcome.manager, observed := shared.observed ++ outcome.calls }

def enter (shared : SharedManager) (ptr : DevicePtr) (size offset : UInt64) : SharedManager :=
  let stage := if (shared.manager.registered.lookup ptr).isNone then .registering else .requesting
  { shared with acquiring := shared.acquiring ++ [⟨ptr, size, offset, stage⟩] }

def proceed (shared : SharedManager) (index : Nat) (replies : Replies) (call : AcquireCall) :
    SharedManager :=
  match call.stage with
  | .registering =>
      let outcome :=
        shared.manager.registerBufferUnderLock replies call.ptr (call.size + call.offset)
      { shared.record outcome with
        acquiring :=
          if outcome.result then shared.acquiring.set index { call with stage := .requesting }
          else shared.acquiring.eraseIdx index }
  | .requesting =>
      { shared.record (shared.manager.requestToken replies call.ptr call.size call.offset) with
        acquiring := shared.acquiring.eraseIdx index }

def advance (shared : SharedManager) : Event → Option SharedManager
  | .registerBuffer ptr size replies =>
      some (shared.record (shared.manager.registerBuffer replies ptr size))
  | .unregisterBuffer ptr replies =>
      some (shared.record (shared.manager.unregisterBuffer replies ptr))
  | .acquireToken ptr size offset =>
      if ptr = 0 ∨ size = 0 then some shared else some (shared.enter ptr size offset)
  | .step index replies => (shared.acquiring[index]?).map (shared.proceed index replies)

/-- Any number of threads, from the empty table of the constructor. -/
def system : System SharedManager Event := .ofAdvance (fun shared => shared = {}) advance

/-- No `cuMemObjPutDescriptor` fails. -/
def Event.releases : Event → Bool
  | .unregisterBuffer _ replies => replies.putDescriptor
  | _ => true

/-- An `UnregisterBuffer` of a pointer comes when no `AcquireToken` of it, past its locked
sections, has yet to ask for its token. -/
def undisturbed (shared : SharedManager) : Event → Bool
  | .unregisterBuffer ptr _ =>
      shared.acquiring.all fun call => call.stage = .registering ∨ call.ptr ≠ ptr
  | _ => true

end SharedManager

/-- A token is asked for where a descriptor is live, a descriptor where none is. -/
def Observed.Lawful (observed : Observed) : Prop :=
  match observed.call with
  | .getRDMAToken _ _ _ => observed.live.isSome = true
  | .getDescriptor _ _ => observed.live = none
  | .putDescriptor _ => True

namespace GdsMemoryManager

variable {manager : GdsMemoryManager} {replies : Replies}

/-- What a locked registration of `ptr` leaves. -/
structure Registers (manager : GdsMemoryManager) (ptr : DevicePtr) (outcome : Outcome) : Prop where
  agrees : outcome.manager.Agrees
  grows : ∀ other ∈ manager.registered, other ∈ outcome.manager.registered
  registered : outcome.result = true → ptr ∈ outcome.manager.registered
  lawful : ∀ observed ∈ outcome.calls, observed.Lawful

theorem registerBufferUnderLock_registers (replies : Replies) (ptr : DevicePtr) (size : UInt64)
    (agrees : manager.Agrees) :
    Registers manager ptr (manager.registerBufferUnderLock replies ptr size) := by
  cases found : manager.registered.lookup ptr with
  | some length =>
      rw [registerBufferUnderLock_known found]
      refine ⟨agrees, fun other known => known, fun _ => ?_, by simp⟩
      exact Finmap.mem_iff.mpr ⟨length, found⟩
  | none =>
      have unpinned : manager.descriptors.lookup ptr = none :=
        agrees.not_live (Finmap.lookup_eq_none.mp found)
      cases answer : replies.getDescriptor with
      | true =>
          rw [registerBufferUnderLock_pinned found answer]
          refine ⟨agrees.pin, fun other known => ?_, fun _ => ?_, ?_⟩
          · exact Finmap.mem_insert.mpr (.inr known)
          · exact Finmap.mem_insert.mpr (.inl rfl)
          · simpa [Observed.Lawful] using unpinned
      | false =>
          rw [registerBufferUnderLock_refused found answer]
          exact ⟨agrees, fun other known => known, by simp, by simpa [Observed.Lawful] using unpinned⟩

/-- What an unregistration of `ptr` leaves, if the library does not refuse it. -/
structure Unregisters (manager : GdsMemoryManager) (ptr : DevicePtr) (outcome : Outcome) : Prop where
  agrees : outcome.manager.Agrees
  keeps : ∀ other ∈ manager.registered, other ≠ ptr → other ∈ outcome.manager.registered
  lawful : ∀ observed ∈ outcome.calls, observed.Lawful

theorem unregisterBuffer_unregisters (ptr : DevicePtr) (agrees : manager.Agrees)
    (releases : replies.putDescriptor = true) :
    Unregisters manager ptr (manager.unregisterBuffer replies ptr) := by
  by_cases valid : ptr = 0
  · rw [unregisterBuffer, if_pos valid]
    exact ⟨agrees, fun other known _ => known, by simp⟩
  · by_cases known : ptr ∈ manager.registered
    · rw [unregisterBuffer_known valid known, releases]
      refine ⟨agrees.unpin, fun other known distinct => ?_, by simp [Observed.Lawful]⟩
      exact Finmap.mem_erase.mpr ⟨distinct, known⟩
    · rw [unregisterBuffer_unknown valid known]
      exact ⟨agrees, fun other known _ => known, by simp⟩

end GdsMemoryManager

namespace SharedManager

variable {shared before after : SharedManager} {event : Event} {index : Nat} {call : AcquireCall}
  {replies : Replies} {ptr : DevicePtr} {size offset : UInt64}

/-- The pointer of a call that is about to ask for its token is in the table. -/
structure Sound (shared : SharedManager) : Prop where
  agrees : shared.manager.Agrees
  ready : ∀ call ∈ shared.acquiring, call.stage = .requesting → call.ptr ∈ shared.manager.registered
  lawful : ∀ observed ∈ shared.observed, observed.Lawful

theorem lawful_append {observed calls : List Observed} (old : ∀ entry ∈ observed, entry.Lawful)
    (new : ∀ entry ∈ calls, entry.Lawful) : ∀ entry ∈ observed ++ calls, entry.Lawful := by
  intro entry member
  rcases List.mem_append.mp member with earlier | later
  · exact old entry earlier
  · exact new entry later

theorem sound_start : Sound {} where
  agrees ptr := Iff.rfl
  ready := by simp
  lawful := by simp

theorem Sound.registerBuffer (sound : shared.Sound) :
    (shared.record (shared.manager.registerBuffer replies ptr size)).Sound := by
  rw [GdsMemoryManager.registerBuffer]
  split
  · exact ⟨sound.agrees, sound.ready, lawful_append sound.lawful (by simp)⟩
  · obtain ⟨agrees, grows, _, lawful⟩ :=
      GdsMemoryManager.registerBufferUnderLock_registers replies ptr size sound.agrees
    exact ⟨agrees, fun call member asks => grows _ (sound.ready call member asks),
      lawful_append sound.lawful lawful⟩

theorem Sound.unregisterBuffer (sound : shared.Sound) (releases : replies.putDescriptor = true)
    (undisturbed : ∀ call ∈ shared.acquiring, call.stage = .requesting → call.ptr ≠ ptr) :
    (shared.record (shared.manager.unregisterBuffer replies ptr)).Sound := by
  obtain ⟨agrees, keeps, lawful⟩ :=
    GdsMemoryManager.unregisterBuffer_unregisters ptr sound.agrees releases
  refine ⟨agrees, fun call member asks => ?_, lawful_append sound.lawful lawful⟩
  exact keeps _ (sound.ready call member asks) (undisturbed call member asks)

theorem Sound.enter (sound : shared.Sound) : (shared.enter ptr size offset).Sound := by
  refine ⟨sound.agrees, fun call member asks => ?_, sound.lawful⟩
  rcases List.mem_append.mp member with earlier | new
  · exact sound.ready call earlier asks
  · rw [List.mem_singleton.mp new] at asks ⊢
    dsimp only at asks ⊢
    split at asks
    · cases asks
    · rename_i known
      by_contra unknown
      have absent : shared.manager.registered.lookup ptr = none := Finmap.lookup_eq_none.mpr unknown
      exact known (by rw [absent]; rfl)

theorem Sound.proceed (sound : shared.Sound) (found : shared.acquiring[index]? = some call) :
    (shared.proceed index replies call).Sound := by
  rw [SharedManager.proceed]
  have member := List.mem_of_getElem? found
  split
  · obtain ⟨agrees, grows, registered, lawful⟩ :=
      GdsMemoryManager.registerBufferUnderLock_registers replies call.ptr (call.size + call.offset)
        sound.agrees
    refine ⟨agrees, fun other member asks => ?_, lawful_append sound.lawful lawful⟩
    dsimp only at member
    split at member
    · rename_i success
      rcases List.mem_or_eq_of_mem_set member with old | rfl
      · exact grows _ (sound.ready other old asks)
      · exact registered success
    · exact grows _ (sound.ready other (List.mem_of_mem_eraseIdx member) asks)
  · rename_i requesting
    refine ⟨sound.agrees, fun other member asks => ?_, lawful_append sound.lawful ?_⟩
    · exact sound.ready other (List.mem_of_mem_eraseIdx member) asks
    · have live := (sound.agrees call.ptr).mp (sound.ready call member requesting)
      obtain ⟨length, pinned⟩ := Finmap.mem_iff.mp live
      simp [GdsMemoryManager.requestToken, Observed.Lawful, pinned]

/-- The runs in which the library refuses no unregistration. -/
def releasingSystem : System SharedManager Event :=
  system.restrict fun _ event _ => event.releases = true

def undisturbedSystem : System SharedManager Event :=
  system.restrict fun shared event _ => event.releases = true ∧ shared.undisturbed event = true

theorem sound_invariant : undisturbedSystem.Invariant Sound where
  initial := by
    rintro shared rfl
    exact sound_start
  step := by
    rintro before event after sound ⟨advanced, releases, undisturbed⟩
    cases event with
    | registerBuffer ptr size replies =>
        cases advanced
        exact sound.registerBuffer
    | unregisterBuffer ptr replies =>
        cases advanced
        refine sound.unregisterBuffer releases fun call member asks => ?_
        have apart := List.all_eq_true.mp undisturbed call member
        rw [decide_eq_true_iff, asks] at apart
        exact apart.resolve_left (by simp)
    | acquireToken ptr size offset =>
        simp only [system, System.ofAdvance, advance] at advanced
        split at advanced
        · cases advanced
          exact sound
        · cases advanced
          exact sound.enter
    | step index replies =>
        obtain ⟨call, found, rfl⟩ := Option.map_eq_some_iff.mp advanced
        exact sound.proceed found

/-- Every token is asked for where a descriptor is live and every descriptor where none is, as
long as no pointer is unregistered under an `AcquireToken` that has let go of the lock. -/
theorem tokens_from_registered (reachable : undisturbedSystem.Reachable shared) :
    ∀ observed ∈ shared.observed, observed.Lawful :=
  (sound_invariant.reachable reachable).lawful

/-- An unregistration that does come in between, if it finds the pointer in the table, leads
to a token for memory without a descriptor as soon as that call asks for it. -/
theorem disturbed_request (sound : shared.Sound) (found : shared.acquiring[index]? = some call)
    (asks : call.stage = .requesting) (valid : call.ptr ≠ 0) (releases : replies.putDescriptor = true) :
    ∃ middle after, shared.advance (.unregisterBuffer call.ptr replies) = some middle ∧
      middle.advance (.step index replies) = some after ∧
      ∃ observed ∈ after.observed, ¬ observed.Lawful := by
  have known := sound.ready call (List.mem_of_getElem? found) asks
  let middle := shared.record (shared.manager.unregisterBuffer replies call.ptr)
  have dead : middle.manager.descriptors.lookup call.ptr = none := by
    have unpinned : middle.manager = shared.manager.unpin call.ptr true := by
      simp only [middle, record, GdsMemoryManager.unregisterBuffer_known valid known, releases]
    rw [unpinned, GdsMemoryManager.unpin_descriptors, if_pos ⟨rfl, rfl⟩]
  refine ⟨middle, middle.proceed index replies call, rfl, by simp [advance, middle, record, found],
    ⟨.getRDMAToken call.ptr call.size call.offset, none⟩, ?_, by simp [Observed.Lawful]⟩
  simp [proceed, asks, record, GdsMemoryManager.requestToken, dead]

/-! ## An unregistration in between -/

def willing : Replies where
  getDescriptor := true
  putDescriptor := true
  getRDMAToken := some "1000:42"

def betweenEvents : List Event :=
  [.registerBuffer 4096 8 willing, .acquireToken 4096 8 0, .unregisterBuffer 4096 willing,
    .step 0 willing]

theorem token_after_unregister :
    ¬ ∀ shared, releasingSystem.Reachable shared → ∀ observed ∈ shared.observed, observed.Lawful := by
  intro always
  have replayed : ∃ after,
      System.replay (System.guarded (fun _ event => event.releases) advance) {} betweenEvents =
        some after ∧
      after.observed.any fun observed =>
        observed.call = .getRDMAToken 4096 8 0 ∧ observed.live.isNone := ⟨_, rfl, by decide⟩
  obtain ⟨after, replayed, dead⟩ := replayed
  obtain ⟨observed, member, asked⟩ := List.any_eq_true.mp dead
  obtain ⟨asks, unpinned⟩ := of_decide_eq_true asked
  have reachable : releasingSystem.Reachable after :=
    ⟨{}, betweenEvents, rfl, System.Run.of_guarded replayed⟩
  have lawful := always after reachable observed member
  simp only [Observed.Lawful, asks] at lawful
  rw [Option.isNone_iff_eq_none] at unpinned
  rw [unpinned] at lawful
  cases lawful

def lazyEvents : List Event :=
  [.acquireToken 4096 8 0, .step 0 willing, .step 0 willing, .unregisterBuffer 4096 willing]

theorem lazy_token_lawful : ∃ shared, (undisturbedSystem.Run {} lazyEvents shared) ∧
    shared.observed.length = 3 ∧ ∀ observed ∈ shared.observed, observed.Lawful := by
  have replayed : ∃ after, System.replay
      (System.guarded (fun shared event => event.releases && shared.undisturbed event) advance) {}
        lazyEvents = some after ∧ after.observed.length = 3 := ⟨_, rfl, by decide⟩
  obtain ⟨after, replayed, three⟩ := replayed
  have run : undisturbedSystem.Run {} lazyEvents after := by
    simpa [undisturbedSystem, system, Bool.and_eq_true] using System.Run.of_guarded replayed
  exact ⟨after, run, three, tokens_from_registered ⟨{}, lazyEvents, rfl, run⟩⟩

end SharedManager

end Us3Turbo.Client
