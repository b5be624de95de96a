import Us3Turbo.Client.Token

/-! # Ownership of the RDMA tokens -/

namespace Us3Turbo.Client

open Us3Turbo.Data Us3Turbo.Transition

def Token.holdings (token : Token) : List Holding :=
  token.tok.toList.map fun rdmaToken => ⟨rdmaToken.serial, none⟩

@[simp] theorem Token.holdings_empty : Token.holdings {} = [] := rfl

/-- `client_` is set where `tok_` is. -/
def Token.Linked (token : Token) : Prop := token.client = token.tok.isSome

theorem Token.linked_empty : Token.Linked {} := rfl

namespace TokenHandles

variable {handles after : TokenHandles} {event : Event} {token : Token} {index other out serial : Nat}
  {replies : Replies} {ptr : DevicePtr} {size offset : UInt64} {text : String} {success : Bool}

/-- The object at `index` holds the token issued as number `serial`. -/
def Holds (handles : TokenHandles) (index serial : Nat) : Prop :=
  ∃ token, handles.objects[index]? = some token ∧ token.tok.map (·.serial) = some serial

def custody (handles : TokenHandles) : Custody where
  holdings := gathered Token.holdings handles.objects
  items := handles.tokens

/-- Every token that is out has one object that holds it, and can give it back. -/
structure Linear (handles : TokenHandles) : Prop where
  sound : handles.custody.Sound
  linked : ∀ token ∈ handles.objects, token.Linked

theorem Linear.linked_at (linear : handles.Linear) (found : handles.objects[index]? = some token) :
    token.Linked :=
  linear.linked token (List.mem_of_getElem? found)

theorem store_linked {stored : Token} (linked : ∀ token ∈ handles.objects, token.Linked)
    (stored_linked : stored.Linked) :
    ∀ token ∈ (handles.store index stored).objects, token.Linked := by
  intro token member
  rcases List.mem_or_eq_of_mem_set member with old | new
  · exact linked token old
  · rw [new]
    exact stored_linked

theorem construct_linked {added : Token} (linked : ∀ token ∈ handles.objects, token.Linked)
    (added_linked : added.Linked) :
    ∀ token ∈ (handles.construct added).objects, token.Linked := by
  intro token member
  rcases List.mem_append.mp member with old | new
  · exact linked token old
  · rw [List.mem_singleton.mp new]
    exact added_linked

/-! ## What each operation does to what is held -/

theorem construct_custody (token : Token) : (handles.construct token).custody =
    { handles.custody with
      holdings := gathered Token.holdings handles.objects + ↑token.holdings } := by
  simp [construct, custody]

theorem Linear.construct_empty (linear : handles.Linear) : (handles.construct {}).Linear where
  sound := by
    rw [construct_custody]
    exact linear.sound.step (.same _ (by simp [custody]))
  linked := construct_linked linear.linked Token.linked_empty

theorem Linear.issue (linear : handles.Linear) (text : String) : (handles.issue text).Linear where
  sound := by
    rw [TokenHandles.issue, construct_custody]
    exact linear.sound.step (.obtain _ (Multiset.add_comm ..))
  linked := construct_linked linear.linked rfl

/-- An empty object at `index` puts its holdings back in the account. -/
theorem store_empty_held (found : handles.objects[index]? = some token) :
    gathered Token.holdings handles.objects =
      ↑token.holdings + gathered Token.holdings (handles.store index {}).objects := by
  have exchanged : gathered Token.holdings (handles.objects.set index {}) + ↑token.holdings =
      gathered Token.holdings handles.objects + ↑(Token.holdings {}) := gathered_exchange found
  rw [Token.holdings_empty, Multiset.coe_nil, Multiset.add_zero] at exchanged
  rw [← exchanged, Multiset.add_comm]
  rfl

/-- `Reset` gives back what the object held, and leaves it empty. -/
theorem Linear.reset (linear : handles.Linear) (done : handles.reset index = some after) :
    after.Linear ∧ after.objects[index]? = some {} := by
  obtain ⟨token, found, rfl⟩ := Option.map_eq_some_iff.mp done
  have linked : token.client = token.tok.isSome := linear.linked_at found
  have account := store_empty_held found
  have bound : index < handles.objects.length := (List.getElem?_eq_some_iff.mp found).1
  have all_linked : ∀ kept ∈ (handles.store index {}).objects, kept.Linked :=
    store_linked linear.linked Token.linked_empty
  cases held : token.tok with
  | none =>
      have nothing : token.holdings = [] := by rw [Token.holdings, held]; rfl
      have unchanged : handles.release token = handles := by rw [release, held]
      rw [unchanged]
      rw [nothing, Multiset.coe_nil, Multiset.zero_add] at account
      exact ⟨⟨linear.sound.step (.same _ account.symm), all_linked⟩, List.getElem?_set_self bound⟩
  | some rdmaToken =>
      have one : token.holdings = [⟨rdmaToken.serial, none⟩] := by rw [Token.holdings, held]; rfl
      have put : handles.release token = handles.putRDMAToken rdmaToken := by
        rw [held, Option.isSome_some] at linked
        rw [release, held]
        exact if_pos linked
      rw [put]
      rw [one, Multiset.coe_singleton, Multiset.singleton_add] at account
      exact ⟨⟨linear.sound.step (.discard _ _ account), all_linked⟩, List.getElem?_set_self bound⟩

/-- What moves from one object to an empty one stays in the account. -/
theorem move_held (empty : handles.objects[index]? = some {})
    (found : handles.objects[other]? = some token) (apart : index ≠ other) :
    gathered Token.holdings ((handles.store index token).store other {}).objects =
      gathered Token.holdings handles.objects := by
  have bound : index < handles.objects.length := (List.getElem?_eq_some_iff.mp empty).1
  have still : (handles.store index token).objects[other]? = some token := by
    rw [store, List.getElem?_set_ne apart, found]
  have given : gathered Token.holdings (handles.store index token).objects + ↑(Token.holdings {}) =
      gathered Token.holdings handles.objects + ↑token.holdings := gathered_exchange empty
  rw [Token.holdings_empty, Multiset.coe_nil, Multiset.add_zero] at given
  have account := store_empty_held still
  rw [given, Multiset.add_comm] at account
  exact (Multiset.add_right_inj.mp account).symm

theorem Linear.take (linear : handles.Linear) (empty : handles.objects[index]? = some {})
    (apart : index ≠ other) (done : handles.take index other = some after) : after.Linear := by
  obtain ⟨token, found, rfl⟩ := Option.map_eq_some_iff.mp done
  refine ⟨linear.sound.step (.same _ (move_held empty found apart)), ?_⟩
  exact store_linked (store_linked linear.linked (linear.linked_at found)) Token.linked_empty

theorem Linear.moveConstruct (linear : handles.Linear)
    (done : handles.moveConstruct other = some after) : after.Linear := by
  obtain ⟨token, found, rfl⟩ := Option.map_eq_some_iff.mp done
  have account := store_empty_held found
  have left_linked : ∀ kept ∈ (handles.store other {}).objects, kept.Linked :=
    store_linked linear.linked Token.linked_empty
  refine ⟨?_, construct_linked left_linked (linear.linked_at found)⟩
  rw [construct_custody]
  refine linear.sound.step (.same _ ?_)
  rw [custody, account, Multiset.add_comm]

theorem Linear.moveAssign (linear : handles.Linear)
    (done : handles.moveAssign index other = some after) : after.Linear := by
  rw [TokenHandles.moveAssign] at done
  split at done
  · obtain ⟨_, _, rfl⟩ := Option.map_eq_some_iff.mp done
    exact linear
  · rename_i apart
    obtain ⟨emptied, reset, taken⟩ := Option.bind_eq_some_iff.mp done
    obtain ⟨emptied_linear, empty⟩ := linear.reset reset
    exact emptied_linear.take empty apart taken

theorem Linear.destroy (linear : handles.Linear) (done : handles.destroy index = some after) :
    after.Linear := by
  obtain ⟨emptied, reset, rfl⟩ := Option.map_eq_some_iff.mp done
  obtain ⟨emptied_linear, empty⟩ := linear.reset reset
  have account : gathered Token.holdings emptied.objects =
      ↑(Token.holdings {}) + gathered Token.holdings (emptied.objects.eraseIdx index) :=
    gathered_eraseIdx empty
  rw [Token.holdings_empty, Multiset.coe_nil, Multiset.zero_add] at account
  exact ⟨emptied_linear.sound.step (.same _ account.symm),
    fun token member => emptied_linear.linked token (List.mem_of_mem_eraseIdx member)⟩

/-- The custody does not see the manager. -/
theorem Linear.called (linear : handles.Linear) (manager : GdsMemoryManager) :
    Linear { handles with manager } :=
  ⟨linear.sound, linear.linked⟩

theorem Linear.acquireToken (linear : handles.Linear)
    (done : handles.acquireToken replies ptr size offset out = some (success, after)) :
    after.Linear := by
  obtain ⟨_, acquired⟩ := acquireToken_acquired done
  cases acquired with
  | failed refused => exact linear.called _
  | issued text assigned done granted moved destroyed =>
      exact (((linear.called _).issue text).moveAssign moved).destroy destroyed

theorem Linear.advance (linear : handles.Linear) (advanced : handles.advance event = some after) :
    after.Linear := by
  cases event with
  | construct =>
      cases advanced
      exact linear.construct_empty
  | moveConstruct other => exact linear.moveConstruct advanced
  | moveAssign index other => exact linear.moveAssign advanced
  | destroy index => exact linear.destroy advanced
  | acquireToken replies ptr size offset out =>
      obtain ⟨⟨success, after⟩, acquired, rfl⟩ := Option.map_eq_some_iff.mp advanced
      exact linear.acquireToken acquired
  | registerBuffer replies ptr size =>
      cases advanced
      exact linear.called _
  | unregisterBuffer replies ptr =>
      cases advanced
      exact linear.called _

theorem linear_invariant : system.Invariant Linear where
  initial := by
    intro handles start
    rw [start]
    exact ⟨Custody.sound_empty, by simp⟩
  step linear advanced := linear.advance advanced

/-! ## What the balance says of the objects -/

theorem mem_holdings {holding : Holding} : holding ∈ token.holdings ↔
    token.tok.map (·.serial) = some holding.item ∧ holding.attachment = none := by
  obtain ⟨item, attachment⟩ := holding
  cases held : token.tok with
  | none => simp [Token.holdings, held]
  | some rdmaToken => simp [Token.holdings, held, eq_comm]

theorem held_iff : serial ∈ handles.custody.holdings.map (·.item) ↔
    ∃ index, handles.Holds index serial := by
  constructor
  · intro member
    obtain ⟨holding, gathered, rfl⟩ := Multiset.mem_map.mp member
    obtain ⟨token, among, holds⟩ := List.mem_flatMap.mp (Multiset.mem_coe.mp gathered)
    obtain ⟨index, found⟩ := List.mem_iff_getElem?.mp among
    exact ⟨index, token, found, (mem_holdings.mp holds).1⟩
  · intro held
    obtain ⟨index, token, found, holds⟩ := held
    have holding : (⟨serial, none⟩ : Holding) ∈ token.holdings := mem_holdings.mpr ⟨holds, rfl⟩
    exact Multiset.mem_map_of_mem _ (mem_gathered (List.mem_of_getElem? found) holding)

theorem Linear.exclusive {first second : Nat} (linear : handles.Linear)
    (mine : handles.Holds first serial) (theirs : handles.Holds second serial) : first = second := by
  obtain ⟨token, found, holds⟩ := mine
  obtain ⟨other, other_found, other_holds⟩ := theirs
  by_contra apart
  have beside : other ∈ handles.objects.eraseIdx first :=
    List.mem_eraseIdx_iff_getElem?.mpr ⟨second, fun same => apart same.symm, other_found⟩
  have split : handles.custody.holdings =
      ↑token.holdings + gathered Token.holdings (handles.objects.eraseIdx first) :=
    gathered_eraseIdx found
  have held : (⟨serial, none⟩ : Holding) ∈ (↑token.holdings : Multiset Holding) :=
    Multiset.mem_coe.mpr (mem_holdings.mpr ⟨holds, rfl⟩)
  have theirs : (⟨serial, none⟩ : Holding) ∈ other.holdings := mem_holdings.mpr ⟨other_holds, rfl⟩
  exact linear.sound.exclusive split held (mem_gathered beside theirs) rfl

/-- Tokens are linear: no two objects hold one token, a token goes back at most once, it has
not gone back while an object holds it and has once none does, and a call that fails touches
neither the objects nor the tokens. -/
theorem tokens_linear (reachable : system.Reachable handles) :
    (∀ first second serial, handles.Holds first serial → handles.Holds second serial →
      first = second) ∧
    (∀ serial, handles.tokens.returned.count serial ≤ 1) ∧
    (∀ index serial, handles.Holds index serial → handles.tokens.returned.count serial = 0) ∧
    (∀ serial < handles.tokens.issued, (∀ index, ¬ handles.Holds index serial) →
      handles.tokens.returned.count serial = 1) ∧
    ∀ replies ptr size offset out after,
      handles.acquireToken replies ptr size offset out = some (false, after) →
      after.objects = handles.objects ∧ after.tokens = handles.tokens := by
  have linear := linear_invariant.reachable reachable
  have balanced : handles.tokens.Balanced (handles.custody.holdings.map (·.item)) :=
    linear.sound.items
  have once := Multiset.nodup_iff_count_le_one.mp balanced.nodup_returned
  refine ⟨fun _ _ _ => linear.exclusive, once, ?_, ?_, fun _ _ _ _ _ _ => acquireToken_failed⟩
  · intro index serial holds
    exact Multiset.count_eq_zero_of_notMem (balanced.not_returned (held_iff.mpr ⟨index, holds⟩))
  · intro serial known nobody
    refine balanced.count_returned known fun held => ?_
    obtain ⟨index, holds⟩ := held_iff.mp held
    exact nobody index holds

def granting : Replies where
  getDescriptor := true
  putDescriptor := true
  getRDMAToken := some "1000:42"

/-- The second token overwrites the first, is moved twice and outlives a call that fails. -/
def movesAbout : List Event :=
  [.construct, .construct, .acquireToken granting 4096 8 0 0, .acquireToken granting 4096 8 0 0,
    .moveAssign 0 0, .moveAssign 1 0, .acquireToken { granting with getRDMAToken := none } 4096 8 0 1,
    .moveConstruct 1, .destroy 1, .destroy 1]

theorem movesAbout_linear : ∃ handles, system.Run {} movesAbout handles ∧
    handles.tokens.issued = 2 ∧ handles.objects = [{}] ∧
    ∀ serial < 2, handles.tokens.returned.count serial = 1 := by
  have replayed : ∃ handles, System.replay advance {} movesAbout = some handles ∧
      handles.tokens.issued = 2 ∧ handles.objects = [{}] := ⟨_, rfl, rfl, rfl⟩
  obtain ⟨handles, replayed, two, empty⟩ := replayed
  have run : system.Run {} movesAbout handles := System.Run.of_replay replayed
  obtain ⟨_, _, _, returned, _⟩ := tokens_linear ⟨{}, movesAbout, rfl, run⟩
  refine ⟨handles, run, two, empty, fun serial known => returned serial (two ▸ known) ?_⟩
  intro index held
  obtain ⟨token, found, holds⟩ := held
  rw [empty] at found
  rw [List.mem_singleton.mp (List.mem_of_getElem? found)] at holds
  cases holds

end TokenHandles

end Us3Turbo.Client
