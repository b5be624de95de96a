import Us3Turbo.Client.GdsMemoryManager
import Us3Turbo.Data.Custody

/-! # `GdsMemoryManager::Token`

The RAII holder of an RDMA token.  Tokens are told apart by the successful
`cuMemObjGetRDMAToken` that issued them: the library may use an address again
once it has the token back.
-/

namespace Us3Turbo.Client

open Us3Turbo.Data Us3Turbo.Transition

/-- What `cuMemObjGetRDMAToken` points `tok` at. -/
structure RDMAToken where
  serial : Nat
  text : String
deriving DecidableEq

/-- The process has one `cuObjClient`; `client` says whether `client_` points at it. -/
structure Token where
  client : Bool := false
  tok : Option RDMAToken := none
deriving DecidableEq

def Token.str (token : Token) : String :=
  match token.tok with
  | some rdmaToken => rdmaToken.text
  | none => ""

/-- The `Token` objects of a process, and in `tokens` what its manager issued and the
arguments of `cuMemObjPutRDMAToken`. -/
structure TokenHandles where
  manager : GdsMemoryManager := {}
  objects : List Token := []
  tokens : Ledger := {}

namespace TokenHandles

def putRDMAToken (handles : TokenHandles) (rdmaToken : RDMAToken) : TokenHandles :=
  { handles with tokens := handles.tokens.giveBack rdmaToken.serial }

def store (handles : TokenHandles) (index : Nat) (token : Token) : TokenHandles :=
  { handles with objects := handles.objects.set index token }

def construct (handles : TokenHandles) (token : Token) : TokenHandles :=
  { handles with objects := handles.objects ++ [token] }

/-! ## The members of `Token`

An object is named by its place; the operations are `none` where there is no such object.
-/

/-- The first line of `Token::Reset`. -/
def release (handles : TokenHandles) (token : Token) : TokenHandles :=
  match token.tok with
  | some rdmaToken => if token.client then handles.putRDMAToken rdmaToken else handles
  | none => handles

def reset (handles : TokenHandles) (index : Nat) : Option TokenHandles :=
  (handles.objects[index]?).map fun token => (handles.release token).store index {}

def moveConstruct (handles : TokenHandles) (other : Nat) : Option TokenHandles :=
  (handles.objects[other]?).map fun token => (handles.store other {}).construct token

/-- `operator=` behind its `Reset`: both fields are copied, then nulled in the source. -/
def take (handles : TokenHandles) (index other : Nat) : Option TokenHandles :=
  (handles.objects[other]?).map fun token => (handles.store index token).store other {}

def moveAssign (handles : TokenHandles) (index other : Nat) : Option TokenHandles :=
  if index = other then (handles.objects[index]?).map fun _ => handles
  else (handles.reset index).bind fun emptied => emptied.take index other

def destroy (handles : TokenHandles) (index : Nat) : Option TokenHandles :=
  (handles.reset index).map fun emptied => { emptied with objects := emptied.objects.eraseIdx index }

/-! ## `AcquireToken` -/

/-- The temporary of `out = Token(impl_->client.get(), tok)`. -/
def issue (handles : TokenHandles) (text : String) : TokenHandles :=
  construct { handles with tokens := handles.tokens.issue } ⟨true, some ⟨handles.tokens.issued, text⟩⟩

def acquireToken (handles : TokenHandles) (replies : Replies) (ptr : DevicePtr)
    (size offset : UInt64) (out : Nat) : Option (Bool × TokenHandles) :=
  if out < handles.objects.length then
    let outcome := handles.manager.acquireToken replies ptr size offset
    let called := { handles with manager := outcome.manager }
    match outcome.token with
    | none => some (false, called)
    | some text =>
        let temporary := handles.objects.length
        ((called.issue text).moveAssign out temporary).bind fun assigned =>
          (assigned.destroy temporary).map fun done => (true, done)
  else none

/-! ## Sequences of calls -/

inductive Event where
  | construct
  | moveConstruct (other : Nat)
  | moveAssign (index other : Nat)
  | destroy (index : Nat)
  | acquireToken (replies : Replies) (ptr : DevicePtr) (size offset : UInt64) (out : Nat)
  | registerBuffer (replies : Replies) (ptr : DevicePtr) (size : UInt64)
  | unregisterBuffer (replies : Replies) (ptr : DevicePtr)

def advance (handles : TokenHandles) : Event → Option TokenHandles
  | .construct => some (handles.construct {})
  | .moveConstruct other => handles.moveConstruct other
  | .moveAssign index other => handles.moveAssign index other
  | .destroy index => handles.destroy index
  | .acquireToken replies ptr size offset out =>
      (handles.acquireToken replies ptr size offset out).map (·.2)
  | .registerBuffer replies ptr size =>
      some { handles with manager := (handles.manager.registerBuffer replies ptr size).manager }
  | .unregisterBuffer replies ptr =>
      some { handles with manager := (handles.manager.unregisterBuffer replies ptr).manager }

def system : System TokenHandles Event := .ofAdvance (fun handles => handles = {}) advance

variable {handles after : TokenHandles} {index other out : Nat} {replies : Replies} {ptr : DevicePtr}
  {size offset : UInt64} {success : Bool}

/-! ## What becomes of the objects -/

theorem release_eq (token : Token) : ∃ tokens, handles.release token = { handles with tokens } := by
  rw [release]
  split
  · split
    · exact ⟨_, rfl⟩
    · exact ⟨_, rfl⟩
  · exact ⟨_, rfl⟩

theorem reset_eq (done : handles.reset index = some after) :
    ∃ tokens, after = { handles with objects := handles.objects.set index {}, tokens } := by
  obtain ⟨token, _, rfl⟩ := Option.map_eq_some_iff.mp done
  obtain ⟨tokens, released⟩ := release_eq token
  exact ⟨tokens, by rw [released]; rfl⟩

theorem destroy_eq (done : handles.destroy index = some after) :
    ∃ tokens, after = { handles with objects := handles.objects.eraseIdx index, tokens } := by
  obtain ⟨emptied, reset, rfl⟩ := Option.map_eq_some_iff.mp done
  obtain ⟨tokens, rfl⟩ := reset_eq reset
  exact ⟨tokens, by rw [List.eraseIdx_set_eq]⟩

/-- The target has what the source had, and the source is empty. -/
theorem moveAssign_eq (apart : index ≠ other) (done : handles.moveAssign index other = some after) :
    ∃ token tokens, handles.objects[other]? = some token ∧
      after = { handles with objects := (handles.objects.set index token).set other {}, tokens } := by
  rw [moveAssign, if_neg apart] at done
  obtain ⟨emptied, reset, taken⟩ := Option.bind_eq_some_iff.mp done
  obtain ⟨token, found, rfl⟩ := Option.map_eq_some_iff.mp taken
  obtain ⟨tokens, rfl⟩ := reset_eq reset
  rw [List.getElem?_set_ne apart] at found
  exact ⟨token, tokens, found, by rw [store, store, List.set_set]⟩

/-- Moved out of a temporary that is then destroyed. -/
theorem moved_out {objects : List Token} {token : Token} (bound : out < objects.length) :
    (((objects ++ [token]).set out token).set objects.length {}).eraseIdx objects.length =
      objects.set out token := by
  have length : (objects.set out token).length = objects.length := List.length_set
  rw [List.eraseIdx_set_eq, List.set_append_left out token bound,
    List.eraseIdx_append_of_length_le (Nat.le_of_eq length), length, Nat.sub_self,
    List.eraseIdx_cons_zero, List.append_nil]

/-- The ways a call of `AcquireToken` returns. -/
inductive Acquired (handles : TokenHandles) (outcome : Outcome) (out : Nat) :
    Bool → TokenHandles → Prop where
  | failed (refused : outcome.token = none) :
      Acquired handles outcome out false { handles with manager := outcome.manager }
  | issued (text : String) (assigned done : TokenHandles) (granted : outcome.token = some text)
      (moved : (issue { handles with manager := outcome.manager } text).moveAssign out
        handles.objects.length = some assigned)
      (destroyed : assigned.destroy handles.objects.length = some done) :
      Acquired handles outcome out true done

theorem acquireToken_acquired
    (done : handles.acquireToken replies ptr size offset out = some (success, after)) :
    out < handles.objects.length ∧
      Acquired handles (handles.manager.acquireToken replies ptr size offset) out success after := by
  rw [acquireToken] at done
  split at done
  · rename_i bound
    refine ⟨bound, ?_⟩
    simp only at done
    split at done
    · rename_i refused
      cases done
      exact .failed refused
    · rename_i text granted
      obtain ⟨assigned, moved, destroyed⟩ := Option.bind_eq_some_iff.mp done
      obtain ⟨left, destroyed, same⟩ := Option.map_eq_some_iff.mp destroyed
      cases same
      exact .issued text assigned _ granted moved destroyed
  · cases done

theorem acquireToken_failed
    (failed : handles.acquireToken replies ptr size offset out = some (false, after)) :
    after.objects = handles.objects ∧ after.tokens = handles.tokens := by
  obtain ⟨_, acquired⟩ := acquireToken_acquired failed
  cases acquired with
  | failed refused => exact ⟨rfl, rfl⟩

theorem acquireToken_succeeded
    (succeeded : handles.acquireToken replies ptr size offset out = some (true, after)) :
    ∃ text, (handles.manager.acquireToken replies ptr size offset).token = some text ∧
      after.objects = handles.objects.set out ⟨true, some ⟨handles.tokens.issued, text⟩⟩ := by
  obtain ⟨bound, acquired⟩ := acquireToken_acquired succeeded
  cases acquired with
  | issued text assigned done granted moved destroyed =>
      obtain ⟨token, _, found, rfl⟩ := moveAssign_eq (Nat.ne_of_lt bound) moved
      obtain ⟨_, rfl⟩ := destroy_eq destroyed
      have temporary : some ⟨true, some ⟨handles.tokens.issued, text⟩⟩ = some token :=
        List.getElem?_concat_length.symm.trans found
      cases temporary
      exact ⟨text, granted, moved_out bound⟩

/-- `out.str()` is the token of the manager's answer. -/
theorem acquireToken_str
    (succeeded : handles.acquireToken replies ptr size offset out = some (true, after)) :
    (after.objects[out]?).map Token.str =
      (handles.manager.acquireToken replies ptr size offset).token := by
  have bound := (acquireToken_acquired succeeded).1
  obtain ⟨text, granted, objects⟩ := acquireToken_succeeded succeeded
  rw [granted, objects, List.getElem?_set_self bound]
  rfl

/-! ## An operation on objects that exist goes through -/

def Event.Named (handles : TokenHandles) : Event → Prop
  | .moveConstruct other => other < handles.objects.length
  | .moveAssign index other => index < handles.objects.length ∧ other < handles.objects.length
  | .destroy index => index < handles.objects.length
  | .acquireToken _ _ _ _ out => out < handles.objects.length
  | _ => True

theorem reset_some (bound : index < handles.objects.length) :
    ∃ emptied, handles.reset index = some emptied := by
  rw [reset, List.getElem?_eq_getElem bound]
  exact ⟨_, rfl⟩

theorem destroy_some (bound : index < handles.objects.length) :
    ∃ after, handles.destroy index = some after := by
  obtain ⟨emptied, reset⟩ := reset_some bound
  rw [destroy, reset]
  exact ⟨_, rfl⟩

theorem moveAssign_some (bound : index < handles.objects.length)
    (other_bound : other < handles.objects.length) :
    ∃ after, handles.moveAssign index other = some after := by
  rw [moveAssign]
  split
  · rw [List.getElem?_eq_getElem bound]
    exact ⟨_, rfl⟩
  · obtain ⟨emptied, reset⟩ := reset_some bound
    obtain ⟨tokens, rfl⟩ := reset_eq reset
    have still : other < (handles.objects.set index {}).length := by
      rw [List.length_set]
      exact other_bound
    rw [reset, Option.bind_some, take, List.getElem?_eq_getElem still]
    exact ⟨_, rfl⟩

theorem temporary_some (handles : TokenHandles) (bound : out < handles.objects.length)
    (text : String) :
    ∃ assigned done, (handles.issue text).moveAssign out handles.objects.length = some assigned ∧
      assigned.destroy handles.objects.length = some done := by
  have longer : (handles.issue text).objects.length = handles.objects.length + 1 := List.length_append
  have out_bound : out < (handles.issue text).objects.length := by omega
  have temporary_bound : handles.objects.length < (handles.issue text).objects.length := by omega
  obtain ⟨assigned, moved⟩ := moveAssign_some out_bound temporary_bound
  obtain ⟨token, _, _, assigned_eq⟩ := moveAssign_eq (Nat.ne_of_lt bound) moved
  have still : handles.objects.length < assigned.objects.length := by
    rw [assigned_eq, List.length_set, List.length_set]
    exact temporary_bound
  obtain ⟨done, destroyed⟩ := destroy_some still
  exact ⟨assigned, done, moved, destroyed⟩

theorem acquireToken_some (bound : out < handles.objects.length) :
    ∃ result, handles.acquireToken replies ptr size offset out = some result := by
  rw [acquireToken, if_pos bound]
  simp only
  split
  · exact ⟨_, rfl⟩
  · rename_i text _
    obtain ⟨assigned, done, moved, destroyed⟩ := temporary_some
      { handles with manager := (handles.manager.acquireToken replies ptr size offset).manager }
      bound text
    rw [moved, Option.bind_some, destroyed]
    exact ⟨_, rfl⟩

theorem advance_some {event : Event} (named : event.Named handles) :
    ∃ after, handles.advance event = some after := by
  cases event with
  | construct => exact ⟨_, rfl⟩
  | moveConstruct other =>
      rw [advance, moveConstruct, List.getElem?_eq_getElem named]
      exact ⟨_, rfl⟩
  | moveAssign index other => exact moveAssign_some named.1 named.2
  | destroy index => exact destroy_some named
  | acquireToken replies ptr size offset out =>
      obtain ⟨result, acquired⟩ := acquireToken_some named
      rw [advance, acquired]
      exact ⟨_, rfl⟩
  | registerBuffer replies ptr size => exact ⟨_, rfl⟩
  | unregisterBuffer replies ptr => exact ⟨_, rfl⟩

/-! ## The manager of the handles -/

theorem acquireToken_manager
    (done : handles.acquireToken replies ptr size offset out = some (success, after)) :
    after.manager = (handles.manager.acquireToken replies ptr size offset).manager := by
  obtain ⟨bound, acquired⟩ := acquireToken_acquired done
  cases acquired with
  | failed refused => rfl
  | issued text assigned done granted moved destroyed =>
      obtain ⟨_, _, _, rfl⟩ := moveAssign_eq (Nat.ne_of_lt bound) moved
      obtain ⟨_, rfl⟩ := destroy_eq destroyed
      rfl

theorem moveAssign_manager (done : handles.moveAssign index other = some after) :
    after.manager = handles.manager := by
  by_cases same : index = other
  · rw [moveAssign, if_pos same] at done
    obtain ⟨_, _, rfl⟩ := Option.map_eq_some_iff.mp done
    rfl
  · obtain ⟨_, _, _, rfl⟩ := moveAssign_eq same done
    rfl

theorem advance_manager {event : Event} (advanced : handles.advance event = some after) :
    after.manager = handles.manager ∨
      ∃ call, (handles.manager.perform call).manager = after.manager := by
  cases event with
  | construct =>
      cases advanced
      exact .inl rfl
  | moveConstruct other =>
      obtain ⟨token, _, rfl⟩ := Option.map_eq_some_iff.mp advanced
      exact .inl rfl
  | moveAssign index other => exact .inl (moveAssign_manager advanced)
  | destroy index =>
      obtain ⟨_, rfl⟩ := destroy_eq advanced
      exact .inl rfl
  | acquireToken replies ptr size offset out =>
      obtain ⟨⟨success, after⟩, acquired, rfl⟩ := Option.map_eq_some_iff.mp advanced
      exact .inr ⟨⟨.acquireToken ptr size offset, replies⟩, (acquireToken_manager acquired).symm⟩
  | registerBuffer replies ptr size =>
      cases advanced
      exact .inr ⟨⟨.registerBuffer ptr size, replies⟩, rfl⟩
  | unregisterBuffer replies ptr =>
      cases advanced
      exact .inr ⟨⟨.unregisterBuffer ptr, replies⟩, rfl⟩

theorem manager_invariant :
    system.Invariant fun handles => GdsMemoryManager.history.Reachable handles.manager where
  initial := by
    intro handles start
    rw [start]
    exact .of_initial rfl
  step := by
    intro before event after reachable advanced
    rcases advance_manager advanced with same | ⟨call, performed⟩
    · rw [same]
      exact reachable
    · exact reachable.step performed

/-- Moving handles about takes the manager through a history of its own. -/
theorem manager_reachable (reachable : system.Reachable handles) :
    GdsMemoryManager.history.Reachable handles.manager :=
  manager_invariant.reachable reachable

end TokenHandles

end Us3Turbo.Client
