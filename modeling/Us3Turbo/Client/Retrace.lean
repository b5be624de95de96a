import Us3Turbo.Client.PutObject

/-! # Attempts and calls taken step by step

`finish` runs an attempt against surroundings that are given beforehand.  Where an answer is made
up only when the attempt waits for it, there are surroundings that would have given all of them,
because no attempt waits for the same answer twice.
-/

namespace Us3Turbo.Client

open Us3Turbo.Proto

/-! ## One attempt -/

/-- The calls an attempt has made when it waits there, or would have. -/
def Stage.place : Stage → Nat
  | .opening => 0
  | .acquiring => 1
  | .putting => 2
  | .copying => 3
  | .aborting => 4
  | .returned _ => 5

/-- The call made at `stage` is answered by `other`. -/
def Surroundings.answering (surroundings other : Surroundings) : Stage → Surroundings
  | .opening => { surroundings with proxy := other.proxy }
  | .acquiring => { surroundings with manager := other.manager, library := other.library }
  | .putting => { surroundings with backend := other.backend }
  | .copying => { surroundings with memory := other.memory }
  | .aborting => { surroundings with abort := other.abort }
  | .returned _ => surroundings

/-- Surroundings in which no call succeeds. -/
def refusing : Surroundings where
  now := 0
  requestValue := 0
  sessionValue := 0
  proxy _ := .error ⟨0, ""⟩
  manager := {}
  library := ⟨false, false, none⟩
  backend _ := .error ⟨0, ""⟩
  memory := none
  abort := .error ⟨0, ""⟩

namespace PutOnce

variable {surroundings other : Surroundings} {first put : PutOnce} {stage : Stage} {result : Bool}

theorem advance_answering :
    put.advance (surroundings.answering other put.stage) = put.advance other := by
  cases stage : put.stage with
  | opening => simp only [advance_opening stage, Surroundings.answering]
  | acquiring => simp only [advance_acquiring stage, Surroundings.answering]
  | putting => simp only [advance_putting stage, Surroundings.answering]
  | copying => simp only [advance_copying stage, Surroundings.answering]
  | aborting => simp only [advance_aborting stage]
  | returned result => simp only [advance_returned stage]

theorem advance_answering_elsewhere (elsewhere : put.stage ≠ stage) :
    put.advance (surroundings.answering other stage) = put.advance surroundings := by
  cases waits : put.stage with
  | opening =>
      rw [waits] at elsewhere
      rw [advance_opening waits, advance_opening waits]
      cases stage <;> first | rfl | exact absurd rfl elsewhere
  | acquiring =>
      rw [waits] at elsewhere
      rw [advance_acquiring waits, advance_acquiring waits]
      cases stage <;> first | rfl | exact absurd rfl elsewhere
  | putting =>
      rw [waits] at elsewhere
      rw [advance_putting waits, advance_putting waits]
      cases stage <;> first | rfl | exact absurd rfl elsewhere
  | copying =>
      rw [waits] at elsewhere
      rw [advance_copying waits, advance_copying waits]
      cases stage <;> first | rfl | exact absurd rfl elsewhere
  | aborting => rw [advance_aborting waits, advance_aborting waits]
  | returned result => rw [advance_returned waits, advance_returned waits]

theorem place_advance (surroundings : Surroundings)
    (waiting : ∀ result, put.stage ≠ .returned result) :
    put.stage.place < (put.advance surroundings).stage.place := by
  cases stage : put.stage with
  | opening =>
      rw [advance_opening stage, onOpenSession.eq_def]
      split
      · simp only [Stage.place]
        decide
      · split <;> simp only [Stage.place] <;> decide
  | acquiring =>
      rw [advance_acquiring stage, onToken.eq_def]
      split <;> simp only [Stage.place] <;> decide
  | putting =>
      rw [advance_putting stage, onGdsPut.eq_def]
      split
      · simp only [Stage.place]
        decide
      · simp only
        split <;> simp only [Stage.place] <;> decide
  | copying =>
      rw [advance_copying stage, onCopied.eq_def]
      split
      · simp only [Stage.place]
        decide
      · split <;> simp only [Stage.place] <;> decide
  | aborting =>
      rw [advance_aborting stage]
      simp only [Stage.place]
      decide
  | returned result => exact absurd stage (waiting result)

/-- What `first` becomes call by call, against `surroundings`. -/
inductive Retraced (surroundings : Surroundings) (first : PutOnce) : PutOnce → Prop where
  | start : Retraced surroundings first first
  | answered (put : PutOnce) (before : Retraced surroundings first put)
      (waiting : ∀ result, put.stage ≠ .returned result) :
      Retraced surroundings first (put.advance surroundings)

namespace Retraced

/-- Only the answers that came already matter. -/
theorem agree (retraced : Retraced surroundings first put)
    (same : ∀ earlier : PutOnce, earlier.stage.place < put.stage.place →
      earlier.advance surroundings = earlier.advance other) : Retraced other first put := by
  induction retraced with
  | start => exact .start
  | answered put _ waiting ih =>
      have onward := place_advance surroundings waiting
      rw [same put onward]
      refine .answered put (ih fun earlier before => same earlier ?_) waiting
      omega

theorem extend (retraced : Retraced surroundings first put)
    (waiting : ∀ result, put.stage ≠ .returned result) (other : Surroundings) :
    Retraced (surroundings.answering other put.stage) first (put.advance other) := by
  rw [← advance_answering]
  refine .answered put (retraced.agree fun earlier before => ?_) waiting
  have elsewhere : earlier.stage ≠ put.stage := by
    intro same
    rw [same] at before
    omega
  rw [advance_answering_elsewhere elsewhere]

theorem iterate (retraced : Retraced surroundings first put) :
    ∃ calls, calls ≤ put.stage.place ∧ (advance surroundings)^[calls] first = put := by
  induction retraced with
  | start => exact ⟨0, Nat.zero_le _, rfl⟩
  | answered put _ waiting ih =>
      obtain ⟨calls, few, reached⟩ := ih
      refine ⟨calls + 1, ?_, ?_⟩
      · have onward := place_advance surroundings waiting
        omega
      · rw [Function.iterate_succ_apply', reached]

/-- An attempt that has returned is one that was run in one go. -/
theorem finish (retraced : Retraced surroundings first put) (returned : put.stage = .returned result) :
    first.finish surroundings = put := by
  obtain ⟨calls, few, reached⟩ := retraced.iterate
  rw [returned, Stage.place] at few
  rw [PutOnce.finish, show 5 = (5 - calls) + calls by omega, Function.iterate_add_apply, reached]
  exact Function.iterate_fixed (advance_returned returned) _

end Retraced

/-- An answer moves an attempt as some surroundings do, or not at all. -/
theorem resume_advance (put : PutOnce) (reply : Reply)
    (token : ∀ answer, reply = .token answer → ∃ (manager : GdsMemoryManager) (library : Replies),
      (manager.acquireToken library put.buffer.data put.buffer.size 0).token = answer) :
    put.resume reply = put ∨ (∀ result, put.stage ≠ .returned result) ∧
      ∃ surroundings : Surroundings, put.resume reply = put.advance surroundings := by
  unfold resume
  split
  · rename_i reply opening
    refine .inr ⟨by simp [opening], { refusing with proxy := fun _ => reply }, ?_⟩
    rw [advance_opening opening]
  · rename_i answer acquiring
    obtain ⟨manager, library, rfl⟩ := token answer rfl
    refine .inr ⟨by simp [acquiring], { refusing with manager, library }, ?_⟩
    rw [advance_acquiring acquiring]
  · rename_i reply putting
    refine .inr ⟨by simp [putting], { refusing with backend := fun _ => reply }, ?_⟩
    rw [advance_putting putting]
  · rename_i host copying
    refine .inr ⟨by simp [copying], { refusing with memory := host }, ?_⟩
    rw [advance_copying copying]
  · rename_i aborting
    refine .inr ⟨by simp [aborting], refusing, ?_⟩
    rw [advance_aborting aborting]
  · exact .inl rfl

end PutOnce

/-! ## The retries -/

section Retry

variable {State : Type} {fn other : Nat → State → Bool × State} {first state next : State}
  {policy : RetryPolicy} {tries : Nat}

/-- What `tries` calls of `fn` in vain have made of `first`. -/
def Tried (fn : Nat → State → Bool × State) (first : State) : Nat → State → Prop
  | 0, state => state = first
  | tries + 1, state => ∃ before, Tried fn first tries before ∧ fn tries before = (false, state)

theorem Tried.agree (tried : Tried fn first tries state)
    (same : ∀ index < tries, fn index = other index) : Tried other first tries state := by
  induction tries generalizing state with
  | zero => exact tried
  | succ tries ih =>
      obtain ⟨before, earlier, failed⟩ := tried
      refine ⟨before, ih earlier fun index less => same index (by omega), ?_⟩
      rw [← same tries (by omega)]
      exact failed

theorem Tried.retryLoop (tried : Tried fn first tries state) (within : tries < policy.maxAttempts) :
    retryIfRetryable policy fn first =
      retryLoop fn (policy.maxAttempts - 1 - tries) (tries + 1) (fn tries state) := by
  induction tries generalizing state with
  | zero =>
      cases tried
      rfl
  | succ tries ih =>
      obtain ⟨before, earlier, failed⟩ := tried
      rw [ih earlier (by omega), failed,
        show policy.maxAttempts - 1 - tries = policy.maxAttempts - 1 - (tries + 1) + 1 by omega]
      exact retryLoop_again rfl

theorem Tried.succeeds (tried : Tried fn first tries state) (within : tries < policy.maxAttempts)
    (success : fn tries state = (true, next)) : retryIfRetryable policy fn first = (true, next) := by
  rw [tried.retryLoop within, success]
  exact retryLoop_done rfl

theorem Tried.fails (tried : Tried fn first policy.maxAttempts state) (some : 0 < policy.maxAttempts) :
    retryIfRetryable policy fn first = (false, state) := by
  obtain ⟨last, known⟩ : ∃ last, policy.maxAttempts = last + 1 := ⟨policy.maxAttempts - 1, by omega⟩
  rw [known] at tried
  obtain ⟨before, earlier, failed⟩ := tried
  rw [earlier.retryLoop  (by omega), failed, known]
  simp only [Nat.add_sub_cancel, Nat.sub_self]
  rfl

end Retry

end Us3Turbo.Client
