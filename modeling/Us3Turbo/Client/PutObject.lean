import Us3Turbo.Client.PutOnce
import Us3Turbo.Client.Registration
import Mathlib.Logic.Function.Iterate

/-! # `Client::PutObject` and its retries -/

namespace Us3Turbo.Client

open Us3Turbo.Proto

/-! ## `RetryIfRetryable` -/

structure RetryPolicy where
  maxAttempts : Nat := 3

section Retry

variable {State : Type}

/-- The loop of `RetryIfRetryable`, entered with what the last call of `fn` returned. -/
def retryLoop (fn : Nat → State → Bool × State) : Nat → Nat → Bool × State → Bool × State
  | 0, _, last => last
  | _ + 1, _, (true, state) => (true, state)
  | left + 1, attempt, (false, state) => retryLoop fn left (attempt + 1) (fn attempt state)

/-- `fn` is told which attempt it is; the sleep between two attempts only moves the clock. -/
def retryIfRetryable (policy : RetryPolicy) (fn : Nat → State → Bool × State) (state : State) :
    Bool × State :=
  retryLoop fn (policy.maxAttempts - 1) 1 (fn 0 state)

variable {fn : Nat → State → Bool × State} {good : Nat → Prop} {left attempt first : Nat}
  {last : Bool × State}

theorem retryLoop_done (done : last.1 = true) : retryLoop fn left attempt last = last := by
  obtain ⟨result, state⟩ := last
  cases done
  cases left with
  | zero => rfl
  | succ => rfl

theorem retryLoop_again (failed : last.1 = false) :
    retryLoop fn (left + 1) attempt last =
      retryLoop fn left (attempt + 1) (fn attempt last.2) := by
  obtain ⟨result, state⟩ := last
  cases failed
  rfl

/-- When success depends on the number of the attempt only, the loop ends with the
first attempt that is good. -/
theorem retryLoop_first (decides : ∀ attempt state, (fn attempt state).1 = true ↔ good attempt)
    (failed : last.1 = false) (within : attempt ≤ first ∧ first < attempt + left)
    (succeeds : good first) (earlier : ∀ index, attempt ≤ index → index < first → ¬ good index) :
    ∃ state, retryLoop fn left attempt last = fn first state := by
  induction left generalizing attempt last with
  | zero => omega
  | succ left ih =>
      rw [retryLoop_again failed]
      by_cases here : attempt = first
      · subst here
        exact ⟨last.2, retryLoop_done ((decides _ _).mpr succeeds)⟩
      · have still : (fn attempt last.2).1 = false := by
          have bad := earlier attempt (le_refl _) (by omega)
          rw [← decides attempt last.2] at bad
          simpa using bad
        exact ih still (by omega) fun index later => earlier index (by omega)

theorem retryLoop_none (decides : ∀ attempt state, (fn attempt state).1 = true ↔ good attempt)
    (failed : last.1 = false)
    (none : ∀ index, attempt ≤ index → index < attempt + left → ¬ good index) :
    (retryLoop fn left attempt last).1 = false := by
  induction left generalizing attempt last with
  | zero => exact failed
  | succ left ih =>
      rw [retryLoop_again failed]
      have still : (fn attempt last.2).1 = false := by
        have bad := none attempt (le_refl _) (by omega)
        rw [← decides attempt last.2] at bad
        simpa using bad
      exact ih still fun index later bound => none index (by omega) (by omega)

theorem retryIfRetryable_first {policy : RetryPolicy} {state : State}
    (decides : ∀ attempt state, (fn attempt state).1 = true ↔ good attempt)
    (within : first < policy.maxAttempts) (succeeds : good first)
    (earlier : ∀ index < first, ¬ good index) :
    ∃ state', retryIfRetryable policy fn state = fn first state' := by
  by_cases start : first = 0
  · subst start
    exact ⟨state, retryLoop_done ((decides _ _).mpr succeeds)⟩
  · have failed : (fn 0 state).1 = false := by
      have bad := earlier 0 (by omega)
      rw [← decides 0 state] at bad
      simpa using bad
    exact retryLoop_first decides failed (by omega) succeeds fun index _ => earlier index

/-- A `true` of `RetryIfRetryable` is the `true` of its first good attempt. -/
theorem retryIfRetryable_true {policy : RetryPolicy} {state : State} (some : 0 < policy.maxAttempts)
    (decides : ∀ attempt state, (fn attempt state).1 = true ↔ good attempt)
    (success : (retryIfRetryable policy fn state).1 = true) :
    ∃ first < policy.maxAttempts, good first ∧ ∀ index < first, ¬ good index := by
  classical
  have found : ∃ index, index < policy.maxAttempts ∧ good index := by
    by_contra none
    have bad : ∀ index < policy.maxAttempts, ¬ good index :=
      fun index bound succeeds => none ⟨index, bound, succeeds⟩
    have failed : (fn 0 state).1 = false := by
      have first := bad 0 some
      rw [← decides 0 state] at first
      simpa using first
    have never : (retryLoop fn (policy.maxAttempts - 1) 1 (fn 0 state)).1 = false :=
      retryLoop_none decides failed fun index _ bound => bad index (by omega)
    rw [retryIfRetryable, never] at success
    cases success
  obtain ⟨bound, succeeds⟩ := Nat.find_spec found
  refine ⟨Nat.find found, bound, succeeds, ?_⟩
  intro index less succeeds'
  exact Nat.find_min found less ⟨by omega, succeeds'⟩

end Retry

/-! ## The surroundings of an attempt -/

/-- What one attempt meets: a clock reading, two random values, and whoever answers
its calls.  `memory` is what the D2H copy brings. -/
structure Surroundings where
  now : Int
  requestValue : UInt64
  sessionValue : UInt64
  proxy : OpenSessionRequest → RpcResult OpenSessionResponse
  manager : GdsMemoryManager
  library : Replies
  backend : GdsChunkRequest → RpcResult GdsChunkResponse
  memory : Option (List UInt8)
  abort : RpcResult AbortSessionResponse

def Surroundings.answer (surroundings : Surroundings) : Issued → Reply
  | .openSession request _ => .openSession (surroundings.proxy request)
  | .acquireToken ptr size offset =>
      .token (surroundings.manager.acquireToken surroundings.library ptr size offset).token
  | .gdsPut request _ => .gdsPut (surroundings.backend request)
  | .copyToHost _ _ => .copied surroundings.memory
  | .abortSession _ _ => .abortSession surroundings.abort

namespace PutOnce

def advance (surroundings : Surroundings) (put : PutOnce) : PutOnce :=
  match put.issued with
  | none => put
  | some call => put.resume (surroundings.answer call)

/-- No attempt waits more than five times. -/
def finish (surroundings : Surroundings) (put : PutOnce) : PutOnce := (advance surroundings)^[5] put

end PutOnce

structure ClientState where
  options : ClientOptions := {}
  initialized : Bool

/-- `out`, and the attempts that were made, each at its end. -/
structure Progress where
  out : TransferOutcome
  attempts : List PutOnce := []

namespace ClientState

/-- The milliseconds of `request_timeout` are made nanoseconds and added to the reading of the
steady clock, both in 64 bits. -/
def deadline (client : ClientState) (start : Int) : Int :=
  (Int64.ofInt start + client.options.requestTimeout * 1000000).toInt

def tryOnce (client : ClientState) (start : Int) (request : PutObjectRequest) (buffer : ConstBufferView)
    (surroundings : Surroundings) (progress : Progress) : Bool × Progress :=
  if surroundings.now ≥ client.deadline start then (false, progress)
  else
    let put := PutOnce.finish surroundings (PutOnce.start client.options request buffer progress.out
      surroundings.requestValue surroundings.sessionValue)
    (put.stage = .returned true, ⟨put.out, progress.attempts ++ [put]⟩)

def putObject (client : ClientState) (start : Int) (surroundings : Nat → Surroundings)
    (request : PutObjectRequest) (buffer : ConstBufferView) (out : TransferOutcome) :
    Bool × Progress :=
  if !client.initialized then (false, { out })
  else if client.options.putSingleMaxBytes ≠ 0 ∧ buffer.size > client.options.putSingleMaxBytes then
    (false, { out })
  else
    retryIfRetryable {}
      (fun attempt => client.tryOnce start request buffer (surroundings attempt)) { out }

end ClientState

/-! ## Where an attempt ends -/

namespace PutOnce

variable {surroundings : Surroundings} {put : PutOnce} {n : Nat} {result : Bool}

/-! ### One call, stage by stage -/

theorem advance_opening (opening : put.stage = .opening) : put.advance surroundings =
    put.onOpenSession (surroundings.proxy (openSessionRequest put.attempt)) := by
  simp only [advance, issued, opening, Surroundings.answer, resume]

theorem advance_acquiring (acquiring : put.stage = .acquiring) : put.advance surroundings =
    put.onToken (surroundings.manager.acquireToken surroundings.library put.buffer.data
      put.buffer.size 0).token := by
  simp only [advance, issued, acquiring, Surroundings.answer, resume]

theorem advance_putting (putting : put.stage = .putting) : put.advance surroundings =
    put.onGdsPut (surroundings.backend
      (gdsChunkRequest put.attempt put.grant (put.token.getD "") put.buffer.size)) := by
  simp only [advance, issued, putting, Surroundings.answer, resume]

theorem advance_copying (copying : put.stage = .copying) :
    put.advance surroundings = put.onCopied surroundings.memory := by
  simp only [advance, issued, copying, Surroundings.answer, resume]

theorem advance_aborting (aborting : put.stage = .aborting) :
    put.advance surroundings = { put with stage := .returned false } := by
  simp only [advance, issued, aborting, Surroundings.answer, resume]

theorem advance_returned (returned : put.stage = .returned result) :
    put.advance surroundings = put := by
  simp only [advance, issued, returned]

/-! ### The calls that are left -/

theorem iterate_returned (returned : put.stage = .returned result) :
    (advance surroundings)^[n] put = put :=
  Function.iterate_fixed (advance_returned returned) n

theorem iterate_aborting (aborting : put.stage = .aborting) :
    (advance surroundings)^[n + 1] put = { put with stage := .returned false } := by
  rw [Function.iterate_succ_apply, advance_aborting aborting, iterate_returned rfl]

def verified (surroundings : Surroundings) (put : PutOnce) : Bool :=
  match surroundings.memory with
  | none => false
  | some host => crc32c host = put.result.crc32c

theorem iterate_copying (copying : put.stage = .copying) :
    (advance surroundings)^[n + 2] put =
      { put with stage := .returned (put.verified surroundings) } := by
  rw [Function.iterate_succ_apply, advance_copying copying]
  cases memory : surroundings.memory with
  | none =>
      rw [iterate_aborting rfl]
      simp only [onCopied, verified, memory]
  | some host =>
      by_cases same : crc32c host = put.result.crc32c
      · simp only [onCopied, verified, memory, same, if_true, decide_true]
        rw [iterate_returned rfl]
      · simp only [onCopied, verified, memory, same, if_false, decide_false]
        rw [iterate_aborting rfl]

theorem iterate_putting (putting : put.stage = .putting) :
    (advance surroundings)^[n + 3] put =
      match surroundings.backend
          (gdsChunkRequest put.attempt put.grant (put.token.getD "") put.buffer.size) with
      | .error _ => { put with stage := .returned false }
      | .ok response =>
          { put.onGdsPut (.ok response) with
            stage := .returned (!put.options.verifyCrc32c ||
              (put.onGdsPut (.ok response)).verified surroundings) } := by
  rw [Function.iterate_succ_apply, advance_putting putting]
  cases surroundings.backend
      (gdsChunkRequest put.attempt put.grant (put.token.getD "") put.buffer.size) with
  | error => exact iterate_aborting rfl
  | ok response =>
      cases verify : put.options.verifyCrc32c with
      | true =>
          have copying : (put.onGdsPut (.ok response)).stage = .copying := by
            simp only [onGdsPut, verify, if_true]
          rw [iterate_copying copying]
          simp only [Bool.not_true, Bool.false_or]
      | false =>
          have done : (put.onGdsPut (.ok response)).stage = .returned true := by
            simp only [onGdsPut, verify, Bool.false_eq_true, if_false]
          rw [iterate_returned done]
          simp only [Bool.not_false, Bool.true_or, ← done]

theorem verified_iff {response : GdsChunkResponse} :
    (put.onGdsPut (.ok response)).verified surroundings = true ↔
      ∃ host, surroundings.memory = some host ∧ crc32c host = response.crc32c := by
  cases memory : surroundings.memory with
  | none => simp [verified, memory]
  | some host =>
      simp only [verified, memory, onGdsPut, Option.some.injEq, exists_eq_left']
      exact decide_eq_true_iff

/-- How the rest of an attempt ends, when it goes well exactly on the answers that satisfy
`good`: in failure, or in success with the output filled from such an answer. -/
inductive Ends (put : PutOnce) (good : GdsChunkResponse → Prop) (after : PutOnce) : Prop where
  | failed (stage : after.stage = .returned false) (none : ∀ response, ¬ good response)
  | succeeded (response : GdsChunkResponse) (stage : after.stage = .returned true)
      (answered : after.response = some response)
      (out : after.out = makeTransferOutcome put.attempt ⟨response.etag, response.crc32c⟩ put.buffer)
      (holds : good response)

theorem Ends.congr {good other : GdsChunkResponse → Prop} {before after : PutOnce}
    (ends : Ends before good after) (attempt : before.attempt = put.attempt)
    (buffer : before.buffer = put.buffer) (same : ∀ response, good response ↔ other response) :
    Ends put other after := by
  cases ends with
  | failed stage none => exact .failed stage fun response => mt (same response).mpr (none response)
  | succeeded response stage answered out holds =>
      rw [attempt, buffer] at out
      exact .succeeded response stage answered out ((same response).mp holds)

def Verifies (surroundings : Surroundings) (put : PutOnce) (response : GdsChunkResponse) : Prop :=
  put.options.verifyCrc32c = true →
    ∃ host, surroundings.memory = some host ∧ crc32c host = response.crc32c

theorem ends_putting (putting : put.stage = .putting) :
    Ends put (fun response => surroundings.backend
        (gdsChunkRequest put.attempt put.grant (put.token.getD "") put.buffer.size) = .ok response ∧
        Verifies surroundings put response)
      ((advance surroundings)^[n + 3] put) := by
  rw [iterate_putting putting]
  cases surroundings.backend
      (gdsChunkRequest put.attempt put.grant (put.token.getD "") put.buffer.size) with
  | error =>
      refine .failed rfl ?_
      rintro response ⟨answer, _⟩
      cases answer
  | ok response =>
      have passes : (!put.options.verifyCrc32c ||
          (put.onGdsPut (.ok response)).verified surroundings) = true ↔
          Verifies surroundings put response := by
        have checked : (put.onGdsPut (.ok response)).verified surroundings = true ↔
            ∃ host, surroundings.memory = some host ∧ crc32c host = response.crc32c := verified_iff
        rw [Verifies, ← checked]
        cases put.options.verifyCrc32c with
        | true => simp
        | false => simp
      by_cases verifies : Verifies surroundings put response
      · exact .succeeded response (congrArg Stage.returned (passes.mpr verifies)) rfl rfl
          ⟨rfl, verifies⟩
      · refine .failed (congrArg Stage.returned ?_) ?_
        · rwa [← passes, Bool.not_eq_true] at verifies
        · rintro other ⟨answer, verifies'⟩
          cases answer
          exact verifies verifies'

theorem ends_acquiring (acquiring : put.stage = .acquiring) :
    Ends put (fun response => ∃ token,
        (surroundings.manager.acquireToken surroundings.library put.buffer.data
          put.buffer.size 0).token = some token ∧
        surroundings.backend (gdsChunkRequest put.attempt put.grant token put.buffer.size) =
          .ok response ∧
        Verifies surroundings put response)
      ((advance surroundings)^[n + 4] put) := by
  rw [Function.iterate_succ_apply, advance_acquiring acquiring]
  cases (surroundings.manager.acquireToken surroundings.library put.buffer.data
      put.buffer.size 0).token with
  | none =>
      rw [onToken, iterate_aborting rfl]
      refine .failed rfl ?_
      rintro response ⟨token, acquired, _⟩
      cases acquired
  | some token =>
      have putting : (put.onToken (some token)).stage = .putting := rfl
      refine (ends_putting putting).congr rfl rfl fun response => ?_
      simp only [onToken, Option.getD_some, Option.some.injEq, exists_eq_left']
      rfl

def Succeeds (surroundings : Surroundings) (put : PutOnce) (response : GdsChunkResponse) : Prop :=
  ∃ opened, surroundings.proxy (openSessionRequest put.attempt) = .ok opened ∧
    echoes put.attempt opened ∧ ∃ token,
      (surroundings.manager.acquireToken surroundings.library put.buffer.data
        put.buffer.size 0).token = some token ∧
      surroundings.backend (gdsChunkRequest put.attempt ⟨opened.ticket⟩ token put.buffer.size) =
        .ok response ∧
      Verifies surroundings put response

theorem finish_ends (opening : put.stage = .opening) :
    Ends put (Succeeds surroundings put) (finish surroundings put) := by
  rw [finish, Function.iterate_succ_apply, advance_opening opening]
  cases proxy : surroundings.proxy (openSessionRequest put.attempt) with
  | error =>
      rw [onOpenSession, iterate_returned rfl]
      refine .failed rfl ?_
      rintro response ⟨opened, answer, _⟩
      rw [proxy] at answer
      cases answer
  | ok opened =>
      by_cases same : echoes put.attempt opened
      · rw [onOpenSession, if_pos same]
        refine (ends_acquiring rfl).congr rfl rfl fun response => ?_
        simp only [Succeeds, proxy, Except.ok.injEq, exists_eq_left', same, true_and]
        rfl
      · rw [onOpenSession, if_neg same, iterate_returned rfl]
        refine .failed rfl ?_
        rintro response ⟨other, answer, echoed, _⟩
        rw [proxy] at answer
        cases answer
        exact same echoed

end PutOnce

end Us3Turbo.Client
