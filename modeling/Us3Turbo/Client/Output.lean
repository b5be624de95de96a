import Us3Turbo.Client.Deadline

/-! # What a failed `PutObject` leaves in its output

An attempt writes `out` when its `GdsPut` is answered, before it verifies anything.
-/

namespace Us3Turbo.Client

open Us3Turbo.Proto

namespace PutOnce

variable {surroundings : Surroundings} {put : PutOnce}

/-- The answer the backend gives to the `GdsPut` of an attempt, where it comes to one. -/
def answered (surroundings : Surroundings) (put : PutOnce) : Option GdsChunkResponse :=
  match surroundings.proxy (openSessionRequest put.attempt) with
  | .error _ => none
  | .ok opened =>
      if echoes put.attempt opened then
        (surroundings.manager.acquireToken surroundings.library put.buffer.data
          put.buffer.size 0).token.bind fun token =>
            (surroundings.backend
              (gdsChunkRequest put.attempt ⟨opened.ticket⟩ token put.buffer.size)).toOption
      else none

def fill (put : PutOnce) (response : GdsChunkResponse) : TransferOutcome :=
  makeTransferOutcome put.attempt ⟨response.etag, response.crc32c⟩ put.buffer

/-- Every exit after the answer, in success or in failure, leaves `out` filled. -/
theorem iterate_putting_out (putting : put.stage = .putting) :
    ((advance surroundings)^[3] put).out = ((surroundings.backend
      (gdsChunkRequest put.attempt put.grant (put.token.getD "") put.buffer.size)).toOption.map
        put.fill).getD put.out := by
  have ends : (advance surroundings)^[0 + 3] put = _ := iterate_putting putting
  rw [Nat.zero_add] at ends
  rw [ends]
  cases surroundings.backend
      (gdsChunkRequest put.attempt put.grant (put.token.getD "") put.buffer.size) with
  | error => rfl
  | ok response => rfl

theorem iterate_acquiring_out (acquiring : put.stage = .acquiring) :
    ((advance surroundings)^[4] put).out = (((surroundings.manager.acquireToken surroundings.library
      put.buffer.data put.buffer.size 0).token.bind fun token => (surroundings.backend
        (gdsChunkRequest put.attempt put.grant token put.buffer.size)).toOption).map
          put.fill).getD put.out := by
  rw [Function.iterate_succ_apply, advance_acquiring acquiring]
  cases (surroundings.manager.acquireToken surroundings.library put.buffer.data
      put.buffer.size 0).token with
  | none =>
      rw [onToken, iterate_aborting rfl]
      rfl
  | some token =>
      rw [onToken, iterate_putting_out rfl]
      rfl

theorem finish_out (opening : put.stage = .opening) :
    (put.finish surroundings).out = ((put.answered surroundings).map put.fill).getD put.out := by
  rw [finish, Function.iterate_succ_apply, advance_opening opening, answered]
  cases surroundings.proxy (openSessionRequest put.attempt) with
  | error error =>
      rw [onOpenSession, iterate_returned rfl]
      rfl
  | ok opened =>
      simp only [onOpenSession]
      split
      · rw [iterate_acquiring_out rfl]
        rfl
      · rw [iterate_returned rfl]
        rfl

theorem succeeds_of_answered {response : GdsChunkResponse}
    (answers : put.answered surroundings = some response)
    (verifies : put.Verifies surroundings response) : put.Succeeds surroundings response := by
  rw [answered] at answers
  split at answers
  · cases answers
  · rename_i opened proxy
    split at answers
    · rename_i echoed
      obtain ⟨token, acquired, reply⟩ := Option.bind_eq_some_iff.mp answers
      refine ⟨opened, proxy, echoed, token, acquired, ?_, verifies⟩
      cases backend : surroundings.backend
          (gdsChunkRequest put.attempt ⟨opened.ticket⟩ token put.buffer.size) with
      | error error =>
          rw [backend] at reply
          cases reply
      | ok other =>
          rw [backend] at reply
          cases reply
          rfl
    · cases answers

end PutOnce

namespace TimedPut

variable {call : TimedPut} {i : Nat} {progress : Progress}

/-- What the `i`th attempt writes to `out`, if it is made and its `GdsPut` is answered. -/
def written (call : TimedPut) (i : Nat) : Option TransferOutcome :=
  if (call.surroundings i).now < call.deadline then
    ((call.attempt i).answered (call.surroundings i)).map (call.attempt i).fill
  else none

/-- The last write of three attempts that are all made. -/
def lastWritten (call : TimedPut) : Option TransferOutcome :=
  (call.written 2).or ((call.written 1).or (call.written 0))

def attemptAgain (call : TimedPut) (i : Nat) (progress : Progress) : Bool × Progress :=
  call.client.tryOnce call.start call.request call.buffer (call.surroundings i) progress

theorem attemptAgain_true_iff : (call.attemptAgain i progress).1 = true ↔ call.Passes i :=
  tryLogged_true_iff i (progress, [])

theorem attemptAgain_out :
    (call.attemptAgain i progress).2.out = (call.written i).getD progress.out := by
  rw [attemptAgain, ClientState.tryOnce, written]
  by_cases late : (call.surroundings i).now ≥ call.client.deadline call.start
  · have missed : ¬ (call.surroundings i).now < call.deadline := not_lt.mpr late
    rw [if_pos late, if_neg missed]
    rfl
  · have inTime : (call.surroundings i).now < call.deadline := not_le.mp late
    rw [if_neg late, if_pos inTime]
    exact PutOnce.finish_out rfl

theorem putObject_admitted (admitted : call.Admitted) :
    call.client.putObject call.start call.surroundings call.request call.buffer call.out =
      retryIfRetryable {} call.attemptAgain { out := call.out } := by
  obtain ⟨initialized, fits⟩ := admitted
  simp only [ClientState.putObject, initialized, Bool.not_true, Bool.false_eq_true, if_false,
    if_neg fits]
  rfl

theorem putObject_refused (refused : ¬ call.Admitted) :
    call.client.putObject call.start call.surroundings call.request call.buffer call.out =
      (false, { out := call.out }) := by
  rw [ClientState.putObject]
  split
  · rfl
  · rename_i initialized
    split
    · rfl
    · rename_i fits
      exact absurd ⟨by simpa using initialized, fits⟩ refused

/-- When no attempt passes, all three are tried in turn. -/
theorem retried (none : ∀ i < 3, ¬ call.Passes i) :
    retryIfRetryable {} call.attemptAgain progress =
      call.attemptAgain 2 (call.attemptAgain 1 (call.attemptAgain 0 progress).2).2 := by
  have failed (i : Nat) (below : i < 3) (progress : Progress) :
      (call.attemptAgain i progress).1 = false := by
    rw [← Bool.not_eq_true, attemptAgain_true_iff]
    exact none i below
  have left : ({} : RetryPolicy).maxAttempts - 1 = 2 := rfl
  rw [retryIfRetryable, left, retryLoop_again (failed 0 (by decide) _),
    retryLoop_again (failed 1 (by decide) _), retryLoop]

theorem putObject_true (passes : ∃ i < 3, call.Passes i) (admitted : call.Admitted) :
    (call.client.putObject call.start call.surroundings call.request call.buffer call.out).1 =
      true := by
  classical
  have found := Nat.find_spec passes
  have earlier : ∀ index < Nat.find passes, ¬ call.Passes index := by
    intro index less good
    exact Nat.find_min passes less ⟨by omega, good⟩
  have within : Nat.find passes < ({} : RetryPolicy).maxAttempts := found.1
  have returns : ∃ state, retryIfRetryable {} call.attemptAgain { out := call.out } =
      call.attemptAgain (Nat.find passes) state :=
    retryIfRetryable_first (fun _ _ => attemptAgain_true_iff) within found.2 earlier
  obtain ⟨state, returns⟩ := returns
  rw [putObject_admitted admitted, returns, attemptAgain_true_iff]
  exact found.2

theorem failed_out (admitted : call.Admitted) (none : ∀ i < 3, ¬ call.Passes i) :
    (call.client.putObject call.start call.surroundings call.request call.buffer call.out).2.out =
      call.lastWritten.getD call.out := by
  rw [putObject_admitted admitted, retried none, attemptAgain_out, attemptAgain_out,
    attemptAgain_out, lastWritten, Option.getD_or, Option.getD_or]

/-- A failed `PutObject` leaves `out` alone exactly if it made no attempt, or the last of its
attempts that had their `GdsPut` answered wrote what was there. -/
theorem output_untouched_iff (call : TimedPut) :
    ((call.client.putObject call.start call.surroundings call.request call.buffer call.out).1 = false →
      (call.client.putObject call.start call.surroundings call.request call.buffer call.out).2.out =
        call.out) ↔
    ¬ call.Admitted ∨ (∃ i < 3, call.Passes i) ∨
      ∀ outcome, call.lastWritten = some outcome → outcome = call.out := by
  by_cases admitted : call.Admitted
  · by_cases passes : ∃ i < 3, call.Passes i
    · refine iff_of_true (fun failed => ?_) (.inr (.inl passes))
      have succeeded := putObject_true passes admitted
      rw [failed] at succeeded
      cases succeeded
    · have none : ∀ i < 3, ¬ call.Passes i := fun i below good => passes ⟨i, below, good⟩
      have failed : (call.client.putObject call.start call.surroundings call.request call.buffer
          call.out).1 = false := by
        rw [putObject_admitted admitted, retried none, ← Bool.not_eq_true, attemptAgain_true_iff]
        exact none 2 (by decide)
      simp only [failed, failed_out admitted none, true_implies, admitted, not_true, passes, false_or]
      cases call.lastWritten with
      | none => simp
      | some outcome => simp
  · refine iff_of_true (fun _ => ?_) (.inl admitted)
    rw [putObject_refused admitted]

/-- Without the verification nothing fails after the write. -/
theorem output_untouched_unverified (plain : call.client.options.verifyCrc32c = false)
    (failed : (call.client.putObject call.start call.surroundings call.request call.buffer
      call.out).1 = false) :
    (call.client.putObject call.start call.surroundings call.request call.buffer call.out).2.out =
      call.out := by
  have passes_of_written {i : Nat} {outcome : TransferOutcome}
      (wrote : call.written i = some outcome) : call.Passes i := by
    rw [written] at wrote
    split at wrote
    · rename_i inTime
      obtain ⟨response, answers, _⟩ := Option.map_eq_some_iff.mp wrote
      have verifies : (call.attempt i).Verifies (call.surroundings i) response := by
        intro verified
        have off : (call.attempt i).options.verifyCrc32c = false := plain
        rw [off] at verified
        cases verified
      exact ⟨inTime, response, PutOnce.succeeds_of_answered answers verifies⟩
    · cases wrote
  apply (output_untouched_iff call).mpr _ failed
  by_cases passes : ∃ i < 3, call.Passes i
  · exact .inr (.inl passes)
  · refine .inr (.inr fun outcome wrote => ?_)
    rw [lastWritten, Option.or_eq_some_iff, Option.or_eq_some_iff] at wrote
    rcases wrote with last | ⟨_, middle | ⟨_, first⟩⟩
    · exact absurd ⟨2, by decide, passes_of_written last⟩ passes
    · exact absurd ⟨1, by decide, passes_of_written middle⟩ passes
    · exact absurd ⟨0, by decide, passes_of_written first⟩ passes

/-! ## A write by an attempt that fails its verification -/

/-- A verified PUT whose first attempt gets a checksum that the device memory does not have,
and whose other attempts find the proxy down. -/
def mismatchedPut : TimedPut where
  client := { options := { verifyCrc32c := true }, initialized := true }
  start := 0
  request := { bucket := "bucket", key := "object", expectedSize := some 4 }
  buffer := { data := 4096, size := 4 }
  out := {}
  surroundings i := {
    now := 0
    requestValue := 1
    sessionValue := 2
    proxy := fun request =>
      if i = 0 then
        .ok ⟨request.requestId, request.sessionId, "tkt-" ++ request.sessionId, "proxy-0",
          "192.168.1.198:9200", "1970-01-01T00:05:00Z"⟩
      else .error ⟨112, "host down"⟩
    manager := {}
    library := ⟨true, true, some "1000:42"⟩
    backend := fun _ => .ok ⟨"00000000", 0, 4⟩
    memory := some [1, 2, 3, 4]
    abort := .error ⟨112, "host down"⟩ }
  clock _ _ := 0

theorem mismatched_put_fills_out :
    ¬ ∀ call : TimedPut,
      (call.client.putObject call.start call.surroundings call.request call.buffer call.out).1 = false →
        (call.client.putObject call.start call.surroundings call.request call.buffer
          call.out).2.out = call.out := by
  intro untouched
  have failed : (mismatchedPut.client.putObject mismatchedPut.start mismatchedPut.surroundings
      mismatchedPut.request mismatchedPut.buffer mismatchedPut.out).1 = false := by decide +kernel
  have filled : (mismatchedPut.client.putObject mismatchedPut.start mismatchedPut.surroundings
      mismatchedPut.request mismatchedPut.buffer mismatchedPut.out).2.out.sessionId =
        "ses-0000000000000002" := by decide +kernel
  rw [untouched mismatchedPut failed] at filled
  exact absurd filled (by decide)

end TimedPut

end Us3Turbo.Client
