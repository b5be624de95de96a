import Us3Turbo.Client.PutObject

/-! # The deadline of a PUT and the timeouts of its RPCs

`PutObject` tests its deadline, a sum in 64 bits that can wrap, when an attempt
starts.  Each RPC of the attempt is then given a timeout of its own, from another
field, cast to `int`; nothing compares the two.
-/

namespace Us3Turbo.Client

open Us3Turbo.Proto

/-- An `OpenSession` or a `GdsPut` as it goes out. -/
structure Rpc where
  issuedAt : Int
  timeoutMs : Int32
deriving DecidableEq, Repr

def Issued.timeoutMs : Issued → Option Int32
  | .openSession _ timeoutMs => some timeoutMs
  | .gdsPut _ timeoutMs => some timeoutMs
  | .acquireToken _ _ _ => none
  | .copyToHost _ _ => none
  | .abortSession _ _ => none

/-! ## The RPCs of one attempt -/

namespace PutOnce

variable {surroundings : Surroundings} {put : PutOnce} {clock : Nat → Int} {fuel index : Nat}

/-- `clock` is the reading at each call the attempt makes; `put` is about to make call `index`. -/
def rpcsFrom (surroundings : Surroundings) (clock : Nat → Int) : Nat → Nat → PutOnce → List Rpc
  | 0, _, _ => []
  | fuel + 1, index, put =>
      ((put.issued.bind Issued.timeoutMs).map (Rpc.mk (clock index))).toList ++
        rpcsFrom surroundings clock fuel (index + 1) (put.advance surroundings)

def rpcs (surroundings : Surroundings) (clock : Nat → Int) (put : PutOnce) : List Rpc :=
  rpcsFrom surroundings clock 5 0 put

/-- The attempt makes no `OpenSession` or `GdsPut` any more. -/
def Quiet (put : PutOnce) : Prop :=
  put.stage = .copying ∨ put.stage = .aborting ∨ ∃ result, put.stage = .returned result

theorem Quiet.advance (quiet : put.Quiet) : (put.advance surroundings).Quiet := by
  obtain copying | aborting | ⟨result, returned⟩ := quiet
  · rw [advance_copying copying]
    cases surroundings.memory with
    | none => exact .inr (.inl rfl)
    | some host =>
        rw [onCopied]
        split
        · exact .inr (.inr ⟨true, rfl⟩)
        · exact .inr (.inl rfl)
  · rw [advance_aborting aborting]
    exact .inr (.inr ⟨false, rfl⟩)
  · rw [advance_returned returned]
    exact .inr (.inr ⟨result, returned⟩)

theorem Quiet.rpcsFrom (quiet : put.Quiet) : rpcsFrom surroundings clock fuel index put = [] := by
  induction fuel generalizing index put with
  | zero => rfl
  | succ fuel ih =>
      have silent : put.issued.bind Issued.timeoutMs = none := by
        obtain copying | aborting | ⟨result, returned⟩ := quiet
        · simp only [issued, copying, Option.bind_some, Issued.timeoutMs]
        · simp only [issued, aborting, Option.bind_some, Issued.timeoutMs]
        · simp only [issued, returned, Option.bind_none]
      rw [PutOnce.rpcsFrom, silent, ih quiet.advance]
      rfl

theorem rpcsFrom_putting (putting : put.stage = .putting) :
    rpcsFrom surroundings clock (fuel + 1) index put =
      [⟨clock index, applyTimeout put.attempt.timeout⟩] := by
  have quiet : (put.advance surroundings).Quiet := by
    rw [advance_putting putting]
    cases surroundings.backend
        (gdsChunkRequest put.attempt put.grant (put.token.getD "") put.buffer.size) with
    | error => exact .inr (.inl rfl)
    | ok response =>
        simp only [onGdsPut]
        split
        · exact .inl rfl
        · exact .inr (.inr ⟨true, rfl⟩)
  simp only [rpcsFrom, quiet.rpcsFrom, issued, putting, Option.bind_some, Issued.timeoutMs,
    Option.map_some, Option.toList_some, List.append_nil]

/-- What the attempt needs to get as far as `GdsPut`. -/
def Transfers (surroundings : Surroundings) (put : PutOnce) : Prop :=
  (∃ opened, surroundings.proxy (openSessionRequest put.attempt) = .ok opened ∧
    echoes put.attempt opened) ∧
  (surroundings.manager.acquireToken surroundings.library put.buffer.data put.buffer.size 0).token.isSome

theorem rpcsFrom_acquiring (acquiring : put.stage = .acquiring) :
    rpcsFrom surroundings clock (fuel + 2) index put =
      if (surroundings.manager.acquireToken surroundings.library put.buffer.data
          put.buffer.size 0).token.isSome then
        [⟨clock (index + 1), applyTimeout put.attempt.timeout⟩]
      else [] := by
  rw [rpcsFrom, advance_acquiring acquiring]
  simp only [issued, acquiring, Option.bind_some, Issued.timeoutMs, Option.map_none,
    Option.toList_none, List.nil_append]
  cases (surroundings.manager.acquireToken surroundings.library put.buffer.data
      put.buffer.size 0).token with
  | none =>
      have quiet : (put.onToken none).Quiet := .inr (.inl rfl)
      exact quiet.rpcsFrom
  | some token =>
      have putting : (put.onToken (some token)).stage = .putting := rfl
      exact rpcsFrom_putting putting

/-- An attempt makes one `OpenSession` and at most one `GdsPut`, all with the same timeout. -/
theorem mem_rpcs {rpc : Rpc} (opening : put.stage = .opening) :
    rpc ∈ put.rpcs surroundings clock ↔
      rpc = ⟨clock 0, applyTimeout put.attempt.timeout⟩ ∨
        put.Transfers surroundings ∧ rpc = ⟨clock 2, applyTimeout put.attempt.timeout⟩ := by
  rw [rpcs, rpcsFrom, advance_opening opening]
  simp only [issued, opening, Option.bind_some, Issued.timeoutMs, Option.map_some,
    Option.toList_some, List.singleton_append, List.mem_cons]
  apply or_congr_right
  cases proxy : surroundings.proxy (openSessionRequest put.attempt) with
  | error error =>
      have quiet : (put.onOpenSession (.error error)).Quiet := .inr (.inr ⟨false, rfl⟩)
      simp [quiet.rpcsFrom, Transfers, proxy]
  | ok opened =>
      by_cases same : echoes put.attempt opened
      · have acquiring : (put.onOpenSession (.ok opened)).stage = .acquiring := by
          simp only [onOpenSession, if_pos same]
        rw [rpcsFrom_acquiring acquiring]
        simp only [onOpenSession, if_pos, Transfers, proxy, Except.ok.injEq, exists_eq_left',
          same, true_and]
        by_cases acquired : (surroundings.manager.acquireToken surroundings.library put.buffer.data
          put.buffer.size 0).token.isSome = true
        · simp [acquired]
        · simp [acquired]
      · have quiet : (put.onOpenSession (.ok opened)).Quiet := by
          simp only [onOpenSession, if_neg same]
          exact .inr (.inr ⟨false, rfl⟩)
        simp [quiet.rpcsFrom, Transfers, proxy, same]

end PutOnce

/-! ## The RPCs of a retried call -/

section Retry

variable {State Other Entry : Type} {policy : RetryPolicy} {fn : Nat → State → Bool × State}
  {other : Nat → Other → Bool × Other} {project : State → Other}

/-- Extra state that `fn` only carries along does not change what the loop returns. -/
theorem retryLoop_project
    (commutes : ∀ attempt state, Prod.map id project (fn attempt state) = other attempt (project state))
    (left attempt : Nat) (last : Bool × State) :
    Prod.map id project (retryLoop fn left attempt last) =
      retryLoop other left attempt (Prod.map id project last) := by
  induction left generalizing attempt last with
  | zero => rfl
  | succ left ih =>
      obtain ⟨result, state⟩ := last
      cases result with
      | true => rfl
      | false =>
          rw [retryLoop, ih, commutes]
          rfl

theorem retryIfRetryable_project (state : State)
    (commutes : ∀ attempt state,
      Prod.map id project (fn attempt state) = other attempt (project state)) :
    Prod.map id project (retryIfRetryable policy fn state) =
      retryIfRetryable policy other (project state) := by
  rw [retryIfRetryable, retryIfRetryable, retryLoop_project commutes, commutes]

variable {logging : Nat → State × List Entry → Bool × State × List Entry} {log : Nat → Entry → Prop}
  {good : Nat → Prop} {entry : Entry}

/-- When an attempt logs what only its number decides, the loop logs the attempts up to
the first good one. -/
theorem mem_retryLoop_log
    (decides : ∀ attempt state, (logging attempt state).1 = true ↔ good attempt)
    (logs : ∀ attempt state, entry ∈ (logging attempt state).2.2 ↔ entry ∈ state.2 ∨ log attempt entry)
    (left attempt : Nat) (last : Bool × State × List Entry) :
    entry ∈ (retryLoop logging left attempt last).2.2 ↔
      entry ∈ last.2.2 ∨ last.1 = false ∧ ∃ i, attempt ≤ i ∧ i < attempt + left ∧
        (∀ j, attempt ≤ j → j < i → ¬ good j) ∧ log i entry := by
  induction left generalizing attempt last with
  | zero =>
      constructor
      · exact .inl
      · rintro (earlier | ⟨_, i, lower, upper, _⟩)
        · exact earlier
        · omega
  | succ left ih =>
      obtain ⟨result, state⟩ := last
      cases result with
      | true => simp [retryLoop]
      | false =>
          rw [retryLoop, ih, logs, or_assoc]
          apply or_congr_right
          have bad : (logging attempt state).1 = false ↔ ¬ good attempt := by
            rw [← decides attempt state, Bool.not_eq_true]
          rw [bad]
          constructor
          · rintro (here | ⟨failed, i, lower, upper, none, member⟩)
            · exact ⟨rfl, attempt, le_refl _, by omega, fun j from_ before => by omega, here⟩
            · refine ⟨rfl, i, by omega, by omega, ?_, member⟩
              intro j from_ before
              by_cases first : j = attempt
              · rwa [first]
              · exact none j (by omega) before
          · rintro ⟨_, i, lower, upper, none, member⟩
            by_cases first : i = attempt
            · exact .inl (first ▸ member)
            · exact .inr ⟨none attempt (le_refl _) (by omega), i, by omega, by omega,
                fun j from_ before => none j (by omega) before, member⟩

theorem mem_retryIfRetryable_log {state : State}
    (decides : ∀ attempt state, (logging attempt state).1 = true ↔ good attempt)
    (logs : ∀ attempt state, entry ∈ (logging attempt state).2.2 ↔ entry ∈ state.2 ∨ log attempt entry)
    (some : 0 < policy.maxAttempts) :
    entry ∈ (retryIfRetryable policy logging (state, [])).2.2 ↔
      ∃ i < policy.maxAttempts, (∀ j < i, ¬ good j) ∧ log i entry := by
  rw [retryIfRetryable, mem_retryLoop_log decides logs, logs]
  simp only [List.not_mem_nil, false_or]
  have bad : (logging 0 (state, [])).1 = false ↔ ¬ good 0 := by
    rw [← decides 0 (state, []), Bool.not_eq_true]
  rw [bad]
  constructor
  · rintro (first | ⟨failed, i, lower, upper, none, member⟩)
    · exact ⟨0, some, fun j before => by omega, first⟩
    · refine ⟨i, by omega, ?_, member⟩
      intro j before
      by_cases start : j = 0
      · rwa [start]
      · exact none j (by omega) before
  · rintro ⟨i, upper, none, member⟩
    by_cases start : i = 0
    · exact .inl (start ▸ member)
    · exact .inr ⟨none 0 (by omega), i, by omega, by omega, fun j _ before => none j before, member⟩

end Retry

/-! ## The RPCs of `PutObject` -/

namespace ClientState

/-- `tryOnce` beside a log of the RPCs it makes. -/
def tryLogged (client : ClientState) (start : Int) (request : PutObjectRequest)
    (buffer : ConstBufferView) (surroundings : Surroundings) (clock : Nat → Int)
    (state : Progress × List Rpc) : Bool × Progress × List Rpc :=
  let outcome := client.tryOnce start request buffer surroundings state.1
  let put := PutOnce.start client.options request buffer state.1.out surroundings.requestValue
    surroundings.sessionValue
  (outcome.1, outcome.2, state.2 ++
    if surroundings.now ≥ client.deadline start then [] else put.rpcs surroundings clock)

end ClientState

/-- A call of `PutObject`; `clock i k` is the reading when the `i`th attempt makes its `k`th call. -/
structure TimedPut where
  client : ClientState
  start : Int
  request : PutObjectRequest
  buffer : ConstBufferView
  out : TransferOutcome
  surroundings : Nat → Surroundings
  clock : Nat → Nat → Int

namespace TimedPut

variable {call : TimedPut} {rpc : Rpc} {i : Nat}

def logged (call : TimedPut) : Bool × Progress × List Rpc :=
  if !call.client.initialized then (false, { out := call.out }, [])
  else if call.client.options.putSingleMaxBytes ≠ 0 ∧
      call.buffer.size > call.client.options.putSingleMaxBytes then
    (false, { out := call.out }, [])
  else
    retryIfRetryable {} (fun attempt => call.client.tryLogged call.start call.request call.buffer
      (call.surroundings attempt) (call.clock attempt)) ({ out := call.out }, [])

/-- The log changes nothing about the call. -/
theorem logged_putObject (call : TimedPut) : Prod.map id Prod.fst call.logged =
    call.client.putObject call.start call.surroundings call.request call.buffer call.out := by
  rw [logged, ClientState.putObject]
  split
  · rfl
  · split
    · rfl
    · rw [retryIfRetryable_project]
      intro attempt state
      rfl

def rpcs (call : TimedPut) : List Rpc := call.logged.2.2

def deadline (call : TimedPut) : Int := call.client.deadline call.start

def timeoutMs (call : TimedPut) : Int32 :=
  applyTimeout (makeContext call.client.options call.request.timeout)

def NonDecreasing (call : TimedPut) : Prop :=
  call.start ≤ (call.surroundings 0).now ∧ ∀ i, (call.surroundings i).now ≤ call.clock i 0 ∧
    ∀ k, call.clock i k ≤ call.clock i (k + 1) ∧ call.clock i k ≤ (call.surroundings (i + 1)).now

/-- `request_timeout` after the start, on a clock without an end. -/
def limit (call : TimedPut) : Int :=
  call.start + call.client.options.requestTimeout.toInt * 1000000

/-- Issued before the limit, with a positive timeout that ends by the limit. -/
def Bound (call : TimedPut) (rpc : Rpc) : Prop :=
  rpc.issuedAt < call.limit ∧ 0 < rpc.timeoutMs.toInt ∧
    rpc.issuedAt + rpc.timeoutMs.toInt * 1000000 ≤ call.limit

def attempt (call : TimedPut) (i : Nat) : PutOnce :=
  .start call.client.options call.request call.buffer call.out (call.surroundings i).requestValue
    (call.surroundings i).sessionValue

def Passes (call : TimedPut) (i : Nat) : Prop :=
  (call.surroundings i).now < call.deadline ∧
    ∃ response, (call.attempt i).Succeeds (call.surroundings i) response

def Admitted (call : TimedPut) : Prop :=
  call.client.initialized = true ∧ ¬ (call.client.options.putSingleMaxBytes ≠ 0 ∧
    call.buffer.size > call.client.options.putSingleMaxBytes)

/-- The `i`th attempt is made: it comes before the deadline and after attempts that do not pass. -/
def Made (call : TimedPut) (i : Nat) : Prop :=
  call.Admitted ∧ i < 3 ∧ (∀ j < i, ¬ call.Passes j) ∧ (call.surroundings i).now < call.deadline

/-- The `i`th attempt is the last one that is made. -/
def Last (call : TimedPut) (i : Nat) : Prop := call.Made i ∧ ¬ call.Made (i + 1)

/-- The last RPC of the last attempt leaves room for the whole timeout. -/
def Punctual (call : TimedPut) : Prop :=
  ∀ i, call.Last i → 0 < call.timeoutMs.toInt ∧
    (¬ (call.attempt i).Transfers (call.surroundings i) →
      call.clock i 0 + call.timeoutMs.toInt * 1000000 ≤ call.limit) ∧
    ((call.attempt i).Transfers (call.surroundings i) →
      call.clock i 2 + call.timeoutMs.toInt * 1000000 ≤ call.limit)

theorem tryLogged_true_iff (attempt : Nat) (state : Progress × List Rpc) :
    (call.client.tryLogged call.start call.request call.buffer (call.surroundings attempt)
      (call.clock attempt) state).1 = true ↔ call.Passes attempt := by
  simp only [ClientState.tryLogged, ClientState.tryOnce]
  by_cases late : (call.surroundings attempt).now ≥ call.client.deadline call.start
  · simp only [if_pos late, Bool.false_eq_true, false_iff]
    exact fun passes => absurd passes.1 (not_lt.mpr late)
  · simp only [if_neg late, decide_eq_true_eq]
    let put := PutOnce.start call.client.options call.request call.buffer state.1.out
      (call.surroundings attempt).requestValue (call.surroundings attempt).sessionValue
    have ends : put.Ends (put.Succeeds (call.surroundings attempt))
      (put.finish (call.surroundings attempt)) := PutOnce.finish_ends rfl
    cases ends with
    | failed stage none =>
        rw [stage]
        constructor
        · intro success
          cases success
        · rintro ⟨_, response, succeeds⟩
          exact absurd succeeds (none response)
    | succeeded response stage _ _ holds =>
        exact ⟨fun _ => ⟨not_le.mp late, response, holds⟩, fun _ => stage⟩

/-- The RPCs of the `i`th attempt, were it made. -/
def Issues (call : TimedPut) (i : Nat) (rpc : Rpc) : Prop :=
  rpc = ⟨call.clock i 0, call.timeoutMs⟩ ∨
    (call.attempt i).Transfers (call.surroundings i) ∧ rpc = ⟨call.clock i 2, call.timeoutMs⟩

theorem mem_tryLogged (attempt : Nat) (state : Progress × List Rpc) :
    rpc ∈ (call.client.tryLogged call.start call.request call.buffer (call.surroundings attempt)
        (call.clock attempt) state).2.2 ↔
      rpc ∈ state.2 ∨ (call.surroundings attempt).now < call.deadline ∧ call.Issues attempt rpc := by
  simp only [ClientState.tryLogged, List.mem_append]
  apply or_congr_right
  by_cases late : (call.surroundings attempt).now ≥ call.client.deadline call.start
  · have missed : ¬ (call.surroundings attempt).now < call.deadline := not_lt.mpr late
    simp only [if_pos late, List.not_mem_nil, missed, false_and]
  · have inTime : (call.surroundings attempt).now < call.deadline := not_le.mp late
    simp only [if_neg late, inTime, true_and]
    exact PutOnce.mem_rpcs rfl

theorem mem_rpcs : rpc ∈ call.rpcs ↔ ∃ i, call.Made i ∧ call.Issues i rpc := by
  by_cases admitted : call.Admitted
  · obtain ⟨initialized, fits⟩ := admitted
    simp only [rpcs, logged, initialized, Bool.not_true, Bool.false_eq_true, if_false, if_neg fits]
    let log : Nat → Rpc → Prop := fun i rpc =>
      (call.surroundings i).now < call.deadline ∧ call.Issues i rpc
    have logs : ∀ attempt state, rpc ∈ (call.client.tryLogged call.start call.request call.buffer
        (call.surroundings attempt) (call.clock attempt) state).2.2 ↔
        rpc ∈ state.2 ∨ log attempt rpc := mem_tryLogged
    rw [mem_retryIfRetryable_log tryLogged_true_iff logs (by decide)]
    constructor
    · rintro ⟨i, within, none, inTime, issued⟩
      exact ⟨i, ⟨⟨initialized, fits⟩, within, none, inTime⟩, issued⟩
    · rintro ⟨i, ⟨_, within, none, inTime⟩, issued⟩
      exact ⟨i, within, none, inTime, issued⟩
  · have empty : call.rpcs = [] := by
      rw [rpcs, logged]
      split
      · rfl
      · rename_i initialized
        split
        · rfl
        · rename_i fits
          exact absurd ⟨by simpa using initialized, fits⟩ admitted
    rw [empty]
    constructor
    · intro member
      cases member
    · rintro ⟨i, made, _⟩
      exact absurd made.1 admitted

/-- Behind every attempt that is made there is a last one. -/
theorem Made.last (made : call.Made i) : ∃ last, i ≤ last ∧ call.Last last := by
  induction left : 3 - i generalizing i with
  | zero =>
      have bound : i < 3 := made.2.1
      omega
  | succ left ih =>
      by_cases more : call.Made (i + 1)
      · obtain ⟨last, later, ends⟩ := ih more (by omega)
        exact ⟨last, by omega, ends⟩
      · exact ⟨i, le_refl i, made, more⟩

theorem NonDecreasing.calls (ordered : call.NonDecreasing) {j k : Nat} (before : j ≤ k) :
    call.clock i j ≤ call.clock i k := by
  induction k, before using Nat.le_induction with
  | base => exact le_refl _
  | succ k _ ih => exact le_trans ih ((ordered.2 i).2 k).1

theorem NonDecreasing.attempts (ordered : call.NonDecreasing) {k later : Nat} (before : i < later) :
    call.clock i k ≤ call.clock later 0 := by
  induction later, Nat.succ_le_of_lt before using Nat.le_induction with
  | base => exact le_trans ((ordered.2 i).2 k).2 (ordered.2 (i + 1)).1
  | succ later _ ih =>
      exact le_trans (ih (by omega))
        (le_trans ((ordered.2 later).2 0).2 (ordered.2 (later + 1)).1)

/-- No RPC goes out after the last one of the last attempt. -/
theorem Punctual.issued (punctual : call.Punctual) (ordered : call.NonDecreasing)
    (made : call.Made i) (issues : call.Issues i rpc) :
    0 < call.timeoutMs.toInt ∧ rpc.issuedAt + call.timeoutMs.toInt * 1000000 ≤ call.limit := by
  obtain ⟨last, later, ends⟩ := made.last
  obtain ⟨positive, opening, putting⟩ := punctual last ends
  refine ⟨positive, ?_⟩
  have opened : call.clock last 0 + call.timeoutMs.toInt * 1000000 ≤ call.limit := by
    by_cases transfers : (call.attempt last).Transfers (call.surroundings last)
    · have ordered := ordered.calls (i := last) (Nat.zero_le 2)
      have fits := putting transfers
      omega
    · exact opening transfers
  rcases Nat.lt_or_eq_of_le later with earlier | rfl
  · have ordered (k : Nat) := ordered.attempts (k := k) earlier
    obtain rfl | ⟨_, rfl⟩ := issues
    · exact le_trans (Int.add_le_add_right (ordered 0) _) opened
    · exact le_trans (Int.add_le_add_right (ordered 2) _) opened
  · obtain rfl | ⟨transfers, rfl⟩ := issues
    · exact opened
    · exact putting transfers

/-- The deadline binds every RPC of a `PutObject` exactly when its timeout is positive as an
`int` and the last RPC that it makes goes out early enough for the whole of it. -/
theorem deadline_binds_iff (ordered : call.NonDecreasing) :
    (∀ rpc ∈ call.rpcs, call.Bound rpc) ↔ call.Punctual := by
  constructor
  · rintro bound i ⟨made, _⟩
    have opening := bound _ (mem_rpcs.mpr ⟨i, made, .inl rfl⟩)
    refine ⟨opening.2.1, fun _ => opening.2.2, ?_⟩
    intro transfers
    exact (bound _ (mem_rpcs.mpr ⟨i, made, .inr ⟨transfers, rfl⟩⟩)).2.2
  · intro punctual rpc member
    obtain ⟨i, made, issues⟩ := mem_rpcs.mp member
    obtain ⟨positive, fits⟩ := punctual.issued ordered made issues
    have timeout : rpc.timeoutMs = call.timeoutMs := by
      obtain rfl | ⟨_, rfl⟩ := issues
      · rfl
      · rfl
    rw [← timeout] at positive fits
    have early : rpc.issuedAt < call.limit := by omega
    exact ⟨early, positive, fits⟩

/-! ## Two timeouts -/

/-- A PUT with the default options, against a proxy that is down. -/
def downPut (timeout : Milliseconds) : TimedPut where
  client := { initialized := true }
  start := 0
  request := { bucket := "bucket", key := "object", timeout, expectedSize := some 4 }
  buffer := { data := 4096, size := 4 }
  out := {}
  surroundings _ := {
    now := 0
    requestValue := 1
    sessionValue := 2
    proxy := fun _ => .error ⟨112, "host down"⟩
    manager := {}
    library := ⟨true, true, some "1000:42"⟩
    backend := fun _ => .error ⟨112, "host down"⟩
    memory := none
    abort := .error ⟨112, "host down"⟩ }
  clock _ _ := 0

theorem downPut_ordered (timeout : Milliseconds) : (downPut timeout).NonDecreasing :=
  ⟨le_refl _, fun _ => ⟨le_refl _, fun _ => ⟨le_refl _, le_refl _⟩⟩⟩

theorem half_minute_binds : (downPut 30000).rpcs.length = 3 ∧
    ∀ rpc ∈ (downPut 30000).rpcs, (downPut 30000).Bound rpc := by
  refine ⟨by decide, ?_⟩
  apply (deadline_binds_iff (downPut_ordered 30000)).mpr
  intro i last
  have room : (30000 : Int) * 1000000 ≤ (downPut 30000).limit := by decide
  refine ⟨by decide, fun _ => ?_, fun _ => ?_⟩
  · exact room
  · exact room

theorem patient_put_overruns :
    ¬ ∀ call : TimedPut, 0 < call.client.options.requestTimeout.toInt → call.NonDecreasing →
      ∀ rpc ∈ call.rpcs, call.Bound rpc := by
  intro always
  have opening : (⟨0, 600000⟩ : Rpc) ∈ (downPut 600000).rpcs := by decide
  have bound := always (downPut 600000) (by decide) (downPut_ordered 600000) _ opening
  exact absurd bound.2.2 (by decide)

end TimedPut

end Us3Turbo.Client
