import Us3Turbo.Client.Deadline

/-! # The attempt-and-cleanup protocol of `PutObject`

What an attempt does is logged beside it: each call with what the code makes of the
answer, and the token given back where `PutOnce` returns.
-/

namespace Us3Turbo.Client

open Us3Turbo.Proto

inductive Action where
  | openSession (sessionId : String) (success : Bool)
  | acquireToken (token : Option String)
  | gdsPut (success : Bool)
  | copyToHost (success : Bool)
  | abortSession (sessionId : String)
  /-- `cuMemObjPutRDMAToken`, from the destructor of `token`. -/
  | releaseToken (token : String)
deriving DecidableEq

namespace Action

def aborted : Action → Option String
  | .abortSession sessionId => some sessionId
  | _ => none

def acquired : Action → Option String
  | .acquireToken token => token
  | _ => none

def released : Action → Option String
  | .releaseToken token => some token
  | _ => none

end Action

/-! ## The actions of one attempt -/

namespace PutOnce

variable {surroundings : Surroundings} {put : PutOnce} {fuel : Nat} {result : Bool}
  {action : Action} {rest : List Action}

/-- What `MetaRpc::OpenSession` returns. -/
def opens (surroundings : Surroundings) (put : PutOnce) (request : OpenSessionRequest) : Bool :=
  match surroundings.proxy request with
  | .ok response => echoes put.attempt response
  | .error _ => false

def performed (surroundings : Surroundings) (put : PutOnce) : Option Action :=
  put.issued.map fun
    | .openSession request _ =>
        .openSession request.sessionId (put.opens surroundings request)
    | .acquireToken ptr size offset =>
        .acquireToken (surroundings.manager.acquireToken surroundings.library ptr size offset).token
    | .gdsPut request _ => .gdsPut (surroundings.backend request).isOk
    | .copyToHost _ _ => .copyToHost surroundings.memory.isSome
    | .abortSession request _ => .abortSession request.sessionId

/-- The locals are destroyed where the call returns. -/
def destroyed (put : PutOnce) : List Action :=
  match put.stage with
  | .returned _ => put.token.toList.map .releaseToken
  | _ => []

def actionsFrom (surroundings : Surroundings) : Nat → PutOnce → List Action
  | 0, _ => []
  | fuel + 1, put =>
      match put.performed surroundings with
      | none => []
      | some action =>
          let next := put.advance surroundings
          action :: (next.destroyed ++ actionsFrom surroundings fuel next)

def actions (surroundings : Surroundings) (put : PutOnce) : List Action :=
  actionsFrom surroundings 5 put

theorem advance_attempt : (put.advance surroundings).attempt = put.attempt := by
  rw [advance]
  split
  · rfl
  · exact (resume_resumed put _).attempt

theorem finish_attempt : (put.finish surroundings).attempt = put.attempt := by
  simp only [finish, Function.iterate_succ_apply', Function.iterate_zero, id_eq, advance_attempt]

/-! ### What an attempt is answered -/

def Grants (surroundings : Surroundings) (attempt : PutAttempt) (opened : OpenSessionResponse) : Prop :=
  surroundings.proxy (openSessionRequest attempt) = .ok opened ∧ echoes attempt opened

def tokenFor (surroundings : Surroundings) (buffer : ConstBufferView) : Option String :=
  (surroundings.manager.acquireToken surroundings.library buffer.data buffer.size 0).token

def answerTo (surroundings : Surroundings) (attempt : PutAttempt) (buffer : ConstBufferView)
    (opened : OpenSessionResponse) (token : String) : RpcResult GdsChunkResponse :=
  surroundings.backend (gdsChunkRequest attempt ⟨opened.ticket⟩ token buffer.size)

def Matches (surroundings : Surroundings) (response : GdsChunkResponse) : Prop :=
  ∃ host, surroundings.memory = some host ∧ crc32c host = response.crc32c

/-- Every course an attempt can take: what it is answered decides which, and with it what the
attempt does and returns. -/
inductive Course (surroundings : Surroundings) (options : ClientOptions) (attempt : PutAttempt)
    (buffer : ConstBufferView) : Bool → List Action → Prop where
  | refused (none : ∀ opened, ¬ Grants surroundings attempt opened) :
      Course surroundings options attempt buffer false [.openSession attempt.sessionId false]
  | tokenless (opened : OpenSessionResponse) (grants : Grants surroundings attempt opened)
      (refused : tokenFor surroundings buffer = none) :
      Course surroundings options attempt buffer false
        [.openSession attempt.sessionId true, .acquireToken none, .abortSession attempt.sessionId]
  | unanswered (opened : OpenSessionResponse) (token : String) (error : RpcError)
      (grants : Grants surroundings attempt opened)
      (acquired : tokenFor surroundings buffer = some token)
      (answer : answerTo surroundings attempt buffer opened token = .error error) :
      Course surroundings options attempt buffer false
        [.openSession attempt.sessionId true, .acquireToken (some token), .gdsPut false,
          .abortSession attempt.sessionId, .releaseToken token]
  | unverified (opened : OpenSessionResponse) (token : String) (response : GdsChunkResponse)
      (grants : Grants surroundings attempt opened)
      (acquired : tokenFor surroundings buffer = some token)
      (answer : answerTo surroundings attempt buffer opened token = .ok response)
      (verifies : options.verifyCrc32c = true) (differs : ¬ Matches surroundings response) :
      Course surroundings options attempt buffer false
        [.openSession attempt.sessionId true, .acquireToken (some token), .gdsPut true,
          .copyToHost surroundings.memory.isSome, .abortSession attempt.sessionId,
          .releaseToken token]
  | unchecked (opened : OpenSessionResponse) (token : String) (response : GdsChunkResponse)
      (grants : Grants surroundings attempt opened)
      (acquired : tokenFor surroundings buffer = some token)
      (answer : answerTo surroundings attempt buffer opened token = .ok response)
      (plain : options.verifyCrc32c = false) :
      Course surroundings options attempt buffer true
        [.openSession attempt.sessionId true, .acquireToken (some token), .gdsPut true,
          .releaseToken token]
  | verified (opened : OpenSessionResponse) (token : String) (response : GdsChunkResponse)
      (grants : Grants surroundings attempt opened)
      (acquired : tokenFor surroundings buffer = some token)
      (answer : answerTo surroundings attempt buffer opened token = .ok response)
      (verifies : options.verifyCrc32c = true) (same : Matches surroundings response) :
      Course surroundings options attempt buffer true
        [.openSession attempt.sessionId true, .acquireToken (some token), .gdsPut true,
          .copyToHost true, .releaseToken token]

/-! ### The turns of an attempt -/

/-- `fuel` turns take the attempt to its end, and these are its actions on the way. -/
structure Walks (surroundings : Surroundings) (fuel : Nat) (put : PutOnce) (result : Bool)
    (actions : List Action) : Prop where
  ends : ((advance surroundings)^[fuel] put).stage = .returned result
  logs : actionsFrom surroundings fuel put = actions

theorem Walks.returned (returned : put.stage = .returned result) :
    Walks surroundings fuel put result [] where
  ends := by rw [iterate_returned returned, returned]
  logs := by
    cases fuel with
    | zero => rfl
    | succ fuel => simp only [actionsFrom, performed, issued, returned, Option.map_none]

theorem Walks.step (performs : put.performed surroundings = some action)
    (walks : Walks surroundings fuel (put.advance surroundings) result rest) :
    Walks surroundings (fuel + 1) put result
      (action :: ((put.advance surroundings).destroyed ++ rest)) where
  ends := by rw [Function.iterate_succ_apply, walks.ends]
  logs := by simp only [actionsFrom, performs, walks.logs]

theorem walks_aborting (aborting : put.stage = .aborting) :
    Walks surroundings (fuel + 1) put false
      (.abortSession put.attempt.sessionId :: put.token.toList.map .releaseToken) := by
  have performs : put.performed surroundings = some (.abortSession put.attempt.sessionId) := by
    simp only [performed, issued, aborting, Option.map_some, abortSessionRequest]
  have next : put.advance surroundings = { put with stage := .returned false } :=
    advance_aborting aborting
  have walks : Walks surroundings fuel (put.advance surroundings) false [] :=
    .returned (by rw [next])
  have step := Walks.step performs walks
  rwa [next, destroyed, List.append_nil] at step

theorem walks_copying (surroundings : Surroundings) (fuel : Nat) (copying : put.stage = .copying) :
    (put.verified surroundings = false ∧ Walks surroundings (fuel + 2) put false
      (.copyToHost surroundings.memory.isSome :: .abortSession put.attempt.sessionId ::
        put.token.toList.map .releaseToken)) ∨
    (put.verified surroundings = true ∧ Walks surroundings (fuel + 2) put true
      (.copyToHost true :: put.token.toList.map .releaseToken)) := by
  have performs : put.performed surroundings = some (.copyToHost surroundings.memory.isSome) := by
    simp only [performed, issued, copying, Option.map_some]
  have next : put.advance surroundings = put.onCopied surroundings.memory := advance_copying copying
  have fails (aborts : put.advance surroundings = { put with stage := .aborting }) :
      Walks surroundings (fuel + 2) put false
        (.copyToHost surroundings.memory.isSome :: .abortSession put.attempt.sessionId ::
          put.token.toList.map .releaseToken) := by
    have walks : Walks surroundings (fuel + 1) (put.advance surroundings) false
        (.abortSession put.attempt.sessionId :: put.token.toList.map .releaseToken) := by
      rw [aborts]
      exact walks_aborting rfl
    have step := Walks.step performs walks
    rwa [aborts, destroyed, List.nil_append] at step
  cases memory : surroundings.memory with
  | none =>
      rw [memory] at fails next
      exact .inl ⟨by simp only [PutOnce.verified, memory], fails next⟩
  | some host =>
      rw [memory, onCopied] at next
      split at next
      · rename_i same
        right
        have walks : Walks surroundings (fuel + 1) (put.advance surroundings) true [] :=
          .returned (by rw [next])
        have step := Walks.step performs walks
        rw [next, destroyed, List.append_nil, memory, Option.isSome_some] at step
        exact ⟨by simp only [PutOnce.verified, memory, same, decide_true], step⟩
      · rename_i differs
        rw [memory] at fails
        exact .inl ⟨by simp only [PutOnce.verified, memory, differs, decide_false], fails next⟩

theorem walks_putting {opened : OpenSessionResponse} {token : String} (surroundings : Surroundings)
    (fuel : Nat) (putting : put.stage = .putting) (held : put.token = some token)
    (grant : put.grant = ⟨opened.ticket⟩) (grants : Grants surroundings put.attempt opened)
    (acquired : tokenFor surroundings put.buffer = some token) :
    ∃ result rest, Walks surroundings (fuel + 3) put result rest ∧
      Course surroundings put.options put.attempt put.buffer result
        (.openSession put.attempt.sessionId true :: .acquireToken (some token) :: rest) := by
  have next : put.advance surroundings = _ := advance_putting putting
  have performs : put.performed surroundings = some (.gdsPut (surroundings.backend
      (gdsChunkRequest put.attempt put.grant (put.token.getD "") put.buffer.size)).isOk) := by
    simp only [performed, issued, putting, Option.map_some]
  have releases : put.token.toList.map Action.releaseToken = [.releaseToken token] := by
    rw [held]
    rfl
  have asked : surroundings.backend (gdsChunkRequest put.attempt put.grant (put.token.getD "")
      put.buffer.size) = answerTo surroundings put.attempt put.buffer opened token := by
    rw [grant, held, Option.getD_some, answerTo]
  rw [asked] at next performs
  cases answer : answerTo surroundings put.attempt put.buffer opened token with
  | error error =>
      rw [answer] at next performs
      have walks : Walks surroundings (fuel + 2) (put.advance surroundings) false
          [.abortSession put.attempt.sessionId, .releaseToken token] := by
        rw [next, ← releases]
        exact walks_aborting rfl
      have step := Walks.step performs walks
      rw [next] at step
      exact ⟨_, _, step, .unanswered opened token error grants acquired answer⟩
  | ok response =>
      rw [answer] at next performs
      cases verify : put.options.verifyCrc32c with
      | false =>
          have done : (put.advance surroundings).stage = .returned true := by
            simp only [next, onGdsPut, verify, Bool.false_eq_true, if_false]
          have gives : (put.advance surroundings).destroyed = [.releaseToken token] := by
            simp only [destroyed, done]
            rw [next, ← releases]
            rfl
          have walks : Walks surroundings (fuel + 2) (put.advance surroundings) true [] := .returned done
          have step := Walks.step performs walks
          rw [gives] at step
          exact ⟨_, _, step, .unchecked opened token response grants acquired answer verify⟩
      | true =>
          have copying : (put.advance surroundings).stage = .copying := by
            simp only [next, onGdsPut, verify, if_true]
          have quiet : (put.advance surroundings).destroyed = [] := by
            simp only [destroyed, copying]
          have same : (put.advance surroundings).attempt = put.attempt ∧
              (put.advance surroundings).token = put.token := by
            rw [next]
            exact ⟨rfl, rfl⟩
          have checked : (put.advance surroundings).verified surroundings = true ↔
              Matches surroundings response := by
            rw [next]
            exact verified_iff
          rcases walks_copying surroundings fuel copying with ⟨differs, walks⟩ | ⟨matched, walks⟩
          · have step := Walks.step performs walks
            rw [quiet, same.1, same.2, releases] at step
            rw [← Bool.not_eq_true, checked] at differs
            exact ⟨_, _, step, .unverified opened token response grants acquired answer verify differs⟩
          · have step := Walks.step performs walks
            rw [quiet, same.2, releases] at step
            exact ⟨_, _, step,
              .verified opened token response grants acquired answer verify (checked.mp matched)⟩

theorem walks_acquiring {opened : OpenSessionResponse} (surroundings : Surroundings) (fuel : Nat)
    (acquiring : put.stage = .acquiring) (tokenless : put.token = none)
    (grant : put.grant = ⟨opened.ticket⟩) (grants : Grants surroundings put.attempt opened) :
    ∃ result rest, Walks surroundings (fuel + 4) put result rest ∧
      Course surroundings put.options put.attempt put.buffer result
        (.openSession put.attempt.sessionId true :: rest) := by
  have next : put.advance surroundings = put.onToken (tokenFor surroundings put.buffer) :=
    advance_acquiring acquiring
  have performs : put.performed surroundings =
      some (.acquireToken (tokenFor surroundings put.buffer)) := by
    simp only [performed, issued, acquiring, Option.map_some, tokenFor]
  cases acquired : tokenFor surroundings put.buffer with
  | none =>
      rw [acquired] at next performs
      have walks : Walks surroundings (fuel + 3) (put.advance surroundings) false
          [.abortSession put.attempt.sessionId] := by
        have nothing : put.token.toList.map Action.releaseToken = [] := by
          rw [tokenless]
          rfl
        rw [next, ← nothing]
        exact walks_aborting rfl
      have step := Walks.step performs walks
      rw [next] at step
      exact ⟨_, _, step, .tokenless opened grants acquired⟩
  | some token =>
      rw [acquired] at next performs
      have putting : (put.advance surroundings).stage = .putting := by rw [next]; rfl
      have held : (put.advance surroundings).token = some token := by rw [next]; rfl
      have quiet : (put.advance surroundings).destroyed = [] := by simp only [destroyed, putting]
      have same : (put.advance surroundings).grant = put.grant ∧
          (put.advance surroundings).attempt = put.attempt ∧
          (put.advance surroundings).buffer = put.buffer ∧
          (put.advance surroundings).options = put.options := by
        rw [next]
        exact ⟨rfl, rfl, rfl, rfl⟩
      obtain ⟨granted, attempt, buffer, options⟩ := same
      rw [← attempt] at grants
      rw [← buffer] at acquired
      obtain ⟨result, rest, walks, course⟩ :=
        walks_putting surroundings fuel putting held (granted.trans grant) grants acquired
      have step := Walks.step performs walks
      rw [quiet] at step
      rw [attempt, buffer, options] at course
      exact ⟨_, _, step, course⟩

theorem course (surroundings : Surroundings) (opening : put.stage = .opening)
    (tokenless : put.token = none) : ∃ result, (put.finish surroundings).stage = .returned result ∧
      Course surroundings put.options put.attempt put.buffer result (put.actions surroundings) := by
  have next : put.advance surroundings = _ := advance_opening opening
  have performs : put.performed surroundings = some (.openSession put.attempt.sessionId
      (put.opens surroundings (openSessionRequest put.attempt))) := by
    simp only [performed, issued, opening, Option.map_some, openSessionRequest]
  have refused (closed : put.opens surroundings (openSessionRequest put.attempt) = false)
      (none : ∀ opened, ¬ Grants surroundings put.attempt opened)
      (fails : put.advance surroundings = { put with stage := .returned false }) :
      ∃ result, (put.finish surroundings).stage = .returned result ∧
        Course surroundings put.options put.attempt put.buffer result (put.actions surroundings) := by
    have walks : Walks surroundings 4 (put.advance surroundings) false [] :=
      .returned (by rw [fails])
    have step := Walks.step performs walks
    have gives : (put.advance surroundings).destroyed = [] := by
      simp only [destroyed, fails, tokenless]
      rfl
    rw [gives, closed] at step
    refine ⟨false, step.ends, ?_⟩
    rw [actions, step.logs]
    exact .refused none
  cases answer : surroundings.proxy (openSessionRequest put.attempt) with
  | error error =>
      rw [answer, onOpenSession] at next
      refine refused (by rw [opens, answer]) ?_ next
      rintro opened ⟨granted, _⟩
      rw [answer] at granted
      cases granted
  | ok response =>
      rw [answer, onOpenSession] at next
      split at next
      · rename_i echoed
        have opened : put.opens surroundings (openSessionRequest put.attempt) = true := by
          rw [opens, answer]
          exact decide_eq_true echoed
        have acquiring : (put.advance surroundings).stage = .acquiring := by rw [next]
        have quiet : (put.advance surroundings).destroyed = [] := by
          simp only [destroyed, acquiring]
        have grant : (put.advance surroundings).grant = ⟨response.ticket⟩ := by rw [next]
        have grants : Grants surroundings (put.advance surroundings).attempt response := by
          rw [next]
          exact ⟨answer, echoed⟩
        obtain ⟨result, rest, walks, course⟩ := walks_acquiring surroundings 0 acquiring
          (by rw [next]; exact tokenless) grant grants
        have step := Walks.step performs walks
        rw [quiet, opened] at step
        rw [next] at course
        refine ⟨result, step.ends, ?_⟩
        rw [actions, step.logs]
        exact course
      · rename_i other
        refine refused ?_ ?_ next
        · rw [opens, answer]
          exact decide_eq_false other
        · rintro opened ⟨granted, echoed⟩
          rw [answer] at granted
          cases granted
          exact other echoed

/-- What every attempt keeps to, whatever it meets. -/
structure Protocol (sessionId : String) (result : Bool) (actions : List Action) : Prop where
  opens_first : ∃ success rest, actions = .openSession sessionId success :: rest ∧
    ∀ other success', .openSession other success' ∉ rest
  aborts : actions.filterMap Action.aborted =
    if .openSession sessionId true ∈ actions ∧ result = false then [sessionId] else []
  releases : actions.filterMap Action.released = actions.filterMap Action.acquired
  releases_last : ∀ token, .releaseToken token ∈ actions →
    actions.getLast? = some (.releaseToken token)

theorem Course.protocol {options : ClientOptions} {attempt : PutAttempt} {buffer : ConstBufferView}
    {actions : List Action} (course : Course surroundings options attempt buffer result actions) :
    Protocol attempt.sessionId result actions := by
  cases course with
  | refused => exact ⟨⟨_, _, rfl, by simp⟩, by rw [if_neg (by simp)]; rfl, rfl, by simp⟩
  | tokenless => exact ⟨⟨_, _, rfl, by simp⟩, by rw [if_pos (by simp)]; rfl, rfl, by simp⟩
  | unanswered => exact ⟨⟨_, _, rfl, by simp⟩, by rw [if_pos (by simp)]; rfl, rfl, by simp⟩
  | unverified => exact ⟨⟨_, _, rfl, by simp⟩, by rw [if_pos (by simp)]; rfl, rfl, by simp⟩
  | unchecked => exact ⟨⟨_, _, rfl, by simp⟩, by rw [if_neg (by simp)]; rfl, rfl, by simp⟩
  | verified => exact ⟨⟨_, _, rfl, by simp⟩, by rw [if_neg (by simp)]; rfl, rfl, by simp⟩

end PutOnce

/-! ## The attempts of a call -/

/-- An attempt that was made: its number, where it ended and what it did. -/
structure Attempted where
  index : Nat
  put : PutOnce
  actions : List Action

def Attempted.Succeeded (attempted : Attempted) : Prop := attempted.put.stage = .returned true

namespace ClientState

/-- `tryOnce` beside a log of the attempts. -/
def tryTraced (client : ClientState) (start : Int) (request : PutObjectRequest)
    (buffer : ConstBufferView) (surroundings : Surroundings) (index : Nat)
    (state : Progress × List Attempted) : Bool × Progress × List Attempted :=
  let outcome := client.tryOnce start request buffer surroundings state.1
  let put := PutOnce.start client.options request buffer state.1.out surroundings.requestValue
    surroundings.sessionValue
  (outcome.1, outcome.2, state.2 ++
    if surroundings.now ≥ client.deadline start then []
    else [⟨index, put.finish surroundings, put.actions surroundings⟩])

end ClientState

section Retry

variable {State : Type} {fn : Nat → State → Bool × State} {property : Nat → Bool × State → Prop}
  {attempt : Nat} {last : Bool × State}

/-- What every call of `fn` keeps, counting the calls, holds of what the loop returns. -/
theorem retryLoop_rule (left : Nat)
    (keeps : ∀ calls state, property calls (false, state) → property (calls + 1) (fn calls state))
    (holds : property attempt last) :
    ∃ calls ≤ attempt + left, property calls (retryLoop fn left attempt last) := by
  induction left generalizing attempt last with
  | zero => exact ⟨attempt, le_refl _, holds⟩
  | succ left ih =>
      obtain ⟨result, state⟩ := last
      cases result with
      | true => exact ⟨attempt, by omega, holds⟩
      | false =>
          obtain ⟨calls, bound, kept⟩ := ih (keeps attempt state holds)
          exact ⟨calls, by omega, kept⟩

theorem retryIfRetryable_rule {policy : RetryPolicy} {state : State}
    (some : 0 < policy.maxAttempts)
    (keeps : ∀ calls state, property calls (false, state) → property (calls + 1) (fn calls state))
    (holds : property 0 (false, state)) :
    ∃ calls ≤ policy.maxAttempts, property calls (retryIfRetryable policy fn state) := by
  obtain ⟨calls, bound, kept⟩ :=
    retryLoop_rule (policy.maxAttempts - 1) keeps (keeps 0 state holds)
  exact ⟨calls, by omega, kept⟩

end Retry

namespace TimedPut

variable {call : TimedPut}

def traced (call : TimedPut) : Bool × Progress × List Attempted :=
  if !call.client.initialized then (false, { out := call.out }, [])
  else if call.client.options.putSingleMaxBytes ≠ 0 ∧
      call.buffer.size > call.client.options.putSingleMaxBytes then
    (false, { out := call.out }, [])
  else
    retryIfRetryable {} (fun attempt => call.client.tryTraced call.start call.request call.buffer
      (call.surroundings attempt) attempt) ({ out := call.out }, [])

/-- The log changes nothing about the call. -/
theorem traced_putObject (call : TimedPut) : Prod.map id Prod.fst call.traced =
    call.client.putObject call.start call.surroundings call.request call.buffer call.out := by
  rw [traced, ClientState.putObject]
  split
  · rfl
  · split
    · rfl
    · rw [retryIfRetryable_project]
      intro attempt state
      rfl

/-- What the log looks like after `calls` calls of the retried function. -/
structure Follows (call : TimedPut) (calls : Nat) (outcome : Bool × Progress × List Attempted) :
    Prop where
  few : outcome.2.2.length ≤ calls
  below : ∀ attempted ∈ outcome.2.2, attempted.index < calls
  ordered : outcome.2.2.Pairwise fun earlier later => earlier.index < later.index
  in_time : ∀ attempted ∈ outcome.2.2, (call.surroundings attempted.index).now < call.deadline
  attempts : ∀ attempted ∈ outcome.2.2,
    attempted.put.attempt = (call.attempt attempted.index).attempt
  protocol : ∀ attempted ∈ outcome.2.2, ∃ result, attempted.put.stage = .returned result ∧
    PutOnce.Course (call.surroundings attempted.index) call.client.options attempted.put.attempt
      call.buffer result attempted.actions ∧
    PutOnce.Protocol attempted.put.attempt.sessionId result attempted.actions
  failed_before : ∀ attempted ∈ outcome.2.2.dropLast, ¬ attempted.Succeeded
  result : outcome.1 = true ↔ ∃ last, outcome.2.2.getLast? = some last ∧ last.Succeeded
  filled : outcome.1 = true → ∃ last response, outcome.2.2.getLast? = some last ∧
    (call.attempt last.index).Succeeds (call.surroundings last.index) response ∧
    outcome.2.1.out = {
      bytesTransferred := call.buffer.size
      requestId := last.put.attempt.requestId
      sessionId := last.put.attempt.sessionId
      etag := response.etag
      crc32c := response.crc32c }

theorem follows_nothing (call : TimedPut) (progress : Progress) :
    Follows call 0 (false, progress, []) := by
  constructor <;> simp

/-- As long as the loop goes on, no attempt has succeeded. -/
theorem Follows.none_succeeded {calls : Nat} {state : Progress × List Attempted}
    (follows : Follows call calls (false, state)) : ∀ attempted ∈ state.2, ¬ attempted.Succeeded := by
  have last_failed : ¬ ∃ last, state.2.getLast? = some last ∧ last.Succeeded := by
    rw [← follows.result]
    simp
  intro attempted member succeeded
  rcases List.eq_nil_or_concat' state.2 with empty | ⟨front, last, split⟩
  · rw [empty] at member
    cases member
  · have before := follows.failed_before
    simp only [split, List.dropLast_concat] at before
    rw [split, List.mem_append, List.mem_singleton] at member
    rcases member with earlier | rfl
    · exact before attempted earlier succeeded
    · exact last_failed ⟨attempted, by rw [split, List.getLast?_concat], succeeded⟩

theorem Follows.attempt {calls : Nat} {state : Progress × List Attempted}
    (follows : Follows call calls (false, state)) :
    Follows call (calls + 1) (call.client.tryTraced call.start call.request call.buffer
      (call.surroundings calls) calls state) := by
  have few := follows.few
  by_cases late : (call.surroundings calls).now ≥ call.client.deadline call.start
  · simp only [ClientState.tryTraced, ClientState.tryOnce, if_pos late, List.append_nil]
    exact { follows with
      few := Nat.le_succ_of_le few
      below := fun attempted member => Nat.lt_succ_of_lt (follows.below attempted member) }
  · simp only [ClientState.tryTraced, ClientState.tryOnce, if_neg late]
    let put := PutOnce.start call.client.options call.request call.buffer state.1.out
      (call.surroundings calls).requestValue (call.surroundings calls).sessionValue
    have none_succeeded := follows.none_succeeded
    have opening : put.stage = .opening := rfl
    have attempt : (put.finish (call.surroundings calls)).attempt = (call.attempt calls).attempt :=
      PutOnce.finish_attempt
    obtain ⟨result, ended, course⟩ := PutOnce.course (call.surroundings calls) opening rfl
    constructor
    · simpa using few
    · intro attempted member
      rcases List.mem_append.mp member with earlier | new
      · exact Nat.lt_succ_of_lt (follows.below attempted earlier)
      · rw [List.mem_singleton.mp new]
        exact Nat.lt_succ_self calls
    · refine List.pairwise_append.mpr ⟨follows.ordered, List.pairwise_singleton _ _, ?_⟩
      intro earlier member later new
      rw [List.mem_singleton.mp new]
      exact follows.below earlier member
    · intro attempted member
      rcases List.mem_append.mp member with earlier | new
      · exact follows.in_time attempted earlier
      · rw [List.mem_singleton.mp new]
        exact not_le.mp late
    · intro attempted member
      rcases List.mem_append.mp member with earlier | new
      · exact follows.attempts attempted earlier
      · rw [List.mem_singleton.mp new]
        exact attempt
    · intro attempted member
      rcases List.mem_append.mp member with earlier | new
      · exact follows.protocol attempted earlier
      · rw [List.mem_singleton.mp new]
        refine ⟨result, ended, ?_⟩
        rw [attempt]
        exact ⟨course, course.protocol⟩
    · simpa using none_succeeded
    · simp [Attempted.Succeeded]
    · intro success
      have ends : put.Ends (put.Succeeds (call.surroundings calls))
        (put.finish (call.surroundings calls)) := PutOnce.finish_ends rfl
      cases ends with
      | failed stage none =>
          have succeeded := of_decide_eq_true success
          rw [stage] at succeeded
          cases succeeded
      | succeeded response stage answered out holds =>
          refine ⟨_, response, List.getLast?_concat, holds, ?_⟩
          rw [attempt]
          exact out

/-- `tryOnce` beside the numbers of the attempts. -/
def numbered (call : TimedPut) (index : Nat) (state : Progress × List Nat) :
    Bool × Progress × List Nat :=
  let outcome := call.client.tryOnce call.start call.request call.buffer (call.surroundings index)
    state.1
  (outcome.1, outcome.2, state.2 ++
    if (call.surroundings index).now ≥ call.client.deadline call.start then [] else [index])

theorem traced_numbered (admitted : call.Admitted) : Prod.map id
      (Prod.map id (List.map Attempted.index)) call.traced =
    retryIfRetryable {} call.numbered ({ out := call.out }, []) := by
  obtain ⟨initialized, fits⟩ := admitted
  simp only [traced, initialized, Bool.not_true, Bool.false_eq_true, if_false, if_neg fits]
  rw [retryIfRetryable_project]
  · rfl
  · intro index state
    simp only [ClientState.tryTraced, numbered, Prod.map_apply, id_eq, List.map_append]
    split
    · rfl
    · rfl

/-- The attempts that are made are those that come before the deadline and after no success. -/
theorem made_iff (call : TimedPut) (i : Nat) :
    (∃ attempted ∈ call.traced.2.2, attempted.index = i) ↔ call.Made i := by
  by_cases admitted : call.Admitted
  · have numbers : (∃ attempted ∈ call.traced.2.2, attempted.index = i) ↔
        i ∈ (retryIfRetryable {} call.numbered ({ out := call.out }, [])).2.2 := by
      rw [← traced_numbered admitted]
      exact List.mem_map.symm
    have decides (index : Nat) (state : Progress × List Nat) :
        (call.numbered index state).1 = true ↔ call.Passes index :=
      tryLogged_true_iff index (state.1, [])
    let log : Nat → Nat → Prop := fun index entry =>
      (call.surroundings index).now < call.deadline ∧ entry = index
    have logs (index : Nat) (state : Progress × List Nat) :
        i ∈ (call.numbered index state).2.2 ↔ i ∈ state.2 ∨ log index i := by
      simp only [numbered, List.mem_append, log]
      apply or_congr_right
      by_cases late : (call.surroundings index).now ≥ call.client.deadline call.start
      · have missed : ¬ (call.surroundings index).now < call.deadline := not_lt.mpr late
        simp only [if_pos late, List.not_mem_nil, missed, false_and]
      · have inTime : (call.surroundings index).now < call.deadline := not_le.mp late
        simp only [if_neg late, List.mem_singleton, inTime, true_and]
    rw [numbers, mem_retryIfRetryable_log decides logs (by decide)]
    constructor
    · rintro ⟨index, within, none, inTime, rfl⟩
      exact ⟨admitted, within, none, inTime⟩
    · rintro ⟨_, within, none, inTime⟩
      exact ⟨i, within, none, inTime, rfl⟩
  · have nothing : call.traced.2.2 = [] := by
      rw [traced]
      split
      · rfl
      · rename_i initialized
        split
        · rfl
        · rename_i fits
          exact absurd ⟨by simpa using initialized, fits⟩ admitted
    rw [nothing]
    constructor
    · rintro ⟨attempted, member, _⟩
      cases member
    · exact fun made => absurd made.1 admitted

/-- `PutObject` follows its protocol: at most three attempts, each that is due and none late or
after a success, what each does and returns decided by what it is answered, success and the
output from the last one, and each with its cleanup. -/
theorem put_follows_protocol (call : TimedPut) :
    Prod.map id Prod.fst call.traced =
      call.client.putObject call.start call.surroundings call.request call.buffer call.out ∧
    (∀ i, (∃ attempted ∈ call.traced.2.2, attempted.index = i) ↔ call.Made i) ∧
    Follows call 3 call.traced := by
  refine ⟨traced_putObject call, made_iff call, ?_⟩
  have relaxed {calls : Nat} {outcome : Bool × Progress × List Attempted} (bound : calls ≤ 3)
      (follows : Follows call calls outcome) : Follows call 3 outcome :=
    { follows with
      few := le_trans follows.few bound
      below := fun attempted member => lt_of_lt_of_le (follows.below attempted member) bound }
  rw [traced]
  split
  · exact relaxed (by decide) (follows_nothing call _)
  · split
    · exact relaxed (by decide) (follows_nothing call _)
    · have some : 0 < ({} : RetryPolicy).maxAttempts := by decide
      have keeps : ∀ calls state, Follows call calls (false, state) → Follows call (calls + 1)
          (call.client.tryTraced call.start call.request call.buffer (call.surroundings calls) calls
            state) := fun _ _ => Follows.attempt
      obtain ⟨calls, bound, follows⟩ :=
        retryIfRetryable_rule some keeps (follows_nothing call { out := call.out })
      exact relaxed bound follows

end TimedPut

end Us3Turbo.Client
