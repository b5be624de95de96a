import Us3Turbo.Client.Retrace
import Us3Turbo.Cluster.Integrity

/-! # `Client::PutObject` over the whole system

An attempt of `World` begins by itself.  Here the calls of `PutObject` begin the attempts, each
of them one after the other, side by side with all else that goes on.  What such a call returns
is what `putObject` returns in surroundings of its own.
-/

namespace Us3Turbo.Cluster

open Us3Turbo.Data Us3Turbo.Proto Us3Turbo.Transition
open Us3Turbo.Client (ClientOptions ClientState ConstBufferView GdsMemoryManager PutObjectRequest
  PutOnce Replies RetryPolicy Surroundings TransferOutcome Tried retryIfRetryable)
open Us3Turbo.Backend (BrpcServer PutAnswer Receive)

/-- `trying` is where `RetryIfRetryable` is about to call `fn`. -/
inductive CallStage where
  | trying
  | attempting (session : String)
  | returned (result : Bool)

/-- A call of `PutObject`, with its attempts that have ended. -/
structure PutCall where
  client : ClientState
  start : Int
  request : PutObjectRequest
  buffer : ConstBufferView
  given : TransferOutcome
  progress : Client.Progress
  tries : Nat := 0
  stage : CallStage := .trying

namespace PutCall

def enter (client : ClientState) (start : Int) (request : PutObjectRequest) (buffer : ConstBufferView)
    (out : TransferOutcome) : PutCall where
  client := client
  start := start
  request := request
  buffer := buffer
  given := out
  progress := { out }
  stage :=
    if !client.initialized then .returned false
    else if client.options.putSingleMaxBytes ≠ 0 ∧
        buffer.size > client.options.putSingleMaxBytes then .returned false
    else .trying

/-- The loop of `RetryIfRetryable`, once `fn` has returned. -/
def ended (call : PutCall) (result : Bool) (progress : Client.Progress) : PutCall :=
  { call with
    progress
    tries := call.tries + 1
    stage :=
      if result then .returned true
      else if call.tries + 1 < ({} : RetryPolicy).maxAttempts then .trying
      else .returned false }

/-- The attempt that is made with these random values. -/
def attempt (call : PutCall) (requestValue sessionValue : UInt64) : PutOnce :=
  .start call.client.options call.request call.buffer call.progress.out requestValue sessionValue

end PutCall

structure Application where
  deployment : Deployment
  calls : List PutCall := []

namespace Application

inductive Event where
  | putObject (client : ClientState) (start : Int) (request : PutObjectRequest)
      (buffer : ConstBufferView) (out : TransferOutcome)
  /-- `fn` reads the clock and begins an attempt, or gives up. -/
  | tries (index : Nat) (now : Int) (requestValue sessionValue : UInt64)
  /-- `PutOnce` has returned to `fn`. -/
  | ends (index : Nat)
  | system (event : Deployment.Event)

/-- Attempts begin by `tries` only. -/
def starts : Deployment.Event → Bool
  | .world (.start _ _ _ _ _ _) => true
  | _ => false

def setCall (application : Application) (index : Nat) (call : PutCall) : Application :=
  { application with calls := application.calls.set index call }

def tries (brpc : BrpcServer) (application : Application) (index : Nat) (now : Int) (requestValue sessionValue : UInt64)
    (call : PutCall) : Option Application :=
  match call.stage with
  | .trying =>
      if now ≥ call.client.deadline call.start then
        some (application.setCall index (call.ended false call.progress))
      else
        (application.deployment.advance brpc (.world (.start call.client.options call.request call.buffer
          call.progress.out requestValue sessionValue))).map fun deployment =>
            { application with deployment }.setCall index { call with
              stage := .attempting (call.attempt requestValue sessionValue).attempt.sessionId }
  | _ => none

def ends (application : Application) (index : Nat) (call : PutCall) : Option Application :=
  match call.stage with
  | .attempting session =>
      (application.deployment.world.attempts session).bind fun put =>
        match put.stage with
        | .returned result =>
            some (application.setCall index
              (call.ended result ⟨put.out, call.progress.attempts ++ [put]⟩))
        | _ => none
  | _ => none

def advance (brpc : BrpcServer) (application : Application) : Event → Option Application
  | .putObject client start request buffer out =>
      some { application with
        calls := application.calls ++ [PutCall.enter client start request buffer out] }
  | .tries index now requestValue sessionValue =>
      (application.calls[index]?).bind fun call =>
        application.tries brpc index now requestValue sessionValue call
  | .ends index => (application.calls[index]?).bind fun call => application.ends index call
  | .system event =>
      if starts event then none
      else (application.deployment.advance brpc event).map fun deployment =>
        { application with deployment }

def system (brpc : BrpcServer) : System Application Event :=
  .ofAdvance (fun application => (Deployment.system brpc).initial application.deployment ∧
    application.calls = []) (advance brpc)

end Application

/-! ## How an attempt goes on -/

variable {brpc : BrpcServer} {world after : World} {session key : String} {put next : PutOnce} {reply : Client.Reply}

/-- An attempt that is answered or left alone. -/
inductive Moved (put : PutOnce) : PutOnce → Prop where
  | same : Moved put put
  | answered (surroundings : Surroundings) (waiting : ∀ result, put.stage ≠ .returned result) :
      Moved put (put.advance surroundings)

/-- Every attempt goes on in `after`, and there are no others. -/
def Onward (world after : World) : Prop :=
  ∀ key, Option.Rel Moved (world.attempts key) (after.attempts key)

theorem onward_same (same : after.attempts = world.attempts) : Onward world after := by
  intro key
  rw [same]
  cases world.attempts key with
  | none => exact .none
  | some put => exact .some .same

theorem onward_resume (resumed : world.resume session reply = some after)
    (token : ∀ put answer, world.attempts session = some put → reply = .token answer →
      ∃ (manager : GdsMemoryManager) (library : Replies),
        (manager.acquireToken library put.buffer.data put.buffer.size 0).token = answer) :
    Onward world after := by
  obtain ⟨put, known, rfl⟩ := Option.map_eq_some_iff.mp resumed
  intro key
  simp only [World.send, setAttempt_attempts]
  by_cases own : key = session
  · subst own
    rw [if_pos rfl, known]
    rcases PutOnce.resume_advance put reply fun answer => token put answer known with
      same | ⟨waiting, surroundings, advances⟩
    · rw [same]
      exact .some .same
    · rw [advances]
      exact .some (.answered surroundings waiting)
  · rw [if_neg own]
    cases world.attempts key with
    | none => exact .none
    | some put => exact .some .same

theorem notified_attempts {id : Nat} (notified : world.notified id = some after) :
    after.attempts = world.attempts := by
  obtain ⟨execution, _, rfl⟩ := Option.map_eq_some_iff.mp notified
  split <;> rfl

theorem onward_advance {event : Cluster.Event} (begun : Application.starts (.world event) = false)
    (advanced : world.advance event = some after) : Onward world after := by
  cases event with
  | start => cases begun
  | acquired session manager library =>
      obtain ⟨put, known, resumed⟩ := Option.bind_eq_some_iff.mp advanced
      refine onward_resume resumed fun other answer found asked => ⟨manager, library, ?_⟩
      cases known.symm.trans found
      cases asked
      rfl
  | copied session host => exact onward_resume advanced (by simp)
  | timeout session error =>
      obtain ⟨put, known, rest⟩ := Option.bind_eq_some_iff.mp advanced
      obtain ⟨reply, failed, resumed⟩ := Option.bind_eq_some_iff.mp rest
      refine onward_resume resumed fun other answer found asked => ?_
      subst asked
      unfold World.failedCall at failed
      split at failed <;> cases failed
  | otherGdsPut request =>
      simp only [World.advance] at advanced
      split at advanced
      · cases advanced
        exact onward_same rfl
      · cases advanced
  | deliver index now slot =>
      obtain ⟨message, found, handled⟩ := Option.bind_eq_some_iff.mp advanced
      rcases handle_attempts handled with same | ⟨session, reply, resumed, tokenless⟩
      · exact onward_same same
      · have onward := onward_resume resumed fun put answer _ asked =>
          absurd asked (tokenless answer)
        exact onward
  | lose index =>
      simp only [World.advance] at advanced
      split at advanced
      · cases advanced
        exact onward_same rfl
      · cases advanced
  | duplicate index =>
      obtain ⟨message, _, rfl⟩ := Option.map_eq_some_iff.mp advanced
      exact onward_same rfl
  | receive id server => exact onward_same (receive_attempts advanced)
  | reportTimeout id => exact onward_same (notified_attempts advanced)

theorem replied_attempts (world : World) (id : Nat) (execution : Execution)
    (result : RpcResult Backend.Served) :
    (world.replied id execution result).attempts = world.attempts := by
  cases result with
  | error error => rfl
  | ok served =>
      rw [World.replied]
      split <;> rfl

theorem onward_step {before deployment : Deployment} {event : Deployment.Event}
    (begun : Application.starts event = false) (advanced : before.advance brpc event = some deployment) :
    Onward before.world deployment.world := by
  cases event with
  | world event =>
      simp only [Deployment.advance] at advanced
      split at advanced
      · obtain ⟨world, moved, rfl⟩ := Option.map_eq_some_iff.mp advanced
        exact onward_advance begun moved
      · cases advanced
  | accept index slot available =>
      obtain ⟨caller, request, _, _, _, accepted⟩ := Deployment.accepted advanced
      cases accepted <;> exact onward_same rfl
  | process event =>
      simp only [Deployment.advance] at advanced
      split at advanced
      · obtain ⟨process, _, rfl⟩ := Option.map_eq_some_iff.mp advanced
        exact onward_same rfl
      · cases advanced
  | returns id =>
      cases Deployment.returned advanced with
      | intro index call execution outcome => exact onward_same (replied_attempts _ _ _ _)

/-! ## What a call has done so far -/

namespace PutCall

variable {call : PutCall} {progress : Client.Progress} {result : Bool}

def Admitted (call : PutCall) : Prop :=
  call.client.initialized = true ∧ ¬ (call.client.options.putSingleMaxBytes ≠ 0 ∧
    call.buffer.size > call.client.options.putSingleMaxBytes)

/-- The lambda that the call retries. -/
def fn (call : PutCall) (surroundings : Nat → Surroundings) (attempt : Nat) :
    Client.Progress → Bool × Client.Progress :=
  call.client.tryOnce call.start call.request call.buffer (surroundings attempt)

structure Looping (call : PutCall) : Prop where
  admitted : call.Admitted
  few : call.tries < ({} : RetryPolicy).maxAttempts
  tried : ∃ surroundings, Tried (call.fn surroundings) { out := call.given } call.tries call.progress

/-- What the call did is what `putObject` does in some surroundings. -/
def Agrees (world : World) (call : PutCall) : Prop :=
  match call.stage with
  | .trying => call.Looping
  | .attempting session => call.Looping ∧ ∃ now requestValue sessionValue surroundings put,
      now < call.client.deadline call.start ∧ world.attempts session = some put ∧
      PutOnce.Retraced surroundings (call.attempt requestValue sessionValue) put
  | .returned result => ∃ surroundings,
      call.client.putObject call.start surroundings call.request call.buffer call.given =
        (result, call.progress)

theorem enter_stage (client : ClientState) (start : Int) (request : PutObjectRequest)
    (buffer : ConstBufferView) (out : TransferOutcome) :
    (enter client start request buffer out).stage = .trying ∨
      (enter client start request buffer out).stage = .returned false := by
  simp only [enter]
  split
  · exact .inr rfl
  · split
    · exact .inr rfl
    · exact .inl rfl

theorem ended_stage (call : PutCall) (result : Bool) (progress : Client.Progress) :
    (call.ended result progress).stage = .returned result ∨
      result = false ∧ (call.ended result progress).stage = .trying := by
  cases result with
  | true => exact .inl rfl
  | false =>
      by_cases more : call.tries + 1 < ({} : RetryPolicy).maxAttempts
      · exact .inr ⟨rfl, if_pos more⟩
      · exact .inl (if_neg more)

theorem putObject_admitted (admitted : call.Admitted) (surroundings : Nat → Surroundings) :
    call.client.putObject call.start surroundings call.request call.buffer call.given =
      retryIfRetryable {} (call.fn surroundings) { out := call.given } := by
  obtain ⟨initialized, small⟩ := admitted
  rw [ClientState.putObject, initialized, if_neg (by decide), if_neg small]
  rfl

theorem agrees_enter (client : ClientState) (start : Int) (request : PutObjectRequest)
    (buffer : ConstBufferView) (out : TransferOutcome) :
    (enter client start request buffer out).Agrees world := by
  unfold Agrees enter
  by_cases initialized : client.initialized = true
  · by_cases large : client.options.putSingleMaxBytes ≠ 0 ∧
        buffer.size > client.options.putSingleMaxBytes
    · simp only [initialized, Bool.not_true, Bool.false_eq_true, if_false, if_pos large]
      refine ⟨fun _ => Client.refusing, ?_⟩
      simp only [ClientState.putObject, initialized, Bool.not_true, Bool.false_eq_true, if_false,
        if_pos large]
    · simp only [initialized, Bool.not_true, Bool.false_eq_true, if_false, if_neg large]
      exact ⟨⟨initialized, large⟩, Nat.zero_lt_succ 2, fun _ => Client.refusing, rfl⟩
  · rw [Bool.not_eq_true] at initialized
    simp only [initialized, Bool.not_false, if_true]
    refine ⟨fun _ => Client.refusing, ?_⟩
    simp only [ClientState.putObject, initialized, Bool.not_false, if_true]

/-- `fn` has returned, as it would have in `last`. -/
theorem agrees_ended (looping : call.Looping) (last : Surroundings)
    (evaluates : call.client.tryOnce call.start call.request call.buffer last call.progress =
      (result, progress)) : (call.ended result progress).Agrees world := by
  obtain ⟨admitted, few, surroundings, tried⟩ := looping
  let chosen := Function.update surroundings call.tries last
  have tried : Tried (call.fn chosen) { out := call.given } call.tries call.progress := by
    refine tried.agree fun index earlier => ?_
    have different : index ≠ call.tries := by omega
    simp only [fn, chosen, Function.update_of_ne different]
  have evaluates : call.fn chosen call.tries call.progress = (result, progress) := by
    simpa only [fn, chosen, Function.update_self] using evaluates
  cases result with
  | true =>
      refine ⟨chosen, ?_⟩
      exact (putObject_admitted admitted chosen).trans (tried.succeeds few evaluates)
  | false =>
      have again : Tried (call.fn chosen) { out := call.given } (call.tries + 1) progress :=
        ⟨call.progress, tried, evaluates⟩
      unfold Agrees ended
      by_cases more : call.tries + 1 < ({} : RetryPolicy).maxAttempts
      · simp only [Bool.false_eq_true, if_false, if_pos more]
        exact ⟨admitted, more, chosen, again⟩
      · simp only [Bool.false_eq_true, if_false, if_neg more]
        have all : call.tries + 1 = ({} : RetryPolicy).maxAttempts := by omega
        refine ⟨chosen, ?_⟩
        rw [all] at again
        exact (putObject_admitted admitted chosen).trans (again.fails (by decide))

/-- The deadline has passed. -/
theorem tryOnce_late {now : Int} (late : now ≥ call.client.deadline call.start) :
    call.client.tryOnce call.start call.request call.buffer { Client.refusing with now }
      call.progress = (false, call.progress) :=
  if_pos late

theorem tryOnce_returned {now : Int} {requestValue sessionValue : UInt64}
    {surroundings : Surroundings} (early : now < call.client.deadline call.start)
    (retraced : PutOnce.Retraced surroundings (call.attempt requestValue sessionValue) put)
    (returned : put.stage = .returned result) :
    call.client.tryOnce call.start call.request call.buffer
        { surroundings with now, requestValue, sessionValue } call.progress =
      (result, ⟨put.out, call.progress.attempts ++ [put]⟩) := by
  have same : PutOnce.Retraced { surroundings with now, requestValue, sessionValue }
      (call.attempt requestValue sessionValue) put := retraced.agree fun _ _ => rfl
  have finished := same.finish returned
  unfold attempt at finished
  rw [ClientState.tryOnce, if_neg (by simpa using early)]
  simp only [finished, returned]
  cases result <;> rfl

theorem Agrees.kept (agrees : call.Agrees world)
    (kept : ∀ key put, world.attempts key = some put → after.attempts key = some put) :
    call.Agrees after := by
  unfold Agrees at agrees ⊢
  split at agrees
  · exact agrees
  · obtain ⟨looping, now, requestValue, sessionValue, surroundings, put, early, known, retraced⟩ :=
      agrees
    exact ⟨looping, now, requestValue, sessionValue, surroundings, put, early, kept _ _ known,
      retraced⟩
  · exact agrees

theorem Agrees.onward (agrees : call.Agrees world) (onward : Onward world after) :
    call.Agrees after := by
  unfold Agrees at agrees ⊢
  split at agrees
  · exact agrees
  · obtain ⟨looping, now, requestValue, sessionValue, surroundings, put, early, known, retraced⟩ :=
      agrees
    have moved := onward ‹_›
    rw [known] at moved
    generalize after.attempts _ = found at moved ⊢
    cases moved with
    | some moved =>
        cases moved with
        | same =>
            exact ⟨looping, now, requestValue, sessionValue, surroundings, put, early, rfl, retraced⟩
        | answered other waiting =>
            exact ⟨looping, now, requestValue, sessionValue, _, _, early, rfl,
              retraced.extend waiting other⟩
  · exact agrees

end PutCall

/-! ## What a step of the system does to the calls -/

namespace Application

variable {before application : Application} {event : Event} {call : PutCall} {index : Nat}
  {result : Bool}

inductive Stepped (brpc : BrpcServer) (before : Application) : Application → Prop where
  | entered (client : ClientState) (start : Int) (request : PutObjectRequest)
      (buffer : ConstBufferView) (out : TransferOutcome) :
      Stepped brpc before { before with
        calls := before.calls ++ [PutCall.enter client start request buffer out] }
  | late (index : Nat) (call : PutCall) (now : Int) (found : before.calls[index]? = some call)
      (trying : call.stage = .trying) (late : now ≥ call.client.deadline call.start) :
      Stepped brpc before (before.setCall index (call.ended false call.progress))
  | begun (index : Nat) (call : PutCall) (now : Int) (requestValue sessionValue : UInt64)
      (deployment : Deployment) (found : before.calls[index]? = some call)
      (trying : call.stage = .trying) (early : now < call.client.deadline call.start)
      (advanced : before.deployment.advance brpc (.world (.start call.client.options call.request
        call.buffer call.progress.out requestValue sessionValue)) = some deployment) :
      Stepped brpc before ({ before with deployment }.setCall index { call with
        stage := .attempting (call.attempt requestValue sessionValue).attempt.sessionId })
  | ended (index : Nat) (call : PutCall) (session : String) (put : PutOnce) (result : Bool)
      (found : before.calls[index]? = some call) (attempting : call.stage = .attempting session)
      (known : before.deployment.world.attempts session = some put)
      (returned : put.stage = .returned result) :
      Stepped brpc before (before.setCall index
        (call.ended result ⟨put.out, call.progress.attempts ++ [put]⟩))
  | system (event : Deployment.Event) (deployment : Deployment) (begun : starts event = false)
      (advanced : before.deployment.advance brpc event = some deployment) :
      Stepped brpc before { before with deployment }

theorem stepped (step : (system brpc).step before event application) : Stepped brpc before application := by
  change before.advance brpc event = some application at step
  cases event with
  | putObject client start request buffer out =>
      cases step
      exact .entered client start request buffer out
  | tries index now requestValue sessionValue =>
      obtain ⟨call, found, tried⟩ := Option.bind_eq_some_iff.mp step
      unfold tries at tried
      split at tried
      · rename_i trying
        split at tried
        · rename_i late
          cases tried
          exact .late index call now found trying late
        · rename_i early
          obtain ⟨deployment, advanced, rfl⟩ := Option.map_eq_some_iff.mp tried
          exact .begun index call now requestValue sessionValue deployment found trying
            (by simpa using early) advanced
      · cases tried
  | ends index =>
      obtain ⟨call, found, left⟩ := Option.bind_eq_some_iff.mp step
      unfold ends at left
      split at left
      · rename_i session attempting
        obtain ⟨put, known, rest⟩ := Option.bind_eq_some_iff.mp left
        split at rest
        · rename_i result returned
          cases rest
          exact .ended index call session put result found attempting known returned
        · cases rest
      · cases left
  | system event =>
      simp only [advance] at step
      split at step
      · cases step
      · rename_i begun
        obtain ⟨deployment, advanced, rfl⟩ := Option.map_eq_some_iff.mp step
        exact .system event deployment (by simpa using begun) advanced

/-- The attempt is new, and no other changes. -/
theorem start_attempts {before deployment : Deployment} {options : ClientOptions}
    {request : PutObjectRequest} {buffer : ConstBufferView} {out : TransferOutcome}
    {requestValue sessionValue : UInt64}
    (advanced : before.advance brpc (.world (.start options request buffer out requestValue
      sessionValue)) = some deployment) :
    let put := PutOnce.start options request buffer out requestValue sessionValue
    before.world.attempts put.attempt.sessionId = none ∧
      ∀ key, deployment.world.attempts key =
        if key = put.attempt.sessionId then some put else before.world.attempts key := by
  simp only [Deployment.advance, Deployment.elsewhere, if_true, World.advance] at advanced
  split at advanced
  · rename_i free
    simp only [Option.map_some, Option.some.injEq] at advanced
    subst advanced
    refine ⟨Option.isNone_iff_eq_none.mp free, fun key => ?_⟩
    exact setAttempt_attempts
  · cases advanced

theorem started_keeps {before deployment : Deployment} {options : ClientOptions}
    {request : PutObjectRequest} {buffer : ConstBufferView} {out : TransferOutcome}
    {requestValue sessionValue : UInt64}
    (advanced : before.advance brpc (.world (.start options request buffer out requestValue
      sessionValue)) = some deployment) (known : before.world.attempts key = some put) :
    deployment.world.attempts key = some put := by
  obtain ⟨free, attempts⟩ := start_attempts advanced
  rw [attempts, if_neg, known]
  rintro rfl
  rw [free] at known
  cases known

/-! ## Each call by itself -/

theorem agrees_stepped (agrees : ∀ call ∈ before.calls, call.Agrees before.deployment.world)
    (stepped : Stepped brpc before application) :
    ∀ call ∈ application.calls, call.Agrees application.deployment.world := by
  intro call member
  cases stepped with
  | entered client start request buffer out =>
      rcases List.mem_append.mp member with old | new
      · exact agrees call old
      · rw [List.mem_singleton.mp new]
        exact PutCall.agrees_enter client start request buffer out
  | late index tried now found trying late =>
      rcases List.mem_or_eq_of_mem_set member with old | rfl
      · exact agrees call old
      · have looping := agrees tried (List.mem_of_getElem? found)
        simp only [PutCall.Agrees, trying] at looping
        exact PutCall.agrees_ended looping _ (PutCall.tryOnce_late late)
  | begun index tried now requestValue sessionValue deployment found trying early advanced =>
      rcases List.mem_or_eq_of_mem_set member with old | rfl
      · exact (agrees call old).kept fun _ _ => started_keeps advanced
      · have looping := agrees tried (List.mem_of_getElem? found)
        simp only [PutCall.Agrees, trying] at looping
        obtain ⟨_, attempts⟩ := start_attempts advanced
        exact ⟨⟨looping.admitted, looping.few, looping.tried⟩, now, requestValue, sessionValue,
          Client.refusing, _, early, (attempts _).trans (if_pos rfl), .start⟩
  | ended index tried session put result found attempting known returned =>
      rcases List.mem_or_eq_of_mem_set member with old | rfl
      · exact agrees call old
      · have current := agrees tried (List.mem_of_getElem? found)
        simp only [PutCall.Agrees, attempting] at current
        obtain ⟨looping, now, requestValue, sessionValue, surroundings, other, early, here,
          retraced⟩ := current
        cases known.symm.trans here
        exact PutCall.agrees_ended looping _ (PutCall.tryOnce_returned early retraced returned)
  | system event deployment begun advanced =>
      exact (agrees call member).onward (onward_step begun advanced)

theorem reachable_stepped (reachable : (Deployment.system brpc).Reachable before.deployment)
    (stepped : Stepped brpc before application) :
    (Deployment.system brpc).Reachable application.deployment := by
  cases stepped with
  | entered => exact reachable
  | late => exact reachable
  | ended => exact reachable
  | begun index call now requestValue sessionValue deployment found trying early advanced =>
      exact reachable.step advanced
  | system event deployment begun advanced => exact reachable.step advanced

/-- Every call agrees with `putObject`, in a system that got where it is. -/
structure Sound (brpc : BrpcServer) (application : Application) : Prop where
  reachable : (Deployment.system brpc).Reachable application.deployment
  agrees : ∀ call ∈ application.calls, call.Agrees application.deployment.world

theorem sound_invariant : (system brpc).Invariant (Sound brpc) where
  initial := by
    rintro application ⟨initial, none⟩
    constructor
    · exact .of_initial initial
    · simp [none]
  step := by
    intro before event after sound step
    have stepped := stepped step
    exact ⟨reachable_stepped sound.reachable stepped, agrees_stepped sound.agrees stepped⟩

/-- Among any other calls, and whatever else goes on, a call of `PutObject` makes the attempts,
returns the result and leaves the output that `putObject` does in surroundings of its own. -/
theorem calls_agree (reachable : (system brpc).Reachable application)
    (found : application.calls[index]? = some call) (returned : call.stage = .returned result) :
    ∃ surroundings, call.client.putObject call.start surroundings call.request call.buffer
      call.given = (result, call.progress) := by
  have agrees := (sound_invariant.reachable reachable).agrees call (List.mem_of_getElem? found)
  simpa only [PutCall.Agrees, returned] using agrees

/-! ## A PUT whose first attempt times out -/

def retrying : List Event :=
  .putObject { initialized := true } 0 { bucket := "bucket", key := "object", expectedSize := some 4 }
      { data := 4096, size := 4 } {} ::
    .system (.process (.listen true)) ::
    .tries 0 0 1 3 ::
    .system (.world (.timeout "ses-0000000000000003" ⟨1008, "rpc timed out"⟩)) ::
    .ends 0 ::
    .system (.world (.lose 0)) ::
    .tries 0 200000000 1 2 ::
    (([.world (.deliver 0 0 0), .world (.deliver 0 0 0),
        .world (.acquired sessionTwo {} ⟨true, true, some "1000:42"⟩), .accept 0 0 true] ++
      Deployment.stepping 6 ++
      .process (.receive (.transfer 0 Backend.Receives.fourBytes)) :: Deployment.stepping 5 ++
      .returns 0 :: List.replicate 3 (.world (.deliver 0 0 0))) : List Deployment.Event).map
        .system ++ [.ends 0]

def begun : Application := ⟨Deployment.launched, []⟩

theorem retried : ∃ application call, (system .whenIdle).Reachable application ∧
    application.calls[0]? = some call ∧ call.stage = .returned true ∧
    call.progress.attempts.length = 2 := by
  let outcome := System.replay (advance .whenIdle) begun retrying
  obtain ⟨application, replayed⟩ : ∃ application, outcome = some application := ⟨_, rfl⟩
  have ends : (outcome.bind (·.calls[0]?)).map
      (fun call => (call.stage, call.progress.attempts.length)) = some (.returned true, 2) := rfl
  rw [replayed, Option.bind_some] at ends
  obtain ⟨call, found, stage⟩ := Option.map_eq_some_iff.mp ends
  rw [Prod.mk.injEq] at stage
  exact ⟨application, call, ⟨begun, retrying, ⟨Deployment.launched_initial, rfl⟩, .of_replay replayed⟩,
    found, stage⟩

theorem retried_agrees : ∃ (call : PutCall) (surroundings : Nat → Surroundings),
    call.progress.attempts.length = 2 ∧
    call.client.putObject call.start surroundings call.request call.buffer call.given =
      (true, call.progress) := by
  obtain ⟨application, call, reachable, found, returned, attempts⟩ := retried
  obtain ⟨surroundings, same⟩ := calls_agree reachable found returned
  exact ⟨call, surroundings, attempts, same⟩

end Application

end Us3Turbo.Cluster
