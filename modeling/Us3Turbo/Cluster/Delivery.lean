import Us3Turbo.Cluster.Application

/-! # What `PutObject` says of the backend

The attempts of the system are those of its calls, and where a call returns true its last attempt
is behind it.
-/

namespace Us3Turbo.Cluster

open Us3Turbo.Data Us3Turbo.Proto Us3Turbo.Transition
open Us3Turbo.Client (ClientOptions ClientState ConstBufferView PutObjectRequest PutOnce RetryPolicy
  Surroundings TransferOutcome)
open Us3Turbo.Backend (BrpcServer PutAnswer Receive)

variable {world after : World} {session key : String} {put next : PutOnce}

/-! ## The attempts of a call -/

theorem SameCall.trans {last : PutOnce} (first : SameCall put next) (second : SameCall next last) :
    SameCall put last where
  attempt := second.attempt.trans first.attempt
  buffer := second.buffer.trans first.buffer

theorem SameCall.retraced {surroundings : Surroundings}
    (retraced : PutOnce.Retraced surroundings put next) : SameCall put next := by
  induction retraced with
  | start => exact ⟨rfl, rfl⟩
  | answered next _ waiting ih =>
      refine ih.trans ?_
      unfold PutOnce.advance
      split
      · exact ⟨rfl, rfl⟩
      · exact .resume next _

namespace PutCall

variable {call : PutCall} {progress : Client.Progress} {result : Bool}

/-- The session of the attempt under way. -/
def current (call : PutCall) : List String :=
  match call.stage with
  | .attempting session => [session]
  | _ => []

def sessions (call : PutCall) : List String :=
  call.progress.attempts.map (·.attempt.sessionId) ++ call.current

/-- An attempt of the call that has ended. -/
structure Ended (world : World) (call : PutCall) (put : PutOnce) : Prop where
  known : world.attempts put.attempt.sessionId = some put
  finished : ∃ result, put.stage = .returned result
  bucket : put.attempt.bucket = call.request.bucket
  key : put.attempt.key = call.request.key
  buffer : put.buffer = call.buffer

/-- Only the last attempt can have succeeded, and then its outcome is that of the call. -/
structure Recorded (world : World) (call : PutCall) : Prop where
  ended : ∀ put ∈ call.progress.attempts, Ended world call put
  failed : call.stage ≠ .returned true → ∀ put ∈ call.progress.attempts, put.stage = .returned false
  delivered : call.stage = .returned true → ∃ earlier put,
    call.progress.attempts = earlier ++ [put] ∧ put.stage = .returned true ∧
    call.progress.out = put.out ∧ ∀ other ∈ earlier, other.stage = .returned false
  made : call.progress.attempts.length ≤ call.tries
  few : call.tries ≤ ({} : RetryPolicy).maxAttempts

theorem Ended.kept (ended : Ended world call put)
    (kept : ∀ key put, world.attempts key = some put → after.attempts key = some put) :
    Ended after call put where
  known := kept _ _ ended.known
  finished := ended.finished
  bucket := ended.bucket
  key := ended.key
  buffer := ended.buffer

theorem Ended.onward (ended : Ended world call put) (onward : Onward world after) :
    Ended after call put := by
  obtain ⟨known, ⟨result, finished⟩, bucket, key, buffer⟩ := ended
  have moved := onward put.attempt.sessionId
  rw [known] at moved
  refine ⟨?_, ⟨result, finished⟩, bucket, key, buffer⟩
  generalize after.attempts _ = found at moved ⊢
  cases moved with
  | some moved =>
      cases moved with
      | same => rfl
      | answered surroundings waiting => exact absurd finished (waiting result)

theorem Recorded.elsewhere (recorded : call.Recorded world)
    (ends : ∀ put, Ended world call put → Ended after call put) : call.Recorded after where
  ended put member := ends put (recorded.ended put member)
  failed := recorded.failed
  delivered := recorded.delivered
  made := recorded.made
  few := recorded.few

theorem recorded_enter (client : ClientState) (start : Int) (request : PutObjectRequest)
    (buffer : ConstBufferView) (out : TransferOutcome) :
    (enter client start request buffer out).Recorded world where
  ended put member := absurd member List.not_mem_nil
  failed _ put member := absurd member List.not_mem_nil
  delivered returned := by
    rcases enter_stage client start request buffer out with stage | stage <;>
      simp [stage] at returned
  made := Nat.zero_le _
  few := Nat.zero_le _

theorem recorded_late (recorded : call.Recorded world) (trying : call.stage = .trying)
    (looping : call.Looping) : (call.ended false call.progress).Recorded world where
  ended put member := by
    obtain ⟨known, finished, bucket, key, buffer⟩ := recorded.ended put member
    exact ⟨known, finished, bucket, key, buffer⟩
  failed _ := recorded.failed (by simp [trying])
  delivered returned := by
    rcases ended_stage call false call.progress with stage | ⟨_, stage⟩ <;> simp [stage] at returned
  made := Nat.le_succ_of_le recorded.made
  few := looping.few

theorem recorded_ended (recorded : call.Recorded world) {session : String}
    (attempting : call.stage = .attempting session) (looping : call.Looping)
    (ended : Ended world call put) (returned : put.stage = .returned result) :
    (call.ended result ⟨put.out, call.progress.attempts ++ [put]⟩).Recorded world := by
  have earlier := recorded.failed (by simp [attempting])
  constructor
  · intro other member
    have whole : Ended world call other := by
      rcases List.mem_append.mp member with old | new
      · exact recorded.ended other old
      · rw [List.mem_singleton.mp new]
        exact ended
    obtain ⟨known, finished, bucket, key, buffer⟩ := whole
    exact ⟨known, finished, bucket, key, buffer⟩
  · intro failed other member
    rcases List.mem_append.mp member with old | new
    · exact earlier other old
    · rw [List.mem_singleton.mp new, returned]
      cases result with
      | true => exact absurd rfl failed
      | false => rfl
  · intro success
    rcases ended_stage call result ⟨put.out, call.progress.attempts ++ [put]⟩ with
      stage | ⟨_, stage⟩
    · rw [stage, CallStage.returned.injEq] at success
      rw [success] at returned
      exact ⟨call.progress.attempts, put, rfl, returned, rfl, earlier⟩
    · simp [stage] at success
  · simp only [PutCall.ended, List.length_append, List.length_singleton]
    exact Nat.succ_le_succ recorded.made
  · exact looping.few

end PutCall

namespace Application

variable {brpc : BrpcServer} {before application : Application} {event : Event} {call : PutCall} {index : Nat}
  {result : Bool}

/-- What holds of a call beside what it has done in its loop. -/
theorem ended_of_agrees (agrees : call.Agrees world) (consistent : Consistent world)
    {session : String} (attempting : call.stage = .attempting session)
    (known : world.attempts session = some put) (returned : put.stage = .returned result) :
    call.Looping ∧ put.attempt.sessionId = session ∧ PutCall.Ended world call put := by
  simp only [PutCall.Agrees, attempting] at agrees
  obtain ⟨looping, now, requestValue, sessionValue, surroundings, other, early, here, retraced⟩ := agrees
  cases known.symm.trans here
  have named := (consistent.named session put known).1
  have same := SameCall.retraced retraced
  refine ⟨looping, named, ?_, ⟨result, returned⟩, ?_, ?_, same.buffer⟩
  · rw [named, known]
  · rw [same.attempt]
    rfl
  · rw [same.attempt]
    rfl

theorem Sound.consistent (sound : Sound brpc application) : Consistent application.deployment.world :=
  consistent_invariant.reachable (Deployment.world_reachable sound.reachable)

theorem recorded_stepped (sound : Sound brpc before)
    (recorded : ∀ call ∈ before.calls, call.Recorded before.deployment.world)
    (stepped : Stepped brpc before application) :
    ∀ call ∈ application.calls, call.Recorded application.deployment.world := by
  intro call member
  cases stepped with
  | entered client start request buffer out =>
      rcases List.mem_append.mp member with old | new
      · exact recorded call old
      · rw [List.mem_singleton.mp new]
        exact PutCall.recorded_enter client start request buffer out
  | late index tried now found trying late =>
      rcases List.mem_or_eq_of_mem_set member with old | rfl
      · exact recorded call old
      · have tries := List.mem_of_getElem? found
        have looping := sound.agrees tried tries
        simp only [PutCall.Agrees, trying] at looping
        exact PutCall.recorded_late (recorded tried tries) trying looping
  | begun index tried now requestValue sessionValue deployment found trying early advanced =>
      have kept := fun put (ended : PutCall.Ended before.deployment.world call put) =>
        ended.kept fun _ _ => started_keeps advanced
      rcases List.mem_or_eq_of_mem_set member with old | rfl
      · exact (recorded call old).elsewhere kept
      · have records := recorded tried (List.mem_of_getElem? found)
        have failed := records.failed (by simp [trying])
        constructor
        · intro put tries
          obtain ⟨known, finished, bucket, key, buffer⟩ := records.ended put tries
          exact ⟨started_keeps advanced known, finished, bucket, key, buffer⟩
        · exact fun _ => failed
        · intro returned
          cases returned
        · exact records.made
        · exact records.few
  | ended index tried session put result found attempting known returned =>
      rcases List.mem_or_eq_of_mem_set member with old | rfl
      · exact recorded call old
      · have tries := List.mem_of_getElem? found
        obtain ⟨looping, _, ended⟩ := ended_of_agrees (sound.agrees tried tries) sound.consistent
          attempting known returned
        exact PutCall.recorded_ended (recorded tried tries) attempting looping ended returned
  | system event deployment begun advanced =>
      exact (recorded call member).elsewhere fun put ended =>
        ended.onward (onward_step begun advanced)

/-! ## Whose the attempts are -/

/-- How often the attempt of `session` is one of a call. -/
def held (application : Application) (session : String) : Nat :=
  (application.calls.map fun call => call.sessions.count session).sum

/-- Every attempt is one of exactly one call. -/
def Accounted (application : Application) : Prop :=
  ∀ session, application.held session =
    if (application.deployment.world.attempts session).isSome then 1 else 0

theorem held_set (replaced : PutCall) (found : before.calls[index]? = some call) (session : String) :
    (before.setCall index replaced).held session + call.sessions.count session =
      before.held session + replaced.sessions.count session :=
  sum_map_set (fun call : PutCall => call.sessions.count session) replaced found

theorem current_ended (call : PutCall) (result : Bool) (progress : Client.Progress) :
    (call.ended result progress).current = [] := by
  rcases PutCall.ended_stage call result progress with stage | ⟨_, stage⟩ <;>
    simp only [PutCall.current, stage]

theorem sessions_enter (client : ClientState) (start : Int) (request : PutObjectRequest)
    (buffer : ConstBufferView) (out : TransferOutcome) :
    (PutCall.enter client start request buffer out).sessions = [] := by
  rcases PutCall.enter_stage client start request buffer out with stage | stage <;>
    simp only [PutCall.sessions, PutCall.current, stage, List.append_nil] <;> rfl

/-- The attempt that has ended stays one of the call. -/
theorem sessions_ended {session : String} (attempting : call.stage = .attempting session)
    (named : put.attempt.sessionId = session) (result : Bool) :
    (call.ended result ⟨put.out, call.progress.attempts ++ [put]⟩).sessions = call.sessions := by
  rw [PutCall.sessions, PutCall.sessions, current_ended, List.append_nil]
  simp only [PutCall.ended, PutCall.current, attempting, List.map_append, List.map_cons,
    List.map_nil, named]

theorem accounted_begun {deployment : Deployment} {requestValue sessionValue : UInt64}
    (accounted : Accounted before) (found : before.calls[index]? = some call)
    (trying : call.stage = .trying)
    (advanced : before.deployment.advance brpc (.world (.start call.client.options call.request
      call.buffer call.progress.out requestValue sessionValue)) = some deployment) :
    Accounted ({ before with deployment }.setCall index { call with
      stage := .attempting (call.attempt requestValue sessionValue).attempt.sessionId }) := by
  have started := start_attempts advanced
  change before.deployment.world.attempts (call.attempt requestValue sessionValue).attempt.sessionId =
      none ∧ ∀ key, deployment.world.attempts key =
        if key = (call.attempt requestValue sessionValue).attempt.sessionId
          then some (call.attempt requestValue sessionValue)
          else before.deployment.world.attempts key at started
  obtain ⟨free, attempts⟩ := started
  generalize (call.attempt requestValue sessionValue).attempt.sessionId = fresh at free attempts ⊢
  intro session
  have here := accounted session
  have moved := held_set { call with stage := .attempting fresh } found session
  have more : ({ call with stage := .attempting fresh } : PutCall).sessions =
      call.sessions ++ [fresh] := by
    simp only [PutCall.sessions, PutCall.current, trying, List.append_nil]
  rw [more, List.count_append, List.count_singleton] at moved
  change held (before.setCall index { call with stage := .attempting fresh }) session =
    if (deployment.world.attempts session).isSome then 1 else 0
  rw [attempts]
  by_cases own : session = fresh
  · subst own
    rw [free] at here
    simp only [beq_self_eq_true, if_true, Option.isSome_none, Option.isSome_some,
      Bool.false_eq_true, if_false] at moved here ⊢
    omega
  · rw [if_neg own]
    simp only [beq_eq_false_iff_ne.mpr (Ne.symm own), Bool.false_eq_true, if_false] at moved
    omega

theorem accounted_stepped (sound : Sound brpc before) (accounted : Accounted before)
    (stepped : Stepped brpc before application) : Accounted application := by
  intro session
  have here := accounted session
  cases stepped with
  | entered client start request buffer out =>
      simp only [held, List.map_append, List.map_cons, List.map_nil, List.sum_append_nat,
        List.sum_cons, List.sum_nil, sessions_enter, List.count_nil, Nat.add_zero]
      exact here
  | late index call now found trying late =>
      have moved := held_set (call.ended false call.progress) found session
      have same : (call.ended false call.progress).sessions = call.sessions := by
        rw [PutCall.sessions, PutCall.sessions, current_ended]
        simp only [PutCall.ended, PutCall.current, trying]
      rw [same] at moved
      exact (Nat.add_right_cancel moved).trans here
  | begun index call now requestValue sessionValue deployment found trying early advanced =>
      exact accounted_begun accounted found trying advanced session
  | ended index call attempted put result found attempting known returned =>
      have named := (ended_of_agrees (sound.agrees call (List.mem_of_getElem? found)) sound.consistent
        attempting known returned).2.1
      have moved := held_set
        (call.ended result ⟨put.out, call.progress.attempts ++ [put]⟩) found session
      rw [sessions_ended attempting named] at moved
      exact (Nat.add_right_cancel moved).trans here
  | system event deployment begun advanced =>
      have moved := onward_step begun advanced session
      have same : (deployment.world.attempts session).isSome =
          (before.deployment.world.attempts session).isSome := by
        generalize before.deployment.world.attempts session = old at moved
        generalize deployment.world.attempts session = new at moved
        cases moved <;> rfl
      exact here.trans (by rw [same])

structure Valid (brpc : BrpcServer) (application : Application) : Prop where
  sound : Sound brpc application
  recorded : ∀ call ∈ application.calls, call.Recorded application.deployment.world
  accounted : Accounted application

theorem valid_invariant : (system brpc).Invariant (Valid brpc) where
  initial := by
    intro application initial
    refine ⟨sound_invariant.initial initial, ?_, fun session => ?_⟩
    · simp [initial.2]
    · have none : application.deployment.world.attempts session = none := by
        rw [initial.1.1.2.1]
      simp [held, initial.2, none]
  step := by
    intro before event after valid step
    have stepped := stepped step
    exact ⟨sound_invariant.step valid.sound step, recorded_stepped valid.sound valid.recorded stepped,
      accounted_stepped valid.sound valid.accounted stepped⟩

theorem sessions_nodup (valid : Valid brpc application) (found : call ∈ application.calls) :
    call.sessions.Nodup := by
  rw [List.nodup_iff_count_le_one]
  intro session
  have one := valid.accounted session
  have part : call.sessions.count session ≤ application.held session :=
    List.single_le_sum (fun _ _ => Nat.zero_le _) _ (List.mem_map_of_mem found)
  rw [one] at part
  split at part <;> omega

theorem sessions_length (valid : Valid brpc application) (found : call ∈ application.calls) :
    call.sessions.length ≤ 3 := by
  have recorded := valid.recorded call found
  have made := recorded.made
  have few := recorded.few
  have agrees := valid.sound.agrees call found
  rw [PutCall.sessions, List.length_append, List.length_map, PutCall.current]
  simp only at few
  split
  · rename_i session attempting
    simp only [PutCall.Agrees, attempting] at agrees
    have more := agrees.1.few
    simp only at more
    rw [List.length_singleton]
    omega
  · rw [List.length_nil]
    omega

/-- An attempt that has not returned is the one its call waits for. -/
theorem waiting_current (recorded : call.Recorded application.deployment.world)
    (known : application.deployment.world.attempts session = some put)
    (waiting : ∀ result, put.stage ≠ .returned result) (mine : session ∈ call.sessions) :
    call.stage = .attempting session := by
  rcases List.mem_append.mp mine with old | current
  · obtain ⟨ended, member, rfl⟩ := List.mem_map.mp old
    obtain ⟨here, ⟨result, finished⟩, _⟩ := recorded.ended ended member
    cases known.symm.trans here
    exact absurd finished (waiting result)
  · unfold PutCall.current at current
    split at current
    · rename_i other attempting
      rw [attempting, List.mem_singleton.mp current]
    · cases current

/-! ## The results -/

/-- Where `PutObject` returns true, the last of its at most three attempts succeeded and the
others failed, and one transfer in the backend was for its object and of all of its buffer. -/
theorem put_object_delivers (reachable : (system brpc).Reachable application)
    (found : application.calls[index]? = some call) (success : call.stage = .returned true) :
    ∃ earlier put place receive answer, call.progress.attempts = earlier ++ [put] ∧
      earlier.length < 3 ∧ put.stage = .returned true ∧
      (∀ other ∈ earlier, other.stage = .returned false) ∧
      Deployment.Carried application.deployment put.attempt.sessionId put place receive answer ∧
      receive.objectId = Backend.buildObjectId call.request.bucket call.request.key ∧
      receive.length = call.buffer.size ∧ call.progress.out = put.out ∧
      (application.deployment.world.backend.computeCrc32c = true →
        call.progress.out.crc32c = Backend.crc32c answer.bytes) := by
  have valid := valid_invariant.reachable reachable
  have recorded := valid.recorded call (List.mem_of_getElem? found)
  obtain ⟨earlier, put, attempts, returned, out, failed⟩ := recorded.delivered success
  have ended := recorded.ended put (by simp [attempts])
  obtain ⟨place, receive, answer, carried, checksums⟩ :=
    Deployment.carried valid.sound.reachable ended.known (.inr returned)
  have few := recorded.made.trans recorded.few
  rw [attempts, List.length_append, List.length_singleton] at few
  refine ⟨earlier, put, place, receive, answer, attempts, few, returned, failed, carried, ?_, ?_,
    out, ?_⟩
  · rw [carried.objectId, ended.bucket, ended.key]
  · rw [carried.length, ended.buffer]
  · intro computes
    rw [out]
    exact (checksums computes).1

theorem retried_delivers : ∃ (application : Application) (call : PutCall) (receive : Receive)
    (answer : PutAnswer), application.calls[0]? = some call ∧ call.progress.attempts.length = 2 ∧
      receive.put = some answer ∧ receive.objectId = Backend.buildObjectId call.request.bucket
        call.request.key ∧ receive.length = call.buffer.size := by
  obtain ⟨application, call, reachable, found, returned, attempts⟩ := retried
  obtain ⟨_, _, _, receive, answer, _, _, _, _, carried, objectId, length, _⟩ :=
    put_object_delivers reachable found returned
  exact ⟨application, call, receive, answer, found, attempts, carried.transfer, objectId, length⟩

/-- Every attempt of the system is one of exactly one call, which makes at most three, one
after the other. -/
theorem attempts_owned (reachable : (system brpc).Reachable application)
    (known : application.deployment.world.attempts session = some put) :
    ∃ (index : Nat) (call : PutCall), application.calls[index]? = some call ∧
      session ∈ call.sessions ∧ call.sessions.Nodup ∧ call.sessions.length ≤ 3 ∧
      (∀ (other : Nat) (call : PutCall), application.calls[other]? = some call →
        session ∈ call.sessions → other = index) ∧
      ((∀ result, put.stage ≠ .returned result) → call.stage = .attempting session) := by
  have valid := valid_invariant.reachable reachable
  have one := valid.accounted session
  rw [known, Option.isSome_some, if_pos rfl] at one
  obtain ⟨index, call, found, held, only⟩ := unique_of_sum_map one
  have member := List.mem_of_getElem? found
  have mine : session ∈ call.sessions := List.count_pos_iff.mp (Nat.pos_of_ne_zero held)
  refine ⟨index, call, found, mine, sessions_nodup valid member, sessions_length valid member, ?_, ?_⟩
  · intro other call found mine
    exact only other call found (List.count_pos_iff.mpr mine).ne'
  · intro waiting
    exact waiting_current (valid.recorded call member) known waiting mine

theorem retried_owned : ∃ (application : Application) (call : PutCall) (put : PutOnce),
    application.calls[0]? = some call ∧ call.progress.attempts.length = 2 ∧
      application.deployment.world.attempts put.attempt.sessionId = some put ∧
      call.sessions.Nodup ∧
      ∀ (other : Nat) (call : PutCall), application.calls[other]? = some call →
        put.attempt.sessionId ∈ call.sessions → other = 0 := by
  obtain ⟨application, call, reachable, found, _, attempts⟩ := retried
  have recorded := (valid_invariant.reachable reachable).recorded call (List.mem_of_getElem? found)
  obtain ⟨put, member⟩ : ∃ put, put ∈ call.progress.attempts := by
    apply List.exists_mem_of_length_pos
    omega
  have known := (recorded.ended put member).known
  obtain ⟨index, owner, owned, _, nodup, _, only, _⟩ := attempts_owned reachable known
  have mine : put.attempt.sessionId ∈ call.sessions :=
    List.mem_append_left _ (List.mem_map_of_mem member)
  have same := only 0 call found mine
  subst same
  rw [found, Option.some.injEq] at owned
  subst owned
  exact ⟨application, call, put, found, attempts, known, nodup, only⟩

end Application

end Us3Turbo.Cluster
