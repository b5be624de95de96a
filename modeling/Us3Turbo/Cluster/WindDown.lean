import Us3Turbo.Backend.ProcessExit
import Us3Turbo.Cluster.Deployment
import Us3Turbo.Cluster.Workload

/-! # Nobody waits in vain

A client waits for its answers, a `GdsPut` for its call and its report, `Join` for every
`GdsPut`.  Wherever the whole system stands it can be brought to rest by what each party does
on its own account, or on a timeout, without one more message being delivered.
-/

namespace Us3Turbo.Cluster

open Us3Turbo.Data Us3Turbo.Proto Us3Turbo.Client Us3Turbo.Transition
open Us3Turbo.Backend (BrpcServer ProcessStage Receive Served)

variable {world after : World} {put : PutOnce} {key : String} {id : Nat} {execution : Execution}
  {messages : List Message} {message : Message}

/-! ## What is left to give up -/

/-- An attempt that has opened its session sends an `AbortSession` on its way out. -/
def attemptRest (put : PutOnce) : Nat :=
  match put.stage with
  | .acquiring | .putting | .copying => 3
  | .opening | .aborting => 1
  | .returned _ => 0

/-- An execution sends its report and its answer. -/
def executionRest (execution : Execution) : Nat :=
  match execution.stage with
  | .receiving => 4
  | .notifying _ => 2
  | .done _ => 0

noncomputable def World.rest (world : World) : Nat :=
  world.network.length + load attemptRest world.attempts + load executionRest world.executions

section Parts

variable (finite : Finite world)
include finite

theorem setAttempt_rest (key : String) (put : PutOnce) :
    (world.setAttempt key put).rest + (world.attempts key).elim 0 attemptRest =
      world.rest + attemptRest put := by
  have update := load_update attemptRest key put finite.attempts
  simp only [World.rest, World.setAttempt]
  omega

theorem setExecution_rest (id : Nat) (execution : Execution) :
    (world.setExecution id execution).rest + (world.executions id).elim 0 executionRest =
      world.rest + executionRest execution := by
  have update := load_update executionRest id execution finite.executions
  simp only [World.rest, World.setExecution]
  omega

end Parts

theorem send_rest : (world.send messages).rest = world.rest + messages.length := by
  simp only [World.rest, World.send, List.length_append]
  omega

/-! ## An attempt gives up -/

/-- What an attempt hears when whatever it waits for fails. -/
def failure (put : PutOnce) (error : RpcError) : Client.Reply :=
  match put.stage with
  | .opening => .openSession (.error error)
  | .acquiring => .token none
  | .putting => .gdsPut (.error error)
  | .copying => .copied none
  | .aborting | .returned _ => .abortSession (.error error)

theorem failure_rest (error : RpcError) (waiting : ∀ result, put.stage ≠ .returned result) :
    let next := put.resume (failure put error)
    attemptRest next + (if next.stage = put.stage then [] else sent next).length < attemptRest put := by
  cases stage : put.stage with
  | opening => simp [failure, stage, PutOnce.resume, PutOnce.onOpenSession, attemptRest, sent, PutOnce.issued]
  | acquiring => simp [failure, stage, PutOnce.resume, PutOnce.onToken, attemptRest, sent, PutOnce.issued]
  | putting => simp [failure, stage, PutOnce.resume, PutOnce.onGdsPut, attemptRest, sent, PutOnce.issued]
  | copying => simp [failure, stage, PutOnce.resume, PutOnce.onCopied, attemptRest, sent, PutOnce.issued]
  | aborting => simp [failure, stage, PutOnce.resume, attemptRest, sent, PutOnce.issued]
  | returned result => exact absurd stage (waiting result)

theorem acquireToken_unanswered (put : PutOnce) :
    (({} : GdsMemoryManager).acquireToken ⟨false, true, none⟩ put.buffer.data put.buffer.size 0).token =
      none := by
  rw [GdsMemoryManager.acquireToken]
  split
  · rfl
  · split
    · rfl
    · rw [if_neg]
      · rw [GdsMemoryManager.registerBufferUnderLock]
        split <;> rfl
      · simp [GdsMemoryManager.registerBufferUnderLock]

/-- Steps that a party takes by itself, or for the time that has passed. -/
def Event.givesUp : Event → Bool
  | .acquired _ _ _ | .copied _ _ | .timeout _ _ | .lose _ | .reportTimeout _ => true
  | _ => false

theorem givesUp_elsewhere {event : Event} (gives_up : event.givesUp = true) :
    Deployment.elsewhere world event = true := by
  cases event <;> first | rfl | cases gives_up

/-- A step of the cluster that leaves less to give up. -/
def World.GivesUp (world : World) : Prop :=
  ∃ event after, event.givesUp = true ∧ world.advance event = some after ∧ after.rest < world.rest

theorem failure_advance (error : RpcError) (known : world.attempts key = some put)
    (waiting : ∀ result, put.stage ≠ .returned result) :
    ∃ event, event.givesUp = true ∧ world.advance event = world.resume key (failure put error) := by
  cases stage : put.stage with
  | acquiring =>
      refine ⟨.acquired key {} ⟨false, true, none⟩, rfl, ?_⟩
      simp only [World.advance, known, Option.bind_some, acquireToken_unanswered, failure, stage]
  | copying => exact ⟨.copied key none, rfl, by simp only [World.advance, failure, stage]⟩
  | opening | putting | aborting =>
      refine ⟨.timeout key error, rfl, ?_⟩
      simp only [World.advance, known, Option.bind_some, World.failedCall, failure, stage]
  | returned result => exact absurd stage (waiting result)

theorem attempt_gives_up (finite : Finite world) (known : world.attempts key = some put)
    (waiting : ∀ result, put.stage ≠ .returned result) : world.GivesUp := by
  obtain ⟨event, gives_up, advanced⟩ := failure_advance ⟨0, ""⟩ known waiting
  have less := failure_rest ⟨0, ""⟩ waiting
  generalize failure put ⟨0, ""⟩ = reply at advanced less
  have set := setAttempt_rest finite key (put.resume reply)
  simp only [known, Option.elim_some] at set
  simp only [World.resume, known, Option.map_some] at advanced
  refine ⟨event, _, gives_up, advanced, ?_⟩
  rw [send_rest]
  omega

theorem network_gives_up (under_way : world.network ≠ []) : world.GivesUp := by
  have inside : 0 < world.network.length := List.length_pos_iff.mpr under_way
  refine ⟨.lose 0, _, rfl, if_pos inside, ?_⟩
  simp only [World.rest, List.length_eraseIdx_of_lt inside]
  omega

/-! ## A `GdsPut` ends -/

theorem finish_rest (finite : Finite world) (known : world.executions id = some execution)
    (result : RpcResult Served) :
    (world.finish id execution result).rest + executionRest execution ≤ world.rest + 1 := by
  have set := setExecution_rest finite id { execution with stage := .done result }
  have answer : (answer execution result).length ≤ 1 := by
    rw [Cluster.answer]
    split <;> simp
  simp only [known, Option.elim_some] at set
  rw [World.finish, send_rest]
  simp only [executionRest] at set ⊢
  omega

theorem notifying_gives_up {served : Served} (finite : Finite world)
    (known : world.executions id = some execution) (stage : execution.stage = .notifying served) :
    world.GivesUp := by
  have less := finish_rest finite known (.ok served)
  refine ⟨.reportTimeout id, world.finish id execution (.ok served), rfl, ?_, ?_⟩
  · simp only [World.advance, World.notified, known, Option.map_some, stage]
  · simp only [executionRest, stage] at less
    omega

theorem replied_rest (finite : Finite world) (known : world.executions id = some execution)
    (stage : execution.stage = .receiving) (result : RpcResult Served) :
    (world.replied id execution result).rest < world.rest := by
  have finished (result : RpcResult Served) : (world.finish id execution result).rest < world.rest := by
    have less := finish_rest finite known result
    simp only [executionRest, stage] at less
    omega
  cases result with
  | error error => exact finished (.error error)
  | ok served =>
      rw [World.replied]
      split
      · exact finished (.ok served)
      · have set := setExecution_rest finite id { execution with stage := .notifying served }
        simp only [known, Option.elim_some, executionRest, stage] at set
        rw [send_rest, List.length_singleton]
        omega

/-! ## The whole system -/

/-- What is left of the process, its signal included. -/
def processRest (process : Backend.Process) : Nat :=
  process.work +
    match process.stage with
    | .starting => 2 * process.receives.sink.pool.buckets.length + 8
    | .serving => 2 * process.receives.sink.pool.buckets.length + 7
    | _ => 0

theorem processRest_leaving {process : Backend.Process} (leaving : process.Leaving) :
    processRest process = process.work := by
  cases stage : process.stage <;> simp_all [processRest, Backend.Process.Leaving]

namespace Deployment

variable {brpc : BrpcServer} {deployment next exit : Deployment} {events : List Event}

noncomputable def rest (deployment : Deployment) : Nat :=
  processRest deployment.process + deployment.world.rest

/-- Nothing begins, and no message is delivered. -/
def Event.winds : Event → Bool
  | .world event => event.givesUp
  | .process _ | .returns _ => true
  | .accept _ _ _ => false

def winding (brpc : BrpcServer) : System Deployment Event :=
  (system brpc).restrict fun before event after => event.winds = true ∧ after.rest < before.rest

noncomputable def windingPotential (brpc : BrpcServer) : (winding brpc).Potential fun _ => True where
  level := rest
  cost _ := 1
  gain _ := 0
  keeps _ _ := trivial
  pays _ step := step.2.2

def Moves (brpc : BrpcServer) (deployment : Deployment) : Prop :=
  ∃ event next, (winding brpc).step deployment event next

theorem world_moves (gives_up : deployment.world.GivesUp) : deployment.Moves brpc := by
  obtain ⟨event, after, gives_up, advanced, less⟩ := gives_up
  refine ⟨.world event, { deployment with world := after }, ?_, gives_up, Nat.add_lt_add_left less _⟩
  simp only [system, System.ofAdvance, advance, if_pos (givesUp_elsewhere gives_up), advanced,
    Option.map_some]

theorem process_moves (event : Backend.Process.Event) (after : Backend.Process)
    (admitted : deployment.admits brpc event = true)
    (advanced : deployment.process.advance brpc event = some after)
    (less : processRest after < processRest deployment.process) : deployment.Moves brpc := by
  refine ⟨.process event, { deployment with process := after }, ?_, rfl, Nat.add_lt_add_right less _⟩
  simp only [system, System.ofAdvance, advance, if_pos admitted, advanced, Option.map_some]

theorem leaving_moves (event : Backend.Process.Event) (after : Backend.Process)
    (leaving : deployment.process.Leaving) (admitted : deployment.admits brpc event = true)
    (advanced : deployment.process.advance brpc event = some after) : deployment.Moves brpc := by
  obtain ⟨still, less⟩ := Backend.Process.leaving_step leaving advanced
  refine process_moves event after admitted advanced ?_
  rw [processRest_leaving leaving, processRest_leaving still]
  exact less

/-- An execution whose call has returned hears of it. -/
theorem execution_moves (linked : Linked deployment) (finite : Finite deployment.world)
    (finished : Backend.Process.Finished deployment.process.receives)
    (known : deployment.world.executions id = some execution)
    (waiting : ∀ result, execution.stage ≠ .done result) : deployment.Moves brpc := by
  cases stage : execution.stage with
  | receiving =>
      rcases linked.executions known with ⟨index, called⟩ | ⟨error, failed⟩
      · obtain ⟨call, _, made, _, _⟩ := linked.calls called
        obtain ⟨outcome, returned⟩ := finished call (List.mem_of_getElem? made)
        refine ⟨.returns id, { deployment with
          world := deployment.world.replied id execution
            (serve deployment.world.backend execution.request outcome) }, ?_, rfl,
          Nat.add_lt_add_left (replied_rest finite known stage _) _⟩
        simp only [system, System.ofAdvance, advance, returns, called, made, known, Option.bind_some,
          stage, returned]
      · exact absurd failed (waiting _)
  | notifying served => exact world_moves (notifying_gives_up finite known stage)
  | done result => exact absurd stage (waiting result)

theorem call_moves {call : Receive} (leaving : deployment.process.Leaving)
    (valid : call.Valid deployment.process.receives.sink)
    (stage : deployment.process.stage = .joining)
    (member : call ∈ deployment.process.receives.calls)
    (busy : ∀ outcome, call.stage ≠ .returned outcome) : deployment.Moves brpc := by
  obtain ⟨index, found⟩ := List.mem_iff_getElem?.mp member
  have goes (event : Backend.Receives.Event) (continues : Backend.Process.continues event = true)
      (advances : (deployment.process.receives.advance event).isSome = true) : deployment.Moves brpc := by
    obtain ⟨receives, advanced⟩ := Option.isSome_iff_exists.mp advances
    refine leaving_moves (.receive event) { deployment.process with receives } leaving continues ?_
    simp only [Backend.Process.advance, stage, if_pos continues, Backend.Process.received, advanced,
      Option.map_some]
  rcases Backend.BackendGdsSink.goes_on valid busy with performs | ⟨answer, transfers⟩
  · apply goes (.step index true) rfl
    simpa [Backend.Receives.advance, found] using performs
  · apply goes (.transfer index answer) rfl
    simpa [Backend.Receives.advance, found] using transfers

theorem unanswered_waits {entry : Nat × Nat} (unanswered : deployment.unanswered entry = true) :
    ∃ execution, deployment.world.executions entry.1 = some execution ∧
      ∀ result, execution.stage ≠ .done result := by
  rw [Deployment.unanswered] at unanswered
  obtain ⟨execution, known, waiting⟩ := (Option.any_eq_true _ _).mp unanswered
  refine ⟨execution, known, fun result done => ?_⟩
  simp [Execution.answered, done] at waiting

/-- `Join` waits for a call, for an execution, or no longer. -/
theorem joining_moves (linked : Linked deployment) (finite : Finite deployment.world)
    (stage : deployment.process.stage = .joining) : deployment.Moves brpc := by
  have leaving : deployment.process.Leaving := by simp [Backend.Process.Leaving, stage]
  have valid := linked.process
  rw [Backend.Process.Valid, stage] at valid
  by_cases finished : Backend.Process.Finished deployment.process.receives
  · by_cases answered : deployment.calls.countP deployment.unanswered = 0
    · refine leaving_moves (.proceed true)
        { deployment.process with stage := .shutting .shutdownSwap false } leaving ?_ ?_
      · simp only [admits, stage, answered, brpc.returns]
      · simp [Backend.Process.advance, stage, Backend.Process.finished_iff.mpr finished, brpc.returns]
    · obtain ⟨entry, _, unanswered⟩ := List.countP_pos_iff.mp (Nat.pos_of_ne_zero answered)
      obtain ⟨execution, known, waiting⟩ := unanswered_waits unanswered
      exact execution_moves linked finite finished known waiting
  · simp only [Backend.Process.Finished, not_forall, not_exists] at finished
    obtain ⟨call, member, busy⟩ := finished
    exact call_moves leaving (valid.good.valid call member) stage member busy

theorem process_goes_on (linked : Linked deployment) (finite : Finite deployment.world)
    (running : deployment.process.stage ≠ .exited) : deployment.Moves brpc := by
  cases stage : deployment.process.stage with
  | starting =>
      refine process_moves (.listen true) { deployment.process with stage := .serving } rfl ?_ ?_
      · simp only [Backend.Process.advance, stage, if_true]
      · simp [processRest, Backend.Process.work, ProcessStage.work, stage]
  | serving =>
      refine process_moves .signal { deployment.process with stage := .joining } rfl ?_ ?_
      · simp only [Backend.Process.advance, stage]
      · simp [processRest, Backend.Process.work, ProcessStage.work, stage]
  | joining => exact joining_moves linked finite stage
  | shutting operation destructing =>
      refine leaving_moves (.proceed true) (deployment.process.shut true operation destructing) ?_ ?_ ?_
      · simp [Backend.Process.Leaving, stage]
      · simp only [admits, stage]
      · simp only [Backend.Process.advance, stage]
  | resetting =>
      refine leaving_moves (.proceed true) { deployment.process with stage := .exited } ?_ ?_ ?_
      · simp [Backend.Process.Leaving, stage]
      · simp only [admits, stage]
      · simp only [Backend.Process.advance, stage]
  | exited => exact absurd stage running

theorem winding_winds (run : (winding brpc).Run deployment events exit) : events.all Event.winds = true := by
  induction run with
  | nil => rfl
  | cons head _ ih =>
      rw [List.all_cons, head.2.1, ih]
      rfl

/-- Wherever the system stands, all of it can come to rest though nothing more is delivered: the
backend exits, every call of `PutOnce` returns, and no `GdsPut` is left. -/
theorem comes_to_rest (reachable : (system brpc).Reachable deployment) :
    ∃ events exit, (system brpc).Run deployment events exit ∧ events.all Event.winds = true ∧
      exit.process.stage = .exited ∧ exit.world.network = [] ∧
      (∀ key put, exit.world.attempts key = some put → ∃ result, put.stage = .returned result) ∧
      ∀ id execution, exit.world.executions id = some execution →
        ∃ result, execution.stage = .done result := by
  obtain ⟨events, exit, run, stuck⟩ := @System.Potential.exists_stuck _ _ _ _ deployment
    (windingPotential brpc) trivial (fun _ => Nat.le_refl 1) fun _ => rfl
  have reached := reachable.run run.of_restrict
  have linked := linked_reachable reached
  have finite := finite_invariant.reachable (world_reachable reached)
  have still : ¬ exit.Moves brpc := fun ⟨event, next, step⟩ => stuck event next step
  have exited : exit.process.stage = .exited := by
    by_contra running
    exact still (process_goes_on linked finite running)
  refine ⟨events, exit, run.of_restrict, winding_winds run, exited, ?_, ?_, ?_⟩
  · by_contra under_way
    exact still (world_moves (network_gives_up under_way))
  · intro key put known
    by_contra waiting
    exact still (world_moves (attempt_gives_up finite known (not_exists.mp waiting)))
  · intro id execution known
    by_contra waiting
    have valid := linked.process
    rw [Backend.Process.Valid, exited] at valid
    exact still (execution_moves linked finite valid.1.finished known (not_exists.mp waiting))

/-- The chunk is still to be transferred, and the client waits for the answer. -/
theorem transferring_comes_to_rest : ∃ (deployment exit : Deployment) (events : List Event),
    (deployment.world.attempts sessionTwo).map (·.stage) = some .putting ∧
      (system .whenIdle).Run deployment events exit ∧ exit.process.stage = .exited ∧
      exit.world.network = [] := by
  let outcome := System.replay (advance .whenIdle) launched (receiving.take 10)
  obtain ⟨deployment, replayed⟩ : ∃ deployment, outcome = some deployment := ⟨_, rfl⟩
  have waits : outcome.map (fun deployment => (deployment.world.attempts sessionTwo).map (·.stage)) =
      some (some .putting) := rfl
  rw [replayed, Option.map_some, Option.some.injEq] at waits
  have reachable : (system .whenIdle).Reachable deployment :=
    ⟨launched, _, launched_initial, .of_replay replayed⟩
  obtain ⟨events, exit, run, _, exited, network, _⟩ := comes_to_rest reachable
  exact ⟨deployment, exit, events, waits, run, exited, network⟩

end Deployment

end Us3Turbo.Cluster
