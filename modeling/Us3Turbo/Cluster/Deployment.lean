import Us3Turbo.Backend.ReceiveOnward
import Us3Turbo.Cluster.Provenance
import Us3Turbo.Transition.Simulation

/-! # The cluster with the backend as a process

The backend of `World` receives a chunk in one step.  Here its `GdsPut`s run
`ReceiveAndDiscard` side by side, one use of the pool or of the `cuObjServer` at a time, in a
process that starts, serves and is told to quit.  The clients and the proxy cannot tell.
-/

namespace Us3Turbo.Cluster

open Us3Turbo.Data Us3Turbo.Proto Us3Turbo.Transition
open Us3Turbo.Backend (BackendGdsSink BrpcServer DataPlaneService DiscardOutcome PinnedBufferLease
  PinnedBufferPool Progress PutAnswer Receive Receives Served Server buildObjectId crc32c failed
  gdsChunkResponse gdsPutError receiveAndDiscard_ok reportGdsPutRequest)
open Us3Turbo.Backend.DataPlaneService (gdsPutError_none)

/-- `GdsPut` once `ReceiveAndDiscard` has returned. -/
def serve (service : DataPlaneService) (request : GdsChunkRequest) (outcome : DiscardOutcome) :
    RpcResult Served :=
  if outcome.ok then
    .ok {
      outcome
      response := gdsChunkResponse outcome
      notification :=
        if service.notifies then some (reportGdsPutRequest request outcome) else none }
  else .error (failed ("backend v1: " ++ outcome.error))

/-- What goes out then: the report, or else the answer. -/
def World.replied (world : World) (id : Nat) (execution : Execution) : RpcResult Served → World
  | .error error => world.finish id execution (.error error)
  | .ok served =>
      match served.notification with
      | none => world.finish id execution (.ok served)
      | some report =>
          (world.setExecution id { execution with stage := .notifying served }).send
            [.reportGdsPut id report]

def Execution.answered (execution : Execution) : Bool :=
  match execution.stage with
  | .done _ => true
  | _ => false

/-- The call of `ReceiveAndDiscard` that `GdsPut` makes. -/
def callOf (request : GdsChunkRequest) : Receive where
  objectId := buildObjectId request.bucket request.objectKey
  rdmaToken := request.rdmaToken
  length := request.chunkSize

/-- `calls` has, for an execution, the place of its call of `ReceiveAndDiscard`. -/
structure Deployment where
  world : World
  process : Backend.Process
  calls : List (Nat × Nat) := []

namespace Deployment

inductive Event where
  /-- A step in which no `GdsPut` begins or receives. -/
  | world (event : Cluster.Event)
  /-- A `GdsPut` arrives; `available` is the answer of the sink. -/
  | accept (index slot : Nat) (available : Bool)
  | process (event : Backend.Process.Event)
  /-- The call of `ReceiveAndDiscard` returns to its `GdsPut`. -/
  | returns (id : Nat)

def elsewhere (world : World) : Cluster.Event → Bool
  | .receive _ _ => false
  | .deliver index _ _ =>
      match world.network[index]? with
      | some (.gdsPut _ _) => false
      | _ => true
  | _ => true

/-- The `GdsPut` that made the call has not been answered. -/
def unanswered (deployment : Deployment) (entry : Nat × Nat) : Bool :=
  (deployment.world.executions entry.1).any fun execution => !execution.answered

/-- `GdsPut`s begin by `accept` only, and to `Join` they are in progress up to the answer. -/
def admits (brpc : BrpcServer) (deployment : Deployment) : Backend.Process.Event → Bool
  | .receive event => Backend.Process.continues event
  | .proceed _ =>
      match deployment.process.stage with
      | .joining => brpc.joins (deployment.calls.countP deployment.unanswered)
      | _ => true
  | _ => true

/-- `GdsPut` up to its call of `ReceiveAndDiscard`. -/
def begins (brpc : BrpcServer) (deployment : Deployment) (slot : Nat) (available : Bool) (execution : Execution) :
    Option Deployment :=
  let call := callOf execution.request
  match gdsPutError { call.server with available } execution.request with
  | some error =>
      some { deployment with world := deployment.world.finish slot execution (.error error) }
  | none =>
      (deployment.process.advance brpc
        (.receive (.call call.objectId call.rdmaToken call.length))).map
        fun process => {
          deployment with
          process
          calls := (slot, deployment.process.receives.calls.length) :: deployment.calls }

def accept (brpc : BrpcServer) (deployment : Deployment) (index slot : Nat) (available : Bool) :
    Option Deployment :=
  match deployment.process.stage, deployment.world.network[index]? with
  | .serving, some (.gdsPut caller request) =>
      if (deployment.world.executions slot).isNone then
        let world := { deployment.world with network := deployment.world.network.eraseIdx index }
        { deployment with world := world.setExecution slot { caller, request } }.begins brpc slot
          available { caller, request }
      else none
  | _, _ => none

def returns (deployment : Deployment) (id : Nat) : Option Deployment :=
  (deployment.calls.lookup id).bind fun index =>
    (deployment.process.receives.calls[index]?).bind fun call =>
      (deployment.world.executions id).bind fun execution =>
        match execution.stage, call.stage with
        | .receiving, .returned outcome =>
            some { deployment with
              world := deployment.world.replied id execution
                (serve deployment.world.backend execution.request outcome) }
        | _, _ => none

def advance (brpc : BrpcServer) (deployment : Deployment) : Event → Option Deployment
  | .world event =>
      if elsewhere deployment.world event then
        (deployment.world.advance event).map fun world => { deployment with world }
      else none
  | .accept index slot available => deployment.accept brpc index slot available
  | .process event =>
      if deployment.admits brpc event then
        (deployment.process.advance brpc event).map fun process => { deployment with process }
      else none
  | .returns id => deployment.returns id

/-- The sink and the service are given the same flag. -/
def system (brpc : BrpcServer) : System Deployment Event :=
  .ofAdvance (fun deployment => World.system.initial deployment.world ∧
    (Backend.Process.system brpc).initial deployment.process ∧ deployment.calls = [] ∧
    deployment.process.receives.sink.computeCrc32c = deployment.world.backend.computeCrc32c)
    (advance brpc)

end Deployment

/-! ## The executions -/

variable {brpc : BrpcServer} {world after : World} {id : Nat} {execution : Execution} {service : DataPlaneService}
  {request : GdsChunkRequest} {call moved : Receive} {outcome : DiscardOutcome} {served : Served}

/-- The execution of a `GdsPut` does not go on, or ends after its report. -/
inductive Proceeded (execution : Execution) : Execution → Prop where
  | same : Proceeded execution execution
  | notified (served : Served) (stage : execution.stage = .notifying served) :
      Proceeded execution { execution with stage := .done (.ok served) }

theorem resume_executions {session : String} {reply : Client.Reply}
    (resumed : world.resume session reply = some after) : after.executions = world.executions := by
  obtain ⟨put, _, rfl⟩ := Option.map_eq_some_iff.mp resumed
  rfl

theorem same_executions (same : after.executions id = world.executions id) :
    Option.Rel Proceeded (world.executions id) (after.executions id) := by
  rw [same]
  cases world.executions id with
  | none => exact .none
  | some execution => exact .some .same

theorem notified_executions {finished : Nat} (notified : world.notified finished = some after)
    (id : Nat) : Option.Rel Proceeded (world.executions id) (after.executions id) := by
  obtain ⟨execution, found, rfl⟩ := Option.map_eq_some_iff.mp notified
  split
  · rename_i served stage
    by_cases own : id = finished
    · subst own
      simp only [World.finish, World.send, setExecution_executions, if_true, found]
      exact .some (.notified served stage)
    · refine same_executions ?_
      simp only [World.finish, World.send, setExecution_executions, if_neg own]
  · exact same_executions rfl

theorem handle_executions {now : Int} {slot : Nat} {message : Message}
    (other : ∀ caller request, message ≠ .gdsPut caller request)
    (handled : world.handle now slot message = some after) (id : Nat) :
    Option.Rel Proceeded (world.executions id) (after.executions id) := by
  cases message with
  | openSession request =>
      cases handled
      exact same_executions rfl
  | gdsPut caller request => exact absurd rfl (other caller request)
  | reportGdsPut execution request =>
      cases handled
      exact same_executions rfl
  | reportGdsPutReply execution response => exact notified_executions handled id
  | abortSession request =>
      cases handled
      exact same_executions rfl
  | openSessionReply session reply | gdsPutReply session reply | abortSessionReply session reply =>
      exact same_executions (congrFun (resume_executions handled) id)

theorem elsewhere_executions {event : Cluster.Event} (apart : Deployment.elsewhere world event = true)
    (advanced : world.advance event = some after) (id : Nat) :
    Option.Rel Proceeded (world.executions id) (after.executions id) := by
  cases event with
  | start options request buffer out requestValue sessionValue =>
      simp only [World.advance] at advanced
      split at advanced
      · cases advanced
        exact same_executions rfl
      · cases advanced
  | acquired session manager library =>
      obtain ⟨put, _, resumed⟩ := Option.bind_eq_some_iff.mp advanced
      exact same_executions (congrFun (resume_executions resumed) id)
  | copied session host => exact same_executions (congrFun (resume_executions advanced) id)
  | timeout session error =>
      obtain ⟨put, _, rest⟩ := Option.bind_eq_some_iff.mp advanced
      obtain ⟨reply, _, resumed⟩ := Option.bind_eq_some_iff.mp rest
      exact same_executions (congrFun (resume_executions resumed) id)
  | otherGdsPut request =>
      simp only [World.advance] at advanced
      split at advanced
      · cases advanced
        exact same_executions rfl
      · cases advanced
  | deliver index now slot =>
      obtain ⟨message, found, handled⟩ := Option.bind_eq_some_iff.mp advanced
      refine handle_executions ?_ handled id
      rintro caller request rfl
      simp [Deployment.elsewhere, found] at apart
  | lose index =>
      simp only [World.advance] at advanced
      split at advanced
      · cases advanced
        exact same_executions rfl
      · cases advanced
  | duplicate index =>
      obtain ⟨message, _, rfl⟩ := Option.map_eq_some_iff.mp advanced
      exact same_executions rfl
  | receive execution server => cases apart
  | reportTimeout execution => exact notified_executions advanced id

theorem Proceeded.same_request {next : Execution} (proceeded : Proceeded execution next) :
    next.request = execution.request := by
  cases proceeded <;> rfl

theorem Proceeded.same_served {next : Execution} (proceeded : Proceeded execution next) :
    next.served = execution.served := by
  cases proceeded with
  | same => rfl
  | notified served stage => simp [Execution.served, stage]

theorem Proceeded.answered {next : Execution} (proceeded : Proceeded execution next)
    (answered : execution.answered = true) : next.answered = true := by
  cases proceeded with
  | same => exact answered
  | notified served stage => rfl

/-- After the call has returned: where the execution stands. -/
theorem replied_executions (world : World) (id : Nat) (execution : Execution)
    (result : RpcResult Served) :
    ∃ stage, (world.replied id execution result).executions =
        (world.setExecution id { execution with stage }).executions ∧
      ∀ served, { execution with stage }.served = some served → result = .ok served := by
  cases result with
  | error error => exact ⟨.done (.error error), rfl, nofun⟩
  | ok served =>
      rw [World.replied]
      split
      · refine ⟨.done (.ok served), rfl, fun other brought => ?_⟩
        rw [Option.some.inj brought]
      · refine ⟨.notifying served, rfl, fun other brought => ?_⟩
        rw [Option.some.inj brought]

theorem replied_backend (result : RpcResult Served) :
    (world.replied id execution result).backend = world.backend := by
  cases result with
  | error error => rfl
  | ok served =>
      rw [World.replied]
      split <;> rfl

theorem receive_replied {server : Server} (found : world.executions id = some execution)
    (receiving : execution.stage = .receiving) :
    world.receive id server =
      some (world.replied id execution (world.backend.gdsPut server execution.request)) := by
  simp only [World.receive, found, receiving]
  cases world.backend.gdsPut server execution.request with
  | error error => rfl
  | ok served =>
      simp only [World.replied]
      split <;> simp [*]

/-- A call that returned its outcome is a `GdsPut` in one step. -/
theorem serve_eq {server : Server} (checked : gdsPutError server request = none)
    (received : outcome = service.receive server request) :
    serve service request outcome = service.gdsPut server request := by
  subst received
  simp only [serve, DataPlaneService.gdsPut, checked]

theorem serve_ok (accepted : serve service request outcome = .ok served) :
    outcome.ok = true ∧ served.outcome = outcome := by
  rw [serve] at accepted
  split at accepted
  · rename_i ok
    cases accepted
    exact ⟨ok, rfl⟩
  · cases accepted

/-! ## What links the two -/

/-- The call received what `outcome` reports, into a buffer of its own. -/
structure Delivered (computes : Bool) (call : Receive) (outcome : DiscardOutcome) : Prop where
  returned : call.stage = .returned outcome
  empty : call.length = 0 → outcome.bytesTransferred = 0 ∧ outcome.crc32c = 0
  transferred : call.length ≠ 0 → ∃ answer, call.put = some answer ∧
    outcome.bytesTransferred = answer.transferred.toUInt64 ∧
    answer.bytes.length = outcome.bytesTransferred.toNat ∧
    (computes = true → outcome.crc32c = crc32c answer.bytes)

/-- `call` is the call of the execution. -/
structure Answers (service : DataPlaneService) (call : Receive) (execution : Execution) : Prop where
  arguments : call.arguments = (callOf execution.request).arguments
  checked : gdsPutError call.server execution.request = none
  served : ∀ served, execution.served = some served →
    Delivered service.computeCrc32c call served.outcome

/-- Whether the process is past `Join`, or never came to it. -/
def Joined (process : Backend.Process) : Prop :=
  match process.stage with
  | .serving | .joining => False
  | _ => True

structure Linked (deployment : Deployment) : Prop where
  process : deployment.process.Valid
  computes : deployment.process.receives.sink.computeCrc32c = deployment.world.backend.computeCrc32c
  calls : ∀ {id index : Nat}, deployment.calls.lookup id = some index →
    ∃ call execution, deployment.process.receives.calls[index]? = some call ∧
      deployment.world.executions id = some execution ∧
      Answers deployment.world.backend call execution
  executions : ∀ {id execution}, deployment.world.executions id = some execution →
    (∃ index, deployment.calls.lookup id = some index) ∨
      ∃ error, execution.stage = .done (.error error)
  joined : Joined deployment.process → ∀ {id execution},
    deployment.world.executions id = some execution → execution.answered = true

theorem Answers.kept (answers : Answers service call execution) (kept : Backend.Kept call moved) :
    Answers service moved execution where
  arguments := kept.arguments.trans answers.arguments
  checked := answers.checked
  served := by
    intro served brought
    have delivered := answers.served served brought
    rw [kept.returned _ delivered.returned]
    exact delivered

theorem Answers.proceeded {next : Execution} (answers : Answers service call execution)
    (proceeded : Proceeded execution next) : Answers service call next where
  arguments := by rw [proceeded.same_request, answers.arguments]
  checked := by rw [proceeded.same_request, answers.checked]
  served := by
    rw [proceeded.same_served]
    exact answers.served

theorem delivered {sink : BackendGdsSink} (valid : call.Valid sink)
    (returned : call.stage = .returned outcome) (ok : outcome.ok = true) :
    Delivered sink.computeCrc32c call outcome where
  returned := returned
  empty := by
    intro empty
    rw [Receive.Valid, returned] at valid
    rw [valid.2.outcome, Receive.expected_empty empty]
    exact ⟨rfl, rfl⟩
  transferred := by
    intro nonempty
    rw [Receive.Valid, returned] at valid
    obtain ⟨_, settled⟩ := valid
    obtain ⟨answer, put, bytes, crc⟩ := settled.transferred ok nonempty
    have transfers := settled.outcome ▸ ok
    have received := ((receiveAndDiscard_ok transfers).resolve_left nonempty).received
    simp only [Receive.server, put] at received
    exact ⟨answer, put, bytes, by rw [bytes, answer.written received], crc⟩

namespace Deployment

variable {before deployment : Deployment} {process : Backend.Process}

theorem joins {event : Backend.Process.Event}
    (advanced : before.process.advance brpc event = some process) (joined : Joined process) :
    Joined before.process ∨ before.process.stage = .joining ∧ ∃ success, event = .proceed success := by
  cases stage : before.process.stage with
  | serving =>
      cases event with
      | receive event =>
          simp only [Backend.Process.advance, stage] at advanced
          split at advanced
          · obtain ⟨next, _, rfl⟩ := Option.map_eq_some_iff.mp advanced
            simp [Joined, stage] at joined
          · cases advanced
      | signal =>
          simp only [Backend.Process.advance, stage, Option.some.injEq] at advanced
          subst advanced
          exact joined.elim
      | _ => simp [Backend.Process.advance, stage] at advanced
  | joining =>
      cases event with
      | receive event =>
          simp only [Backend.Process.advance, stage] at advanced
          split at advanced
          · obtain ⟨next, _, rfl⟩ := Option.map_eq_some_iff.mp advanced
            simp [Joined, stage] at joined
          · cases advanced
      | proceed success => exact .inr ⟨rfl, success, rfl⟩
      | _ => simp [Backend.Process.advance, stage] at advanced
  | _ => simp [Joined, stage]

inductive Returned (before : Deployment) (id : Nat) : Deployment → Prop where
  | intro (index : Nat) (call : Receive) (execution : Execution) (outcome : DiscardOutcome)
      (called : before.calls.lookup id = some index)
      (made : before.process.receives.calls[index]? = some call)
      (found : before.world.executions id = some execution)
      (receiving : execution.stage = .receiving) (ended : call.stage = .returned outcome) :
      Returned before id { before with
        world := before.world.replied id execution
          (serve before.world.backend execution.request outcome) }

theorem returned {next : Deployment} (advanced : before.returns id = some next) :
    Returned before id next := by
  obtain ⟨index, called, advanced⟩ := Option.bind_eq_some_iff.mp advanced
  obtain ⟨call, made, advanced⟩ := Option.bind_eq_some_iff.mp advanced
  obtain ⟨execution, found, advanced⟩ := Option.bind_eq_some_iff.mp advanced
  split at advanced
  · rename_i outcome receiving ended
    cases advanced
    exact .intro index call execution outcome called made found receiving ended
  · cases advanced

/-- The world in which a `GdsPut` has just arrived. -/
def arrived (world : World) (index slot : Nat) (execution : Execution) : World :=
  { world with network := world.network.eraseIdx index }.setExecution slot execution

inductive Accepted (brpc : BrpcServer) (before : Deployment) (index slot : Nat) (available : Bool)
    (execution : Execution) : Deployment → Prop where
  | refused (error : RpcError)
      (checked : gdsPutError { (callOf execution.request).server with available } execution.request =
        some error) :
      Accepted brpc before index slot available execution { before with
        world := (arrived before.world index slot execution).finish slot execution (.error error) }
  | calls (process : Backend.Process)
      (checked : gdsPutError { (callOf execution.request).server with available } execution.request =
        none)
      (stage : process.stage = before.process.stage)
      (made : process.receives.calls = before.process.receives.calls ++ [callOf execution.request])
      (advanced : before.process.advance brpc (.receive (.call (callOf execution.request).objectId
        execution.request.rdmaToken execution.request.chunkSize)) = some process) :
      Accepted brpc before index slot available execution {
        world := arrived before.world index slot execution
        process
        calls := (slot, before.process.receives.calls.length) :: before.calls }

theorem accepted {index slot : Nat} {available : Bool} {next : Deployment}
    (advanced : before.accept brpc index slot available = some next) :
    ∃ caller request, before.process.stage = .serving ∧
      before.world.network[index]? = some (.gdsPut caller request) ∧
      before.world.executions slot = none ∧
      Accepted brpc before index slot available { caller, request } next := by
  rw [accept] at advanced
  split at advanced
  · rename_i caller request stage found
    split at advanced
    · rename_i free
      refine ⟨caller, request, stage, found, Option.isNone_iff_eq_none.mp free, ?_⟩
      simp only [begins] at advanced
      split at advanced
      · rename_i error checked
        cases advanced
        exact .refused error checked
      · rename_i checked
        obtain ⟨process, begun, rfl⟩ := Option.map_eq_some_iff.mp advanced
        have opened := begun
        simp only [Backend.Process.advance, stage, Backend.Process.opens, Bool.true_or, if_true,
          Backend.Process.received, Receives.advance, Option.map_some, Option.some.injEq] at opened
        subst opened
        exact .calls _ checked stage.symm rfl begun
    · cases advanced
  · cases advanced

/-- In the cluster the `GdsPut` is delivered, and refused if it is. -/
theorem Accepted.run {index slot : Nat} {available : Bool} {next : Deployment}
    (accepted : Accepted brpc before index slot available execution next)
    (found : before.world.network[index]? = some (.gdsPut execution.caller execution.request))
    (free : before.world.executions slot = none) (receiving : execution.stage = .receiving) :
    ∃ events, World.system.Run before.world events next.world := by
  have delivered : before.world.advance (.deliver index 0 slot) =
      some (arrived before.world index slot execution) := by
    obtain ⟨caller, request, stage⟩ := execution
    cases receiving
    simp [World.advance, found, World.handle, free, arrived]
  cases accepted with
  | refused error checked =>
      have here : (arrived before.world index slot execution).executions slot = some execution := by
        simp [arrived, setExecution_executions]
      have refused : (arrived before.world index slot execution).receive slot
          { (callOf execution.request).server with available } =
            some ((arrived before.world index slot execution).finish slot execution (.error error)) := by
        rw [receive_replied here receiving, DataPlaneService.gdsPut, checked]
        rfl
      exact ⟨[.deliver index 0 slot, .receive slot _], .cons delivered (.cons refused (.nil _))⟩
  | calls process checked stage made advanced =>
      exact ⟨_, .cons delivered (.nil _)⟩

end Deployment

namespace Linked

open Deployment (elsewhere admits)

variable {before deployment : Deployment} {process : Backend.Process}

theorem world_step {event : Cluster.Event} (linked : Linked deployment)
    (apart : elsewhere deployment.world event = true)
    (advanced : deployment.world.advance event = some after) :
    Linked { deployment with world := after } where
  process := linked.process
  computes := by
    rw [linked.computes, (advance_effect advanced).backend]
  calls := by
    intro id index called
    obtain ⟨call, execution, made, found, answers⟩ := linked.calls called
    have proceeded := elsewhere_executions apart advanced id
    rw [found] at proceeded
    generalize reached : after.executions id = there at proceeded
    cases proceeded with
    | some proceeded =>
        refine ⟨call, _, made, rfl, ?_⟩
        rw [(advance_effect advanced).backend]
        exact answers.proceeded proceeded
  executions := by
    intro id execution found
    have proceeded := elsewhere_executions apart advanced id
    rw [found] at proceeded
    generalize reached : deployment.world.executions id = there at proceeded
    cases proceeded with
    | some proceeded =>
        rcases linked.executions reached with member | ⟨error, stage⟩
        · exact .inl member
        · cases proceeded with
          | same => exact .inr ⟨error, stage⟩
          | notified served notifying =>
              rw [stage] at notifying
              cases notifying
  joined := by
    intro joined id execution found
    have proceeded := elsewhere_executions apart advanced id
    rw [found] at proceeded
    generalize reached : deployment.world.executions id = there at proceeded
    cases proceeded with
    | some proceeded => exact proceeded.answered (linked.joined joined reached)

/-- What the calls answer stays so while the process goes on. -/
theorem process_step {event : Backend.Process.Event} (linked : Linked deployment)
    (admitted : deployment.admits brpc event = true)
    (advanced : deployment.process.advance brpc event = some process) :
    Linked { deployment with process } where
  process := Backend.Process.valid_invariant.step linked.process advanced
  computes := (Backend.process_onward advanced).computes.trans linked.computes
  calls := by
    intro id index called
    obtain ⟨call, execution, made, found, answers⟩ := linked.calls called
    obtain ⟨moved, there, kept⟩ := (Backend.process_onward advanced).calls made
    exact ⟨moved, execution, there, found, answers.kept kept⟩
  executions := linked.executions
  joined := by
    intro joined id execution found
    rcases Deployment.joins advanced joined with already | ⟨joining, success, rfl⟩
    · exact linked.joined already found
    · rcases linked.executions found with ⟨index, called⟩ | ⟨error, stage⟩
      · simp only [admits, joining] at admitted
        obtain ⟨earlier, later, split, _⟩ := List.lookup_eq_some_iff.mp called
        have none := List.countP_eq_zero.mp (brpc.waits admitted) (id, index) (by simp [split])
        rw [Deployment.unanswered, found] at none
        simpa using none
      · rw [Execution.answered, stage]

theorem accept_step {index slot : Nat} {available : Bool} (linked : Linked before)
    (serving : before.process.stage = .serving) (free : before.world.executions slot = none)
    (receiving : execution.stage = .receiving)
    (accepted : Deployment.Accepted brpc before index slot available execution deployment) :
    Linked deployment := by
  have elsewhere : ∀ id execution, before.world.executions id = some execution → id ≠ slot := by
    rintro id execution found rfl
    cases free.symm.trans found
  cases accepted with
  | refused error checked =>
      refine ⟨linked.process, linked.computes, ?_, ?_, ?_⟩
      · intro id index called
        obtain ⟨call, execution, made, found, answers⟩ := linked.calls called
        refine ⟨call, execution, made, ?_, answers⟩
        simpa [World.finish, World.send, Deployment.arrived, setExecution_executions,
          elsewhere id execution found] using found
      · intro id execution found
        simp only [World.finish, World.send, Deployment.arrived, setExecution_executions] at found
        split at found
        · cases found
          exact .inr ⟨error, rfl⟩
        · exact linked.executions found
      · intro joined
        simp [Joined, serving] at joined
  | calls process checked stage made advanced =>
      have onward := Backend.process_onward advanced
      refine ⟨Backend.Process.valid_invariant.step linked.process advanced,
        onward.computes.trans linked.computes, ?_, ?_, ?_⟩
      · intro id index called
        rw [List.lookup_cons] at called
        split at called
        · rename_i same
          cases called
          refine ⟨callOf execution.request, execution, ?_, ?_, rfl, ?_, ?_⟩
          · simp [made]
          · simp [Deployment.arrived, setExecution_executions, beq_iff_eq.mp same]
          · obtain ⟨single, token, _⟩ := gdsPutError_none.mp checked
            exact gdsPutError_none.mpr ⟨single, token, rfl⟩
          · intro served brought
            simp [Execution.served, receiving] at brought
        · obtain ⟨call, other, known, found, answers⟩ := linked.calls called
          obtain ⟨moved, there, kept⟩ := onward.calls known
          refine ⟨moved, other, there, ?_, answers.kept kept⟩
          simpa [Deployment.arrived, setExecution_executions, elsewhere id other found] using found
      · intro id other found
        simp only [Deployment.arrived, setExecution_executions] at found
        by_cases own : id = slot
        · exact .inl ⟨_, by rw [own, List.lookup_cons_self]⟩
        · rw [if_neg own] at found
          rcases linked.executions found with ⟨index, called⟩ | failed
          · refine .inl ⟨index, ?_⟩
            rw [List.lookup_cons, beq_false_of_ne own]
            exact called
          · exact .inr failed
      · intro joined
        simp [Joined, stage, serving] at joined

/-- A call whose execution still waits for it has its outcome from what it was answered. -/
theorem received {index : Nat} (linked : Linked deployment)
    (called : deployment.calls.lookup id = some index)
    (made : deployment.process.receives.calls[index]? = some call)
    (found : deployment.world.executions id = some execution)
    (receiving : execution.stage = .receiving) :
    call.Valid deployment.process.receives.sink ∧ Answers deployment.world.backend call execution := by
  obtain ⟨same, known, there, here, answers⟩ := linked.calls called
  cases made.symm.trans there
  cases found.symm.trans here
  refine ⟨?_, answers⟩
  have running : ¬ Joined deployment.process := by
    intro joined
    have answered := linked.joined joined found
    simp [Execution.answered, receiving] at answered
  have valid := linked.process
  cases stage : deployment.process.stage with
  | serving | joining =>
      rw [Backend.Process.Valid, stage] at valid
      exact valid.good.valid call (List.mem_of_getElem? made)
  | _ => simp [Joined, stage] at running

theorem outcome_eq {index : Nat} (linked : Linked deployment)
    (called : deployment.calls.lookup id = some index)
    (made : deployment.process.receives.calls[index]? = some call)
    (found : deployment.world.executions id = some execution)
    (receiving : execution.stage = .receiving) (ended : call.stage = .returned outcome) :
    serve deployment.world.backend execution.request outcome =
      deployment.world.backend.gdsPut call.server execution.request := by
  obtain ⟨valid, answers⟩ := linked.received called made found receiving
  refine serve_eq answers.checked ?_
  rw [Receive.Valid, ended] at valid
  have arguments := answers.arguments
  simp only [Receive.arguments, callOf, Prod.mk.injEq] at arguments
  obtain ⟨objectId, rdmaToken, length⟩ := arguments
  rw [valid.2.outcome, Receive.expected, objectId, rdmaToken, length, linked.computes]
  rfl

/-- A call that returns is a whole `receive` of the cluster. -/
theorem return_receives (linked : Linked before)
    (returned : Deployment.Returned before id deployment) :
    ∃ server, before.world.receive id server = some deployment.world := by
  obtain ⟨index, call, execution, outcome, called, made, found, receiving, ended⟩ := returned
  refine ⟨call.server, ?_⟩
  rw [receive_replied found receiving, linked.outcome_eq called made found receiving ended]

theorem return_step (linked : Linked before) (returned : Deployment.Returned before id deployment) :
    Linked deployment := by
  obtain ⟨index, call, execution, outcome, called, made, found, receiving, ended⟩ := returned
  obtain ⟨valid, answers⟩ := linked.received called made found receiving
  generalize result : serve before.world.backend execution.request outcome = reply
  obtain ⟨stage, same, brought⟩ := replied_executions before.world id execution reply
  refine ⟨linked.process, ?_, ?_, ?_, ?_⟩
  · simp only [replied_backend]
    exact linked.computes
  · intro other place known
    simp only [replied_backend, same, setExecution_executions]
    by_cases own : other = id
    · subst own
      cases called.symm.trans known
      refine ⟨call, _, made, if_pos rfl, answers.arguments, answers.checked, fun served here => ?_⟩
      obtain ⟨ok, own⟩ := serve_ok (result.trans (brought served here))
      rw [own, ← linked.computes]
      exact delivered valid ended ok
    · rw [if_neg own]
      exact linked.calls known
  · intro other next reached
    simp only [same, setExecution_executions] at reached
    by_cases own : other = id
    · exact .inl ⟨index, own ▸ called⟩
    · rw [if_neg own] at reached
      exact linked.executions reached
  · intro joined
    have answered := linked.joined joined found
    simp [Execution.answered, receiving] at answered

theorem initial (initial : (Deployment.system brpc).initial deployment) : Linked deployment := by
  obtain ⟨world, process, calls, computes⟩ := initial
  refine ⟨Backend.Process.valid_invariant.initial process, computes, ?_, ?_, ?_⟩
  · intro id index called
    rw [calls] at called
    cases called
  · intro id execution found
    exact absurd found (initial_executions world)
  · intro joined id execution found
    exact absurd found (initial_executions world)

end Linked

/-! ## The process in the cluster -/

namespace Deployment

variable {before after deployment : Deployment} {events : List Event} {key : String}
  {session : Proxy.Session}

/-- What the process does between the arrival and the return of a call is no step of the cluster. -/
theorem simulation : (system brpc).Simulation World.system fun deployment world =>
    world = deployment.world ∧ Linked deployment where
  initial initial := ⟨_, initial.1, rfl, .initial initial⟩
  step := by
    rintro before event after _ ⟨rfl, linked⟩ advanced
    cases event with
    | world event =>
        simp only [system, System.ofAdvance, advance] at advanced
        split at advanced
        · rename_i apart
          obtain ⟨world, moved, rfl⟩ := Option.map_eq_some_iff.mp advanced
          exact ⟨[event], world, .cons moved (.nil _), rfl, linked.world_step apart moved⟩
        · cases advanced
    | accept index slot available =>
        obtain ⟨caller, request, serving, found, free, accepted⟩ := accepted advanced
        obtain ⟨events, run⟩ := accepted.run found free rfl
        exact ⟨events, _, run, rfl, linked.accept_step serving free rfl accepted⟩
    | process event =>
        simp only [system, System.ofAdvance, advance] at advanced
        split at advanced
        · rename_i admitted
          obtain ⟨process, moved, rfl⟩ := Option.map_eq_some_iff.mp advanced
          exact ⟨[], _, .nil _, rfl, linked.process_step admitted moved⟩
        · cases advanced
    | returns id =>
        have moved := returned advanced
        obtain ⟨server, received⟩ := linked.return_receives moved
        exact ⟨[.receive id server], _, .cons received (.nil _), rfl, linked.return_step moved⟩

theorem linked_reachable (reachable : (system brpc).Reachable deployment) : Linked deployment := by
  obtain ⟨world, _, rfl, linked⟩ := simulation.reachable reachable
  exact linked

theorem world_reachable (reachable : (system brpc).Reachable deployment) :
    World.system.Reachable deployment.world := by
  obtain ⟨world, reached, rfl, _⟩ := simulation.reachable reachable
  exact reached

/-! ## A PUT of four bytes -/

def launched : Deployment where
  world := { proxy := Proxy.defaultProxy }
  process := Backend.Process.launched

theorem launched_initial : (system brpc).initial launched :=
  ⟨started_initial, Backend.Process.launched_initial, rfl, rfl⟩

def stepping (count : Nat) : List Event := List.replicate count (.process (.receive (.step 0 true)))

def receiving : List Event :=
  .process (.listen true) :: ((putEvents 4).take 4).map .world ++
    .accept 0 0 true :: stepping 6 ++ .process (.receive (.transfer 0 Receives.fourBytes)) ::
      stepping 5 ++ [.returns 0, .world (.deliver 0 0 0)]

theorem receiving_completes : ∃ deployment, (system .whenIdle).Run launched receiving deployment ∧
    ∃ session, deployment.world.proxy.lookup sessionTwo = some session ∧
      session.status = .completed ∧ session.bytesTransferred = 4 := by
  let outcome := System.replay (advance .whenIdle) launched receiving
  obtain ⟨deployment, replayed⟩ : ∃ deployment, outcome = some deployment := ⟨_, rfl⟩
  have record : (outcome.bind fun deployment => deployment.world.proxy.lookup sessionTwo).map
      (fun session => (session.status, session.bytesTransferred)) = some (.completed, 4) := rfl
  rw [replayed, Option.bind_some] at record
  obtain ⟨session, found, fields⟩ := Option.map_eq_some_iff.mp record
  rw [Prod.mk.injEq] at fields
  exact ⟨deployment, .of_replay replayed, session, found, fields.1, fields.2⟩

/-- Whatever the process does, to the clients and the proxy it is the backend that receives
each chunk in one step. -/
theorem process_refines (reachable : (system brpc).Reachable before)
    (run : (system brpc).Run before events after) :
    World.system.Reachable before.world ∧
      ∃ steps, World.system.Run before.world steps after.world := by
  obtain ⟨steps, world, reached, rfl, _⟩ :=
    simulation.run ⟨rfl, linked_reachable reachable⟩ run
  exact ⟨world_reachable reachable, steps, reached⟩

theorem receiving_refines : ∃ (deployment : Deployment) (steps : List Cluster.Event),
    World.system.Run launched.world steps deployment.world ∧
      ∃ session, deployment.world.proxy.lookup sessionTwo = some session ∧
        session.status = .completed := by
  obtain ⟨deployment, run, session, found, done, _⟩ := receiving_completes
  obtain ⟨_, steps, reached⟩ := process_refines (.of_initial launched_initial) run
  exact ⟨deployment, steps, reached, session, found, done⟩

/-- The record of a completed session shows what one call of its own `GdsPut` transferred,
down to the bytes, however many calls shared the sink with it. -/
theorem completed_bytes (reachable : (system brpc).Reachable deployment)
    (found : deployment.world.proxy.lookup key = some session)
    (done : session.status = .completed) :
    ∃ id index execution call outcome, deployment.world.executions id = some execution ∧
      deployment.calls.lookup id = some index ∧
      deployment.process.receives.calls[index]? = some call ∧
      execution.request.sessionId = key ∧
      call.arguments = (callOf execution.request).arguments ∧
      call.stage = .returned outcome ∧
      session.bytesTransferred = outcome.bytesTransferred ∧
      session.crc32c = outcome.crc32c ∧
      session.etag = Backend.buildEtag outcome.crc32c ∧
      (call.length = 0 → outcome.bytesTransferred = 0 ∧ outcome.crc32c = 0) ∧
      (call.length ≠ 0 → ∃ answer, call.put = some answer ∧
        answer.bytes.length = outcome.bytesTransferred.toNat ∧
        (deployment.world.backend.computeCrc32c = true → outcome.crc32c = crc32c answer.bytes)) := by
  have linked := linked_reachable reachable
  have consistent := consistent_invariant.reachable (world_reachable reachable)
  obtain ⟨report, ⟨id, execution, served, known, brought, rfl⟩, name, etag, crc, bytes⟩ :=
    consistent.completed found done
  rcases linked.executions known with ⟨index, called⟩ | ⟨error, stage⟩
  · obtain ⟨call, _, made, same, answers⟩ := linked.calls called
    cases known.symm.trans same
    have delivered := answers.served served brought
    refine ⟨id, index, execution, call, served.outcome, known, called, made, name, answers.arguments,
      delivered.returned, bytes, crc, etag, delivered.empty, fun nonempty => ?_⟩
    obtain ⟨answer, put, _, written, checksum⟩ := delivered.transferred nonempty
    exact ⟨answer, put, written, checksum⟩
  · simp [Execution.served, stage] at brought

theorem received_bytes : ∃ (deployment : Deployment) (index : Nat) (call : Receive) (answer : PutAnswer),
    deployment.process.receives.calls[index]? = some call ∧ call.put = some answer ∧
      answer.bytes.length = 4 := by
  obtain ⟨deployment, run, session, found, done, four⟩ := receiving_completes
  obtain ⟨_, index, _, call, outcome, _, _, made, _, _, _, bytes, _, _, empty, transferred⟩ :=
    completed_bytes ⟨launched, receiving, launched_initial, run⟩ found done
  have nonempty : call.length ≠ 0 := by
    intro none
    rw [four, (empty none).1] at bytes
    cases bytes
  obtain ⟨answer, put, written, _⟩ := transferred nonempty
  refine ⟨deployment, index, call, answer, made, put, ?_⟩
  rw [written, ← bytes, four]
  rfl

end Deployment

end Us3Turbo.Cluster
