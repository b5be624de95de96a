import Us3Turbo.Cluster.Provenance
import Us3Turbo.Data.Load
import Us3Turbo.Transition.Potential

/-! # How many messages a PUT can cause

An attempt makes three calls at most, an execution one report, and every call
gets one answer.  The work that is left is what the messages under way, the
attempts and the executions may still cause; no loss, delay or timeout adds to it.
-/

namespace Us3Turbo.Cluster

open Us3Turbo.Data Us3Turbo.Proto Us3Turbo.Client Us3Turbo.Transition
open Us3Turbo.Backend (Served Server)

variable {before after world : World} {event : Event} {events : List Event} {put : PutOnce}
  {session : String} {id : Nat} {execution : Execution} {messages : List Message}
  {message : Message}

/-- The messages still to be handled on account of one under way, with itself. -/
def Message.work : Message → Nat
  | .openSession _ => 2
  | .gdsPut _ _ => 4
  | .reportGdsPut _ _ => 2
  | .abortSession _ => 2
  | .openSessionReply _ _ => 1
  | .gdsPutReply _ _ => 1
  | .reportGdsPutReply _ _ => 1
  | .abortSessionReply _ _ => 1

/-- Those on account of the calls an attempt has yet to make. -/
def attemptWork (put : PutOnce) : Nat :=
  match put.stage with
  | .opening | .acquiring => 6
  | .putting | .copying => 2
  | .aborting | .returned _ => 0

def executionWork (execution : Execution) : Nat :=
  match execution.stage with
  | .receiving => 3
  | .notifying _ => 1
  | .done _ => 0

def networkWork (messages : List Message) : Nat := (messages.map Message.work).sum

noncomputable def World.work (world : World) : Nat :=
  networkWork world.network + load attemptWork world.attempts + load executionWork world.executions

structure Finite (world : World) : Prop where
  attempts : (domain world.attempts).Finite
  executions : (domain world.executions).Finite

theorem Message.work_pos : 1 ≤ message.work := by
  cases message <;> simp [work]

theorem Message.work_le : message.work ≤ 4 := by
  cases message <;> simp [work]

@[simp] theorem networkWork_nil : networkWork [] = 0 := rfl

@[simp] theorem networkWork_cons :
    networkWork (message :: messages) = message.work + networkWork messages := by
  simp [networkWork]

@[simp] theorem networkWork_append {more : List Message} :
    networkWork (messages ++ more) = networkWork messages + networkWork more := by
  simp [networkWork]

theorem length_le_networkWork : messages.length ≤ networkWork messages := by
  induction messages with
  | nil => simp
  | cons message messages ih =>
      have positive : 1 ≤ message.work := message.work_pos
      rw [List.length_cons, networkWork_cons]
      omega

theorem networkWork_eraseIdx {index : Nat} (found : messages[index]? = some message) :
    message.work + networkWork (messages.eraseIdx index) = networkWork messages := by
  obtain ⟨bound, rfl⟩ := List.getElem?_eq_some_iff.mp found
  have order := List.getElem_cons_eraseIdx_perm bound
  rw [← networkWork_cons, networkWork, networkWork, (order.map Message.work).sum_eq]

/-! ## The parts of a step -/

section Parts

variable (finite : Finite world)
include finite

theorem setAttempt_work (session : String) (put : PutOnce) :
    (world.setAttempt session put).work + (world.attempts session).elim 0 attemptWork =
      world.work + attemptWork put := by
  have update := load_update attemptWork session put finite.attempts
  simp only [World.work, World.setAttempt]
  omega

theorem setExecution_work (id : Nat) (execution : Execution) :
    (world.setExecution id execution).work + (world.executions id).elim 0 executionWork =
      world.work + executionWork execution := by
  have update := load_update executionWork id execution finite.executions
  simp only [World.work, World.setExecution]
  omega

theorem Finite.setAttempt : Finite (world.setAttempt session put) :=
  ⟨finite_update finite.attempts, finite.executions⟩

theorem Finite.setExecution : Finite (world.setExecution id execution) :=
  ⟨finite.attempts, finite_update finite.executions⟩

end Parts

theorem send_work : (world.send messages).work = world.work + networkWork messages := by
  simp only [World.work, World.send, networkWork_append]
  omega

theorem Finite.send (finite : Finite world) : Finite (world.send messages) :=
  ⟨finite.attempts, finite.executions⟩

/-- An attempt sends what it was still expected to send. -/
theorem resume_work (put : PutOnce) (reply : Client.Reply) :
    attemptWork (put.resume reply) +
      networkWork (if (put.resume reply).stage = put.stage then [] else sent (put.resume reply)) ≤
      attemptWork put := by
  have turn := PutOnce.resume_turn put reply
  generalize put.resume reply = next at turn ⊢
  cases turn with
  | same => simp
  | granted response opening => simp [attemptWork, opening, sent, PutOnce.issued]
  | acquired token acquiring =>
      simp [attemptWork, acquiring, sent, PutOnce.issued, Message.work]
  | answered response putting =>
      cases verify : put.options.verifyCrc32c <;>
        simp [attemptWork, putting, PutOnce.onGdsPut, verify, sent, PutOnce.issued]
  | verified copying => simp [attemptWork, copying, sent, PutOnce.issued]
  | aborts begun waiting =>
      cases stage : put.stage with
      | opening => exact absurd stage begun
      | returned result => exact absurd stage (waiting result)
      | _ => simp [attemptWork, stage, sent, PutOnce.issued, Message.work]
  | fails waiting =>
      cases stage : put.stage with
      | returned result => exact absurd stage (waiting result)
      | _ => simp [attemptWork, sent, PutOnce.issued]

/-! ## What a step does to the work that is left -/

/-- A step leaves at most `bound` of work, and the tables finite. -/
structure Leaves (after : World) (bound : Nat) : Prop where
  work : after.work ≤ bound
  finite : Finite after

theorem leaves_resume {reply : Client.Reply} (finite : Finite world)
    (resumed : world.resume session reply = some after) : Leaves after world.work := by
  obtain ⟨put, known, rfl⟩ := Option.map_eq_some_iff.mp resumed
  have set := setAttempt_work finite session (put.resume reply)
  have turn := resume_work put reply
  rw [known, Option.elim_some] at set
  refine ⟨?_, finite.setAttempt.send⟩
  rw [send_work]
  omega

theorem answer_work (execution : Execution) (result : RpcResult Served) :
    networkWork (answer execution result) ≤ 1 := by
  unfold answer
  split <;> simp [Message.work]

theorem leaves_finish {result : RpcResult Served} (finite : Finite world)
    (known : world.executions id = some execution) (live : 1 ≤ executionWork execution) :
    Leaves (world.finish id execution result) world.work := by
  have set := setExecution_work finite id { execution with stage := .done result }
  have answered := answer_work execution result
  have done : executionWork { execution with stage := .done result } = 0 := rfl
  rw [known, Option.elim_some] at set
  refine ⟨?_, finite.setExecution.send⟩
  rw [World.finish, send_work]
  omega

theorem leaves_notified (finite : Finite world) (notified : world.notified id = some after) :
    Leaves after world.work := by
  obtain ⟨execution, known, result⟩ := Option.map_eq_some_iff.mp notified
  split at result
  · rename_i served notifying
    rw [← result]
    exact leaves_finish finite known (by simp [executionWork, notifying])
  · rw [← result]
    exact ⟨le_refl _, finite⟩

theorem leaves_receive {server : Server} (finite : Finite world)
    (received : world.receive id server = some after) : Leaves after world.work := by
  unfold World.receive at received
  split at received
  next execution known =>
    split at received
    next receiving =>
      have live : executionWork execution = 3 := by simp [executionWork, receiving]
      split at received
      next error _ =>
        rw [Option.some.injEq] at received
        rw [← received]
        exact leaves_finish finite known (by omega)
      next served _ =>
        split at received
        next =>
          rw [Option.some.injEq] at received
          rw [← received]
          exact leaves_finish finite known (by omega)
        next report _ =>
          rw [Option.some.injEq] at received
          rw [← received]
          have set := setExecution_work finite id
            { execution with stage := .notifying served }
          have notifying : executionWork { execution with stage := .notifying served } = 1 := rfl
          rw [known, Option.elim_some] at set
          refine ⟨?_, finite.setExecution.send⟩
          rw [send_work, networkWork_cons, networkWork_nil, Message.work]
          omega
    next => cases received
  next => cases received

/-- A message that is handled causes no more than was expected of it. -/
theorem leaves_handle {now : Int} {slot : Nat} (finite : Finite world)
    (handled : world.handle now slot message = some after) :
    Leaves after (world.work + message.work - 1) := by
  have resumes {session : String} {reply : Client.Reply} (single : message.work = 1)
      (resumed : world.resume session reply = some after) :
      Leaves after (world.work + message.work - 1) := by
    rw [single]
    exact leaves_resume finite resumed
  cases message with
  | openSession request =>
      rw [World.handle, Option.some.injEq] at handled
      rw [← handled]
      refine ⟨?_, Finite.send ⟨finite.attempts, finite.executions⟩⟩
      rw [send_work]
      simp [World.work, Message.work]
  | openSessionReply session reply => exact resumes rfl handled
  | gdsPut caller request =>
      rw [World.handle] at handled
      split at handled
      · rename_i free
        rw [Option.some.injEq] at handled
        rw [← handled]
        have set := setExecution_work finite slot { caller, request }
        have receiving : executionWork { caller, request } = 3 := rfl
        rw [Option.isNone_iff_eq_none.mp free, Option.elim_none] at set
        refine ⟨?_, finite.setExecution⟩
        simp only [Message.work]
        omega
      · cases handled
  | gdsPutReply session reply => exact resumes rfl handled
  | reportGdsPut id request =>
      rw [World.handle, Option.some.injEq] at handled
      rw [← handled]
      refine ⟨?_, Finite.send ⟨finite.attempts, finite.executions⟩⟩
      rw [send_work]
      simp [World.work, Message.work]
  | reportGdsPutReply id response =>
      have left := leaves_notified finite handled
      exact ⟨left.work, left.finite⟩
  | abortSession request =>
      rw [World.handle, Option.some.injEq] at handled
      rw [← handled]
      refine ⟨?_, Finite.send ⟨finite.attempts, finite.executions⟩⟩
      rw [send_work]
      simp [Message.work]
  | abortSessionReply session reply => exact resumes rfl handled

theorem taken_work {index : Nat} (found : world.network[index]? = some message) :
    { world with network := world.network.eraseIdx index }.work + message.work = world.work := by
  have erased := networkWork_eraseIdx found
  simp only [World.work]
  omega

/-! ## Over a run -/

/-- A step that takes a message off the network. -/
def Event.takes : Event → Bool
  | .deliver _ _ _ | .lose _ => true
  | _ => false

def Event.starts : Event → Bool
  | .start _ _ _ _ _ _ => true
  | _ => false

/-- A step that puts a message on the network which no attempt or server sends. -/
def Event.adds : Event → Bool
  | .duplicate _ | .otherGdsPut _ => true
  | _ => false

def Event.cost (event : Event) : Nat := if event.takes then 1 else 0

def Event.gain (event : Event) : Nat :=
  if event.starts then 8 else if event.adds then 4 else 0

theorem leaves_advance (finite : Finite before) (advanced : before.advance event = some after) :
    after.work + event.cost ≤ before.work + event.gain ∧ Finite after := by
  have quiet (left : Leaves after before.work) (free : event.cost = 0) :
      after.work + event.cost ≤ before.work + event.gain ∧ Finite after := by
    have work := left.work
    exact ⟨by omega, left.finite⟩
  cases event with
  | start options request buffer out requestValue sessionValue =>
      simp only [World.advance] at advanced
      split at advanced
      · rename_i free
        rw [Option.some.injEq] at advanced
        rw [← advanced]
        generalize started : PutOnce.start options request buffer out requestValue sessionValue = put
          at free ⊢
        have opening : put.stage = .opening := by rw [← started]; rfl
        have set := setAttempt_work finite put.attempt.sessionId put
        have work : attemptWork put = 6 := by simp [attemptWork, opening]
        have sends : networkWork (sent put) = 2 := by
          simp [sent, PutOnce.issued, opening, Message.work]
        rw [Option.isNone_iff_eq_none.mp free, Option.elim_none] at set
        refine ⟨?_, finite.setAttempt.send⟩
        rw [send_work]
        simp only [Event.gain, Event.cost, Event.starts, Event.takes]
        simp only [if_true, Bool.false_eq_true, if_false]
        omega
      · cases advanced
  | acquired session manager library =>
      obtain ⟨put, _, resumed⟩ := Option.bind_eq_some_iff.mp advanced
      exact quiet (leaves_resume finite resumed) rfl
  | copied session host => exact quiet (leaves_resume finite advanced) rfl
  | timeout session error =>
      obtain ⟨put, _, failed⟩ := Option.bind_eq_some_iff.mp advanced
      obtain ⟨reply, _, resumed⟩ := Option.bind_eq_some_iff.mp failed
      exact quiet (leaves_resume finite resumed) rfl
  | otherGdsPut request =>
      simp only [World.advance] at advanced
      split at advanced
      · rw [Option.some.injEq] at advanced
        rw [← advanced]
        refine ⟨?_, finite.send⟩
        rw [send_work]
        simp [Message.work, Event.gain, Event.cost, Event.starts, Event.takes, Event.adds]
      · cases advanced
  | deliver index now slot =>
      obtain ⟨message, found, handled⟩ := Option.bind_eq_some_iff.mp advanced
      have taken := taken_work found
      have others : Finite { before with network := before.network.eraseIdx index } :=
        ⟨finite.attempts, finite.executions⟩
      have left := leaves_handle others handled
      have work := left.work
      have positive : 1 ≤ message.work := message.work_pos
      refine ⟨?_, left.finite⟩
      simp only [Event.gain, Event.cost, Event.starts, Event.takes, Event.adds]
      simp only [Bool.false_eq_true, if_false, if_true]
      omega
  | lose index =>
      simp only [World.advance] at advanced
      split at advanced
      · rename_i bound
        rw [Option.some.injEq] at advanced
        rw [← advanced]
        have found := List.getElem?_eq_getElem bound
        have taken := taken_work found
        have positive : 1 ≤ before.network[index].work := Message.work_pos
        refine ⟨?_, ⟨finite.attempts, finite.executions⟩⟩
        simp only [Event.gain, Event.cost, Event.starts, Event.takes, Event.adds]
        simp only [Bool.false_eq_true, if_false, if_true]
        omega
      · cases advanced
  | duplicate index =>
      obtain ⟨message, _, rfl⟩ := Option.map_eq_some_iff.mp advanced
      have bound : message.work ≤ 4 := message.work_le
      refine ⟨?_, finite.send⟩
      rw [send_work, networkWork_cons, networkWork_nil]
      simp only [Event.gain, Event.cost, Event.starts, Event.takes, Event.adds]
      simp only [Bool.false_eq_true, if_false, if_true]
      omega
  | receive execution server => exact quiet (leaves_receive finite advanced) rfl
  | reportTimeout execution => exact quiet (leaves_notified finite advanced) rfl

noncomputable def workPotential : World.system.Potential Finite where
  level := World.work
  cost := Event.cost
  gain := Event.gain
  keeps finite step := (leaves_advance finite step).2
  pays finite step := (leaves_advance finite step).1

theorem sum_cost : (events.map Event.cost).sum = events.countP Event.takes := by
  induction events with
  | nil => rfl
  | cons event events ih =>
      rw [List.map_cons, List.sum_cons, List.countP_cons, ih, Event.cost]
      omega

theorem sum_gain : (events.map Event.gain).sum =
    8 * events.countP Event.starts + 4 * events.countP Event.adds := by
  induction events with
  | nil => rfl
  | cons event events ih =>
      rw [List.map_cons, List.sum_cons, List.countP_cons, List.countP_cons, ih, Event.gain]
      cases event <;> simp [Event.starts, Event.adds] <;> omega

theorem finite_initial (initial : World.system.initial world) : Finite world := by
  obtain ⟨_, attempts, executions, _⟩ := initial
  refine ⟨?_, ?_⟩
  · rw [attempts, domain_empty]
    exact Set.finite_empty
  · rw [executions, domain_empty]
    exact Set.finite_empty

theorem finite_invariant : World.system.Invariant Finite where
  initial := finite_initial
  step finite step := (leaves_advance finite step).2

theorem work_initial (initial : World.system.initial world) : world.work = 0 := by
  obtain ⟨_, attempts, executions, network⟩ := initial
  rw [World.work, attempts, executions, network, load_empty, load_empty, networkWork_nil]

/-- Every attempt causes eight messages at most, whatever is lost, delayed, reordered or timed
out; a message that the network doubles or somebody else sends causes four at most. -/
theorem messages_bounded {start : World} (initial : World.system.initial start)
    (run : World.system.Run start events world) :
    events.countP Event.takes + world.network.length ≤
      8 * events.countP Event.starts + 4 * events.countP Event.adds := by
  have spent := workPotential.run (finite_initial initial) run
  have waiting : world.network.length ≤ networkWork world.network := length_le_networkWork
  simp only [workPotential, sum_cost, sum_gain, work_initial initial] at spent
  have all : networkWork world.network ≤ world.work := by
    simp only [World.work]
    omega
  omega

theorem four_byte_put_messages :
    (putEvents 4).countP Event.takes + (worldAfter (putEvents 4)).network.length ≤ 8 :=
  messages_bounded started_initial (worldAfter_run (by decide))

end Us3Turbo.Cluster
