import Us3Turbo.Backend.SinkSafety

/-! # `backend/src/main.cpp`

From a `Start` of the sink that succeeded to the exit of the process.  A `brpc` server runs
any number of `GdsPut`s side by side; once it is stopped it takes no more of them, and the
sink is stopped after `Join`.
-/

namespace Us3Turbo.Backend

open Us3Turbo.Data Us3Turbo.Transition

/-- `brpc` is not in the repository.  What `main` relies on is that `Join`, called after `Stop`,
returns once every request in progress has been answered, and no earlier. -/
structure BrpcServer where
  /-- Whether `Join` returns while so many requests are in progress. -/
  joins : Nat → Bool
  waits : ∀ {pending : Nat}, joins pending = true → pending = 0
  returns : joins 0 = true

def BrpcServer.whenIdle : BrpcServer where
  joins pending := pending == 0
  waits := beq_iff_eq.mp
  returns := rfl

inductive ProcessStage where
  /-- The sink has started; the service is yet to be added and the `brpc` server to start. -/
  | starting
  | serving
  /-- Between `server.Stop(0)` and the return of `server.Join()`. -/
  | joining
  /-- In `Stop` of the sink, a `Shutdown`: that of `Stop`, or that of the destructor of the pool. -/
  | shutting (operation : Operation) (destructing : Bool)
  /-- `server_.reset()`. -/
  | resetting
  | exited

structure Process where
  receives : Receives
  stage : ProcessStage := .starting

namespace Process

inductive Event where
  /-- `AddService` and `Start` of the `brpc` server. -/
  | listen (success : Bool)
  /-- What a `GdsPut` does in the sink. -/
  | receive (event : Receives.Event)
  | signal
  /-- The next step of the main thread; `success` answers what it asks of the `cuObjServer`. -/
  | proceed (success : Bool)

/-- A `GdsPut` begins. -/
def opens : Receives.Event → Bool
  | .call _ _ _ => true
  | _ => false

/-- A `GdsPut` goes on. -/
def continues : Receives.Event → Bool
  | .step _ _ | .transfer _ _ => true
  | _ => false

def inProgress (call : Receive) : Bool :=
  match call.stage with
  | .returned _ => false
  | _ => true

def Finished (receives : Receives) : Prop :=
  ∀ call ∈ receives.calls, ∃ outcome, call.stage = .returned outcome

theorem inProgress_eq_false {call : Receive} :
    inProgress call = false ↔ ∃ outcome, call.stage = .returned outcome := by
  rw [inProgress]
  split
  · simp [*]
  · rename_i other
    simpa only [Bool.true_eq_false, false_iff, not_exists] using other

theorem finished_iff {receives : Receives} :
    receives.calls.countP inProgress = 0 ↔ Finished receives := by
  simp only [List.countP_eq_zero, Bool.not_eq_true, inProgress_eq_false, Finished]

def received (process : Process) (event : Receives.Event) : Option Process :=
  (process.receives.advance event).map fun receives => { process with receives }

/-- `Shutdown` goes on.  The destructor of the pool follows that of `Stop`, and the reset of
`server_` follows the destructor. -/
def shut (process : Process) (success : Bool) (operation : Operation) (destructing : Bool) : Process :=
  let result := process.receives.sink.pool.perform success operation
  { receives := { process.receives with sink := { process.receives.sink with pool := result.1 } }
    stage := match result.2 with
      | .next operation => .shutting operation destructing
      | .returned _ => if destructing then .resetting else .shutting .shutdownSwap true }

def advance (brpc : BrpcServer) (process : Process) (event : Event) : Option Process :=
  match process.stage, event with
  | .starting, .listen success =>
      some { process with stage := if success then .serving else .shutting .shutdownSwap false }
  | .serving, .receive event =>
      if opens event || continues event then process.received event else none
  | .serving, .signal => some { process with stage := .joining }
  | .joining, .receive event => if continues event then process.received event else none
  | .joining, .proceed _ =>
      if brpc.joins (process.receives.calls.countP inProgress) then
        some { process with stage := .shutting .shutdownSwap false }
      else none
  | .shutting operation destructing, .proceed success =>
      some (process.shut success operation destructing)
  | .resetting, .proceed _ => some { process with stage := .exited }
  | _, _ => none

def system (brpc : BrpcServer) : System Process Event :=
  .ofAdvance
    (fun process => process.stage = .starting ∧ process.receives.calls = [] ∧
      process.receives.sink.channels = {} ∧
      process.receives.sink.pool = .create bufferSizeClasses kBufferMaxPerClass) (advance brpc)

/-! ## What one step does -/

variable {brpc : BrpcServer} {process before after : Process} {event : Event} {operation : Operation}
  {destructing success : Bool} {receives next : Receives}

inductive Moved (before : Process) : Process → Prop where
  | listens (stage : before.stage = .starting) : Moved before { before with stage := .serving }
  | refused (stage : before.stage = .starting) :
      Moved before { before with stage := .shutting .shutdownSwap false }
  | receives (event : Receives.Event) (next : Receives) (own : (opens event || continues event) = true)
      (running : before.stage = .serving ∨ before.stage = .joining ∧ continues event = true)
      (advanced : before.receives.advance event = some next) :
      Moved before { before with receives := next }
  | signalled (stage : before.stage = .serving) : Moved before { before with stage := .joining }
  | joined (stage : before.stage = .joining) (finished : Finished before.receives) :
      Moved before { before with stage := .shutting .shutdownSwap false }
  | shuts (operation : Operation) (destructing success : Bool)
      (stage : before.stage = .shutting operation destructing) :
      Moved before (before.shut success operation destructing)
  | resets (stage : before.stage = .resetting) : Moved before { before with stage := .exited }

theorem moved (advanced : before.advance brpc event = some after) : Moved before after := by
  cases stage : before.stage with
  | starting =>
      cases event with
      | listen success =>
          simp only [advance, stage, Option.some.injEq] at advanced
          subst advanced
          cases success with
          | true => exact .listens stage
          | false => exact .refused stage
      | _ => simp [advance, stage] at advanced
  | serving =>
      cases event with
      | receive event =>
          simp only [advance, stage] at advanced
          split at advanced
          · obtain ⟨next, moved, rfl⟩ := Option.map_eq_some_iff.mp advanced
            exact .receives event next ‹_› (.inl stage) moved
          · cases advanced
      | signal =>
          simp only [advance, stage, Option.some.injEq] at advanced
          subst advanced
          exact .signalled stage
      | _ => simp [advance, stage] at advanced
  | joining =>
      cases event with
      | receive event =>
          simp only [advance, stage] at advanced
          split at advanced
          · rename_i goes_on
            obtain ⟨next, moved, rfl⟩ := Option.map_eq_some_iff.mp advanced
            exact .receives event next (by rw [goes_on, Bool.or_true]) (.inr ⟨stage, goes_on⟩) moved
          · cases advanced
      | proceed success =>
          simp only [advance, stage] at advanced
          split at advanced
          · rename_i joins
            rw [Option.some.injEq] at advanced
            subst advanced
            exact .joined stage (finished_iff.mp (brpc.waits joins))
          · cases advanced
      | _ => simp [advance, stage] at advanced
  | shutting operation destructing =>
      cases event with
      | proceed success =>
          simp only [advance, stage, Option.some.injEq] at advanced
          subst advanced
          exact .shuts operation destructing success stage
      | _ => simp [advance, stage] at advanced
  | resetting =>
      cases event with
      | proceed success =>
          simp only [advance, stage, Option.some.injEq] at advanced
          subst advanced
          exact .resets stage
      | _ => simp [advance, stage] at advanced
  | exited => simp [advance, stage] at advanced

/-! ## What is held, from the start to the exit -/

/-- Nobody but the calls uses the pool, and nothing has shut it down. -/
structure Open (receives : Receives) : Prop where
  good : receives.Good
  leases : receives.sink.pool.leases = []
  operations : receives.sink.pool.operations = []
  opened : receives.sink.pool.shutdown = false

/-- All calls have returned; what `held` does not account for is cached. -/
structure Closing (receives : Receives) (held : List Holding) : Prop where
  finished : Finished receives
  channels : receives.sink.channels.returned = Multiset.range receives.sink.channels.issued
  sound : (receives.sink.pool.custodyWith held).Sound
  leases : receives.sink.pool.leases = []
  operations : receives.sink.pool.operations = []

def Valid (process : Process) : Prop :=
  match process.stage with
  | .starting => Open process.receives ∧ Finished process.receives
  | .serving | .joining => Open process.receives
  | .shutting operation _ =>
      Closing process.receives operation.holdings ∧ operation.Closing process.receives.sink.pool
  | .resetting | .exited => Closing process.receives [] ∧ process.receives.sink.pool.Empty

theorem Open.advance {event : Receives.Event} (open_ : Open receives)
    (own : (opens event || continues event) = true) (advanced : receives.advance event = some next) :
    Open next := by
  have good := Receives.good_invariant.step open_.good advanced
  cases event with
  | call objectId rdmaToken length =>
      cases advanced
      exact ⟨good, open_.leases, open_.operations, open_.opened⟩
  | step index success =>
      obtain ⟨call, found, stepped⟩ := Option.bind_eq_some_iff.mp advanced
      obtain ⟨⟨sink, moved⟩, performed, rfl⟩ := Option.map_eq_some_iff.mp stepped
      have uses := BackendGdsSink.perform_uses
        (open_.good.valid call (List.mem_of_getElem? found)) performed
      exact ⟨good, uses.leases.trans open_.leases, uses.operations.trans open_.operations,
        uses.shutdown.trans open_.opened⟩
  | transfer index answer =>
      obtain ⟨call, found, stepped⟩ := Option.bind_eq_some_iff.mp advanced
      obtain ⟨⟨sink, moved⟩, transferred, rfl⟩ := Option.map_eq_some_iff.mp stepped
      have uses := BackendGdsSink.transfer_uses transferred
      exact ⟨good, uses.leases.trans open_.leases, uses.operations.trans open_.operations,
        uses.shutdown.trans open_.opened⟩
  | pool event => cases own

/-- Calls that have returned hold nothing. -/
theorem Open.close (open_ : Open receives) (finished : Finished receives) : Closing receives [] := by
  have buffers : gathered (fun call : Receive => call.stage.holdings) receives.calls = 0 := by
    apply gathered_empty
    intro call member
    obtain ⟨outcome, stage⟩ := finished call member
    rw [stage]
    rfl
  have channels : gathered (fun call : Receive => call.stage.channels) receives.calls = 0 := by
    apply gathered_empty
    intro call member
    obtain ⟨outcome, stage⟩ := finished call member
    rw [stage]
    rfl
  refine ⟨finished, (open_.good.channels.all_returned channels).1, ?_, open_.leases, open_.operations⟩
  have sound := open_.good.custody
  rw [Receives.custody, buffers, Custody.beside, Multiset.add_zero] at sound
  exact sound

theorem Open.unshut (open_ : Open receives) : Operation.shutdownSwap.Closing receives.sink.pool := by
  intro shut
  rw [open_.opened] at shut
  cases shut

theorem Closing.perform (closing : Closing receives operation.holdings)
    (pooled : operation.Pooled) (success : Bool) :
    Closing { receives with sink := { receives.sink with
        pool := (receives.sink.pool.perform success operation).1 } }
      (receives.sink.pool.perform success operation).2.holdings where
  finished := closing.finished
  channels := closing.channels
  sound := closing.sound.step ((receives.sink.pool.performed success operation).step pooled)
  leases := (receives.sink.pool.performed success operation).kept.1.trans closing.leases
  operations := (receives.sink.pool.performed success operation).kept.2.trans closing.operations

theorem Valid.shut (valid : before.Valid) (shutting : before.stage = .shutting operation destructing)
    (success : Bool) : (before.shut success operation destructing).Valid := by
  rw [Valid, shutting] at valid
  obtain ⟨holds, closing⟩ := valid
  have held := holds.perform closing.pooled success
  have rest := closing.perform success
  rw [Valid, Process.shut]
  generalize before.receives.sink.pool.perform success operation = result at held rest
  obtain ⟨pool, progress⟩ := result
  cases progress with
  | next operation => exact ⟨held, rest⟩
  | returned leases =>
      obtain ⟨rfl, empty⟩ := rest
      cases destructing with
      | false => exact ⟨held, fun _ => empty⟩
      | true => exact ⟨held, empty⟩

theorem valid_invariant : (system brpc).Invariant Valid where
  initial := by
    rintro process ⟨stage, calls, channels, pool⟩
    have reachable : Receives.system.Reachable process.receives := by
      refine .of_initial ⟨calls, channels, ?_⟩
      rw [pool]
      exact .of_initial ⟨bufferSizeClasses, kBufferMaxPerClass, rfl⟩
    rw [Valid, stage]
    refine ⟨⟨Receives.good_invariant.reachable reachable, ?_, ?_, ?_⟩, ?_⟩
    · rw [pool]
      rfl
    · rw [pool]
      rfl
    · rw [pool]
      rfl
    · simp [Finished, calls]
  step := by
    intro before event after valid advanced
    have here := valid
    cases moved advanced with
    | listens stage =>
        rw [Valid, stage] at here
        exact here.1
    | refused stage =>
        rw [Valid, stage] at here
        exact ⟨here.1.close here.2, here.1.unshut⟩
    | receives event next own running received =>
        rcases running with stage | ⟨stage, _⟩
        · rw [Valid, stage] at here ⊢
          exact here.advance own received
        · rw [Valid, stage] at here ⊢
          exact here.advance own received
    | signalled stage =>
        rw [Valid, stage] at here
        exact here
    | joined stage finished =>
        rw [Valid, stage] at here
        exact ⟨here.close finished, here.unshut⟩
    | shuts operation destructing success stage => exact valid.shut stage success
    | resets stage =>
        rw [Valid, stage] at here
        exact here

/-- Where `server_` is reset, and so at the exit, every `ReceiveAndDiscard` that was begun has
returned, and every buffer, every MR and every channel that the server handed out was given
back, once. -/
theorem exits_clean (reachable : (system brpc).Reachable process)
    (closed : process.stage = .resetting ∨ process.stage = .exited) :
    Finished process.receives ∧
      process.receives.sink.pool.buffers.returned =
        Multiset.range process.receives.sink.pool.buffers.issued ∧
      process.receives.sink.pool.regions.returned =
        Multiset.range process.receives.sink.pool.regions.issued ∧
      process.receives.sink.channels.returned =
        Multiset.range process.receives.sink.channels.issued := by
  have valid := valid_invariant.reachable reachable
  have ends : Closing process.receives [] ∧ process.receives.sink.pool.Empty := by
    rcases closed with stage | stage <;> rwa [Valid, stage] at valid
  obtain ⟨closing, empty⟩ := ends
  have nothing : (process.receives.sink.pool.custodyWith []).holdings = 0 := by
    have cached : gathered (List.map CachedBuffer.holding) process.receives.sink.pool.buckets = 0 :=
      gathered_empty fun bucket member => by simp [empty bucket member]
    simp [PinnedBufferPool.custodyWith, PinnedBufferPool.holdings, closing.leases, closing.operations,
      cached]
  obtain ⟨buffers, regions⟩ := closing.sound.all_returned nothing
  exact ⟨closing.finished, buffers, regions, closing.channels⟩

def launched : Process where
  receives := { sink := { computeCrc32c := true, pool := Lifecycle.fourClasses, memory := fun _ _ => 0 } }

theorem launched_initial : (system brpc).initial launched :=
  ⟨rfl, rfl, rfl, Lifecycle.create_four.symm⟩

/-- The signal comes while a chunk is being transferred. -/
def interrupted : List Event :=
  [.listen true, .receive (.call "a" "" 3), .receive (.step 0 true), .receive (.step 0 true),
    .receive (.step 0 true), .receive (.step 0 true), .receive (.step 0 true),
    .receive (.step 0 true), .signal]

def answering : List Event :=
  [.receive (.transfer 0 Receives.threeBytes), .receive (.step 0 true), .receive (.step 0 true),
    .receive (.step 0 true), .receive (.step 0 true), .receive (.step 0 true)]

def finishing : List Event := List.replicate 11 (.proceed true)

theorem interrupted_exits_clean : ∃ process : Process, process.stage = .exited ∧
    process.receives.sink.pool.regions.returned = Multiset.range 1 := by
  let outcome := System.replay (advance .whenIdle) launched (interrupted ++ answering ++ finishing)
  obtain ⟨process, replayed⟩ : ∃ process, outcome = some process := ⟨_, rfl⟩
  have exited : outcome.map (·.stage) = some .exited := rfl
  have issued : outcome.map (·.receives.sink.pool.regions.issued) = some 1 := rfl
  rw [replayed, Option.map_some, Option.some.injEq] at exited issued
  have reachable : (system .whenIdle).Reachable process :=
    ⟨launched, _, launched_initial, .of_replay replayed⟩
  obtain ⟨_, _, regions, _⟩ := exits_clean reachable (.inr exited)
  rw [issued] at regions
  exact ⟨process, exited, regions⟩

end Process

end Us3Turbo.Backend
