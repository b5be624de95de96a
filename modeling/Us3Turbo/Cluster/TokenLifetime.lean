import Us3Turbo.Cluster.AtMostOnce

/-! # How long the token of a transfer lives

The token is a local of `PutOnce` and goes with the call; the backend reads
memory through it whenever `handlePutObject` runs.  Nothing ties the two together
but the order of messages.
-/

namespace Us3Turbo.Cluster

open Us3Turbo.Proto Us3Turbo.Client Us3Turbo.Transition
open Us3Turbo.Backend (DataPlaneService Server PutArguments PutReply gdsPutError kMaxChunkBytes
  receiveAndDiscard)

variable {before after later world : World} {event : Event} {events : List Event} {key session : String}
  {put : PutOnce} {id : Nat} {execution : Execution} {server : Server} {request : GdsChunkRequest}

/-! ## The steps that read -/

/-- `GdsPut` gets as far as `handlePutObject`. -/
def readsMemory (server : Server) (request : GdsChunkRequest) : Bool :=
  gdsPutError server request = none ∧ request.chunkSize ≤ kMaxChunkBytes ∧ request.chunkSize ≠ 0 ∧
    server.lease = true ∧ server.channel = true

/-- Where it does not get that far, what `handlePutObject` would do makes no difference. -/
theorem gdsPut_unread {service : DataPlaneService} (unread : readsMemory server request = false)
    (other : PutArguments → PutReply) :
    service.gdsPut { server with handlePutObject := other } request =
      service.gdsPut server request := by
  have check : gdsPutError { server with handlePutObject := other } request =
      gdsPutError server request := rfl
  cases checked : gdsPutError server request with
  | some error => simp [DataPlaneService.gdsPut, check, checked]
  | none =>
      have received : service.receive { server with handlePutObject := other } request =
          service.receive server request := by
        simp only [DataPlaneService.receive, receiveAndDiscard]
        split
        · rfl
        · rename_i bounded
          split
          · rfl
          · rename_i nonempty
            split
            · rfl
            · rename_i lease
              split
              · rfl
              · rename_i channel
                simp [readsMemory, checked, nonempty, UInt64.not_lt.mp bounded] at unread lease channel
                rw [unread lease] at channel
                cases channel
      simp only [DataPlaneService.gdsPut, check, checked, received]

/-- The execution for which a step calls `handlePutObject`. -/
def World.reading (world : World) : Event → Option Execution
  | .receive id server => (world.executions id).filter fun execution =>
      match execution.stage with
      | .receiving => readsMemory server execution.request
      | _ => false
  | _ => none

theorem reading_receiving (reads : world.reading event = some execution) :
    ∃ id, world.executions id = some execution ∧ execution.stage = .receiving := by
  unfold World.reading at reads
  split at reads
  · rename_i id server
    obtain ⟨known, receiving⟩ := Option.filter_eq_some_iff.mp reads
    split at receiving
    · exact ⟨id, known, ‹_›⟩
    · cases receiving
  · cases reads

/-! ## Calls that wait for the backend -/

/-- The call has begun and has not returned. -/
def Waiting (world : World) (session : String) : Prop :=
  ∃ put, world.attempts session = some put ∧ ∀ result, put.stage ≠ .returned result

/-- No `GdsPut` of a call that has returned begins at the backend, and no call
returns while the backend receives for it. -/
structure Patient (before after : World) : Prop where
  begins : ∀ {id execution session}, before.executions id = none →
    after.executions id = some execution → execution.caller = some session →
    Waiting before session
  returns : ∀ {id execution session}, before.executions id = some execution →
    execution.stage = .receiving → execution.caller = some session →
    Waiting before session → Waiting after session

def World.patient : System World Event :=
  system.restrict fun before _ after => Patient before after

/-- The request names the token that its call acquired. -/
def Carries (world : World) (session : String) (request : GdsChunkRequest) : Prop :=
  ∃ put, world.attempts session = some put ∧ put.token = some request.rdmaToken

structure TokensCarried (world : World) : Prop where
  named : Named world
  tokenless : ∀ {key put}, world.attempts key = some put →
    put.stage = .opening ∨ put.stage = .acquiring → put.token = none
  puts : ∀ {session request}, .gdsPut (some session) request ∈ world.network →
    Carries world session request
  executions : ∀ {id execution session}, world.executions id = some execution →
    execution.caller = some session → Carries world session execution.request

def ReceivingAwaited (world : World) : Prop :=
  ∀ {id execution session}, world.executions id = some execution → execution.stage = .receiving →
    execution.caller = some session → Waiting world session

/-! ## What a step keeps -/

theorem Carries.passage (carries : Carries before session request)
    (tokenless : ∀ {key put}, before.attempts key = some put →
      put.stage = .opening ∨ put.stage = .acquiring → put.token = none)
    (passage : Passage before event after) : Carries after session request := by
  obtain ⟨put, known, held⟩ := carries
  obtain ⟨next, found, continues⟩ := passage.effect.attempts known
  refine ⟨next, found, ?_⟩
  rcases passage.attempt found with same | ⟨opening, absent, _⟩ | ⟨old, reply, known', rfl, _⟩
  · rw [known, Option.some.injEq] at same
    rw [← same, held]
  · have kept : next.token.isSome = true := continues.token (by rw [held]; rfl)
    rw [absent] at kept
    cases kept
  · rw [known, Option.some.injEq] at known'
    subst known'
    exact PutOnce.token_resume held fun acquiring => tokenless known (.inr acquiring)

namespace TokensCarried

theorem puts_passage (carried : TokensCarried before) (passage : Passage before event after)
    (member : .gdsPut (some session) request ∈ after.network) : Carries after session request := by
  rcases passage.effect.issued member with old | new
  · exact (carried.puts old).passage carried.tokenless passage
  · cases new with
    | gdsPut key put token known held =>
        have name := (carried.named.effect passage.effect key put known).1
        exact ⟨put, name.symm ▸ known, held⟩

theorem executions_passage (carried : TokensCarried before) (passage : Passage before event after)
    (found : after.executions id = some execution) (caller : execution.caller = some session) :
    Carries after session execution.request := by
  rcases passage.called found caller with pending | ⟨old, known, caller', same⟩
  · exact (carried.puts pending).passage carried.tokenless passage
  · rw [same]
    exact (carried.executions known caller').passage carried.tokenless passage

theorem passage (carried : TokensCarried before) (passage : Passage before event after) :
    TokensCarried after where
  named := carried.named.effect passage.effect
  tokenless := passage.tokenless carried.tokenless
  puts := carried.puts_passage passage
  executions := carried.executions_passage passage

end TokensCarried

theorem tokensCarried_invariant : World.system.Invariant TokensCarried where
  initial initial := by
    refine ⟨?_, ?_, ?_, ?_⟩
    · exact fun _ _ found => absurd found (initial_attempts initial)
    · exact fun found => absurd found (initial_attempts initial)
    · exact fun member => absurd member (initial_network initial)
    · exact fun found => absurd found (initial_executions initial)
  step carried step := carried.passage (advance_passage step)

/-- An execution that receives after a step received before it, or begins with it. -/
theorem Passage.receiving (passage : Passage before event after)
    (found : after.executions id = some execution) (receiving : execution.stage = .receiving) :
    before.executions id = some execution ∨ before.executions id = none := by
  cases passage with
  | begin slot caller request kept taken free =>
      rw [show _ = _ from setExecution_executions] at found
      split at found
      · rename_i same
        exact .inr (same ▸ free)
      · exact .inl found
  | receive other old server stage fresh request known earlier receives =>
      rw [show _ = _ from setExecution_executions] at found
      split at found
      · cases found
        generalize before.backend.gdsPut server old.request = result at receives
        cases receives <;> cases receiving
      · exact .inl found
  | notified other old served kept known stage sublist =>
      rw [show _ = _ from setExecution_executions] at found
      split at found
      · cases found
        cases receiving
      · exact .inl found
  | start => exact .inl found
  | resume => exact .inl found
  | openSession => exact .inl found
  | reportGdsPut => exact .inl found
  | otherGdsPut => exact .inl found
  | duplicate => exact .inl found
  | refuse => exact .inl found
  | drop => exact .inl found

/-- No attempt moves in a step in which an execution begins. -/
theorem Passage.attempts_of_begun (passage : Passage before event after)
    (found : after.executions id = some execution) (free : before.executions id = none) :
    after.attempts = before.attempts := by
  have absent : before.executions id ≠ some execution := by rw [free]; simp
  cases passage with
  | start => exact absurd found absent
  | resume => exact absurd found absent
  | _ => rfl

theorem receivingAwaited_passage (awaited : ReceivingAwaited before)
    (passage : Passage before event after) (patient : Patient before after) :
    ReceivingAwaited after := by
  intro id execution session found receiving caller
  rcases passage.receiving found receiving with known | free
  · exact patient.returns known receiving caller (awaited known receiving caller)
  · have waiting := patient.begins free found caller
    rw [Waiting, passage.attempts_of_begun found free]
    exact waiting

theorem receivingAwaited_invariant : World.patient.Invariant ReceivingAwaited where
  initial initial := fun found => absurd found (initial_executions initial)
  step awaited step := receivingAwaited_passage awaited (advance_passage step.1) step.2

/-- While no `GdsPut` begins for a call that has returned and no call returns while the
backend receives for it, `handlePutObject` only runs for a call that still holds the
token its request carries. -/
theorem reads_through_held_token (reachable : World.patient.Reachable world)
    (reads : world.reading event = some execution) (caller : execution.caller = some session) :
    ∃ put, world.attempts session = some put ∧ put.heldToken = some execution.request.rdmaToken ∧
      ∀ result, put.stage ≠ .returned result := by
  obtain ⟨id, known, receiving⟩ := reading_receiving reads
  have carried := tokensCarried_invariant.reachable reachable.of_restrict
  have awaited : ReceivingAwaited world := receivingAwaited_invariant.reachable reachable
  obtain ⟨put, attempt, token⟩ := carried.executions known caller
  obtain ⟨other, attempt', waiting⟩ := awaited known receiving caller
  rw [attempt, Option.some.injEq] at attempt'
  subst attempt'
  exact ⟨put, attempt, (PutOnce.heldToken_waiting waiting).trans token, waiting⟩

theorem executions_run (run : World.system.Run world events later)
    (known : world.executions id = some execution) :
    ∃ next, later.executions id = some next := by
  induction run generalizing execution with
  | nil => exact ⟨execution, known⟩
  | cons head _ ih =>
      obtain ⟨next, known', _⟩ := (advance_effect head).executions known
      exact ih known'

/-- A run that never gets as far as the backend is patient. -/
theorem patient_of_unbegun (run : World.system.Run world events later)
    (unbegun : ∀ id, later.executions id = none) : World.patient.Run world events later := by
  induction run with
  | nil => exact .nil _
  | @cons before middle later event events head tail ih =>
      have idle (id : Nat) (execution : Execution) : middle.executions id ≠ some execution := by
        intro known
        obtain ⟨next, known'⟩ := executions_run tail known
        rw [unbegun] at known'
        cases known'
      refine .cons ⟨head, ?_, ?_⟩ (ih unbegun)
      · exact fun _ found => absurd found (idle _ _)
      · intro id execution session known
        obtain ⟨next, known', _⟩ := (advance_effect head).executions known
        exact absurd known' (idle _ _)

/-! ## A transfer that outlives its call -/

/-- The call has given up twice, on its `GdsPut` and on its `AbortSession`. -/
def outlivedEvents : List Event := (putEvents 4).take 5 ++ [
  .timeout sessionTwo ⟨1008, "reached timeout"⟩,
  .timeout sessionTwo ⟨1008, "reached timeout"⟩]

theorem outlived_call_reads :
    ¬ ∀ (world : World) (event : Event) (execution : Execution) (session : String),
      World.ownPuts.Reachable world → world.reading event = some execution →
      execution.caller = some session → ∃ put, world.attempts session = some put ∧
        put.heldToken = some execution.request.rdmaToken := by
  intro always
  have reachable : World.ownPuts.Reachable (worldAfter outlivedEvents) :=
    worldAfter_reachable (by decide) (by decide)
  have reads : ((worldAfter outlivedEvents).reading (.receive 0 fourBytes)).map (·.caller) =
      some (some sessionTwo) := by decide
  obtain ⟨execution, reading, caller⟩ := Option.map_eq_some_iff.mp reads
  obtain ⟨put, known, held⟩ := always _ _ _ _ reachable reading caller
  have returned : ((worldAfter outlivedEvents).attempts sessionTwo).map (·.heldToken) = some none := by
    decide
  rw [known, Option.map_some, held] at returned
  cases returned

theorem waiting_call_read : ∃ put,
    (worldAfter ((putEvents 4).take 5)).attempts sessionTwo = some put ∧
      put.heldToken = some "1000:42" := by
  have first : World.patient.Run { proxy := Proxy.defaultProxy } ((putEvents 4).take 4)
      (worldAfter ((putEvents 4).take 4)) :=
    patient_of_unbegun (worldAfter_run (by decide)) fun _ => rfl
  have begun : World.patient.Run (worldAfter ((putEvents 4).take 4)) [.deliver 0 0 0]
      (worldAfter ((putEvents 4).take 5)) := by
    apply System.Run.single
    refine ⟨rfl, ?_, ?_⟩
    · intro id execution session _ found caller
      have stage : ((worldAfter ((putEvents 4).take 4)).attempts sessionTwo).map (·.stage) =
          some .putting := by decide
      obtain ⟨put, known, putting⟩ := Option.map_eq_some_iff.mp stage
      cases id with
      | zero =>
          cases found
          cases caller
          exact ⟨put, known, by simp [putting]⟩
      | succ id => cases found
    · intro id execution session known
      cases known
  have reads : ((worldAfter ((putEvents 4).take 5)).reading (.receive 0 fourBytes)).map
      (fun execution => (execution.caller, execution.request.rdmaToken)) =
        some (some sessionTwo, "1000:42") := by decide
  obtain ⟨execution, reading, fields⟩ := Option.map_eq_some_iff.mp reads
  rw [Prod.mk.injEq] at fields
  obtain ⟨put, known, held, _⟩ :=
    reads_through_held_token ⟨_, _, started_initial, first.append begun⟩ reading fields.1
  exact ⟨put, known, held.trans (congrArg some fields.2)⟩

end Us3Turbo.Cluster
