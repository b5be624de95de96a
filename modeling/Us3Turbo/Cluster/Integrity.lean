import Us3Turbo.Cluster.Checksum
import Us3Turbo.Cluster.Deployment
import Us3Turbo.Cluster.Feasibility

/-! # From the buffer of a client to the sink of the backend

The answer that an attempt gets comes from an execution of its own `GdsPut`, and that from
one transfer: of its object and its size, with the checksum of the bytes that it wrote.
-/

namespace Us3Turbo.Cluster

open Us3Turbo.Data Us3Turbo.Data.Crc Us3Turbo.Proto Us3Turbo.Client Us3Turbo.Transition
open Us3Turbo.Backend (BrpcServer Receive PutAnswer buildObjectId)

variable {before after world : World} {event : Event} {put next : PutOnce} {key session : String}
  {id : Nat} {execution : Execution} {request : GdsChunkRequest} {response : GdsChunkResponse}

/-! ## Whose answer it is -/

/-- The request is for the object and the buffer of the call. -/
structure Asks (request : GdsChunkRequest) (put : PutOnce) : Prop where
  bucket : request.bucket = put.attempt.bucket
  objectKey : request.objectKey = put.attempt.key
  chunkSize : request.chunkSize = put.buffer.size

/-- `response` is the one of an execution that the attempt of `key` waits for. -/
def AnsweredBy (world : World) (key : String) (response : GdsChunkResponse) : Prop :=
  ∃ id execution served, world.executions id = some execution ∧ execution.caller = some key ∧
    execution.served = some served ∧ response = served.response

structure Faithful (world : World) : Prop where
  puts : ∀ {session request}, .gdsPut (some session) request ∈ world.network →
    world.Has session (Asks request)
  executions : ∀ {id execution session}, world.executions id = some execution →
    execution.caller = some session → world.Has session (Asks execution.request)
  replies : ∀ {session response}, .gdsPutReply session (.ok response) ∈ world.network →
    AnsweredBy world session response
  outcomes : ∀ {key put response}, world.attempts key = some put → put.response = some response →
    AnsweredBy world key response ∧ put.result = ⟨response.etag, response.crc32c⟩

theorem Asks.same (same : SameCall put next) (asks : Asks request put) : Asks request next where
  bucket := by rw [same.attempt, asks.bucket]
  objectKey := by rw [same.attempt, asks.objectKey]
  chunkSize := by rw [same.buffer, asks.chunkSize]

theorem Passage.same_caller (passage : Passage before event after)
    (known : before.executions id = some execution) :
    ∃ next, after.executions id = some next ∧ next.caller = execution.caller := by
  cases passage with
  | begin slot caller request kept taken free =>
      have different : id ≠ slot := by
        rintro rfl
        rw [free] at known
        cases known
      exact ⟨execution, setExecution_executions.trans (if_neg different ▸ known), rfl⟩
  | receive other old server stage fresh request found receiving receives =>
      by_cases same : id = other
      · subst same
        rw [known, Option.some.injEq] at found
        subst found
        exact ⟨_, setExecution_executions.trans (if_pos rfl), rfl⟩
      · exact ⟨execution, setExecution_executions.trans (if_neg same ▸ known), rfl⟩
  | notified other old served kept found stage sublist =>
      by_cases same : id = other
      · subst same
        rw [known, Option.some.injEq] at found
        subst found
        exact ⟨_, setExecution_executions.trans (if_pos rfl), rfl⟩
      · exact ⟨execution, setExecution_executions.trans (if_neg same ▸ known), rfl⟩
  | start => exact ⟨execution, known, rfl⟩
  | resume => exact ⟨execution, known, rfl⟩
  | openSession => exact ⟨execution, known, rfl⟩
  | reportGdsPut => exact ⟨execution, known, rfl⟩
  | otherGdsPut => exact ⟨execution, known, rfl⟩
  | duplicate => exact ⟨execution, known, rfl⟩
  | refuse => exact ⟨execution, known, rfl⟩
  | drop => exact ⟨execution, known, rfl⟩

theorem AnsweredBy.passage (answered : AnsweredBy before key response)
    (passage : Passage before event after) : AnsweredBy after key response := by
  obtain ⟨id, execution, served, known, caller, brought, same⟩ := answered
  obtain ⟨next, found, proceeds⟩ := passage.effect.executions known
  obtain ⟨other, found', caller'⟩ := passage.same_caller known
  cases found.symm.trans found'
  exact ⟨id, next, served, found, caller'.trans caller, proceeds.served served brought, same⟩

namespace Faithful

theorem puts_passage (faithful : Faithful before) (consistent : Consistent after)
    (passage : Passage before event after) (member : .gdsPut (some session) request ∈ after.network) :
    after.Has session (Asks request) := by
  rcases passage.effect.issued member with old | new
  · exact (faithful.puts old).passage passage Asks.same
  · cases new with
    | gdsPut other put token known held =>
        obtain ⟨named, _⟩ := consistent.named other put known
        exact ⟨put, named ▸ known, rfl, rfl, rfl⟩

theorem executions_passage (faithful : Faithful before) (passage : Passage before event after)
    (found : after.executions id = some execution) (caller : execution.caller = some session) :
    after.Has session (Asks execution.request) := by
  rcases passage.called found caller with pending | ⟨old, known, caller', request⟩
  · exact (faithful.puts pending).passage passage Asks.same
  · rw [request]
    exact (faithful.executions known caller').passage passage Asks.same

theorem replies_passage (faithful : Faithful before) (passage : Passage before event after)
    (member : .gdsPutReply session (.ok response) ∈ after.network) :
    AnsweredBy after session response := by
  rcases passage.replied member with old | new
  · exact (faithful.replies old).passage passage
  · generalize sent : (.gdsPutReply session (.ok response) : Message) = message at new
    cases new with
    | asked message asks =>
        subst sent
        cases asks
    | gdsPut caller id execution result known called done =>
        rw [Message.gdsPutReply.injEq] at sent
        obtain ⟨rfl, answered⟩ := sent
        cases result with
        | error error => cases answered
        | ok served =>
            cases answered
            exact ⟨id, execution, served, known, called, by rw [Execution.served, done], rfl⟩
    | openSession => cases sent
    | reportGdsPut => cases sent

theorem outcomes_passage (faithful : Faithful before) (passage : Passage before event after)
    (found : after.attempts key = some next) (answer : next.response = some response) :
    AnsweredBy after key response ∧ next.result = ⟨response.etag, response.crc32c⟩ := by
  rcases passage.attempt found with known | ⟨_, _, unanswered⟩ | ⟨put, reply, known, rfl, authentic⟩
  · exact (faithful.outcomes known answer).imp_left fun answered => answered.passage passage
  · rw [unanswered] at answer
    cases answer
  · have same (held : put.response = some response) :
        AnsweredBy after key response ∧ put.result = ⟨response.etag, response.crc32c⟩ :=
      (faithful.outcomes known held).imp_left fun answered => answered.passage passage
    have turn := PutOnce.resume_turn put reply
    generalize put.resume reply = next at turn answer ⊢
    cases turn with
    | answered other putting answers =>
        subst answers
        cases answer
        exact ⟨(faithful.replies authentic).passage passage, rfl⟩
    | same | granted | acquired | verified | aborts | fails => exact same answer

theorem passage (faithful : Faithful before) (consistent : Consistent after)
    (passage : Passage before event after) : Faithful after where
  puts := faithful.puts_passage consistent passage
  executions := faithful.executions_passage passage
  replies := faithful.replies_passage passage
  outcomes := faithful.outcomes_passage passage

end Faithful

theorem faithful_initial (initial : World.system.initial world) : Faithful world where
  puts member := absurd member (initial_network initial)
  executions found := absurd found (initial_executions initial)
  replies member := absurd member (initial_network initial)
  outcomes found := absurd found (initial_attempts initial)

theorem faithful_invariant :
    World.system.Invariant fun world => Consistent world ∧ Results world ∧ Faithful world where
  initial initial :=
    ⟨consistent_invariant.initial initial, results_initial initial, faithful_initial initial⟩
  step := by
    rintro before event after ⟨consistent, results, faithful⟩ advanced
    have passage := advance_passage advanced
    have consistent := consistent.effect passage.effect
    exact ⟨consistent, results.passage passage, faithful.passage consistent passage⟩

/-! ## Down to the bytes -/

theorem resume_copied {host : List UInt8} (copying : put.stage = .copying) :
    (put.resume (.copied (some host))).stage =
      if crc32c host = put.result.crc32c then .returned true else .aborting := by
  simp only [PutOnce.resume, copying, PutOnce.onCopied]
  split <;> rfl

/-- A difference in a burst, or in an odd number of bits, changes the CRC. -/
theorem crc32c_ne {sent received : List UInt8} (same : sent.length = received.length)
    (corrupted : BurstApart sent received ∨ Odd (differing sent received).card) :
    crc32c sent ≠ Backend.crc32c received := by
  rw [ne_eq, crc32c_eq_iff]
  rcases corrupted with burst | flips
  · exact update_ne_of_burst (by decide) same burst
  · exact update_ne_of_odd (by decide) (by decide) same flips

namespace Deployment

variable {brpc : BrpcServer} {deployment : Deployment}

/-- The call whose transfer an attempt has its answer from, and what that transfer wrote. -/
structure Carried (deployment : Deployment) (key : String) (put : PutOnce) (index : Nat)
    (call : Receive) (answer : PutAnswer) : Prop where
  caller : ∃ id execution, deployment.world.executions id = some execution ∧
    execution.caller = some key ∧ deployment.calls.lookup id = some index
  made : deployment.process.receives.calls[index]? = some call
  objectId : call.objectId = buildObjectId put.attempt.bucket put.attempt.key
  length : call.length = put.buffer.size
  transfer : call.put = some answer

theorem carried (reachable : (system brpc).Reachable deployment)
    (known : deployment.world.attempts key = some put)
    (answered : put.stage = .copying ∨ put.stage = .returned true) :
    ∃ index call answer, Carried deployment key put index call answer ∧
      (deployment.world.backend.computeCrc32c = true →
        put.out.crc32c = Backend.crc32c answer.bytes ∧
        put.result.crc32c = Backend.crc32c answer.bytes) := by
  have linked := linked_reachable reachable
  obtain ⟨consistent, results, faithful⟩ := faithful_invariant.reachable (world_reachable reachable)
  obtain ⟨response, held⟩ := Option.isSome_iff_exists.mp (results.answered known answered)
  obtain ⟨⟨id, execution, served, found, caller, brought, rfl⟩, result⟩ :=
    faithful.outcomes known held
  obtain ⟨asker, known', asks⟩ := faithful.executions found caller
  cases known.symm.trans known'
  rcases linked.executions found with ⟨index, called⟩ | ⟨error, stage⟩
  · obtain ⟨call, _, made, same, answers⟩ := linked.calls called
    cases found.symm.trans same
    have arguments := answers.arguments
    simp only [Receive.arguments, callOf, Prod.mk.injEq] at arguments
    obtain ⟨objectId, _, length⟩ := arguments
    have nonempty : call.length ≠ 0 := by
      obtain ⟨_, vetted⟩ := vetted_invariant.reachable (world_reachable reachable)
      have late : 2 ≤ passed put.stage := by
        rcases answered with stage | stage <;> simp [stage, passed]
      rw [length, asks.chunkSize]
      exact ((vetted.attempts known).tokenable late).2
    obtain ⟨answer, transfer, _, _, checksum⟩ := (answers.served served brought).transferred nonempty
    obtain ⟨server, servedBy⟩ := consistent.servedBy found brought
    refine ⟨index, call, answer, ?_, fun computes => ?_⟩
    · refine ⟨⟨id, execution, found, caller, called⟩, made, ?_, length.trans asks.chunkSize, transfer⟩
      rw [objectId, asks.bucket, asks.objectKey]
    · have crc : served.response.crc32c = Backend.crc32c answer.bytes := by
        rw [servedBy.response]
        exact checksum computes
      rw [(results.outcomes known held).2, result]
      exact ⟨crc, crc⟩
  · simp [Execution.served, stage] at brought

/-- What an attempt has been answered is the checksum of the bytes that one transfer for its
own object, of its own size, wrote in the sink; and verification accepts the copies of the
buffer that have this checksum, none that differs in a burst or in an odd number of bits. -/
theorem put_integrity (reachable : (system brpc).Reachable deployment)
    (known : deployment.world.attempts key = some put)
    (answered : put.stage = .copying ∨ put.stage = .returned true)
    (computes : deployment.world.backend.computeCrc32c = true) :
    ∃ index call answer, Carried deployment key put index call answer ∧
      put.out.crc32c = Backend.crc32c answer.bytes ∧
      (put.stage = .copying → ∀ host,
        ((put.resume (.copied (some host))).stage = .returned true ↔
          crc32c host = Backend.crc32c answer.bytes) ∧
        (host.length = answer.bytes.length →
          BurstApart host answer.bytes ∨ Odd (differing host answer.bytes).card →
          (put.resume (.copied (some host))).stage = .aborting)) := by
  obtain ⟨index, call, answer, carried, checksums⟩ := carried reachable known answered
  obtain ⟨out, result⟩ := checksums computes
  refine ⟨index, call, answer, carried, out, fun copying host => ?_⟩
  rw [resume_copied copying, result]
  constructor
  · split <;> simp [*]
  · intro same corrupted
    rw [if_neg (crc32c_ne same corrupted)]

/-! ## A PUT that is about to be verified -/

def verifying : List Event :=
  .process (.listen true) ::
    (([.start { verifyCrc32c := true } { bucket := "bucket", key := "object", expectedSize := some 4 }
        { data := 4096, size := 4 } {} 1 2,
      .deliver 0 0 0,
      .deliver 0 0 0,
      .acquired sessionTwo {} ⟨true, true, some "1000:42"⟩] : List Cluster.Event).map .world ++
    .accept 0 0 true :: stepping 6 ++ .process (.receive (.transfer 0 Backend.Receives.fourBytes)) ::
      stepping 5 ++ .returns 0 :: List.replicate 3 (.world (.deliver 0 0 0)))

theorem verifying_integrity : ∃ (deployment : Deployment) (put : PutOnce) (index : Nat) (call : Receive)
    (answer : PutAnswer), put.stage = .copying ∧
      Carried deployment sessionTwo put index call answer ∧
      ∀ host, (put.resume (.copied (some host))).stage = .returned true ↔
        crc32c host = Backend.crc32c answer.bytes := by
  let outcome := System.replay (advance .whenIdle) launched verifying
  obtain ⟨deployment, replayed⟩ : ∃ deployment, outcome = some deployment := ⟨_, rfl⟩
  have waits : (outcome.bind fun deployment => deployment.world.attempts sessionTwo).map (·.stage) =
      some .copying := rfl
  have computes : outcome.map (·.world.backend.computeCrc32c) = some true := rfl
  rw [replayed, Option.bind_some] at waits
  rw [replayed, Option.map_some, Option.some.injEq] at computes
  obtain ⟨put, known, copying⟩ := Option.map_eq_some_iff.mp waits
  have reachable : (system .whenIdle).Reachable deployment :=
    ⟨launched, verifying, launched_initial, .of_replay replayed⟩
  obtain ⟨index, call, answer, carried, _, verdict⟩ :=
    put_integrity reachable known (.inl copying) computes
  exact ⟨deployment, put, index, call, answer, copying, carried, fun host => (verdict copying host).1⟩

end Deployment

end Us3Turbo.Cluster
