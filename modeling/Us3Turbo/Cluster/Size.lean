import Us3Turbo.Cluster.Provenance

/-! # The size a session was opened for

`expected_size`, the size of the buffer, `chunk_size` and the transferred count
are four numbers; `CompleteSession` compares none of them.
-/

namespace Us3Turbo.Cluster

open Us3Turbo.Proto Us3Turbo.Client Us3Turbo.Transition
open Us3Turbo.Backend (DataPlaneService Server Transfers gdsPutError)
open Us3Turbo.Proxy (ProxyControlPlaneService Session)

variable {before after world : World} {event : Event} {put : PutOnce} {key : String}
  {session : Session}

def expectedSize (put : PutOnce) : UInt64 := put.attempt.length.getD 0

/-- If the request gets as far as a transfer, it moves `size` bytes; an empty chunk moves none. -/
def Moves (server : Server) (request : GdsChunkRequest) (size : UInt64) : Prop :=
  gdsPutError server request = none → (request.chunkSize = 0 → size = 0) ∧
    (Transfers server request.chunkSize (DataPlaneService.put server request) →
      (DataPlaneService.put server request).transferred.toUInt64 = size)

/-- The step is no `ReceiveAndDiscard` that succeeds with another count than the
attempt of its session announced. -/
def MovesExpected (before : World) (event : Event) : Prop :=
  ∀ id server execution put, event = .receive id server →
    before.executions id = some execution →
    before.attempts execution.request.sessionId = some put →
    Moves server execution.request (expectedSize put)

theorem received_size {service : DataPlaneService} {server : Server} {request : GdsChunkRequest}
    {served : Backend.Served} {size : UInt64} (moves : Moves server request size)
    (accepted : service.gdsPut server request = .ok served) :
    served.outcome.bytesTransferred = size := by
  obtain ⟨checked, outcome, received, _, _⟩ := DataPlaneService.gdsPut_ok_iff.mp accepted
  obtain ⟨empty, full⟩ := moves checked
  rw [outcome] at received
  rcases Backend.receiveAndDiscard_ok received with zero | transfers
  · rw [outcome, DataPlaneService.receive, Backend.receiveAndDiscard_empty zero, empty zero]
  · have discarded : service.receive server request =
        Backend.discard service.computeCrc32c (DataPlaneService.put server request) :=
      Backend.receiveAndDiscard_transfers rfl transfers
    rw [outcome, discarded]
    exact full transfers

/-- A `GdsPut`, under way or begun, names a session that some attempt has. -/
structure Known (world : World) : Prop where
  named : Named world
  puts : ∀ {caller request}, .gdsPut caller request ∈ world.network →
    ∃ put, world.attempts request.sessionId = some put
  executions : ∀ {id execution}, world.executions id = some execution →
    ∃ put, world.attempts execution.request.sessionId = some put

theorem Known.effect (known : Known before) (effect : Effect before event after) : Known after := by
  have named : Named after := known.named.effect effect
  have kept : ∀ {request : GdsChunkRequest}, (∃ put, before.attempts request.sessionId = some put) →
      ∃ put, after.attempts request.sessionId = some put := by
    rintro request ⟨put, found⟩
    obtain ⟨next, found', _⟩ := effect.attempts found
    exact ⟨next, found'⟩
  have fresh : ∀ {caller request}, Issued event after (.gdsPut caller request) →
      ∃ put, after.attempts request.sessionId = some put := by
    intro caller request new
    cases new with
    | gdsPut session put token found held =>
        have name : (gdsChunkRequest put.attempt put.grant token put.buffer.size).sessionId =
            session := (named session put found).1
        exact ⟨put, name.symm ▸ found⟩
    | otherGdsPut request other found => exact Option.isSome_iff_exists.mp found
  obtain ⟨puts, executions⟩ := effect.requests
    (fun world request => ∃ put, world.attempts request.sessionId = some put) kept fresh
    known.puts known.executions
  exact ⟨named, puts, executions⟩

def Expected (world : World) : Prop :=
  ∀ id execution served put, world.executions id = some execution →
    execution.served = some served →
    world.attempts execution.request.sessionId = some put →
    served.outcome.bytesTransferred = expectedSize put

theorem Expected.effect (expected : Expected before) (known : Known before)
    (effect : Effect before event after) (moves : MovesExpected before event) : Expected after := by
  intro id execution served put found brought attempt
  rcases effect.execution_origin found with ⟨caller, _, nothing⟩ | ⟨old, found', same, origin⟩
  · rw [nothing] at brought
    cases brought
  · obtain ⟨earlier, attempt'⟩ := known.executions found'
    obtain ⟨next, attempt'', continues⟩ := effect.attempts attempt'
    rw [same, attempt'', Option.some.injEq] at attempt
    rw [← attempt, expectedSize, continues.attempt]
    rcases origin served brought with before | ⟨server, request, accepted⟩
    · exact expected id old served earlier found' before attempt'
    · exact received_size (moves id server old earlier request found' attempt') accepted

def World.expectedMoves : System World Event :=
  World.system.restrict fun before event _ => MovesExpected before event

theorem expected_invariant :
    World.expectedMoves.Invariant fun world => Known world ∧ Expected world where
  initial initial := by
    refine ⟨⟨?_, ?_, ?_⟩, ?_⟩
    · exact fun _ _ found => absurd found (initial_attempts initial)
    · exact fun member => absurd member (initial_network initial)
    · exact fun found => absurd found (initial_executions initial)
    · exact fun _ _ _ _ found => absurd found (initial_executions initial)
  step := by
    rintro before event after ⟨known, expected⟩ ⟨advanced, moves⟩
    have effect := advance_effect advanced
    exact ⟨known.effect effect, expected.effect known effect moves⟩

/-- While every transfer that succeeds moves the announced number of bytes, a completed
session has the size it was opened for. -/
theorem completed_session_size (reachable : World.expectedMoves.Reachable world)
    (found : world.proxy.lookup key = some session) (done : session.status = .completed) :
    session.bytesTransferred = session.expectedSize := by
  have consistent := consistent_invariant.reachable reachable.of_restrict
  obtain ⟨_, expected⟩ := expected_invariant.reachable reachable
  obtain ⟨report, reported, name, _, _, bytes⟩ := consistent.completed found done
  obtain ⟨id, execution, served, known, brought, rfl⟩ := reported
  obtain ⟨put, opened, _, _, size⟩ := consistent.records found
  have session_ : execution.request.sessionId = key := name
  rw [bytes, size]
  exact expected id execution served put known brought (session_.symm ▸ opened)

/-! ## Eight bytes announced, four sent -/

theorem short_buffer_completes :
    ¬ ∀ (world : World) (key : String) (session : Session), World.ownPuts.Reachable world →
      world.proxy.lookup key = some session → session.status = .completed →
      session.bytesTransferred = session.expectedSize := by
  intro always
  have reachable : World.ownPuts.Reachable (worldAfter (putEvents 8)) :=
    worldAfter_reachable (by decide) (by decide)
  have record : ((worldAfter (putEvents 8)).proxy.lookup sessionTwo).map
      (fun session => (session.status, session.bytesTransferred, session.expectedSize)) =
        some (.completed, 4, 8) := by decide
  obtain ⟨session, found, fields⟩ := Option.map_eq_some_iff.mp record
  simp only [Prod.mk.injEq] at fields
  obtain ⟨done, bytes, size⟩ := fields
  have equal := always _ _ session reachable found done
  rw [bytes, size] at equal
  exact absurd equal (by decide)

theorem MovesExpected.of_not_receive (quiet : ∀ id server, event ≠ .receive id server) :
    MovesExpected before event :=
  fun id server _ _ request => absurd request (quiet id server)

theorem fourBytes_moves (request : GdsChunkRequest) (nonempty : request.chunkSize ≠ 0) :
    Moves fourBytes request 4 :=
  fun _ => ⟨fun empty => absurd empty nonempty, fun _ => rfl⟩

theorem announced_put_reachable : World.expectedMoves.Reachable (worldAfter (putEvents 4)) := by
  have first : World.expectedMoves.Run { proxy := Proxy.defaultProxy } ((putEvents 4).take 5)
      (worldAfter ((putEvents 4).take 5)) := by
    refine (worldAfter_run (by decide)).restrict_labels fun event member _ _ => ?_
    apply MovesExpected.of_not_receive
    intro id server
    simp only [putEvents, List.take, List.mem_cons, List.not_mem_nil, or_false] at member
    rcases member with rfl | rfl | rfl | rfl | rfl <;> exact Event.noConfusion
  have received : World.expectedMoves.Run (worldAfter ((putEvents 4).take 5))
      [.receive 0 fourBytes] (worldAfter ((putEvents 4).take 6)) := by
    apply System.Run.single
    refine ⟨rfl, ?_⟩
    intro id server execution put request found attempt
    cases request
    cases found
    cases attempt
    exact fourBytes_moves _ (by decide)
  have reported : World.expectedMoves.Run (worldAfter ((putEvents 4).take 6))
      [.deliver 0 0 0] (worldAfter (putEvents 4)) := by
    apply System.Run.single
    exact ⟨rfl, MovesExpected.of_not_receive fun _ _ => Event.noConfusion⟩
  exact ⟨_, _, started_initial, (first.append received).append reported⟩

theorem announced_put_size : ∃ session,
    (worldAfter (putEvents 4)).proxy.lookup sessionTwo = some session ∧
      session.bytesTransferred = session.expectedSize := by
  obtain ⟨session, found, done⟩ := put_completes
  exact ⟨session, found, completed_session_size announced_put_reachable found done⟩

end Us3Turbo.Cluster
