import Us3Turbo.Cluster.Availability
import Us3Turbo.Cluster.Replies
import Us3Turbo.Proxy.TicketIndex

/-! # When a PUT can succeed

Each check on the way of a PUT is made where the request passes: at the proxy, at the
manager of the client, at the sink of the backend.  An attempt that has got past a check
meets it, whatever the network does, and one that meets them all can succeed.
-/

namespace Us3Turbo.Cluster

open Us3Turbo.Data Us3Turbo.Proto Us3Turbo.Client Us3Turbo.Transition
open Us3Turbo.Backend (kMaxChunkBytes receiveAndDiscard_ok)
open Us3Turbo.Backend.DataPlaneService (ServedBy)
open Us3Turbo.Proxy (ProxyControlPlaneService openSessionError)

variable {before after world : World} {event : Event} {put next : PutOnce} {key session : String}
  {id : Nat} {execution : Execution} {request : GdsChunkRequest} {reply : Client.Reply}

/-! ## The checks -/

/-- Its `OpenSession` passes the proxy. -/
def Acceptable (put : PutOnce) : Prop := openSessionError (openSessionRequest put.attempt) = none

/-- Its buffer passes `AcquireToken`. -/
def Tokenable (put : PutOnce) : Prop := put.buffer.data ≠ 0 ∧ put.buffer.size ≠ 0

/-- Its buffer passes `ReceiveAndDiscard`. -/
def Fits (put : PutOnce) : Prop := put.buffer.size ≤ kMaxChunkBytes

/-- The checks that an attempt has got past, by number. -/
def passed : Stage → Nat
  | .acquiring => 1
  | .putting => 2
  | .copying | .returned true => 3
  | .opening | .aborting | .returned false => 0

structure Checked (put : PutOnce) : Prop where
  acceptable : 1 ≤ passed put.stage → Acceptable put
  tokenable : 2 ≤ passed put.stage → Tokenable put
  fits : 3 ≤ passed put.stage → Fits put

/-- The same call of `PutOnce`, at this point or another. -/
structure SameCall (put next : PutOnce) : Prop where
  attempt : next.attempt = put.attempt
  buffer : next.buffer = put.buffer

/-- The attempt of `session` has the property. -/
def World.Has (world : World) (session : String) (property : PutOnce → Prop) : Prop :=
  ∃ put, world.attempts session = some put ∧ property put

structure Vetted (world : World) : Prop where
  attempts : ∀ {key put}, world.attempts key = some put → Checked put
  grants : ∀ {session response}, .openSessionReply session (.ok response) ∈ world.network →
    world.Has session Acceptable
  puts : ∀ {session request}, .gdsPut (some session) request ∈ world.network →
    world.Has session fun put => request.chunkSize = put.buffer.size
  executions : ∀ {id execution session}, world.executions id = some execution →
    execution.caller = some session →
    world.Has session fun put => execution.request.chunkSize = put.buffer.size
  replies : ∀ {session response}, .gdsPutReply session (.ok response) ∈ world.network →
    world.Has session Fits

/-! ## What a step keeps -/

theorem SameCall.resume (put : PutOnce) (reply : Client.Reply) : SameCall put (put.resume reply) := by
  have turn := PutOnce.resume_turn put reply
  generalize put.resume reply = next at turn ⊢
  cases turn <;> exact ⟨rfl, rfl⟩

theorem Passage.same_call (passage : Passage before event after)
    (known : before.attempts session = some put) :
    ∃ next, after.attempts session = some next ∧ SameCall put next := by
  cases passage with
  | start fresh opening tokenless unanswered free named =>
      have different : session ≠ fresh.attempt.sessionId := by
        rintro rfl
        rw [free] at known
        cases known
      exact ⟨put, setAttempt_attempts.trans (if_neg different ▸ known), rfl, rfl⟩
  | resume other old reply kept found sublist authentic =>
      by_cases same : session = other
      · subst same
        rw [known, Option.some.injEq] at found
        subst found
        exact ⟨_, setAttempt_attempts.trans (if_pos rfl), .resume put reply⟩
      · exact ⟨put, setAttempt_attempts.trans (if_neg same ▸ known), rfl, rfl⟩
  | openSession => exact ⟨put, known, rfl, rfl⟩
  | reportGdsPut => exact ⟨put, known, rfl, rfl⟩
  | begin => exact ⟨put, known, rfl, rfl⟩
  | receive => exact ⟨put, known, rfl, rfl⟩
  | notified => exact ⟨put, known, rfl, rfl⟩
  | otherGdsPut => exact ⟨put, known, rfl, rfl⟩
  | duplicate => exact ⟨put, known, rfl, rfl⟩
  | refuse => exact ⟨put, known, rfl, rfl⟩
  | drop => exact ⟨put, known, rfl, rfl⟩

theorem World.Has.passage {property : PutOnce → Prop} (has : before.Has session property)
    (passage : Passage before event after)
    (keeps : ∀ {put next}, SameCall put next → property put → property next) :
    after.Has session property := by
  obtain ⟨put, known, holds⟩ := has
  obtain ⟨next, known', same⟩ := passage.same_call known
  exact ⟨next, known', keeps same holds⟩

theorem Acceptable.same (same : SameCall put next) (acceptable : Acceptable put) :
    Acceptable next := by
  rw [Acceptable, same.attempt]
  exact acceptable

theorem Fits.same (same : SameCall put next) (fits : Fits put) : Fits next := by
  rw [Fits, same.buffer]
  exact fits

theorem sized_same (same : SameCall put next) (sized : request.chunkSize = put.buffer.size) :
    request.chunkSize = next.buffer.size := by
  rw [same.buffer]
  exact sized

/-! ## The token

Only the answer of `AcquireToken` takes an attempt past its second check.
-/

theorem answered_token (reply : Client.Reply) (acquiring : put.stage = .acquiring)
    (putting : (put.resume reply).stage = .putting) : ∃ token, reply = .token (some token) := by
  cases reply with
  | token answer =>
      cases answer with
      | some token => exact ⟨token, rfl⟩
      | none => simp [PutOnce.resume, acquiring, PutOnce.onToken] at putting
  | _ => simp [PutOnce.resume, acquiring] at putting

theorem resume_token (resumed : world.resume session reply = some after)
    (known : world.attempts key = some put) (acquiring : put.stage = .acquiring)
    (found : after.attempts key = some next) (putting : next.stage = .putting) :
    session = key ∧ ∃ token, reply = .token (some token) := by
  obtain ⟨old, here, rfl⟩ := Option.map_eq_some_iff.mp resumed
  change (world.setAttempt session (old.resume reply)).attempts key = some next at found
  rw [setAttempt_attempts] at found
  split at found
  · rename_i same
    subst same
    rw [known, Option.some.injEq] at here
    subst here
    rw [Option.some.injEq] at found
    subst found
    exact ⟨rfl, answered_token reply acquiring putting⟩
  · rw [known, Option.some.injEq] at found
    rw [← found, acquiring] at putting
    cases putting

theorem acquireToken_valid {manager : GdsMemoryManager} {library : Client.Replies}
    {ptr : DevicePtr} {size offset : UInt64} {token : String}
    (acquired : (manager.acquireToken library ptr size offset).token = some token) :
    ptr ≠ 0 ∧ size ≠ 0 := by
  rw [← not_or]
  intro invalid
  rw [GdsMemoryManager.acquireToken, if_pos invalid] at acquired
  cases acquired

theorem handle_attempts {now : Int} {slot : Nat} {message : Message}
    (handled : world.handle now slot message = some after) :
    after.attempts = world.attempts ∨
      ∃ session reply, world.resume session reply = some after ∧
        ∀ answer, reply ≠ .token answer := by
  cases message with
  | openSessionReply session reply => exact .inr ⟨session, _, handled, nofun⟩
  | gdsPutReply session reply => exact .inr ⟨session, _, handled, nofun⟩
  | abortSessionReply session reply => exact .inr ⟨session, _, handled, nofun⟩
  | openSession request =>
      rw [World.handle, Option.some.injEq] at handled
      rw [← handled]
      exact .inl rfl
  | reportGdsPut id request =>
      rw [World.handle, Option.some.injEq] at handled
      rw [← handled]
      exact .inl rfl
  | abortSession request =>
      rw [World.handle, Option.some.injEq] at handled
      rw [← handled]
      exact .inl rfl
  | gdsPut caller request =>
      rw [World.handle] at handled
      split at handled
      · rw [Option.some.injEq] at handled
        rw [← handled]
        exact .inl rfl
      · cases handled
  | reportGdsPutReply id response =>
      obtain ⟨execution, known, rfl⟩ := Option.map_eq_some_iff.mp handled
      left
      split <;> rfl

theorem receive_attempts {server : Backend.Server} (received : world.receive id server = some after) :
    after.attempts = world.attempts := by
  unfold World.receive at received
  split at received
  · split at received
    · split at received
      · cases received
        rfl
      · split at received
        · cases received
          rfl
        · cases received
          rfl
    · cases received
  · cases received

/-- An attempt that gets its token had a buffer to ask for. -/
theorem advance_token (advanced : before.advance event = some after)
    (known : before.attempts key = some put) (acquiring : put.stage = .acquiring)
    (found : after.attempts key = some next) (putting : next.stage = .putting) : Tokenable put := by
  have unmoved (same : after.attempts = before.attempts) : Tokenable put := by
    rw [same, known, Option.some.injEq] at found
    rw [← found, acquiring] at putting
    cases putting
  have other (world : World) {session : String} {reply : Client.Reply}
      (same : world.attempts = before.attempts) (resumed : world.resume session reply = some after)
      (tokenless : ∀ answer, reply ≠ .token answer) : Tokenable put := by
    obtain ⟨_, token, answer⟩ := resume_token resumed (same ▸ known) acquiring found putting
    exact absurd answer (tokenless (some token))
  cases event with
  | acquired session manager library =>
      obtain ⟨old, here, resumed⟩ := Option.bind_eq_some_iff.mp advanced
      obtain ⟨rfl, token, answer⟩ := resume_token resumed known acquiring found putting
      rw [known, Option.some.injEq] at here
      subst here
      rw [Client.Reply.token.injEq] at answer
      exact acquireToken_valid answer
  | start options request buffer out requestValue sessionValue =>
      simp only [World.advance] at advanced
      split at advanced
      · rename_i free
        rw [Option.some.injEq] at advanced
        subst advanced
        change (before.setAttempt _ (PutOnce.start options request buffer out requestValue
          sessionValue)).attempts key = some next at found
        rw [setAttempt_attempts] at found
        split at found
        · rw [Option.some.injEq] at found
          rw [← found] at putting
          cases putting
        · rw [known, Option.some.injEq] at found
          rw [← found, acquiring] at putting
          cases putting
      · cases advanced
  | copied session host => exact other before rfl advanced (by simp)
  | timeout session error =>
      obtain ⟨old, _, failed⟩ := Option.bind_eq_some_iff.mp advanced
      obtain ⟨reply, answer, resumed⟩ := Option.bind_eq_some_iff.mp failed
      refine other before rfl resumed ?_
      rintro token rfl
      unfold World.failedCall at answer
      split at answer <;> cases answer
  | deliver index now slot =>
      obtain ⟨message, _, handled⟩ := Option.bind_eq_some_iff.mp advanced
      rcases handle_attempts handled with same | ⟨session, reply, resumed, tokenless⟩
      · exact unmoved same
      · exact other { before with network := before.network.eraseIdx index } rfl resumed tokenless
  | otherGdsPut request =>
      simp only [World.advance] at advanced
      split at advanced
      · rw [Option.some.injEq] at advanced
        exact unmoved (advanced ▸ rfl)
      · cases advanced
  | lose index =>
      simp only [World.advance] at advanced
      split at advanced
      · rw [Option.some.injEq] at advanced
        exact unmoved (advanced ▸ rfl)
      · cases advanced
  | duplicate index =>
      obtain ⟨message, _, rfl⟩ := Option.map_eq_some_iff.mp advanced
      exact unmoved rfl
  | receive id server => exact unmoved (receive_attempts advanced)
  | reportTimeout id =>
      obtain ⟨execution, _, rfl⟩ := Option.map_eq_some_iff.mp advanced
      apply unmoved
      split <;> rfl

/-! ## Past every check -/

namespace Vetted

theorem grants_passage (vetted : Vetted before) (consistent : Consistent before)
    (passage : Passage before event after) {response : OpenSessionResponse}
    (member : .openSessionReply session (.ok response) ∈ after.network) :
    after.Has session Acceptable := by
  rcases passage.replied member with old | new
  · exact (vetted.grants old).passage passage Acceptable.same
  · generalize sent : (.openSessionReply session (.ok response) : Message) = message at new
    cases new with
    | asked message asks =>
        subst sent
        cases asks
    | openSession request now pending proxy =>
        rw [Message.openSessionReply.injEq] at sent
        obtain ⟨rfl, accepted⟩ := sent
        obtain ⟨put, known, asked⟩ := consistent.openings pending
        refine World.Has.passage ⟨put, known, ?_⟩ passage Acceptable.same
        rw [Acceptable, ← asked]
        cases checked : openSessionError request with
        | some error => simp [ProxyControlPlaneService.openSession, checked] at accepted
        | none => rfl
    | gdsPut => cases sent
    | reportGdsPut => cases sent

theorem puts_passage (vetted : Vetted before) (consistent : Consistent after)
    (passage : Passage before event after) (member : .gdsPut (some session) request ∈ after.network) :
    after.Has session fun put => request.chunkSize = put.buffer.size := by
  rcases passage.effect.issued member with old | new
  · exact (vetted.puts old).passage passage sized_same
  · cases new with
    | gdsPut other put token known held =>
        obtain ⟨named, _⟩ := consistent.named other put known
        exact ⟨put, named ▸ known, rfl⟩

theorem executions_passage (vetted : Vetted before) (passage : Passage before event after)
    (found : after.executions id = some execution) (caller : execution.caller = some session) :
    after.Has session fun put => execution.request.chunkSize = put.buffer.size := by
  rcases passage.called found caller with pending | ⟨old, known, caller', request⟩
  · exact (vetted.puts pending).passage passage sized_same
  · rw [request]
    exact (vetted.executions known caller').passage passage sized_same

theorem replies_passage (vetted : Vetted before) (consistent : Consistent after)
    (passage : Passage before event after) {response : GdsChunkResponse}
    (member : .gdsPutReply session (.ok response) ∈ after.network) : after.Has session Fits := by
  rcases passage.replied member with old | new
  · exact (vetted.replies old).passage passage Fits.same
  · generalize sent : (.gdsPutReply session (.ok response) : Message) = message at new
    cases new with
    | asked message asks =>
        subst sent
        cases asks
    | openSession => cases sent
    | gdsPut caller id execution result known called done =>
        rw [Message.gdsPutReply.injEq] at sent
        obtain ⟨rfl, answered⟩ := sent
        cases result with
        | error error => cases answered
        | ok served =>
            obtain ⟨put, here, size⟩ := vetted.executions_passage passage known called
            obtain ⟨server, servedBy⟩ := consistent.servedBy known
              (show execution.served = some served by rw [Execution.served, done])
            have received := servedBy.received
            rw [servedBy.outcome] at received
            refine ⟨put, here, ?_⟩
            rw [Fits, ← size]
            rcases receiveAndDiscard_ok received with empty | transfers
            · rw [empty]
              decide
            · exact transfers.bounded
    | reportGdsPut => cases sent

theorem attempts_step (vetted : Vetted before) (advanced : before.advance event = some after)
    (found : after.attempts key = some next) : Checked next := by
  rcases (advance_passage advanced).attempt found with
    known | ⟨opening, _⟩ | ⟨put, reply, known, rfl, authentic⟩
  · exact vetted.attempts known
  · constructor <;> simp [opening, passed]
  · have checked := vetted.attempts known
    have token := fun acquiring => advance_token advanced known acquiring found
    have turn := PutOnce.resume_turn put reply
    generalize put.resume reply = next at turn found token
    cases turn with
    | same => exact checked
    | granted response opening answer =>
        subst answer
        obtain ⟨holder, here, acceptable⟩ := vetted.grants authentic
        rw [known, Option.some.injEq] at here
        subst here
        exact ⟨fun _ => acceptable, nofun, nofun⟩
    | acquired value acquiring =>
        have acceptable : Acceptable put := checked.acceptable (by simp [acquiring, passed])
        exact ⟨fun _ => acceptable, fun _ => token acquiring rfl, nofun⟩
    | answered response putting answer =>
        subst answer
        obtain ⟨holder, here, fits⟩ := vetted.replies authentic
        rw [known, Option.some.injEq] at here
        subst here
        have acceptable : Acceptable put := checked.acceptable (by simp [putting, passed])
        have tokenable : Tokenable put := checked.tokenable (by simp [putting, passed])
        exact ⟨fun _ => acceptable, fun _ => tokenable, fun _ => fits⟩
    | verified copying =>
        have acceptable : Acceptable put := checked.acceptable (by simp [copying, passed])
        have tokenable : Tokenable put := checked.tokenable (by simp [copying, passed])
        have fits : Fits put := checked.fits (by simp [copying, passed])
        exact ⟨fun _ => acceptable, fun _ => tokenable, fun _ => fits⟩
    | aborts begun waiting => exact ⟨nofun, nofun, nofun⟩
    | fails waiting => exact ⟨nofun, nofun, nofun⟩

end Vetted

theorem vetted_initial (initial : World.system.initial world) : Vetted world where
  attempts found := absurd found (initial_attempts initial)
  grants member := absurd member (initial_network initial)
  puts member := absurd member (initial_network initial)
  executions found := absurd found (initial_executions initial)
  replies member := absurd member (initial_network initial)

theorem vetted_invariant : World.system.Invariant fun world => Consistent world ∧ Vetted world where
  initial initial := ⟨consistent_invariant.initial initial, vetted_initial initial⟩
  step := by
    intro before event after holds advanced
    obtain ⟨consistent, vetted⟩ := holds
    have passage := advance_passage advanced
    have consistent' := consistent.effect passage.effect
    exact ⟨consistent', vetted.attempts_step advanced, vetted.grants_passage consistent passage,
      vetted.puts_passage consistent' passage, vetted.executions_passage passage,
      vetted.replies_passage consistent' passage⟩

/-- A PUT that has succeeded asked for nothing unreasonable. -/
theorem success_feasible {request : PutObjectRequest} {options : ClientOptions}
    {requestValue sessionValue : UInt64} (reachable : World.system.Reachable world)
    (known : world.attempts key = some put)
    (asked : put.attempt = makePutAttempt options request requestValue sessionValue)
    (returned : put.stage = .returned true) : Feasible request put.buffer := by
  have checked := (vetted_invariant.reachable reachable).2.attempts known
  have all : passed put.stage = 3 := by rw [returned, passed]
  have acceptable : Acceptable put := checked.acceptable (by omega)
  have tokenable : Tokenable put := checked.tokenable (by omega)
  rw [Acceptable, asked] at acceptable
  obtain ⟨bucket, key, announced⟩ := Proxy.openSessionError_none acceptable
  exact ⟨bucket, key, announced, tokenable.1, tokenable.2, checked.fits (by omega)⟩

/-- In whatever state the system is, a new PUT can succeed, faults or not, exactly if its
request and its buffer meet what is checked on the way. -/
theorem put_possible_iff (reachable : World.system.Reachable world) {options : ClientOptions}
    {request : PutObjectRequest} {buffer : ConstBufferView} {requestValue sessionValue : UInt64}
    (fresh : world.attempts (makeId kSessionIdPrefix sessionValue) = none)
    (checkable : options.verifyCrc32c = true → world.backend.computeCrc32c = true) :
    (∃ events later put, World.system.Run world events later ∧
      later.attempts (makeId kSessionIdPrefix sessionValue) = some put ∧
      put.attempt = makePutAttempt options request requestValue sessionValue ∧
      put.buffer = buffer ∧ put.stage = .returned true) ↔ Feasible request buffer := by
  constructor
  · rintro ⟨events, later, put, run, known, asked, rfl, returned⟩
    exact success_feasible (reachable.run run) known asked returned
  · intro feasible
    have whole : (List.replicate buffer.size.toNat (0 : UInt8)).length = buffer.size.toNat :=
      List.length_replicate
    obtain ⟨later, put, ⟨events, run⟩, known, asked, same, returned, _⟩ :=
      feasible_leads (finite_invariant.reachable reachable) options {} requestValue sessionValue
        feasible fresh checkable whole
    exact ⟨events, later, put, run.of_restrict, known, asked, same, returned⟩

/-- One byte more than the sink takes: the first PUT of all cannot succeed, in no run. -/
theorem oversize_put_impossible : ¬ ∃ events later put,
    World.system.Run { proxy := Proxy.defaultProxy } events later ∧
      later.attempts sessionTwo = some put ∧
      put.attempt = makePutAttempt {} { bucket := "bucket", key := "object", expectedSize := some 4 } 1 2 ∧
      put.buffer = { data := 4096, size := 1073741825 } ∧ put.stage = .returned true := by
  have named : makeId kSessionIdPrefix 2 = sessionTwo := by decide
  have checkable : ({} : ClientOptions).verifyCrc32c = true →
      ({ proxy := Proxy.defaultProxy } : World).backend.computeCrc32c = true := nofun
  rw [← named, put_possible_iff (.of_initial started_initial) rfl checkable]
  intro feasible
  exact absurd feasible.fits (by decide)

end Us3Turbo.Cluster
