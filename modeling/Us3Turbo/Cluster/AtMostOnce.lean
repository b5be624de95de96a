import Us3Turbo.Cluster.Provenance
import Us3Turbo.Data.Once

/-! # Messages delivered at most once

Without duplicates a session is opened once, its `GdsPut` is sent once and begun once.
-/

namespace Us3Turbo.Cluster

open Us3Turbo.Data Us3Turbo.Proto Us3Turbo.Client Us3Turbo.Backend
open Us3Turbo.Proxy (ProxyControlPlaneService)

variable {before after world : World} {event : Event} {put : PutOnce} {key : String}
  {message : Message} {kept : List Message}

def Event.once : Event → Bool
  | .duplicate _ => false
  | _ => true

/-- The session that a message opens. -/
def Message.opens : Message → Option String
  | .openSession request => some request.sessionId
  | _ => none

/-- The session that a message brings a `GdsPut` for. -/
def Message.puts : Message → Option String
  | .gdsPut _ request => some request.sessionId
  | _ => none

structure Orderly (world : World) : Prop where
  opens : Once Message.opens world.network
  unopened : ∀ {request}, .openSession request ∈ world.network →
    world.proxy.lookup request.sessionId = none
  tokenless : ∀ {key put}, world.attempts key = some put →
    put.stage = .opening ∨ put.stage = .acquiring → put.token = none
  puts : Once Message.puts world.network
  unbegun : ∀ {caller request id execution}, .gdsPut caller request ∈ world.network →
    world.executions id = some execution → execution.request.sessionId ≠ request.sessionId
  single : ∀ {id other execution next}, world.executions id = some execution →
    world.executions other = some next → execution.request.sessionId = next.request.sessionId →
    id = other

/-! ## What a step sends -/

theorem opens_eq_some : message.opens = some key ↔
    ∃ request, message = .openSession request ∧ request.sessionId = key := by
  cases message <;> simp [Message.opens]

theorem puts_eq_some : message.puts = some key ↔
    ∃ caller request, message = .gdsPut caller request ∧ request.sessionId = key := by
  cases message <;> simp [Message.puts]

theorem sent_opening (opening : put.stage = .opening) :
    sent put = [.openSession (openSessionRequest put.attempt)] := by
  rw [sent, PutOnce.issued, opening]

theorem sent_putting (putting : put.stage = .putting) :
    sent put = [.gdsPut (some put.attempt.sessionId)
      (gdsChunkRequest put.attempt put.grant (put.token.getD "") put.buffer.size)] := by
  rw [sent, PutOnce.issued, putting]

theorem sent_opens (begun : put.stage ≠ .opening) (member : message ∈ sent put) :
    message.opens = none := by
  rcases mem_sent member with ⟨opening, _⟩ | ⟨_, rfl⟩ | rfl
  · exact absurd opening begun
  · rfl
  · rfl

theorem sent_puts (other : put.stage ≠ .putting) (member : message ∈ sent put) :
    message.puts = none := by
  rcases mem_sent member with ⟨_, rfl⟩ | ⟨putting, _⟩ | rfl
  · rfl
  · exact absurd putting other
  · rfl

/-- The message is no request of an attempt. -/
def Quiet (message : Message) : Prop := message.opens = none ∧ message.puts = none

theorem answer_quiet {execution : Execution} {result : RpcResult Served}
    (member : message ∈ answer execution result) : Quiet message := by
  obtain ⟨session, reply, rfl⟩ := answer_replies member
  exact ⟨rfl, rfl⟩

theorem Receives.quiet {id : Nat} {execution : Execution} {result : RpcResult Served}
    {stage : ExecutionStage} {fresh : List Message}
    (receives : Receives id execution result stage fresh) (member : message ∈ fresh) :
    Quiet message := by
  rcases receives.sources member with ⟨session, reply, rfl⟩ | ⟨served, report, _, _, rfl⟩
  · exact ⟨rfl, rfl⟩
  · exact ⟨rfl, rfl⟩

/-- An attempt sends its `GdsPut` when it gets its token, and at no other time. -/
theorem turn_sends {reply : Client.Reply} (moved : (put.resume reply).stage ≠ put.stage)
    (putting : (put.resume reply).stage = .putting) : put.stage = .acquiring := by
  have turn := PutOnce.resume_turn put reply
  generalize put.resume reply = next at turn moved putting
  cases turn with
  | same => exact absurd rfl moved
  | granted => cases putting
  | acquired token acquiring => exact acquiring
  | answered response =>
      simp only [PutOnce.onGdsPut] at putting
      split at putting <;> cases putting
  | verified => cases putting
  | aborts => cases putting
  | fails => cases putting

/-- At most one of the messages that a step sends is a request of an attempt. -/
inductive Sends (before : World) : List Message → Prop where
  | quiet (fresh : List Message) (quiet : ∀ message ∈ fresh, Quiet message) : Sends before fresh
  | opens (put : PutOnce) (free : before.attempts put.attempt.sessionId = none) :
      Sends before [.openSession (openSessionRequest put.attempt)]
  | puts (session : String) (put : PutOnce) (caller : Option String) (request : GdsChunkRequest)
      (known : before.attempts session = some put) (acquiring : put.stage = .acquiring)
      (name : request.sessionId = put.attempt.sessionId) : Sends before [.gdsPut caller request]

theorem Sends.single (quiet : Quiet message) : Sends before [message] :=
  .quiet _ fun _ member => List.mem_singleton.mp member ▸ quiet

/-- What a step leaves of the messages under way. -/
def Left (before : World) (kept : List Message) : Prop :=
  kept.Sublist before.network ∨ ∃ message, before.network.Perm (message :: kept)

theorem Left.once {keyOf : Message → Option String} (left : Left before kept)
    (once : Once keyOf before.network) : Once keyOf kept := by
  rcases left with sublist | ⟨message, taken⟩
  · exact once.sublist sublist
  · exact once.taken taken

theorem Left.mem (left : Left before kept) (member : message ∈ kept) : message ∈ before.network := by
  rcases left with sublist | ⟨other, taken⟩
  · exact sublist.subset member
  · exact taken.mem_iff.mpr (List.mem_cons_of_mem _ member)

namespace Passage

theorem network (passage : Passage before event after) (own : event.own = true)
    (once : event.once = true) :
    ∃ kept fresh, after.network = kept ++ fresh ∧ Left before kept ∧ Sends before fresh := by
  have all : Left before before.network := .inl (.refl _)
  cases passage with
  | start put opening tokenless unanswered free named =>
      refine ⟨_, _, rfl, all, ?_⟩
      rw [sent_opening opening]
      exact .opens put free
  | resume session put reply kept known sublist authentic =>
      refine ⟨_, _, rfl, .inl sublist, ?_⟩
      split
      · exact .quiet [] nofun
      · rename_i moved
        have begun := (PutOnce.resume_resumed put reply).not_opening moved
        by_cases putting : (put.resume reply).stage = .putting
        · rw [sent_putting putting]
          refine .puts session put _ _ known (turn_sends moved putting) ?_
          exact congrArg PutAttempt.sessionId (PutOnce.resume_resumed put reply).attempt
        · exact .quiet _ fun message member => ⟨sent_opens begun member, sent_puts putting member⟩
  | openSession request now kept taken =>
      exact ⟨_, _, rfl, .inr ⟨_, taken⟩, .single ⟨rfl, rfl⟩⟩
  | reportGdsPut id request kept taken =>
      exact ⟨_, _, rfl, .inr ⟨_, taken⟩, .single ⟨rfl, rfl⟩⟩
  | begin slot caller request kept taken free =>
      exact ⟨kept, [], (List.append_nil _).symm, .inr ⟨_, taken⟩, .quiet [] nofun⟩
  | receive id execution server stage fresh request known receiving receives =>
      exact ⟨_, _, rfl, all, .quiet _ fun message => receives.quiet⟩
  | notified id execution served kept known stage sublist =>
      exact ⟨_, _, rfl, .inl sublist, .quiet _ fun message => answer_quiet⟩
  | otherGdsPut request other known =>
      rw [other] at own
      cases own
  | duplicate message index doubles member =>
      rw [doubles] at once
      cases once
  | refuse request kept sublist => exact ⟨_, _, rfl, .inl sublist, .single ⟨rfl, rfl⟩⟩
  | drop kept sublist => exact ⟨kept, [], (List.append_nil _).symm, .inl sublist, .quiet [] nofun⟩

/-- A step handles one `OpenSession`, or opens nothing. -/
theorem opened (passage : Passage before event after) :
    (∃ request now kept, before.network.Perm (.openSession request :: kept) ∧
      after.proxy = (before.proxy.openSession now request).2 ∧
      after.network = kept ++
        [.openSessionReply request.sessionId (before.proxy.openSession now request).1]) ∨
      ∀ key, before.proxy.lookup key = none → after.proxy.lookup key = none := by
  cases passage with
  | openSession request now kept taken => exact .inl ⟨request, now, kept, taken, rfl, rfl⟩
  | reportGdsPut id request kept taken =>
      refine .inr fun key absent => ?_
      rw [ProxyControlPlaneService.lookup_reportGdsPut, absent]
      split <;> rfl
  | start => exact .inr fun _ => id
  | resume => exact .inr fun _ => id
  | begin => exact .inr fun _ => id
  | receive => exact .inr fun _ => id
  | notified => exact .inr fun _ => id
  | otherGdsPut => exact .inr fun _ => id
  | duplicate => exact .inr fun _ => id
  | refuse => exact .inr fun _ => id
  | drop => exact .inr fun _ => id

/-- A step begins one execution, or none. -/
theorem begun (passage : Passage before event after) :
    (∃ slot caller request kept, before.network.Perm (.gdsPut caller request :: kept) ∧
      after = { before.setExecution slot { caller, request } with network := kept }) ∨
      ∀ {id next}, after.executions id = some next → ∃ execution,
        before.executions id = some execution ∧ next.request = execution.request ∧
          next.caller = execution.caller := by
  cases passage with
  | begin slot caller request kept taken free => exact .inl ⟨slot, caller, request, kept, taken, rfl⟩
  | receive other execution server stage fresh request known receiving receives =>
      refine .inr fun {id next} found => ?_
      rw [show _ = _ from setExecution_executions] at found
      split at found
      · rename_i same
        cases found
        exact ⟨execution, same ▸ known, rfl, rfl⟩
      · exact ⟨next, found, rfl, rfl⟩
  | notified other execution served kept known stage sublist =>
      refine .inr fun {id next} found => ?_
      rw [show _ = _ from setExecution_executions] at found
      split at found
      · rename_i same
        cases found
        exact ⟨execution, same ▸ known, rfl, rfl⟩
      · exact ⟨next, found, rfl, rfl⟩
  | start => exact .inr fun found => ⟨_, found, rfl, rfl⟩
  | resume => exact .inr fun found => ⟨_, found, rfl, rfl⟩
  | openSession => exact .inr fun found => ⟨_, found, rfl, rfl⟩
  | reportGdsPut => exact .inr fun found => ⟨_, found, rfl, rfl⟩
  | otherGdsPut => exact .inr fun found => ⟨_, found, rfl, rfl⟩
  | duplicate => exact .inr fun found => ⟨_, found, rfl, rfl⟩
  | refuse => exact .inr fun found => ⟨_, found, rfl, rfl⟩
  | drop => exact .inr fun found => ⟨_, found, rfl, rfl⟩

/-- The `GdsPut` of an execution that an attempt waits for was pending, or had begun. -/
theorem called {id : Nat} {execution : Execution} {session : String}
    (passage : Passage before event after) (found : after.executions id = some execution)
    (caller : execution.caller = some session) :
    .gdsPut (some session) execution.request ∈ before.network ∨
      ∃ old, before.executions id = some old ∧ old.caller = some session ∧
        execution.request = old.request := by
  rcases passage.begun with ⟨slot, begins, request, kept, taken, rfl⟩ | keeps
  · rw [show _ = _ from setExecution_executions] at found
    split at found
    · cases found
      exact .inl (taken.mem_iff.mpr (caller ▸ List.mem_cons_self))
    · exact .inr ⟨execution, found, caller, rfl⟩
  · obtain ⟨old, known, same, caller'⟩ := keeps found
    exact .inr ⟨old, known, caller' ▸ caller, same⟩

/-- An attempt was there before, has just been started, or has got an answer. -/
theorem attempt {next : PutOnce} (passage : Passage before event after)
    (found : after.attempts key = some next) :
    before.attempts key = some next ∨
      (next.stage = .opening ∧ next.token = none ∧ next.response = none) ∨
      ∃ put reply, before.attempts key = some put ∧ next = put.resume reply ∧
        Authentic before key reply := by
  cases passage with
  | start put opening tokenless unanswered free named =>
      rw [show _ = _ from setAttempt_attempts] at found
      split at found
      · cases found
        exact .inr (.inl ⟨opening, tokenless, unanswered⟩)
      · exact .inl found
  | resume session put reply kept known sublist authentic =>
      rw [show _ = _ from setAttempt_attempts] at found
      split at found
      · rename_i same
        subst same
        cases found
        exact .inr (.inr ⟨put, reply, known, rfl, authentic⟩)
      · exact .inl found
  | openSession => exact .inl found
  | reportGdsPut => exact .inl found
  | begin => exact .inl found
  | receive => exact .inl found
  | notified => exact .inl found
  | otherGdsPut => exact .inl found
  | duplicate => exact .inl found
  | refuse => exact .inl found
  | drop => exact .inl found

/-- An attempt that has not asked for its token has none. -/
theorem tokenless {next : PutOnce} (passage : Passage before event after)
    (tokenless : ∀ {key put}, before.attempts key = some put →
      put.stage = .opening ∨ put.stage = .acquiring → put.token = none)
    (found : after.attempts key = some next)
    (early : next.stage = .opening ∨ next.stage = .acquiring) : next.token = none := by
  rcases passage.attempt found with known | ⟨_, absent, _⟩ | ⟨put, reply, known, rfl, _⟩
  · exact tokenless known early
  · exact absent
  · have turn := PutOnce.resume_turn put reply
    generalize put.resume reply = next at turn early
    cases turn with
    | same => exact tokenless known early
    | granted response opening =>
        have absent : put.token = none := tokenless known (.inl opening)
        exact absent
    | acquired token => simp at early
    | answered response =>
        simp only [PutOnce.onGdsPut] at early
        split at early <;> simp at early
    | verified => simp at early
    | aborts => simp at early
    | fails => simp at early

end Passage

/-! ## What a step keeps -/

namespace Orderly

/-- The attempt that sends its `GdsPut` has not sent one before. -/
theorem unsent (orderly : Orderly before) (attributed : Attributed before) {session : String}
    (known : before.attempts session = some put) (acquiring : put.stage = .acquiring) :
    (∀ message ∈ before.network, message.puts ≠ some put.attempt.sessionId) ∧
      ∀ {id execution}, before.executions id = some execution →
        execution.request.sessionId ≠ put.attempt.sessionId := by
  have name : put.attempt.sessionId = session := (attributed.named session put known).1
  have silent {request : GdsChunkRequest} (sentBy : SentBy before request) :
      request.sessionId ≠ put.attempt.sessionId := by
    intro same
    obtain ⟨sender, known', _, _, held⟩ := sentBy
    rw [same, name, known, Option.some.injEq] at known'
    rw [← known', orderly.tokenless known (.inr acquiring)] at held
    cases held
  constructor
  · intro message member same
    obtain ⟨caller, request, rfl, name'⟩ := puts_eq_some.mp same
    exact silent (attributed.puts member) name'
  · intro id execution begun
    exact silent (attributed.executions begun)

theorem opens_passage (orderly : Orderly before) (consistent : Consistent before)
    (passage : Passage before event after) (own : event.own = true) (once : event.once = true) :
    Once Message.opens after.network := by
  obtain ⟨kept, fresh, same, left, sends⟩ := passage.network own once
  have remaining : Once Message.opens kept := left.once orderly.opens
  rw [same]
  cases sends with
  | quiet _ quiet => exact remaining.append_keyless fun message member => (quiet message member).1
  | puts =>
      refine remaining.append_keyless fun message member => ?_
      rw [List.mem_singleton.mp member]
      rfl
  | opens put free =>
      refine remaining.append_new rfl fun other member named => ?_
      obtain ⟨request, rfl, name⟩ := opens_eq_some.mp named
      have session : request.sessionId = put.attempt.sessionId := name
      obtain ⟨opener, known, _⟩ := consistent.openings (left.mem member)
      rw [session, free] at known
      cases known

theorem puts_passage (orderly : Orderly before) (attributed : Attributed before)
    (passage : Passage before event after) (own : event.own = true) (once : event.once = true) :
    Once Message.puts after.network := by
  obtain ⟨kept, fresh, same, left, sends⟩ := passage.network own once
  have remaining : Once Message.puts kept := left.once orderly.puts
  rw [same]
  cases sends with
  | quiet _ quiet => exact remaining.append_keyless fun message member => (quiet message member).2
  | opens =>
      refine remaining.append_keyless fun message member => ?_
      rw [List.mem_singleton.mp member]
      rfl
  | puts session put caller request known acquiring name =>
      refine remaining.append_new (congrArg some name) fun other member => ?_
      exact (orderly.unsent attributed known acquiring).1 other (left.mem member)

theorem unopened_passage (orderly : Orderly before) (consistent : Consistent before)
    (passage : Passage before event after) (own : event.own = true) (once : event.once = true)
    {request : OpenSessionRequest} (member : .openSession request ∈ after.network) :
    after.proxy.lookup request.sessionId = none := by
  have unknown : before.proxy.lookup request.sessionId = none := by
    obtain ⟨kept, fresh, same, left, sends⟩ := passage.network own once
    rw [same] at member
    rcases List.mem_append.mp member with old | new
    · exact orderly.unopened (left.mem old)
    · cases sends with
      | quiet _ quiet => cases (quiet _ new).1
      | puts => cases List.mem_singleton.mp new
      | opens put free =>
          cases List.mem_singleton.mp new
          cases record : before.proxy.lookup put.attempt.sessionId with
          | none => exact record
          | some session =>
              obtain ⟨opener, known, _⟩ := consistent.records record
              rw [free] at known
              cases known
  rcases passage.opened with ⟨other, now, kept, taken, proxy, network⟩ | keeps
  · rw [network] at member
    have remains : .openSession request ∈ kept := by
      rcases List.mem_append.mp member with old | new
      · exact old
      · cases List.mem_singleton.mp new
    rw [proxy, ProxyControlPlaneService.lookup_openSession, if_neg, unknown]
    intro opens
    obtain ⟨_, picked⟩ := ProxyControlPlaneService.opens_eq_some.mp opens
    rw [consistent.own_id (taken.mem_iff.mpr List.mem_cons_self)] at picked
    exact orderly.opens.gone taken (congrArg some picked) remains rfl
  · exact keeps _ unknown

theorem unbegun_passage (orderly : Orderly before) (attributed : Attributed before)
    (passage : Passage before event after) (own : event.own = true) (once : event.once = true)
    {caller : Option String} {request : GdsChunkRequest} {id : Nat} {next : Execution}
    (member : .gdsPut caller request ∈ after.network) (found : after.executions id = some next) :
    next.request.sessionId ≠ request.sessionId := by
  rcases passage.begun with ⟨slot, begins, begun, kept, taken, rfl⟩ | keeps
  · rw [show _ = _ from setExecution_executions] at found
    have pending : .gdsPut caller request ∈ before.network :=
      taken.mem_iff.mpr (List.mem_cons_of_mem _ member)
    split at found
    · cases found
      intro same
      exact orderly.puts.gone taken (congrArg some same) member rfl
    · exact orderly.unbegun pending found
  · obtain ⟨execution, known, request', _⟩ := keeps found
    rw [request']
    obtain ⟨kept, fresh, same, left, sends⟩ := passage.network own once
    rw [same] at member
    rcases List.mem_append.mp member with old | new
    · exact orderly.unbegun (left.mem old) known
    · cases sends with
      | quiet _ quiet => cases (quiet _ new).2
      | opens => cases List.mem_singleton.mp new
      | puts session put caller request known' acquiring name =>
          cases List.mem_singleton.mp new
          rw [name]
          exact (orderly.unsent attributed known' acquiring).2 known

theorem single_passage (orderly : Orderly before) (passage : Passage before event after)
    {id other : Nat} {execution next : Execution} (found : after.executions id = some execution)
    (found' : after.executions other = some next)
    (same : execution.request.sessionId = next.request.sessionId) : id = other := by
  rcases passage.begun with ⟨slot, caller, request, kept, taken, rfl⟩ | keeps
  · have pending : .gdsPut caller request ∈ before.network := taken.mem_iff.mpr List.mem_cons_self
    rw [show _ = _ from setExecution_executions] at found found'
    split at found
    · rename_i first
      split at found'
      · rename_i second
        rw [first, second]
      · cases found
        exact absurd same.symm (orderly.unbegun pending found')
    · split at found'
      · cases found'
        exact absurd same (orderly.unbegun pending found)
      · exact orderly.single found found' same
  · obtain ⟨old, known, request, _⟩ := keeps found
    obtain ⟨old', known', request', _⟩ := keeps found'
    exact orderly.single known known' (by rw [← request, ← request', same])

theorem passage (orderly : Orderly before) (consistent : Consistent before)
    (attributed : Attributed before) (passage : Passage before event after)
    (own : event.own = true) (once : event.once = true) : Orderly after where
  opens := orderly.opens_passage consistent passage own once
  unopened := orderly.unopened_passage consistent passage own once
  tokenless := passage.tokenless orderly.tokenless
  puts := orderly.puts_passage attributed passage own once
  unbegun := orderly.unbegun_passage attributed passage own once
  single := orderly.single_passage passage

end Orderly

theorem orderly_initial (initial : World.system.initial world) : Orderly world where
  opens := initial.2.2.2 ▸ Once.nil
  unopened member := absurd member (initial_network initial)
  tokenless found := absurd found (initial_attempts initial)
  puts := initial.2.2.2 ▸ Once.nil
  unbegun member := absurd member (initial_network initial)
  single found := absurd found (initial_executions initial)

end Us3Turbo.Cluster
