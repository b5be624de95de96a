import Us3Turbo.Cluster.Model

/-! # What one step of the cluster can do

`Effect` lists the ways a step changes the world, with everything the step had
to find for it; the network is only bounded from above.  The lemmas after it
read off one component each, and the invariants rest on those alone.
-/

namespace Us3Turbo.Cluster

open Us3Turbo.Proto Us3Turbo.Client Us3Turbo.Backend

variable {before after world : World} {event : Event} {put : PutOnce} {session : String}
  {id : Nat} {execution : Execution} {messages network fresh : List Message} {message : Message}

/-- Every message of `network` was there before or is one of `fresh`. -/
def Sources (before : World) (network fresh : List Message) : Prop :=
  ∀ message ∈ network, message ∈ before.network ∨ message ∈ fresh

inductive Effect (before : World) (event : Event) : World → Prop where
  | start (put : PutOnce) (network : List Message) (opening : put.stage = .opening)
      (free : before.attempts put.attempt.sessionId = none) (named : put.attempt.sessionId ≠ "")
      (sources : Sources before network (sent put)) :
      Effect before event { before.setAttempt put.attempt.sessionId put with network }
  | resume (session : String) (put next : PutOnce) (network : List Message)
      (known : before.attempts session = some put) (resumed : put.Resumed next)
      (sources : Sources before network (if next.stage = put.stage then [] else sent next)) :
      Effect before event { before.setAttempt session next with network }
  | openSession (request : OpenSessionRequest) (now : Int) (network : List Message)
      (pending : .openSession request ∈ before.network)
      (sources : Sources before network
        [.openSessionReply request.sessionId (before.proxy.openSession now request).1]) :
      Effect before event
        { before with proxy := (before.proxy.openSession now request).2, network }
  | reportGdsPut (id : Nat) (request : ReportGdsPutRequest) (network : List Message)
      (pending : .reportGdsPut id request ∈ before.network)
      (sources : Sources before network
        [.reportGdsPutReply id (before.proxy.reportGdsPut request).1]) :
      Effect before event { before with proxy := (before.proxy.reportGdsPut request).2, network }
  | begin (slot : Nat) (caller : Option String) (request : GdsChunkRequest) (network : List Message)
      (pending : .gdsPut caller request ∈ before.network) (free : before.executions slot = none)
      (sources : Sources before network []) :
      Effect before event { before.setExecution slot { caller, request } with network }
  | receive (id : Nat) (execution : Execution) (server : Server) (stage : ExecutionStage)
      (network : List Message) (request : event = .receive id server)
      (known : before.executions id = some execution) (receiving : execution.stage = .receiving)
      (result : ∀ served, { execution with stage }.served = some served →
        before.backend.gdsPut server execution.request = .ok served)
      (sources : ∀ message ∈ network, message ∈ before.network ∨
        (∃ session reply, message = .gdsPutReply session reply) ∨
        ∃ served report, stage = .notifying served ∧ served.notification = some report ∧
          message = .reportGdsPut id report) :
      Effect before event { before.setExecution id { execution with stage } with network }
  | notified (id : Nat) (execution : Execution) (served : Served) (network : List Message)
      (known : before.executions id = some execution) (stage : execution.stage = .notifying served)
      (sources : Sources before network (answer execution (.ok served))) :
      Effect before event
        { before.setExecution id { execution with stage := .done (.ok served) } with network }
  | otherGdsPut (request : GdsChunkRequest) (network : List Message)
      (other : event = .otherGdsPut request)
      (known : (before.attempts request.sessionId).isSome = true)
      (sources : Sources before network [.gdsPut none request]) :
      Effect before event { before with network }
  | network (network : List Message)
      (sources : ∀ message ∈ network, message ∈ before.network ∨
        ∃ session reply, message = .abortSessionReply session reply) :
      Effect before event { before with network }

/-! ## Every step, exactly -/

/-- A success that the attempt of `session` hears of is a reply under way to it. -/
def Authentic (world : World) (session : String) : Client.Reply → Prop
  | .openSession (.ok response) => .openSessionReply session (.ok response) ∈ world.network
  | .gdsPut (.ok response) => .gdsPutReply session (.ok response) ∈ world.network
  | _ => True

/-- Where an execution stands once its data has come, and what it sends. -/
inductive Receives (id : Nat) (execution : Execution) :
    RpcResult Served → ExecutionStage → List Message → Prop where
  | failed (error : RpcError) :
      Receives id execution (.error error) (.done (.error error)) (answer execution (.error error))
  | silent (served : Served) (notification : served.notification = none) :
      Receives id execution (.ok served) (.done (.ok served)) (answer execution (.ok served))
  | notifies (served : Served) (report : ReportGdsPutRequest)
      (notification : served.notification = some report) :
      Receives id execution (.ok served) (.notifying served) [.reportGdsPut id report]

/-- `kept` is what a step leaves of the messages under way. -/
inductive Passage (before : World) (event : Event) : World → Prop where
  | start (put : PutOnce) (opening : put.stage = .opening) (tokenless : put.token = none)
      (unanswered : put.response = none) (free : before.attempts put.attempt.sessionId = none)
      (named : put.attempt.sessionId ≠ "") :
      Passage before event { before.setAttempt put.attempt.sessionId put with
        network := before.network ++ sent put }
  | resume (session : String) (put : PutOnce) (reply : Client.Reply) (kept : List Message)
      (known : before.attempts session = some put) (sublist : kept.Sublist before.network)
      (authentic : Authentic before session reply) :
      Passage before event { before.setAttempt session (put.resume reply) with
        network := kept ++
          if (put.resume reply).stage = put.stage then [] else sent (put.resume reply) }
  | openSession (request : OpenSessionRequest) (now : Int) (kept : List Message)
      (taken : before.network.Perm (.openSession request :: kept)) :
      Passage before event { before with
        proxy := (before.proxy.openSession now request).2
        network := kept ++
          [.openSessionReply request.sessionId (before.proxy.openSession now request).1] }
  | reportGdsPut (id : Nat) (request : ReportGdsPutRequest) (kept : List Message)
      (taken : before.network.Perm (.reportGdsPut id request :: kept)) :
      Passage before event { before with
        proxy := (before.proxy.reportGdsPut request).2
        network := kept ++ [.reportGdsPutReply id (before.proxy.reportGdsPut request).1] }
  | begin (slot : Nat) (caller : Option String) (request : GdsChunkRequest) (kept : List Message)
      (taken : before.network.Perm (.gdsPut caller request :: kept))
      (free : before.executions slot = none) :
      Passage before event { before.setExecution slot { caller, request } with network := kept }
  | receive (id : Nat) (execution : Execution) (server : Server) (stage : ExecutionStage)
      (fresh : List Message) (request : event = .receive id server)
      (known : before.executions id = some execution) (receiving : execution.stage = .receiving)
      (receives : Receives id execution (before.backend.gdsPut server execution.request) stage fresh) :
      Passage before event { before.setExecution id { execution with stage } with
        network := before.network ++ fresh }
  | notified (id : Nat) (execution : Execution) (served : Served) (kept : List Message)
      (known : before.executions id = some execution) (stage : execution.stage = .notifying served)
      (sublist : kept.Sublist before.network) :
      Passage before event
        { before.setExecution id { execution with stage := .done (.ok served) } with
          network := kept ++ answer execution (.ok served) }
  | otherGdsPut (request : GdsChunkRequest) (other : event = .otherGdsPut request)
      (known : (before.attempts request.sessionId).isSome = true) :
      Passage before event { before with network := before.network ++ [.gdsPut none request] }
  | duplicate (message : Message) (index : Nat) (doubles : event = .duplicate index)
      (member : message ∈ before.network) :
      Passage before event { before with network := before.network ++ [message] }
  | refuse (request : AbortSessionRequest) (kept : List Message)
      (sublist : kept.Sublist before.network) :
      Passage before event { before with
        network := kept ++ [.abortSessionReply request.sessionId (Proxy.abortSession request)] }
  | drop (kept : List Message) (sublist : kept.Sublist before.network) :
      Passage before event { before with network := kept }

def Taken (before world : World) : Prop :=
  ∃ kept, world = { before with network := kept } ∧ kept.Sublist before.network

theorem passage_resume {reply : Client.Reply} (taken : Taken before world)
    (authentic : Authentic before session reply)
    (resumed : world.resume session reply = some after) : Passage before event after := by
  obtain ⟨kept, rfl, sublist⟩ := taken
  obtain ⟨put, known, rfl⟩ := Option.map_eq_some_iff.mp resumed
  exact .resume session put reply kept known sublist authentic

theorem passage_notified (taken : Taken before world)
    (finished : world.notified id = some after) : Passage before event after := by
  obtain ⟨kept, rfl, sublist⟩ := taken
  obtain ⟨execution, known, result⟩ := Option.map_eq_some_iff.mp finished
  split at result
  · rename_i served stage
    rw [← result]
    exact .notified id execution served kept known stage sublist
  · rw [← result]
    exact .drop kept sublist

theorem passage_handle {now : Int} {slot : Nat} {kept : List Message}
    (removed : before.network.Perm (message :: kept)) (sublist : kept.Sublist before.network)
    (handled : { before with network := kept }.handle now slot message = some after) :
    Passage before event after := by
  have taken : Taken before { before with network := kept } := ⟨kept, rfl, sublist⟩
  have pending : message ∈ before.network := removed.mem_iff.mpr List.mem_cons_self
  cases message with
  | openSession request =>
      cases handled
      exact .openSession request now kept removed
  | openSessionReply session reply =>
      refine passage_resume taken ?_ handled
      cases reply with
      | error => trivial
      | ok response => exact pending
  | gdsPut caller request =>
      simp only [World.handle, Option.ite_none_right_eq_some, Option.isNone_iff_eq_none] at handled
      obtain ⟨free, result⟩ := handled
      cases result
      exact .begin slot caller request kept removed free
  | gdsPutReply session reply =>
      refine passage_resume taken ?_ handled
      cases reply with
      | error => trivial
      | ok response => exact pending
  | reportGdsPut id request =>
      cases handled
      exact .reportGdsPut id request kept removed
  | reportGdsPutReply id response => exact passage_notified taken handled
  | abortSession request =>
      cases handled
      exact .refuse request kept sublist
  | abortSessionReply session reply =>
      have authentic : Authentic before session (.abortSession reply) := trivial
      exact passage_resume taken authentic handled

theorem passage_receive {server : Server} (received : before.receive id server = some after) :
    Passage before (.receive id server) after := by
  unfold World.receive at received
  split at received
  · rename_i execution known
    split at received
    · rename_i receiving
      have passage : ∀ stage fresh,
          Receives id execution (before.backend.gdsPut server execution.request) stage fresh →
          Passage before (.receive id server) { before.setExecution id { execution with stage } with
            network := before.network ++ fresh } :=
        fun stage fresh receives => .receive id execution server stage fresh rfl known receiving receives
      split at received
      · rename_i error failed
        cases received
        rw [failed] at passage
        exact passage _ _ (.failed error)
      · rename_i served accepted
        rw [accepted] at passage
        split at received
        · rename_i notification
          cases received
          exact passage _ _ (.silent served notification)
        · rename_i report notification
          cases received
          exact passage _ _ (.notifies served report notification)
    · cases received
  · cases received

theorem advance_passage (advanced : before.advance event = some after) :
    Passage before event after := by
  have all : Taken before before := ⟨before.network, rfl, .refl _⟩
  cases event with
  | start options request buffer out requestValue sessionValue =>
      simp only [World.advance, Option.ite_none_right_eq_some, Option.isNone_iff_eq_none] at advanced
      obtain ⟨free, result⟩ := advanced
      cases result
      have named : (makePutAttempt options request requestValue sessionValue).sessionId ≠ "" :=
        makeId_ne_empty (by decide) sessionValue
      exact .start (.start options request buffer out requestValue sessionValue) rfl rfl rfl free named
  | acquired session manager library =>
      obtain ⟨put, _, resumed⟩ := Option.bind_eq_some_iff.mp advanced
      have authentic : Authentic before session (.token
          (manager.acquireToken library put.buffer.data put.buffer.size 0).token) := trivial
      exact passage_resume all authentic resumed
  | copied session host =>
      have authentic : Authentic before session (.copied host) := trivial
      exact passage_resume all authentic advanced
  | timeout session error =>
      obtain ⟨put, _, failed⟩ := Option.bind_eq_some_iff.mp advanced
      obtain ⟨reply, failure, resumed⟩ := Option.bind_eq_some_iff.mp failed
      refine passage_resume all ?_ resumed
      unfold World.failedCall at failure
      split at failure <;> cases failure <;> trivial
  | otherGdsPut request =>
      simp only [World.advance, Option.ite_none_right_eq_some] at advanced
      obtain ⟨known, result⟩ := advanced
      cases result
      exact .otherGdsPut request rfl known
  | deliver index now slot =>
      obtain ⟨message, found, handled⟩ := Option.bind_eq_some_iff.mp advanced
      obtain ⟨bound, rfl⟩ := List.getElem?_eq_some_iff.mp found
      exact passage_handle (List.getElem_cons_eraseIdx_perm bound).symm
        (List.eraseIdx_sublist before.network index) handled
  | lose index =>
      simp only [World.advance, Option.ite_none_right_eq_some] at advanced
      obtain ⟨_, result⟩ := advanced
      cases result
      exact .drop _ (List.eraseIdx_sublist before.network index)
  | duplicate index =>
      obtain ⟨message, found, rfl⟩ := Option.map_eq_some_iff.mp advanced
      exact .duplicate message index rfl (List.mem_of_getElem? found)
  | receive id server => exact passage_receive advanced
  | reportTimeout id => exact passage_notified all advanced

theorem Sources.append (kept : ∀ message ∈ network, message ∈ before.network) :
    Sources before (network ++ fresh) fresh := by
  intro message member
  rcases List.mem_append.mp member with old | new
  · exact .inl (kept message old)
  · exact .inr new

theorem answer_replies {result : RpcResult Served} (member : message ∈ answer execution result) :
    ∃ session reply, message = .gdsPutReply session reply := by
  unfold answer at member
  split at member
  · exact ⟨_, _, List.mem_singleton.mp member⟩
  · cases member

theorem Receives.served {result : RpcResult Served} {stage : ExecutionStage} {served : Served}
    (receives : Receives id execution result stage fresh)
    (brought : { execution with stage }.served = some served) : result = .ok served := by
  cases receives with
  | failed error => cases brought
  | silent other => cases brought; rfl
  | notifies other => cases brought; rfl

theorem Receives.sources {result : RpcResult Served} {stage : ExecutionStage}
    (receives : Receives id execution result stage fresh) (member : message ∈ fresh) :
    (∃ session reply, message = .gdsPutReply session reply) ∨
      ∃ served report, stage = .notifying served ∧ served.notification = some report ∧
        message = .reportGdsPut id report := by
  cases receives with
  | failed error => exact .inl (answer_replies member)
  | silent served => exact .inl (answer_replies member)
  | notifies served report notification =>
      exact .inr ⟨served, report, rfl, notification, List.mem_singleton.mp member⟩

theorem Passage.effect (passage : Passage before event after) : Effect before event after := by
  have pending {message : Message} {kept : List Message}
      (taken : before.network.Perm (message :: kept)) :
      message ∈ before.network ∧ ∀ other ∈ kept, other ∈ before.network :=
    ⟨taken.mem_iff.mpr List.mem_cons_self, fun other member =>
      taken.mem_iff.mpr (List.mem_cons_of_mem _ member)⟩
  cases passage with
  | start put opening tokenless unanswered free named =>
      exact .start put _ opening free named (Sources.append fun _ member => member)
  | resume session put reply kept known sublist authentic =>
      exact .resume session put (put.resume reply) _ known (PutOnce.resume_resumed put reply)
        (Sources.append fun _ member => sublist.subset member)
  | openSession request now kept taken =>
      exact .openSession request now _ (pending taken).1 (Sources.append (pending taken).2)
  | reportGdsPut id request kept taken =>
      exact .reportGdsPut id request _ (pending taken).1 (Sources.append (pending taken).2)
  | begin slot caller request kept taken free =>
      exact .begin slot caller request kept (pending taken).1 free fun message member =>
        .inl ((pending taken).2 message member)
  | receive id execution server stage fresh request known receiving receives =>
      refine .receive id execution server stage _ request known receiving
        (fun served brought => receives.served brought) fun message member => ?_
      rcases List.mem_append.mp member with old | new
      · exact .inl old
      · exact .inr (receives.sources new)
  | notified id execution served kept known stage sublist =>
      exact .notified id execution served _ known stage
        (Sources.append fun _ member => sublist.subset member)
  | otherGdsPut request other known =>
      exact .otherGdsPut request _ other known (Sources.append fun _ member => member)
  | duplicate message index doubles member =>
      refine .network _ fun other new => .inl ?_
      rcases List.mem_append.mp new with old | new
      · exact old
      · rw [List.mem_singleton.mp new]
        exact member
  | refuse request kept sublist =>
      refine .network _ fun message member => ?_
      rcases List.mem_append.mp member with old | new
      · exact .inl (sublist.subset old)
      · exact .inr ⟨_, _, List.mem_singleton.mp new⟩
  | drop kept sublist =>
      exact .network kept fun message member => .inl (sublist.subset member)

theorem advance_effect (advanced : before.advance event = some after) :
    Effect before event after :=
  (advance_passage advanced).effect

/-! ## One component at a time -/

/-- `next` is the same attempt, no earlier in its course. -/
structure Continues (put next : PutOnce) : Prop where
  attempt : next.attempt = put.attempt
  token : put.token.isSome = true → next.token.isSome = true
  returned : ∀ result, put.stage = .returned result → next = put

theorem Continues.refl : Continues put put := ⟨rfl, id, fun _ _ => rfl⟩

theorem setAttempt_attempts {other : String} {next : PutOnce} :
    (world.setAttempt session next).attempts other =
      if other = session then some next else world.attempts other :=
  Function.update_apply ..

theorem setExecution_executions {other : Nat} :
    (world.setExecution id execution).executions other =
      if other = id then some execution else world.executions other :=
  Function.update_apply ..

/-- `next` is the same execution, no earlier in its course. -/
structure Proceeds (execution next : Execution) : Prop where
  request : next.request = execution.request
  served : ∀ served, execution.served = some served → next.served = some served

theorem Proceeds.refl : Proceeds execution execution := ⟨rfl, fun _ => id⟩

/-- Who a message comes from, and what its sender holds. -/
inductive Issued (event : Event) (after : World) : Message → Prop where
  | openSession (session : String) (put : PutOnce) (known : after.attempts session = some put) :
      Issued event after (.openSession (openSessionRequest put.attempt))
  | gdsPut (session : String) (put : PutOnce) (token : String)
      (known : after.attempts session = some put) (held : put.token = some token) :
      Issued event after (.gdsPut (some put.attempt.sessionId)
        (gdsChunkRequest put.attempt put.grant token put.buffer.size))
  | otherGdsPut (request : GdsChunkRequest) (other : event = .otherGdsPut request)
      (known : (after.attempts request.sessionId).isSome = true) :
      Issued event after (.gdsPut none request)
  | reportGdsPut (id : Nat) (execution : Execution) (served : Served) (report : ReportGdsPutRequest)
      (known : after.executions id = some execution) (brought : execution.served = some served)
      (notification : served.notification = some report) :
      Issued event after (.reportGdsPut id report)
  | abortSession (request : AbortSessionRequest) : Issued event after (.abortSession request)
  | openSessionReply (session : String) (reply : RpcResult OpenSessionResponse) :
      Issued event after (.openSessionReply session reply)
  | gdsPutReply (session : String) (reply : RpcResult GdsChunkResponse) :
      Issued event after (.gdsPutReply session reply)
  | reportGdsPutReply (id : Nat) (response : ReportGdsPutResponse) :
      Issued event after (.reportGdsPutReply id response)
  | abortSessionReply (session : String) (reply : RpcResult AbortSessionResponse) :
      Issued event after (.abortSessionReply session reply)

theorem mem_sent (member : message ∈ sent put) :
    (put.stage = .opening ∧ message = .openSession (openSessionRequest put.attempt)) ∨
    (put.stage = .putting ∧ message = .gdsPut (some put.attempt.sessionId)
      (gdsChunkRequest put.attempt put.grant (put.token.getD "") put.buffer.size)) ∨
    message = .abortSession (abortSessionRequest put.attempt) := by
  cases stage : put.stage with
  | opening =>
      simp only [sent, PutOnce.issued, stage] at member
      exact .inl ⟨rfl, List.mem_singleton.mp member⟩
  | putting =>
      simp only [sent, PutOnce.issued, stage] at member
      exact .inr (.inl ⟨rfl, List.mem_singleton.mp member⟩)
  | aborting =>
      simp only [sent, PutOnce.issued, stage] at member
      exact .inr (.inr (List.mem_singleton.mp member))
  | acquiring => simp [sent, PutOnce.issued, stage] at member
  | copying => simp [sent, PutOnce.issued, stage] at member
  | returned => simp [sent, PutOnce.issued, stage] at member

namespace Effect

theorem attempts (effect : Effect before event after) (known : before.attempts session = some put) :
    ∃ next, after.attempts session = some next ∧ Continues put next := by
  cases effect with
  | start fresh network opening free named sources =>
      have different : session ≠ fresh.attempt.sessionId := by
        rintro rfl
        rw [free] at known
        cases known
      exact ⟨put, setAttempt_attempts.trans (if_neg different ▸ known), .refl⟩
  | resume other old next network found resumed sources =>
      by_cases same : session = other
      · subst same
        rw [known, Option.some.injEq] at found
        subst found
        exact ⟨next, setAttempt_attempts.trans (if_pos rfl), resumed.attempt, resumed.token,
          fun _ => resumed.returned⟩
      · exact ⟨put, setAttempt_attempts.trans (if_neg same ▸ known), .refl⟩
  | openSession => exact ⟨put, known, .refl⟩
  | reportGdsPut => exact ⟨put, known, .refl⟩
  | begin => exact ⟨put, known, .refl⟩
  | receive => exact ⟨put, known, .refl⟩
  | notified => exact ⟨put, known, .refl⟩
  | otherGdsPut => exact ⟨put, known, .refl⟩
  | network => exact ⟨put, known, .refl⟩

theorem new_attempt {next : PutOnce} (effect : Effect before event after)
    (found : after.attempts session = some next) (unknown : before.attempts session = none) :
    next.attempt.sessionId = session ∧ session ≠ "" := by
  have absent : before.attempts session ≠ some next := by rw [unknown]; simp
  cases effect with
  | start fresh network opening free named sources =>
      rw [show _ = _ from setAttempt_attempts] at found
      split at found
      · rename_i same
        cases found
        exact ⟨same.symm, same ▸ named⟩
      · exact absurd found absent
  | resume other old after network known resumed sources =>
      rw [show _ = _ from setAttempt_attempts] at found
      split at found
      · rename_i same
        rw [same, known] at unknown
        cases unknown
      · exact absurd found absent
  | openSession => exact absurd found absent
  | reportGdsPut => exact absurd found absent
  | begin => exact absurd found absent
  | receive => exact absurd found absent
  | notified => exact absurd found absent
  | otherGdsPut => exact absurd found absent
  | network => exact absurd found absent

theorem executions (effect : Effect before event after)
    (known : before.executions id = some execution) :
    ∃ next, after.executions id = some next ∧ Proceeds execution next := by
  cases effect with
  | start => exact ⟨execution, known, .refl⟩
  | resume => exact ⟨execution, known, .refl⟩
  | openSession => exact ⟨execution, known, .refl⟩
  | reportGdsPut => exact ⟨execution, known, .refl⟩
  | begin slot caller request network pending free sources =>
      have different : id ≠ slot := by
        rintro rfl
        rw [free] at known
        cases known
      exact ⟨execution, setExecution_executions.trans (if_neg different ▸ known), .refl⟩
  | receive other old server stage network request found receiving result sources =>
      by_cases same : id = other
      · subst same
        rw [known, Option.some.injEq] at found
        subst found
        refine ⟨_, setExecution_executions.trans (if_pos rfl), rfl, ?_⟩
        intro served brought
        rw [Execution.served, receiving] at brought
        cases brought
      · exact ⟨execution, setExecution_executions.trans (if_neg same ▸ known), .refl⟩
  | notified other old served network found stage sources =>
      by_cases same : id = other
      · subst same
        rw [known, Option.some.injEq] at found
        subst found
        refine ⟨_, setExecution_executions.trans (if_pos rfl), rfl, ?_⟩
        intro other brought
        rw [Execution.served, stage] at brought
        exact brought
      · exact ⟨execution, setExecution_executions.trans (if_neg same ▸ known), .refl⟩
  | otherGdsPut => exact ⟨execution, known, .refl⟩
  | network => exact ⟨execution, known, .refl⟩

/-- An execution was begun by a `GdsPut` message, or it was there before and what it
has brought it had brought before or gets from the sink in this step. -/
theorem execution_origin {next : Execution} (effect : Effect before event after)
    (found : after.executions id = some next) :
    (∃ caller, .gdsPut caller next.request ∈ before.network ∧ next.served = none) ∨
      ∃ execution, before.executions id = some execution ∧ next.request = execution.request ∧
        ∀ served, next.served = some served → execution.served = some served ∨
          ∃ server, event = .receive id server ∧
            before.backend.gdsPut server execution.request = .ok served := by
  have kept (same : before.executions id = some next) :
      ∃ execution, before.executions id = some execution ∧ next.request = execution.request ∧
        ∀ served, next.served = some served → execution.served = some served ∨
          ∃ server, event = .receive id server ∧
            before.backend.gdsPut server execution.request = .ok served :=
    ⟨next, same, rfl, fun _ => .inl⟩
  cases effect with
  | start => exact .inr (kept found)
  | resume => exact .inr (kept found)
  | openSession => exact .inr (kept found)
  | reportGdsPut => exact .inr (kept found)
  | begin slot caller request network pending free sources =>
      rw [show _ = _ from setExecution_executions] at found
      split at found
      · cases found
        exact .inl ⟨caller, pending, rfl⟩
      · exact .inr (kept found)
  | receive other old server stage network request known receiving result sources =>
      rw [show _ = _ from setExecution_executions] at found
      split at found
      · rename_i same
        cases found
        subst same
        refine .inr ⟨old, known, rfl, fun served brought => .inr ?_⟩
        exact ⟨server, request, result served brought⟩
      · exact .inr (kept found)
  | notified other old served network known stage sources =>
      rw [show _ = _ from setExecution_executions] at found
      split at found
      · rename_i same
        cases found
        subst same
        refine .inr ⟨old, known, rfl, fun other brought => .inl ?_⟩
        rw [Execution.served, stage]
        exact brought
      · exact .inr (kept found)
  | otherGdsPut => exact .inr (kept found)
  | network => exact .inr (kept found)

/-- A message that was not there before comes from its sender in the new world. -/
theorem issued (effect : Effect before event after) (member : message ∈ after.network) :
    message ∈ before.network ∨ Issued event after message := by
  cases effect with
  | start put network opening free named sources =>
      refine (sources message member).imp_right fun new => ?_
      rcases mem_sent new with ⟨_, rfl⟩ | ⟨putting, _⟩ | rfl
      · exact .openSession _ put (setAttempt_attempts.trans (if_pos rfl))
      · rw [opening] at putting
        cases putting
      · exact .abortSession _
  | resume session put next network known resumed sources =>
      refine (sources message member).imp_right fun new => ?_
      split at new
      · cases new
      · rename_i moved
        have stored : (before.setAttempt session next).attempts session = some next :=
          setAttempt_attempts.trans (if_pos rfl)
        rcases mem_sent new with ⟨opening, _⟩ | ⟨putting, rfl⟩ | rfl
        · exact absurd opening (resumed.not_opening moved)
        · obtain ⟨token, held⟩ := resumed.putting moved putting
          rw [held, Option.getD_some]
          exact .gdsPut session next token stored held
        · exact .abortSession _
  | openSession request now network pending sources =>
      refine (sources message member).imp_right fun new => ?_
      rw [List.mem_singleton.mp new]
      exact .openSessionReply _ _
  | reportGdsPut id request network pending sources =>
      refine (sources message member).imp_right fun new => ?_
      rw [List.mem_singleton.mp new]
      exact .reportGdsPutReply _ _
  | begin slot caller request network pending free sources =>
      refine (sources message member).imp_right fun new => ?_
      cases new
  | receive id execution server stage network request known receiving result sources =>
      refine (sources message member).imp_right fun new => ?_
      rcases new with ⟨session, reply, rfl⟩ | ⟨served, report, rfl, notification, rfl⟩
      · exact .gdsPutReply session reply
      · exact .reportGdsPut id _ served report (setExecution_executions.trans (if_pos rfl)) rfl
          notification
  | notified id execution served network known stage sources =>
      refine (sources message member).imp_right fun new => ?_
      obtain ⟨session, reply, rfl⟩ := answer_replies new
      exact .gdsPutReply session reply
  | otherGdsPut request network other known sources =>
      refine (sources message member).imp_right fun new => ?_
      rw [List.mem_singleton.mp new]
      exact .otherGdsPut request other known
  | network network sources =>
      refine (sources message member).imp_right fun new => ?_
      obtain ⟨session, reply, rfl⟩ := new
      exact .abortSessionReply session reply

theorem backend (effect : Effect before event after) : after.backend = before.backend := by
  cases effect with
  | start => rfl
  | resume => rfl
  | openSession => rfl
  | reportGdsPut => rfl
  | begin => rfl
  | receive => rfl
  | notified => rfl
  | otherGdsPut => rfl
  | network => rfl

theorem proxy (effect : Effect before event after) :
    after.proxy = before.proxy ∨
      (∃ request now, .openSession request ∈ before.network ∧
        after.proxy = (before.proxy.openSession now request).2) ∨
      ∃ id request, .reportGdsPut id request ∈ before.network ∧
        after.proxy = (before.proxy.reportGdsPut request).2 := by
  cases effect with
  | start => exact .inl rfl
  | resume => exact .inl rfl
  | openSession request now network pending => exact .inr (.inl ⟨request, now, pending, rfl⟩)
  | reportGdsPut id request network pending => exact .inr (.inr ⟨id, request, pending, rfl⟩)
  | begin => exact .inl rfl
  | receive => exact .inl rfl
  | notified => exact .inl rfl
  | otherGdsPut => exact .inl rfl
  | network => exact .inl rfl

/-- What is known of the request of every `GdsPut`, under way or begun, stays known if a
step keeps it of a request and it holds of the requests that the step issues. -/
theorem requests (effect : Effect before event after) (origin : World → GdsChunkRequest → Prop)
    (keeps : ∀ {request}, origin before request → origin after request)
    (fresh : ∀ {caller request}, Issued event after (.gdsPut caller request) → origin after request)
    (puts : ∀ {caller request}, .gdsPut caller request ∈ before.network → origin before request)
    (executions : ∀ {id execution}, before.executions id = some execution →
      origin before execution.request) :
    (∀ {caller request}, .gdsPut caller request ∈ after.network → origin after request) ∧
      ∀ {id execution}, after.executions id = some execution → origin after execution.request := by
  constructor
  · intro caller request member
    rcases effect.issued member with old | new
    · exact keeps (puts old)
    · exact fresh new
  · intro id execution found
    rcases effect.execution_origin found with ⟨caller, pending, _⟩ | ⟨old, found', same, _⟩
    · exact keeps (puts pending)
    · rw [same]
      exact keeps (executions found')

end Effect

/-! ## A world just started -/

section Initial

variable (initial : World.system.initial world)
include initial

theorem initial_attempts : world.attempts session ≠ some put := by
  simp [initial.2.1]

theorem initial_executions : world.executions id ≠ some execution := by
  simp [initial.2.2.1]

theorem initial_network : message ∉ world.network := by
  simp [initial.2.2.2]

theorem initial_lookup {key : String} : world.proxy.lookup key = none := by
  rw [Proxy.ProxyControlPlaneService.lookup, initial.1.2, Proxy.SessionTable.lookup_empty]

end Initial

end Us3Turbo.Cluster
