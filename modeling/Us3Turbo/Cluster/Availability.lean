import Us3Turbo.Client.Registration
import Us3Turbo.Cluster.Checksum
import Us3Turbo.Cluster.Effect
import Us3Turbo.Cluster.Workload
import Us3Turbo.Proxy.SessionIds

/-! # A PUT can always be made

Whatever has been lost, doubled or given up before, a new PUT that meets no fault
of its own runs to its end: nothing that earlier attempts leave behind, at the
proxy, at the backend or on the network, is in its way.
-/

namespace Us3Turbo.Cluster

open Us3Turbo.Data Us3Turbo.Proto Us3Turbo.Client Us3Turbo.Transition
open Us3Turbo.Backend (Server Served DataPlaneService kMaxChunkBytes buildEtag reportGdsPutRequest
  gdsChunkResponse gdsPutError DiscardOutcome)
open Us3Turbo.Proxy (ProxyControlPlaneService Session openSessionError)

variable {world later last : World} {event : Event} {key : String} {put next : PutOnce}
  {network : List Message} {message : Message} {now : Int} {slot : Nat}

/-- A step that is no fault and no outsider's doing. -/
def Event.smooth : Event → Bool
  | .timeout _ _ | .otherGdsPut _ | .lose _ | .duplicate _ | .reportTimeout _ => false
  | _ => true

def World.smooth : System World Event :=
  World.system.restrict fun _ event _ => event.smooth = true

def Leads (world later : World) : Prop := ∃ events, World.smooth.Run world events later

theorem Leads.trans (first : Leads world later) (second : Leads later last) : Leads world last := by
  obtain ⟨events, run⟩ := first
  obtain ⟨more, rest⟩ := second
  exact ⟨events ++ more, run.append rest⟩

theorem Leads.step (event : Event) (advanced : world.advance event = some later)
    (smooth : event.smooth = true) : Leads world later :=
  ⟨[event], .single ⟨advanced, smooth⟩⟩

/-- The message sent last is delivered next. -/
theorem Leads.deliver (network : List Message) (now : Int) (slot : Nat)
    (sent : world.network = network ++ [message])
    (handled : { world with network }.handle now slot message = some later) : Leads world later := by
  refine .step (.deliver network.length now slot) ?_ rfl
  have found : world.network[network.length]? = some message := by rw [sent]; simp
  have left : world.network.eraseIdx network.length = network := by
    rw [sent, List.eraseIdx_append_of_length_le (le_refl _)]
    simp
  simp only [World.advance, found, Option.bind_some, left]
  exact handled

/-- An attempt is answered, and makes its next call. -/
theorem resume_known {reply : Client.Reply} (known : world.attempts key = some put)
    (moves : put.resume reply = next) (moved : next.stage ≠ put.stage) :
    world.resume key reply = some ((world.setAttempt key next).send (sent next)) := by
  simp only [World.resume, known, Option.map_some, moves, if_neg moved]

theorem Leads.reply {reply : Client.Reply} (network : List Message)
    (under : world.network = network ++ [message])
    (brings : ∀ world : World, world.handle 0 0 message = world.resume key reply)
    (known : world.attempts key = some put) (moves : put.resume reply = next)
    (moved : next.stage ≠ put.stage) :
    Leads world (({ world with network }.setAttempt key next).send (sent next)) := by
  apply Leads.deliver network 0 0 under
  rw [brings]
  exact resume_known known moves moved

/-! ## Up to the grant -/

/-- `later` is `world` but for the attempt of `key` and the records of the proxy. -/
structure Beside (world later : World) (key : String) (put : PutOnce) : Prop where
  attempt : later.attempts key = some put
  network : later.network = world.network
  executions : later.executions = world.executions
  backend : later.backend = world.backend

theorem leads_granted (opening : put.stage = .opening) (named : put.attempt.sessionId ≠ "")
    (started : world.advance event =
      some ((world.setAttempt put.attempt.sessionId put).send (sent put)))
    (smooth : event.smooth = true)
    (accepted : openSessionError (openSessionRequest put.attempt) = none) :
    ∃ later ticket record, Leads world later ∧
      Beside world later put.attempt.sessionId
        { put with grant := ⟨ticket⟩, stage := .acquiring } ∧
      later.proxy.lookup put.attempt.sessionId = some record := by
  have sends : sent put = [.openSession (openSessionRequest put.attempt)] := by
    simp [sent, PutOnce.issued, opening]
  have chosen : world.proxy.sessionMgr.pickSessionId (openSessionRequest put.attempt).sessionId =
      put.attempt.sessionId := Proxy.SessionManager.pickSessionId_hint named
  -- the proxy answers with the ids it was asked for
  have answered : (world.proxy.openSession 0 (openSessionRequest put.attempt)).1 =
      .ok (world.proxy.grant 0 (openSessionRequest put.attempt)) :=
    Proxy.openSession_accepted accepted
  have echoed : echoes put.attempt (world.proxy.grant 0 (openSessionRequest put.attempt)) :=
    ⟨rfl, chosen⟩
  have moves : put.resume (.openSession (.ok (world.proxy.grant 0 (openSessionRequest put.attempt)))) =
      { put with
        grant := ⟨(world.proxy.grant 0 (openSessionRequest put.attempt)).ticket⟩
        stage := .acquiring } := by
    simp only [PutOnce.resume, opening, PutOnce.onOpenSession, if_pos echoed]
  have first := Leads.step event started smooth
  have second : Leads ((world.setAttempt put.attempt.sessionId put).send (sent put))
      ({ world.setAttempt put.attempt.sessionId put with
          proxy := (world.proxy.openSession 0 (openSessionRequest put.attempt)).2 }.send
        [.openSessionReply put.attempt.sessionId
          (.ok (world.proxy.grant 0 (openSessionRequest put.attempt)))]) := by
    refine .deliver world.network 0 0 (by rw [sends]; rfl) ?_
    rw [← answered]
    rfl
  have third : Leads ({ world.setAttempt put.attempt.sessionId put with
          proxy := (world.proxy.openSession 0 (openSessionRequest put.attempt)).2 }.send
        [.openSessionReply put.attempt.sessionId
          (.ok (world.proxy.grant 0 (openSessionRequest put.attempt)))]) _ :=
    .reply world.network rfl (fun _ => rfl) (Function.update_self ..) moves
      (by simp [opening])
  refine ⟨_, _, world.proxy.opened 0 (openSessionRequest put.attempt),
    (first.trans second).trans third, ⟨Function.update_self .., List.append_nil _, rfl, rfl⟩, ?_⟩
  have opens : world.proxy.opens (openSessionRequest put.attempt) = some put.attempt.sessionId :=
    ProxyControlPlaneService.opens_eq_some.mpr ⟨accepted, chosen⟩
  exact ProxyControlPlaneService.lookup_openSession.trans (if_pos opens)

/-! ## Up to the execution -/

theorem free_slot (finite : Finite world) : ∃ slot, world.executions slot = none := by
  obtain ⟨slot, outside⟩ := finite.executions.exists_notMem
  exact ⟨slot, by simpa [domain] using outside⟩

theorem handle_gdsPut {caller : Option String} {request : GdsChunkRequest}
    (free : world.executions slot = none) :
    world.handle now slot (.gdsPut caller request) =
      some (world.setExecution slot { caller, request }) := by
  simp only [World.handle, free, Option.isNone_none, if_true]

/-- The backend has begun the `GdsPut` of an attempt that waits for it. -/
structure Begun (world later : World) (key : String) (slot : Nat) (put : PutOnce)
    (request : GdsChunkRequest) : Prop where
  attempt : later.attempts key = some put
  execution : later.executions slot = some { caller := some key, request }
  network : later.network = world.network
  backend : later.backend = world.backend
  proxy : later.proxy = world.proxy

theorem leads_begun (put : PutOnce) {manager : GdsMemoryManager} {library : Client.Replies}
    {token : String} (known : world.attempts put.attempt.sessionId = some put) (acquiring : put.stage = .acquiring)
    (acquires : (manager.acquireToken library put.buffer.data put.buffer.size 0).token = some token)
    (free : world.executions slot = none) :
    ∃ later, Leads world later ∧
      Begun world later put.attempt.sessionId slot { put with token := some token, stage := .putting }
        (gdsChunkRequest put.attempt put.grant token put.buffer.size) := by
  have moves : put.resume (.token (some token)) =
      { put with token := some token, stage := .putting } := by
    simp only [PutOnce.resume, acquiring, PutOnce.onToken]
  have resumed : world.resume put.attempt.sessionId (.token (some token)) = some
      ((world.setAttempt put.attempt.sessionId { put with token := some token, stage := .putting }).send
        (sent { put with token := some token, stage := .putting })) :=
    resume_known known moves (by simp [acquiring])
  have advanced : world.advance (.acquired put.attempt.sessionId manager library) =
      world.resume put.attempt.sessionId (.token (some token)) := by
    simp only [World.advance, known, Option.bind_some, acquires]
  have first := Leads.step _ (advanced.trans resumed) rfl
  have second : Leads ((world.setAttempt put.attempt.sessionId
        { put with token := some token, stage := .putting }).send
        (sent { put with token := some token, stage := .putting }))
      ((world.setAttempt put.attempt.sessionId
        { put with token := some token, stage := .putting }).setExecution slot
          ⟨some put.attempt.sessionId,
            gdsChunkRequest put.attempt put.grant token put.buffer.size, .receiving⟩) :=
    .deliver world.network 0 slot rfl (handle_gdsPut free)
  exact ⟨_, first.trans second, Function.update_self .., Function.update_self .., rfl, rfl, rfl⟩

/-! ## Up to the answer -/

/-- The backend has answered, and told the proxy if it tells it anything. -/
structure Answered (world later : World) (key : String) (put : PutOnce) (served : Served)
    (network : List Message) : Prop where
  attempt : later.attempts key = some put
  network : later.network = network ++ [.gdsPutReply key (.ok served.response)]
  records : ∀ report, served.notification = some report →
    later.proxy = (world.proxy.reportGdsPut report).2

theorem leads_answered {server : Server} {request : GdsChunkRequest} {served : Served}
    (begun : world.executions slot = some { caller := some key, request })
    (known : world.attempts key = some put)
    (serves : world.backend.gdsPut server request = .ok served) :
    ∃ later, Leads world later ∧ Answered world later key put served world.network := by
  have first {later : World} (received : world.receive slot server = some later) :
      Leads world later := .step (.receive slot server) received rfl
  cases notification : served.notification with
  | none =>
      have received : world.receive slot server =
          some (world.finish slot { caller := some key, request } (.ok served)) := by
        simp only [World.receive, begun, serves, notification]
      refine ⟨_, first received, known, rfl, ?_⟩
      intro report tells
      rw [notification] at tells
      cases tells
  | some report =>
      have received : world.receive slot server = some ((world.setExecution slot
          { caller := some key, request, stage := .notifying served }).send
            [.reportGdsPut slot report]) := by
        simp only [World.receive, begun, serves, notification]
      have second : Leads ((world.setExecution slot
            { caller := some key, request, stage := .notifying served }).send
              [.reportGdsPut slot report]) _ :=
        .deliver world.network 0 slot rfl rfl
      have third : Leads ({ world.setExecution slot
            { caller := some key, request, stage := .notifying served } with
              proxy := (world.proxy.reportGdsPut report).2 }.send
                [.reportGdsPutReply slot (world.proxy.reportGdsPut report).1])
          ({ world.setExecution slot
            { caller := some key, request, stage := .notifying served } with
              proxy := (world.proxy.reportGdsPut report).2 }.finish slot
                { caller := some key, request, stage := .notifying served } (.ok served)) := by
        refine .deliver world.network 0 slot rfl ?_
        simp only [World.handle, World.notified, World.send, World.setExecution, Function.update_self,
          Option.map_some]
      refine ⟨_, ((first received).trans second).trans third, known, rfl, ?_⟩
      intro told tells
      rw [notification, Option.some.injEq] at tells
      rw [← tells]
      rfl

/-! ## Up to the end -/

theorem leads_returned {served : Served} (host : List UInt8) (known : world.attempts key = some put)
    (putting : put.stage = .putting)
    (under : world.network = network ++ [.gdsPutReply key (.ok served.response)])
    (verifies : put.options.verifyCrc32c = true → crc32c host = served.response.crc32c) :
    ∃ later next, Leads world later ∧ later.attempts key = some next ∧
      next.stage = .returned true ∧ next.attempt = put.attempt ∧ next.buffer = put.buffer ∧
      later.proxy = world.proxy ∧ next.out = makeTransferOutcome put.attempt
        ⟨served.response.etag, served.response.crc32c⟩ put.buffer := by
  have moves : put.resume (.gdsPut (.ok served.response)) = put.onGdsPut (.ok served.response) := by
    simp only [PutOnce.resume, putting]
  have moved : (put.onGdsPut (.ok served.response)).stage ≠ put.stage := by
    rw [putting]
    cases put.options.verifyCrc32c <;> simp [PutOnce.onGdsPut] <;> split <;> simp
  have first : Leads world _ := .reply network under (fun _ => rfl) known moves moved
  cases verify : put.options.verifyCrc32c with
  | false =>
      refine ⟨_, _, first, Function.update_self .., ?_, rfl, rfl, rfl, rfl⟩
      simp [PutOnce.onGdsPut, verify]
  | true =>
      have copying : (put.onGdsPut (.ok served.response)).stage = .copying := by
        simp [PutOnce.onGdsPut, verify]
      have same : crc32c host = (put.onGdsPut (.ok served.response)).result.crc32c := verifies verify
      have done : (put.onGdsPut (.ok served.response)).resume (.copied (some host)) =
          { put.onGdsPut (.ok served.response) with stage := .returned true } := by
        simp only [PutOnce.resume, copying, PutOnce.onCopied, if_pos same]
      have second : Leads (({ world with network }.setAttempt key
          (put.onGdsPut (.ok served.response))).send (sent (put.onGdsPut (.ok served.response)))) _ :=
        .step (.copied key (some host))
          (resume_known (Function.update_self ..) done (by rw [copying]; simp)) rfl
      exact ⟨_, _, first.trans second, Function.update_self .., rfl, rfl, rfl, rfl, rfl⟩

/-! ## The whole way -/

/-- What a PUT needs of its own: what the checks on its way ask for. -/
structure Feasible (request : PutObjectRequest) (buffer : ConstBufferView) : Prop where
  bucket : request.bucket ≠ ""
  key : request.key ≠ ""
  announced : request.expectedSize.getD 0 ≠ 0
  data : buffer.data ≠ 0
  nonempty : buffer.size ≠ 0
  fits : buffer.size ≤ kMaxChunkBytes

/-- A server that has all it needs and transfers what it is asked for. -/
def serving (data : List UInt8) : Server where
  available := true
  lease := true
  channel := true
  handlePutObject arguments :=
    { transferred := arguments.length.toInt64, memory := data, status := "success" }

theorem Feasible.accepted {request : PutObjectRequest} {buffer : ConstBufferView}
    (feasible : Feasible request buffer) (options : ClientOptions) (requestValue sessionValue : UInt64) :
    openSessionError
      (openSessionRequest (makePutAttempt options request requestValue sessionValue)) = none := by
  have named : ¬ (request.bucket = "" ∨ request.key = "") := by
    rintro (empty | empty)
    · exact feasible.bucket empty
    · exact feasible.key empty
  have flow : gpuDirect = Proxy.kGdsDataPath := rfl
  have put : "PUT" = Proxy.kOpTypePut := rfl
  simp [openSessionError, openSessionRequest, makePutAttempt, flow, put, named, feasible.announced]

theorem toInt64_nonnegative {length : UInt64} (fits : length ≤ kMaxChunkBytes) :
    ¬ length.toInt64 < 0 := by
  have bound : length.toNat ≤ 1073741824 := UInt64.le_iff_toNat_le.mp fits
  have value : length.toInt64.toInt = length.toNat := by
    rw [← Int64.toInt_toBitVec]
    change length.toBitVec.toInt = _
    have small : 2 * length.toBitVec.toNat < 2 ^ 64 := by
      change 2 * length.toNat < 2 ^ 64
      omega
    rw [BitVec.toInt_eq_toNat_of_lt small]
    rfl
  rw [Int64.lt_iff_toInt_lt, value]
  simp

/-- The checksum the backend finds for the data. -/
def checksum (service : DataPlaneService) (data : List UInt8) : UInt32 :=
  if service.computeCrc32c then Backend.crc32c data else 0

theorem serving_receives (service : DataPlaneService) {data : List UInt8}
    {request : GdsChunkRequest} (nonempty : request.chunkSize ≠ 0)
    (fits : request.chunkSize ≤ kMaxChunkBytes) (whole : data.length = request.chunkSize.toNat) :
    service.receive (serving data) request =
      { ok := true, bytesTransferred := request.chunkSize, crc32c := checksum service data } := by
  have transfers : Backend.Transfers (serving data) request.chunkSize
      (DataPlaneService.put (serving data) request) :=
    ⟨fits, nonempty, rfl, rfl, toInt64_nonnegative fits⟩
  have all : data.take request.chunkSize.toNat = data := List.take_of_length_le (le_of_eq whole)
  rw [DataPlaneService.receive, Backend.receiveAndDiscard_transfers rfl transfers]
  simp only [Backend.discard, serving, UInt64.toUInt64_toInt64, all, checksum]

theorem serving_serves (service : DataPlaneService) (data : List UInt8) {request : GdsChunkRequest}
    (single : request.uploadId = "") (tokened : request.rdmaToken ≠ "")
    (nonempty : request.chunkSize ≠ 0) (fits : request.chunkSize ≤ kMaxChunkBytes)
    (whole : data.length = request.chunkSize.toNat) :
    ∃ served, service.gdsPut (serving data) request = .ok served ∧
      DataPlaneService.ServedBy service (serving data) request served ∧
      served.outcome =
        { ok := true, bytesTransferred := request.chunkSize, crc32c := checksum service data } := by
  have received := serving_receives service nonempty fits whole
  have checked : gdsPutError (serving data) request = none :=
    DataPlaneService.gdsPutError_none.mpr ⟨single, tokened, rfl⟩
  have serves : ∃ served, service.gdsPut (serving data) request = .ok served := by
    simp only [DataPlaneService.gdsPut, checked, received, if_true]
    exact ⟨_, rfl⟩
  obtain ⟨served, answered⟩ := serves
  have servedBy := DataPlaneService.gdsPut_ok_iff.mp answered
  exact ⟨served, answered, servedBy, servedBy.outcome.trans received⟩

/-- A PUT that asks for nothing unreasonable is granted, transferred, answered and returned. -/
theorem feasible_leads (finite : Finite world) (options : ClientOptions)
    {request : PutObjectRequest} {buffer : ConstBufferView} (out : TransferOutcome)
    (requestValue sessionValue : UInt64) (feasible : Feasible request buffer)
    (fresh : world.attempts (makeId kSessionIdPrefix sessionValue) = none)
    (checkable : options.verifyCrc32c = true → world.backend.computeCrc32c = true)
    {data : List UInt8} (whole : data.length = buffer.size.toNat) :
    ∃ later put, Leads world later ∧
      later.attempts (makeId kSessionIdPrefix sessionValue) = some put ∧
      put.attempt = makePutAttempt options request requestValue sessionValue ∧
      put.buffer = buffer ∧ put.stage = .returned true ∧
      put.out = {
        bytesTransferred := buffer.size
        requestId := makeId kRequestIdPrefix requestValue
        sessionId := makeId kSessionIdPrefix sessionValue
        etag := buildEtag (checksum world.backend data)
        crc32c := checksum world.backend data } ∧
      (world.backend.notifies = true → ∃ record,
        later.proxy.lookup (makeId kSessionIdPrefix sessionValue) = some record ∧
        record.status = .completed ∧ record.etag = put.out.etag ∧
        record.bytesTransferred = buffer.size) := by
  set put := PutOnce.start options request buffer out requestValue sessionValue with started
  have free : (world.attempts put.attempt.sessionId).isNone = true := Option.isNone_iff_eq_none.mpr fresh
  have begins : world.advance (.start options request buffer out requestValue sessionValue) =
      some ((world.setAttempt put.attempt.sessionId put).send (sent put)) := by
    simp only [World.advance, ← started, free, if_true]
  obtain ⟨granted, ticket, record, first, beside, found⟩ := leads_granted rfl
    (makeId_ne_empty (by decide) sessionValue) begins rfl
    (feasible.accepted options requestValue sessionValue)
  -- a token of a library that has pinned nothing yet
  have acquires : (GdsMemoryManager.acquireToken {} ⟨true, true, some "0:0"⟩ buffer.data
      buffer.size 0).token = some "0:0" := by
    have valid : ¬ (buffer.data = 0 ∨ buffer.size = 0) := not_or.mpr ⟨feasible.data, feasible.nonempty⟩
    rw [GdsMemoryManager.acquireToken_pinned valid (Finmap.lookup_empty _) rfl]
  obtain ⟨slot, unused⟩ := free_slot finite
  have unbegun : granted.executions slot = none := by rw [beside.executions, unused]
  obtain ⟨begun, second, begins⟩ := leads_begun
    { put with grant := ⟨ticket⟩, stage := .acquiring } beside.attempt rfl acquires unbegun
  obtain ⟨served, serves, servedBy, outcome⟩ := serving_serves begun.backend data
    (show (gdsChunkRequest put.attempt ⟨ticket⟩ "0:0" buffer.size).uploadId = "" from rfl)
    (show "0:0" ≠ "" by decide) feasible.nonempty feasible.fits whole
  obtain ⟨answered, third, answers⟩ := leads_answered begins.execution begins.attempt serves
  have backend : begun.backend = world.backend := begins.backend.trans beside.backend
  have response : served.response = gdsChunkResponse served.outcome := servedBy.response
  rw [outcome, backend] at response
  obtain ⟨later, next, fourth, known, returned, attempt, view, proxy, outcome'⟩ := leads_returned data
    answers.attempt rfl answers.network (fun verify => by
      rw [response]
      have computes : world.backend.computeCrc32c = true := checkable verify
      simp only [gdsChunkResponse, checksum, computes, if_true]
      rfl)
  refine ⟨later, next, ((first.trans second).trans third).trans fourth, known, attempt, view, returned, ?_, ?_⟩
  · rw [outcome', response]
    rfl
  · intro notifies
    have told := servedBy.notification
    rw [backend, if_pos notifies] at told
    have completed : later.proxy.lookup put.attempt.sessionId =
        some (record.complete (buildEtag served.outcome.crc32c) served.outcome.crc32c
          served.outcome.bytesTransferred) := by
      rw [proxy, answers.records _ told, begins.proxy, ProxyControlPlaneService.lookup_reportGdsPut,
        found]
      exact if_pos rfl
    refine ⟨_, completed, rfl, ?_, ?_⟩
    · rw [outcome', response, outcome, backend]
      rfl
    · rw [outcome]
      rfl

/-- From every reachable world, a PUT that asks for nothing unreasonable can be started and taken
to its success, by steps none of which is a fault; if the backend tells the proxy, its record
is then completed with what the PUT reports. -/
theorem put_always_possible (reachable : World.system.Reachable world) (options : ClientOptions)
    {request : PutObjectRequest} {buffer : ConstBufferView} (out : TransferOutcome)
    (requestValue sessionValue : UInt64) (feasible : Feasible request buffer)
    (fresh : world.attempts (makeId kSessionIdPrefix sessionValue) = none)
    (checkable : options.verifyCrc32c = true → world.backend.computeCrc32c = true)
    {data : List UInt8} (whole : data.length = buffer.size.toNat) :
    ∃ events later put, World.smooth.Run world events later ∧
      later.attempts (makeId kSessionIdPrefix sessionValue) = some put ∧
      put.attempt = makePutAttempt options request requestValue sessionValue ∧
      put.buffer = buffer ∧ put.stage = .returned true ∧
      put.out = {
        bytesTransferred := buffer.size
        requestId := makeId kRequestIdPrefix requestValue
        sessionId := makeId kSessionIdPrefix sessionValue
        etag := buildEtag (checksum world.backend data)
        crc32c := checksum world.backend data } ∧
      (world.backend.notifies = true → ∃ record,
        later.proxy.lookup (makeId kSessionIdPrefix sessionValue) = some record ∧
        record.status = .completed ∧ record.etag = put.out.etag ∧
        record.bytesTransferred = buffer.size) := by
  obtain ⟨later, put, ⟨events, run⟩, success⟩ := feasible_leads (finite_invariant.reachable reachable)
    options out requestValue sessionValue feasible fresh checkable whole
  exact ⟨events, later, put, run, success⟩

/-- An attempt has timed out while the answer to its `GdsPut` was under way; the next one is
not hindered. -/
theorem next_put_possible : ∃ events later put,
    World.smooth.Run (worldAfter (putEvents 4 ++ [.timeout sessionTwo ⟨1008, "reached timeout"⟩]))
      events later ∧
    later.attempts (makeId kSessionIdPrefix 4) = some put ∧ put.stage = .returned true := by
  have possible : (System.replay World.advance { proxy := Proxy.defaultProxy }
      (putEvents 4 ++ [.timeout sessionTwo ⟨1008, "reached timeout"⟩])).isSome = true := by decide
  have fresh : ((worldAfter (putEvents 4 ++ [.timeout sessionTwo ⟨1008, "reached timeout"⟩])).attempts
      (makeId kSessionIdPrefix 4)).isNone = true := by decide
  have feasible : Feasible { bucket := "bucket", key := "object", expectedSize := some 4 }
      { data := 4096, size := 4 } :=
    ⟨by decide, by decide, by decide, by decide, by decide, by decide⟩
  obtain ⟨events, later, put, run, known, _, _, returned, _⟩ := put_always_possible
    ⟨_, _, started_initial, worldAfter_run possible⟩ {} {} 3 4 feasible
    (Option.isNone_iff_eq_none.mp fresh) nofun (show [5, 6, 7, 8].length = 4 by decide)
  exact ⟨events, later, put, run, known, returned⟩

end Us3Turbo.Cluster
