import Us3Turbo.Backend.GdsSink
import Us3Turbo.Data.Hex
import Us3Turbo.Proto.ControlPlane

/-! # `backend/src/backend_data_plane_service.cpp` -/

namespace Us3Turbo.Backend

open Us3Turbo.Data Us3Turbo.Proto

def kNotImplemented : String := "backend v1: only single-object GdsPut"

/-- `Controller::SetFailed` without a code. -/
def failed (text : String) : RpcError := ⟨-1, text⟩

/-- `brpc::ENOMETHOD`, the answer of every method but `GdsPut`. -/
def notImplemented : RpcError := ⟨1002, kNotImplemented⟩

def buildEtag (crc : UInt32) : String := lowerHex 8 crc.toNat

def buildObjectId (bucket objectKey : String) : String := bucket ++ "/" ++ objectKey

/-- `notifies` is whether there is a stub for the proxy. -/
structure DataPlaneService where
  computeCrc32c : Bool := true
  notifies : Bool := true

structure Served where
  outcome : DiscardOutcome
  response : GdsChunkResponse
  notification : Option ReportGdsPutRequest
deriving DecidableEq

def gdsPutError (server : Server) (request : GdsChunkRequest) : Option RpcError :=
  if request.uploadId ≠ "" then some (failed kNotImplemented)
  else if request.rdmaToken = "" then some (failed "backend v1: missing rdma_token for GdsPut")
  else if !server.available then some (failed "backend v1: cuObjServer not available")
  else none

def gdsChunkResponse (outcome : DiscardOutcome) : GdsChunkResponse where
  etag := buildEtag outcome.crc32c
  crc32c := outcome.crc32c
  bytesReceived := outcome.bytesTransferred

def reportGdsPutRequest (request : GdsChunkRequest) (outcome : DiscardOutcome) :
    ReportGdsPutRequest where
  sessionId := request.sessionId
  etag := buildEtag outcome.crc32c
  crc32c := outcome.crc32c
  bytesTransferred := outcome.bytesTransferred

namespace DataPlaneService

def receive (service : DataPlaneService) (server : Server) (request : GdsChunkRequest) :
    DiscardOutcome :=
  receiveAndDiscard service.computeCrc32c server (buildObjectId request.bucket request.objectKey)
    request.rdmaToken request.chunkSize

def put (server : Server) (request : GdsChunkRequest) : PutReply :=
  server.handlePutObject ⟨buildObjectId request.bucket request.objectKey,
    parseRemoteBufferAddress request.rdmaToken, request.chunkSize, request.rdmaToken⟩

def gdsPut (service : DataPlaneService) (server : Server) (request : GdsChunkRequest) :
    RpcResult Served :=
  match gdsPutError server request with
  | some error => .error error
  | none =>
      let outcome := service.receive server request
      if outcome.ok then
        .ok {
          outcome
          response := gdsChunkResponse outcome
          notification :=
            if service.notifies then some (reportGdsPutRequest request outcome) else none }
      else .error (failed ("backend v1: " ++ outcome.error))

variable {service : DataPlaneService} {server : Server} {request : GdsChunkRequest}
  {served : Served} {response : GdsChunkResponse}

/-- What a successful `GdsPut` leaves behind, all of it from one outcome. -/
structure ServedBy (service : DataPlaneService) (server : Server) (request : GdsChunkRequest)
    (served : Served) : Prop where
  checked : gdsPutError server request = none
  outcome : served.outcome = service.receive server request
  received : served.outcome.ok = true
  response : served.response = gdsChunkResponse served.outcome
  notification : served.notification =
    if service.notifies then some (reportGdsPutRequest request served.outcome) else none

theorem ServedBy.report_eq {report : ReportGdsPutRequest}
    (servedBy : ServedBy service server request served)
    (notification : served.notification = some report) :
    report = reportGdsPutRequest request served.outcome := by
  rw [servedBy.notification] at notification
  split at notification
  · exact (Option.some.inj notification).symm
  · cases notification

theorem gdsPut_ok_iff :
    service.gdsPut server request = .ok served ↔ ServedBy service server request served := by
  constructor
  · intro accepted
    cases checked : gdsPutError server request with
    | some error => simp [gdsPut, checked] at accepted
    | none =>
        cases received : (service.receive server request).ok with
        | false => simp [gdsPut, checked, received] at accepted
        | true =>
            simp only [gdsPut, checked, received, if_true, Except.ok.injEq] at accepted
            rw [← accepted]
            exact ⟨checked, rfl, received, rfl, rfl⟩
  · intro servedBy
    obtain ⟨checked, outcome, received, response, notification⟩ := servedBy
    obtain ⟨_, _, _⟩ := served
    simp only at outcome received response notification
    subst outcome response notification
    simp only [gdsPut, checked, received, if_true]

theorem gdsPutError_none : gdsPutError server request = none ↔
    request.uploadId = "" ∧ request.rdmaToken ≠ "" ∧ server.available = true := by
  by_cases single : request.uploadId = ""
  · by_cases missing : request.rdmaToken = ""
    · simp [gdsPutError, single, missing]
    · simp [gdsPutError, single, missing]
  · simp [gdsPutError, single]

/-- For a non-empty chunk, `GdsPut` succeeds exactly by a transfer, and answers with its count. -/
theorem gdsPut_nonempty_iff (nonempty : request.chunkSize ≠ 0) :
    (∃ served, service.gdsPut server request = .ok served ∧ served.response = response) ↔
      gdsPutError server request = none ∧
      Transfers server request.chunkSize (put server request) ∧
      response = gdsChunkResponse (discard service.computeCrc32c (put server request)) := by
  constructor
  · rintro ⟨served, accepted, rfl⟩
    obtain ⟨checked, outcome, received, answer, _⟩ := gdsPut_ok_iff.mp accepted
    rw [outcome] at received
    have transfers : Transfers server request.chunkSize (put server request) :=
      (receiveAndDiscard_ok received).resolve_left nonempty
    have discarded : served.outcome = discard service.computeCrc32c (put server request) :=
      outcome.trans (receiveAndDiscard_transfers rfl transfers)
    exact ⟨checked, transfers, answer.trans (congrArg gdsChunkResponse discarded)⟩
  · rintro ⟨checked, transfers, rfl⟩
    have outcome : service.receive server request =
        discard service.computeCrc32c (put server request) :=
      receiveAndDiscard_transfers rfl transfers
    let served : Served := {
      outcome := service.receive server request
      response := gdsChunkResponse (service.receive server request)
      notification := if service.notifies then
        some (reportGdsPutRequest request (service.receive server request)) else none }
    have accepted : ServedBy service server request served :=
      ⟨checked, rfl, congrArg DiscardOutcome.ok outcome, rfl, rfl⟩
    exact ⟨served, gdsPut_ok_iff.mpr accepted, congrArg gdsChunkResponse outcome⟩

end DataPlaneService

theorem isLowerHex_buildEtag (crc : UInt32) : IsLowerHex 8 crc.toNat (buildEtag crc) :=
  isLowerHex_lowerHex (Nat.lt_of_lt_of_eq crc.toNat_lt (by decide))

end Us3Turbo.Backend
