import Us3Turbo.Proto.ControlPlane
import Us3Turbo.Proxy.SessionManager
import Us3Turbo.Transition.System

/-! # `proxy/src/service/proxy_control_plane_service.cpp` -/

namespace Us3Turbo.Proxy

open Us3Turbo.Data Us3Turbo.Proto Us3Turbo.Transition

/-! ## `proxy/src/common/errors.h` -/

def PROXY_ERR_INVALID_PARAM : Int := 10001
def PROXY_ERR_SESSION_EXPIRED : Int := 11001
def PROXY_ERR_SESSION_NOT_FOUND : Int := 11002
def PROXY_ERR_BACKEND_UNAVAILABLE : Int := 12001
def PROXY_ERR_BACKEND_RPC : Int := 12002
def PROXY_ERR_UNSUPPORTED_PATH : Int := 13001
def PROXY_ERR_NOT_IMPLEMENTED : Int := 90001

def errorMessage (code : Int) : String :=
  if code = PROXY_ERR_INVALID_PARAM then "invalid parameter"
  else if code = PROXY_ERR_SESSION_EXPIRED then "session expired"
  else if code = PROXY_ERR_SESSION_NOT_FOUND then "session not found"
  else if code = PROXY_ERR_BACKEND_UNAVAILABLE then "no backend available"
  else if code = PROXY_ERR_BACKEND_RPC then "backend rpc failed"
  else if code = PROXY_ERR_UNSUPPORTED_PATH then "unsupported data_flow"
  else if code = PROXY_ERR_NOT_IMPLEMENTED then "not implemented in proxy v1"
  else "unknown error"

/-! ## Handlers -/

def kGdsDataPath : String := "gds-cuobject"
def kOpTypePut : String := "PUT"

structure ProxyControlPlaneService where
  gatewayId : String
  backendEndpoint : String
  sessionMgr : SessionManager

def openSessionError (request : OpenSessionRequest) : Option RpcError :=
  if request.dataFlow ≠ kGdsDataPath then
    some ⟨PROXY_ERR_UNSUPPORTED_PATH,
      "proxy v1 only accepts data_flow=gds-cuobject, got: " ++ request.dataFlow⟩
  else if request.opType ≠ kOpTypePut then
    some ⟨PROXY_ERR_UNSUPPORTED_PATH, "proxy v1 only accepts op_type=PUT, got: " ++ request.opType⟩
  else if request.isMultipartPart then
    some ⟨PROXY_ERR_INVALID_PARAM, "proxy v1 does not support multipart part sessions"⟩
  else if request.bucket = "" ∨ request.objectKey = "" then
    some ⟨PROXY_ERR_INVALID_PARAM, "missing bucket or object_key"⟩
  else if request.expectedSize = 0 then
    some ⟨PROXY_ERR_INVALID_PARAM, "expected_size must be > 0 for GDS PUT"⟩
  else none

namespace ProxyControlPlaneService

def openSession (service : ProxyControlPlaneService) (now : Int) (request : OpenSessionRequest) :
    RpcResult OpenSessionResponse × ProxyControlPlaneService :=
  match openSessionError request with
  | some error => (.error error, service)
  | none =>
      let created := service.sessionMgr.createSession now request.sessionId
        request.bucket request.objectKey request.expectedSize
      (.ok {
        requestId := request.requestId
        sessionId := created.1.sessionId
        ticket := created.1.ticket
        gatewayId := service.gatewayId
        dataEndpoint := service.backendEndpoint
        expireAt := created.1.expireAt }, { service with sessionMgr := created.2 })

def reportGdsPut (service : ProxyControlPlaneService) (request : ReportGdsPutRequest) :
    ReportGdsPutResponse × ProxyControlPlaneService :=
  let completed := service.sessionMgr.completeSession request.sessionId request.etag
    request.crc32c request.bytesTransferred
  (⟨completed.1⟩, { service with sessionMgr := completed.2 })

end ProxyControlPlaneService

/-- `CompleteUpload`; the `upload_id` field carries the ticket. -/
def completeUpload (order : AList fun _ : String => Session) (request : CompleteUploadRequest) :
    RpcResult CompleteUploadResponse :=
  match getCompletedSession order request.uploadId with
  | none => .error ⟨PROXY_ERR_SESSION_NOT_FOUND, "session not found or not yet completed"⟩
  | some session => .ok ⟨session.etag⟩

/-- The body shared by the six placeholder methods, which do not look at their request. -/
def notImplemented : RpcError := ⟨PROXY_ERR_NOT_IMPLEMENTED, errorMessage PROXY_ERR_NOT_IMPLEMENTED⟩

def abortSession (_ : AbortSessionRequest) : RpcResult AbortSessionResponse := .error notImplemented

inductive Placeholder where
  | headObject
  | gdsGet
  | gdsPut
  | startUpload
  | abortUpload
deriving DecidableEq, Repr

inductive Request where
  | openSession (request : OpenSessionRequest)
  | reportGdsPut (request : ReportGdsPutRequest)
  | completeUpload (request : CompleteUploadRequest)
  | abortSession (request : AbortSessionRequest)
  | placeholder (method : Placeholder)
deriving DecidableEq, Repr

inductive Response where
  | openSession (result : RpcResult OpenSessionResponse)
  | reportGdsPut (response : ReportGdsPutResponse)
  | completeUpload (result : RpcResult CompleteUploadResponse)
  | abortSession (result : RpcResult AbortSessionResponse)
  | placeholder (error : RpcError)

/-- One request handled to its end, at a clock reading and with a walk of the session map. -/
structure Exchange where
  now : Int
  order : AList fun _ : String => Session
  request : Request

def ProxyControlPlaneService.handle (service : ProxyControlPlaneService) (exchange : Exchange) :
    Response × ProxyControlPlaneService :=
  match exchange.request with
  | .openSession request =>
      let outcome := service.openSession exchange.now request
      (.openSession outcome.1, outcome.2)
  | .reportGdsPut request =>
      let outcome := service.reportGdsPut request
      (.reportGdsPut outcome.1, outcome.2)
  | .completeUpload request => (.completeUpload (completeUpload exchange.order request), service)
  | .abortSession request => (.abortSession (abortSession request), service)
  | .placeholder _ => (.placeholder notImplemented, service)

def proxySystem : System ProxyControlPlaneService Exchange where
  initial service := service.sessionMgr.seq = 0 ∧ service.sessionMgr.sessions = .empty
  step before exchange after :=
    Walks exchange.order before.sessionMgr.sessions.entries ∧ (before.handle exchange).2 = after

/-- A proxy just started with the flag defaults of `proxy/src/main.cpp`. -/
def defaultProxy : ProxyControlPlaneService where
  gatewayId := "proxy-0"
  backendEndpoint := "192.168.1.198:9200"
  sessionMgr := { ttlSec := 300 }

/-! ## What one request does -/

namespace ProxyControlPlaneService

variable {service : ProxyControlPlaneService} {now : Int} {exchange : Exchange}
  {opening : OpenSessionRequest} {report : ReportGdsPutRequest} {key : String}
  {session : Session} {order : AList fun _ : String => Session}

def lookup (service : ProxyControlPlaneService) (key : String) : Option Session :=
  service.sessionMgr.sessions.lookup key

/-- The session id an accepted `OpenSession` writes; `none` when a check rejects it. -/
def opens (service : ProxyControlPlaneService) (request : OpenSessionRequest) : Option String :=
  if openSessionError request = none then some (service.sessionMgr.pickSessionId request.sessionId)
  else none

/-- The session id an exchange opens, if it is an `OpenSession` that passes the checks. -/
def openedBy (service : ProxyControlPlaneService) (exchange : Exchange) : Option String :=
  match exchange.request with
  | .openSession request => service.opens request
  | _ => none

def opened (service : ProxyControlPlaneService) (now : Int) (request : OpenSessionRequest) : Session :=
  service.sessionMgr.mintSession now request.sessionId request.bucket request.objectKey
    request.expectedSize

theorem opens_eq_some : service.opens opening = some key ↔
    openSessionError opening = none ∧ service.sessionMgr.pickSessionId opening.sessionId = key := by
  simp [opens]

theorem lookup_openSession :
    (service.openSession now opening).2.lookup key =
      if service.opens opening = some key then some (service.opened now opening)
      else service.lookup key := by
  cases checked : openSessionError opening with
  | some error => simp [openSession, opens, checked]
  | none =>
      have stored : (service.openSession now opening).2.lookup key =
          (service.sessionMgr.createSession now opening.sessionId opening.bucket
            opening.objectKey opening.expectedSize).2.sessions.lookup key := by
        simp only [openSession, checked, lookup]
      rw [stored, SessionManager.lookup_createSession]
      simp only [opens_eq_some, checked, true_and, eq_comm (a := key)]
      rfl

theorem lookup_reportGdsPut :
    (service.reportGdsPut report).2.lookup key =
      if key = report.sessionId then (service.lookup key).map fun session =>
        session.complete report.etag report.crc32c report.bytesTransferred
      else service.lookup key := by
  cases known : service.sessionMgr.sessions.lookup report.sessionId with
  | none =>
      rw [reportGdsPut, SessionManager.completeSession_unknown known]
      split
      · rename_i same
        simp [lookup, same, known]
      · rfl
  | some session =>
      change (service.sessionMgr.completeSession report.sessionId report.etag report.crc32c
        report.bytesTransferred).2.sessions.lookup key = _
      rw [(SessionManager.completeSession_known known).2 key]
      split
      · rename_i same
        simp [lookup, same, known]
      · rfl

theorem accepted_reportGdsPut :
    (service.reportGdsPut report).1.accepted = (service.lookup report.sessionId).isSome := by
  cases known : service.sessionMgr.sessions.lookup report.sessionId with
  | none => simp [reportGdsPut, SessionManager.completeSession_unknown known, lookup, known]
  | some session =>
      change (service.sessionMgr.completeSession report.sessionId report.etag report.crc32c
        report.bytesTransferred).1 = _
      rw [(SessionManager.completeSession_known known).1]
      simp [lookup, known]

theorem reportGdsPut_unknown (unknown : service.lookup report.sessionId = none) :
    service.reportGdsPut report = (⟨false⟩, service) := by
  rw [reportGdsPut, SessionManager.completeSession_unknown unknown]

/-- Only `OpenSession` and `ReportGdsPut` write the store. -/
theorem lookup_handle :
    (service.handle exchange).2.lookup key =
      match exchange.request with
      | .openSession request =>
          if service.opens request = some key then some (service.opened exchange.now request)
          else service.lookup key
      | .reportGdsPut request =>
          if key = request.sessionId then (service.lookup key).map fun session =>
            session.complete request.etag request.crc32c request.bytesTransferred
          else service.lookup key
      | _ => service.lookup key := by
  cases named : exchange.request with
  | openSession request => simpa only [handle, named] using lookup_openSession
  | reportGdsPut request => simpa only [handle, named] using lookup_reportGdsPut
  | completeUpload request => simp only [handle, named]
  | abortSession request => simp only [handle, named]
  | placeholder method => simp only [handle, named]

theorem status_of_openedBy (lands : service.openedBy exchange = some key) :
    ∃ session, (service.handle exchange).2.lookup key = some session ∧ session.status = .pending := by
  cases named : exchange.request with
  | openSession request =>
      have opens : service.opens request = some key := by simpa only [openedBy, named] using lands
      refine ⟨service.opened exchange.now request, ?_, rfl⟩
      rw [lookup_handle, named]
      exact if_pos opens
  | _ => simp [openedBy, named] at lands

theorem reachable_handle (reachable : proxySystem.Reachable service) (now : Int) (request : Request) :
    ∃ order, Walks order service.sessionMgr.sessions.entries ∧
      proxySystem.Reachable (service.handle ⟨now, order, request⟩).2 := by
  obtain ⟨order, walks⟩ := exists_walk service.sessionMgr.sessions.entries
  have step : proxySystem.step service ⟨now, order, request⟩
      (service.handle ⟨now, order, request⟩).2 := ⟨walks, rfl⟩
  exact ⟨order, walks, reachable.step step⟩

theorem completeUpload_completed (walks : Walks order service.sessionMgr.sessions.entries)
    (known : service.lookup key = some session) (done : session.status = .completed) :
    completeUpload order ⟨ticketOf key⟩ = .ok ⟨session.etag⟩ := by
  simp only [completeUpload, getCompletedSession_ticketOf walks known done]

theorem completeUpload_unfinished (walks : Walks order service.sessionMgr.sessions.entries)
    (unfinished : ∀ session, service.lookup key = some session → session.status ≠ .completed) :
    completeUpload order ⟨ticketOf key⟩ =
      .error ⟨PROXY_ERR_SESSION_NOT_FOUND, "session not found or not yet completed"⟩ := by
  simp only [completeUpload, getCompletedSession_absent walks unfinished]

end ProxyControlPlaneService

end Us3Turbo.Proxy
