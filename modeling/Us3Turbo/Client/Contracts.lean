import Us3Turbo.Client.GdsMemoryManager
import Us3Turbo.Data.Hex
import Us3Turbo.Proto.ControlPlane

/-! # `client/src/contracts` and the public client types -/

namespace Us3Turbo.Client

open Us3Turbo.Data Us3Turbo.Proto

abbrev Milliseconds := Int64

structure ClientOptions where
  requestTimeout : Milliseconds := 300000
  putSingleMaxBytes : UInt64 := 1 * 1024 * 1024 * 1024
  verifyCrc32c : Bool := false
deriving DecidableEq, Repr

structure PutObjectRequest where
  bucket : String
  key : String
  timeout : Milliseconds := 30000
  expectedSize : Option UInt64 := none
deriving DecidableEq, Repr

structure ConstBufferView where
  data : DevicePtr := 0
  size : UInt64 := 0
deriving DecidableEq, Repr

structure TransferOutcome where
  bytesTransferred : UInt64 := 0
  requestId : String := ""
  sessionId : String := ""
  etag : String := ""
  crc32c : UInt32 := 0
deriving DecidableEq, Repr

structure PutAttempt where
  timeout : Milliseconds
  bucket : String
  key : String
  length : Option UInt64
  requestId : String
  sessionId : String
deriving DecidableEq, Repr

structure SessionGrant where
  ticket : String := ""
deriving DecidableEq, Repr

structure GdsPutResult where
  etag : String := ""
  crc32c : UInt32 := 0
deriving DecidableEq, Repr

/-! ## `request_builder.cpp` -/

def kRequestIdPrefix : String := "req-"
def kSessionIdPrefix : String := "ses-"

/-- `MakeId`; `value` is what the thread's generator returns. -/
def makeId (label : String) (value : UInt64) : String := label ++ lowerHex 16 value.toNat

def makeContext (options : ClientOptions) (timeout : Milliseconds) : Milliseconds :=
  if timeout ≤ 0 then options.requestTimeout else timeout

def makePutAttempt (options : ClientOptions) (request : PutObjectRequest)
    (requestValue sessionValue : UInt64) : PutAttempt where
  timeout := makeContext options request.timeout
  bucket := request.bucket
  key := request.key
  length := request.expectedSize
  requestId := makeId kRequestIdPrefix requestValue
  sessionId := makeId kSessionIdPrefix sessionValue

def makeTransferOutcome (attempt : PutAttempt) (result : GdsPutResult) (buffer : ConstBufferView) :
    TransferOutcome where
  bytesTransferred := buffer.size
  requestId := attempt.requestId
  sessionId := attempt.sessionId
  etag := result.etag
  crc32c := result.crc32c

theorem makeId_ne_empty {label : String} (named : label ≠ "") (value : UInt64) :
    makeId label value ≠ "" := by
  intro empty
  exact named (String.append_eq_empty_iff.mp empty).1

/-! ## The messages of `meta_rpc.cpp` and `chunk_rpc.cpp` -/

/-- `ToString(DataFlow::GPUDirect)`. -/
def gpuDirect : String := "gds-cuobject"

/-- `RpcBase::ApplyTimeout`; brpc takes an `int`. -/
def applyTimeout (timeout : Milliseconds) : Int32 := timeout.toInt32

def openSessionRequest (attempt : PutAttempt) : OpenSessionRequest where
  requestId := attempt.requestId
  sessionId := attempt.sessionId
  bucket := attempt.bucket
  objectKey := attempt.key
  opType := "PUT"
  dataFlow := gpuDirect
  expectedSize := attempt.length.getD 0
  isMultipartPart := false

def gdsChunkRequest (attempt : PutAttempt) (grant : SessionGrant) (rdmaToken : String)
    (chunkSize : UInt64) : GdsChunkRequest where
  requestId := attempt.requestId
  sessionId := attempt.sessionId
  transferTicket := grant.ticket
  bucket := attempt.bucket
  objectKey := attempt.key
  dataFlow := gpuDirect
  chunkSize := chunkSize
  rdmaToken := rdmaToken

def abortSessionRequest (attempt : PutAttempt) : AbortSessionRequest := ⟨attempt.sessionId⟩

/-- The identity check on the reply to `OpenSession`. -/
def echoes (attempt : PutAttempt) (response : OpenSessionResponse) : Prop :=
  response.requestId = attempt.requestId ∧ response.sessionId = attempt.sessionId

instance (attempt : PutAttempt) (response : OpenSessionResponse) :
    Decidable (echoes attempt response) :=
  inferInstanceAs (Decidable (_ ∧ _))

end Us3Turbo.Client
