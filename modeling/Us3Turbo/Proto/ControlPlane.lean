import Mathlib.Tactic.TypeStar

/-! # Messages of `control_plane.proto`

Only the fields that some handler or request builder reads or writes are kept.
proto3 strings, `uint64`, `uint32` and `bool` have the defaults `""`, `0` and
`false`, which is what a builder that never sets a field sends.
-/

namespace Us3Turbo.Proto

/-- What `brpc::Controller::SetFailed` leaves for the caller. -/
structure RpcError where
  code : Int
  text : String
deriving DecidableEq, Repr

abbrev RpcResult (Response : Type) := Except RpcError Response

structure OpenSessionRequest where
  requestId : String := ""
  sessionId : String := ""
  bucket : String := ""
  objectKey : String := ""
  opType : String := ""
  dataFlow : String := ""
  expectedSize : UInt64 := 0
  isMultipartPart : Bool := false
deriving DecidableEq, Repr

structure OpenSessionResponse where
  requestId : String
  sessionId : String
  ticket : String
  gatewayId : String
  dataEndpoint : String
  expireAt : String
deriving DecidableEq, Repr

structure GdsChunkRequest where
  requestId : String := ""
  sessionId : String := ""
  transferTicket : String := ""
  bucket : String := ""
  objectKey : String := ""
  dataFlow : String := ""
  chunkSize : UInt64 := 0
  rdmaToken : String := ""
  uploadId : String := ""
deriving DecidableEq, Repr

structure GdsChunkResponse where
  etag : String
  crc32c : UInt32
  bytesReceived : UInt64
deriving DecidableEq, Repr

structure ReportGdsPutRequest where
  sessionId : String
  etag : String
  crc32c : UInt32
  bytesTransferred : UInt64
deriving DecidableEq, Repr

structure ReportGdsPutResponse where
  accepted : Bool
deriving DecidableEq, Repr

structure CompleteUploadRequest where
  uploadId : String
deriving DecidableEq, Repr

structure CompleteUploadResponse where
  etag : String
deriving DecidableEq, Repr

structure AbortSessionRequest where
  sessionId : String
deriving DecidableEq, Repr

structure AbortSessionResponse where
  erased : Bool
deriving DecidableEq, Repr

end Us3Turbo.Proto
