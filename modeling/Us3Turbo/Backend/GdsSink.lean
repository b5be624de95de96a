import Mathlib.Algebra.Group.Nat.Defs
import Us3Turbo.Backend.Crc32c

/-! # `backend/src/backend_gds_sink.cpp` -/

namespace Us3Turbo.Backend

structure DiscardOutcome where
  ok : Bool := false
  error : String := ""
  bytesTransferred : UInt64 := 0
  crc32c : UInt32 := 0
deriving DecidableEq, Repr

def kMaxChunkBytes : UInt64 := 1 * 1024 * 1024 * 1024

/-! ## `ParseRemoteBufferAddress` -/

def hexValue (digit : Char) : Option Nat :=
  if '0' ≤ digit ∧ digit ≤ '9' then some (digit.toNat - '0'.toNat)
  else if 'a' ≤ digit ∧ digit ≤ 'f' then some (digit.toNat - 'a'.toNat + 10)
  else if 'A' ≤ digit ∧ digit ≤ 'F' then some (digit.toNat - 'A'.toNat + 10)
  else none

def isSpace (c : Char) : Bool := c = ' ' ∨ ('\t' ≤ c ∧ c ≤ '\r')

/-- A radix marker counts only when a digit follows it. -/
def dropRadix : List Char → List Char
  | '0' :: marker :: digit :: rest =>
      if (marker = 'x' ∨ marker = 'X') ∧ (hexValue digit).isSome then digit :: rest
      else '0' :: marker :: digit :: rest
  | text => text

/-- `strtoull(text, nullptr, 16)`: a sign is allowed, an overflow gives `ULLONG_MAX`. -/
def strtoull16 (text : List Char) : UInt64 :=
  let text := text.dropWhile isSpace
  let digits := match text with
    | '-' :: rest => rest
    | '+' :: rest => rest
    | rest => rest
  let magnitude := ((dropRadix digits).takeWhile fun digit => (hexValue digit).isSome).foldl
    (fun total digit => 16 * total + (hexValue digit).getD 0) 0
  if magnitude ≥ 2 ^ 64 then 0xFFFFFFFFFFFFFFFF
  else if text.head? = some '-' then -UInt64.ofNat magnitude
  else UInt64.ofNat magnitude

def parseRemoteBufferAddress (token : String) : UInt64 :=
  let hex := token.toList.takeWhile (· ≠ ':')
  if hex = [] then 0 else strtoull16 hex

/-! ## `ReceiveAndDiscard` -/

/-- The arguments of `handlePutObject` that depend on the request. -/
structure PutArguments where
  objectId : String
  remoteBufStart : UInt64
  length : UInt64
  rdmaToken : String

/-- `memory` is what the pinned buffer holds after the call, `status` what
`DescribeStatus` makes of the completion status. -/
structure PutReply where
  transferred : Int64
  memory : List UInt8
  status : String

structure Server where
  available : Bool
  lease : Bool
  channel : Bool
  handlePutObject : PutArguments → PutReply

def discard (computeCrc32c : Bool) (reply : PutReply) : DiscardOutcome :=
  let bytes := reply.transferred.toUInt64
  { ok := true
    bytesTransferred := bytes
    crc32c := if computeCrc32c then crc32c (reply.memory.take bytes.toNat) else 0 }

def receiveAndDiscard (computeCrc32c : Bool) (server : Server) (objectId rdmaToken : String)
    (length : UInt64) : DiscardOutcome :=
  if length > kMaxChunkBytes then { error := "GDS PUT chunk exceeds 1 GiB cuObjServer limit" }
  else if length = 0 then { ok := true }
  else if !server.lease then { error := "cuObjServer pinned buffer alloc failed" }
  else if !server.channel then { error := "cuObjServer allocateChannelId failed" }
  else
    let reply := server.handlePutObject
      ⟨objectId, parseRemoteBufferAddress rdmaToken, length, rdmaToken⟩
    if reply.transferred < 0 then
      { error := "cuObjServer handlePutObject failed: " ++ reply.status }
    else discard computeCrc32c reply

variable {computeCrc32c : Bool} {server : Server} {objectId rdmaToken : String} {length : UInt64}

/-- The transfer of a non-empty chunk goes through: what must hold up to and
including `handlePutObject`. -/
structure Transfers (server : Server) (length : UInt64) (reply : PutReply) : Prop where
  bounded : length ≤ kMaxChunkBytes
  nonempty : length ≠ 0
  lease : server.lease = true
  channel : server.channel = true
  received : ¬ reply.transferred < 0

/-- What must hold for `handlePutObject` to be reached at all. -/
structure Reaches (server : Server) (length : UInt64) : Prop where
  bounded : length ≤ kMaxChunkBytes
  nonempty : length ≠ 0
  lease : server.lease = true
  channel : server.channel = true

theorem Reaches.outcome (reaches : Reaches server length) :
    receiveAndDiscard computeCrc32c server objectId rdmaToken length =
      let reply := server.handlePutObject
        ⟨objectId, parseRemoteBufferAddress rdmaToken, length, rdmaToken⟩
      if reply.transferred < 0 then
        { error := "cuObjServer handlePutObject failed: " ++ reply.status }
      else discard computeCrc32c reply := by
  have bounded : ¬ length > kMaxChunkBytes := by simpa using reaches.bounded
  simp only [receiveAndDiscard, if_neg bounded, if_neg reaches.nonempty, reaches.lease,
    reaches.channel, Bool.not_true, Bool.false_eq_true, if_false]

theorem Transfers.reaches {reply : PutReply} (transfers : Transfers server length reply) :
    Reaches server length :=
  ⟨transfers.bounded, transfers.nonempty, transfers.lease, transfers.channel⟩

theorem receiveAndDiscard_transfers {reply : PutReply}
    (put : server.handlePutObject
      ⟨objectId, parseRemoteBufferAddress rdmaToken, length, rdmaToken⟩ = reply)
    (transfers : Transfers server length reply) :
    receiveAndDiscard computeCrc32c server objectId rdmaToken length =
      discard computeCrc32c reply := by
  rw [transfers.reaches.outcome]
  simp only [put, if_neg transfers.received]

theorem receiveAndDiscard_empty (empty : length = 0) :
    receiveAndDiscard computeCrc32c server objectId rdmaToken length = { ok := true } := by
  subst empty
  rfl

theorem receiveAndDiscard_ok
    (received : (receiveAndDiscard computeCrc32c server objectId rdmaToken length).ok = true) :
    length = 0 ∨ Transfers server length (server.handlePutObject
      ⟨objectId, parseRemoteBufferAddress rdmaToken, length, rdmaToken⟩) := by
  by_cases empty : length = 0
  · exact .inl empty
  · right
    unfold receiveAndDiscard at received
    split at received
    · cases received
    · rename_i bounded
      split at received
      · cases received
      · rename_i lease
        split at received
        · cases received
        · rename_i channel
          simp only at received
          split at received
          · cases received
          · rename_i nonnegative
            exact ⟨by simpa using bounded, empty, by simpa using lease, by simpa using channel,
              nonnegative⟩

end Us3Turbo.Backend
