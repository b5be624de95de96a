import Us3Turbo.Client.Contracts
import Us3Turbo.Client.Crc32c

/-! # One attempt: `PutOnce` of `client/src/client.cpp`

The function is cut where it waits for an answer.  Its locals are a record, the
point it waits at is the `Stage`, and `resume` is the straight-line code from one
point to the next.
-/

namespace Us3Turbo.Client

open Us3Turbo.Proto

inductive Stage where
  | opening
  | acquiring
  | putting
  | copying
  | aborting
  | returned (result : Bool)
deriving DecidableEq, Repr

/-- The arguments and locals of one call; `response` is the `resp` of
`ChunkRpc::Put`, of which only `result` leaves that function. -/
structure PutOnce where
  options : ClientOptions
  buffer : ConstBufferView
  attempt : PutAttempt
  out : TransferOutcome
  grant : SessionGrant := {}
  token : Option String := none
  response : Option GdsChunkResponse := none
  result : GdsPutResult := {}
  stage : Stage := .opening
deriving DecidableEq

inductive Issued where
  | openSession (request : OpenSessionRequest) (timeoutMs : Int32)
  | acquireToken (ptr : DevicePtr) (size offset : UInt64)
  | gdsPut (request : GdsChunkRequest) (timeoutMs : Int32)
  | copyToHost (ptr : DevicePtr) (size : UInt64)
  | abortSession (request : AbortSessionRequest) (timeoutMs : Int32)

/-- What it may get: a failed RPC is an error, `none` a failed `AcquireToken` or `cudaMemcpy`. -/
inductive Reply where
  | openSession (reply : RpcResult OpenSessionResponse)
  | token (reply : Option String)
  | gdsPut (reply : RpcResult GdsChunkResponse)
  | copied (host : Option (List UInt8))
  | abortSession (reply : RpcResult AbortSessionResponse)

namespace PutOnce

def start (options : ClientOptions) (request : PutObjectRequest) (buffer : ConstBufferView)
    (out : TransferOutcome) (requestValue sessionValue : UInt64) : PutOnce where
  options := options
  buffer := buffer
  attempt := makePutAttempt options request requestValue sessionValue
  out := out

def issued (put : PutOnce) : Option Issued :=
  let timeoutMs := applyTimeout put.attempt.timeout
  match put.stage with
  | .opening => some (.openSession (openSessionRequest put.attempt) timeoutMs)
  | .acquiring => some (.acquireToken put.buffer.data put.buffer.size 0)
  | .putting =>
      some (.gdsPut (gdsChunkRequest put.attempt put.grant (put.token.getD "") put.buffer.size)
        timeoutMs)
  | .copying => some (.copyToHost put.buffer.data put.buffer.size)
  | .aborting => some (.abortSession (abortSessionRequest put.attempt) timeoutMs)
  | .returned _ => none

def onOpenSession (put : PutOnce) : RpcResult OpenSessionResponse → PutOnce
  | .error _ => { put with stage := .returned false }
  | .ok response =>
      if echoes put.attempt response then
        { put with grant := ⟨response.ticket⟩, stage := .acquiring }
      else { put with stage := .returned false }

def onToken (put : PutOnce) : Option String → PutOnce
  | none => { put with stage := .aborting }
  | some token => { put with token := some token, stage := .putting }

def onGdsPut (put : PutOnce) : RpcResult GdsChunkResponse → PutOnce
  | .error _ => { put with stage := .aborting }
  | .ok response =>
      let result : GdsPutResult := ⟨response.etag, response.crc32c⟩
      -- `out` is written before the verification that may still fail
      { put with
        response := some response
        result
        out := makeTransferOutcome put.attempt result put.buffer
        stage := if put.options.verifyCrc32c then .copying else .returned true }

def onCopied (put : PutOnce) : Option (List UInt8) → PutOnce
  | none => { put with stage := .aborting }
  | some host =>
      if crc32c host = put.result.crc32c then { put with stage := .returned true }
      else { put with stage := .aborting }

/-- An answer that comes when the code no longer waits for it is dropped. -/
def resume (put : PutOnce) (reply : Reply) : PutOnce :=
  match put.stage, reply with
  | .opening, .openSession reply => put.onOpenSession reply
  | .acquiring, .token reply => put.onToken reply
  | .putting, .gdsPut reply => put.onGdsPut reply
  | .copying, .copied host => put.onCopied host
  | .aborting, .abortSession _ => { put with stage := .returned false }
  | _, _ => put

/-- The token that the call holds; `~Token` gives it back when the call returns. -/
def heldToken (put : PutOnce) : Option String :=
  match put.stage with
  | .returned _ => none
  | _ => put.token

/-- Every way an answer can move a call on. -/
inductive Resumed (put : PutOnce) : PutOnce → Prop where
  | same : Resumed put put
  | granted (ticket : String) (opening : put.stage = .opening) :
      Resumed put { put with grant := ⟨ticket⟩, stage := .acquiring }
  | acquired (token : String) (acquiring : put.stage = .acquiring) :
      Resumed put { put with token := some token, stage := .putting }
  | answered (response : GdsChunkResponse) (putting : put.stage = .putting) :
      Resumed put (put.onGdsPut (.ok response))
  | stopped (next : Stage) (waiting : ∀ result, put.stage ≠ .returned result)
      (stops : next = .aborting ∨ ∃ result, next = .returned result) :
      Resumed put { put with stage := next }

variable {put : PutOnce} {reply : Reply}

/-- What the code does with an answer, from one point at which it waits to the next. -/
inductive Turn (put : PutOnce) (reply : Reply) : PutOnce → Prop where
  | same : Turn put reply put
  | granted (response : OpenSessionResponse) (opening : put.stage = .opening)
      (answer : reply = .openSession (.ok response)) :
      Turn put reply { put with grant := ⟨response.ticket⟩, stage := .acquiring }
  | acquired (token : String) (acquiring : put.stage = .acquiring) :
      Turn put reply { put with token := some token, stage := .putting }
  | answered (response : GdsChunkResponse) (putting : put.stage = .putting)
      (answer : reply = .gdsPut (.ok response)) : Turn put reply (put.onGdsPut (.ok response))
  | verified (copying : put.stage = .copying) : Turn put reply { put with stage := .returned true }
  | aborts (begun : put.stage ≠ .opening) (waiting : ∀ result, put.stage ≠ .returned result) :
      Turn put reply { put with stage := .aborting }
  | fails (waiting : ∀ result, put.stage ≠ .returned result) :
      Turn put reply { put with stage := .returned false }

theorem turn_openSession (opening : put.stage = .opening) (answer : RpcResult OpenSessionResponse) :
    Turn put (.openSession answer) (put.onOpenSession answer) := by
  have waiting : ∀ result, put.stage ≠ .returned result := by simp [opening]
  cases answer with
  | error => exact .fails waiting
  | ok response =>
      rw [onOpenSession]
      split
      · exact .granted response opening rfl
      · exact .fails waiting

theorem turn_token (acquiring : put.stage = .acquiring) (token : Option String) :
    Turn put (.token token) (put.onToken token) := by
  cases token with
  | none => exact .aborts (by simp [acquiring]) (by simp [acquiring])
  | some token => exact .acquired token acquiring

theorem turn_gdsPut (putting : put.stage = .putting) (answer : RpcResult GdsChunkResponse) :
    Turn put (.gdsPut answer) (put.onGdsPut answer) := by
  cases answer with
  | error => exact .aborts (by simp [putting]) (by simp [putting])
  | ok response => exact .answered response putting rfl

theorem turn_copied (copying : put.stage = .copying) (host : Option (List UInt8)) :
    Turn put (.copied host) (put.onCopied host) := by
  have begun : put.stage ≠ .opening := by simp [copying]
  have waiting : ∀ result, put.stage ≠ .returned result := by simp [copying]
  cases host with
  | none => exact .aborts begun waiting
  | some host =>
      rw [onCopied]
      split
      · exact .verified copying
      · exact .aborts begun waiting

theorem resume_turn (put : PutOnce) (reply : Reply) : Turn put reply (put.resume reply) := by
  unfold resume
  split
  · exact turn_openSession ‹_› _
  · exact turn_token ‹_› _
  · exact turn_gdsPut ‹_› _
  · exact turn_copied ‹_› _
  · rename_i aborting
    exact .fails (by simp [aborting])
  · exact .same

theorem resume_resumed (put : PutOnce) (reply : Reply) : Resumed put (put.resume reply) := by
  have turn := resume_turn put reply
  generalize put.resume reply = next at turn ⊢
  cases turn with
  | same => exact .same
  | granted response opening => exact .granted response.ticket opening
  | acquired token acquiring => exact .acquired token acquiring
  | answered response putting => exact .answered response putting
  | verified copying => exact .stopped _ (by simp [copying]) (.inr ⟨true, rfl⟩)
  | aborts begun waiting => exact .stopped _ waiting (.inl rfl)
  | fails waiting => exact .stopped _ waiting (.inr ⟨false, rfl⟩)

theorem Resumed.attempt {after : PutOnce} (resumed : Resumed put after) :
    after.attempt = put.attempt := by
  cases resumed with
  | same => rfl
  | granted => rfl
  | acquired => rfl
  | answered => rfl
  | stopped => rfl

theorem Resumed.token {after : PutOnce} (resumed : Resumed put after)
    (held : put.token.isSome = true) : after.token.isSome = true := by
  cases resumed with
  | same => exact held
  | granted => exact held
  | acquired => rfl
  | answered => exact held
  | stopped => exact held

theorem Resumed.not_opening {after : PutOnce} (resumed : Resumed put after)
    (moved : after.stage ≠ put.stage) : after.stage ≠ .opening := by
  cases resumed with
  | same => exact absurd rfl moved
  | granted => simp
  | acquired => simp
  | answered response =>
      simp only [onGdsPut]
      split <;> simp
  | stopped next waiting stops =>
      rcases stops with rfl | ⟨result, rfl⟩
      · simp
      · simp

theorem Resumed.putting {after : PutOnce} (resumed : Resumed put after)
    (moved : after.stage ≠ put.stage) (putting : after.stage = .putting) :
    ∃ token, after.token = some token := by
  cases resumed with
  | same => exact absurd rfl moved
  | granted => cases putting
  | acquired token => exact ⟨token, rfl⟩
  | answered response =>
      simp only [onGdsPut] at putting
      split at putting <;> cases putting
  | stopped next waiting stops =>
      rcases stops with rfl | ⟨result, rfl⟩
      · cases putting
      · cases putting

theorem Resumed.returned {after : PutOnce} {result : Bool} (resumed : Resumed put after)
    (returned : put.stage = .returned result) : after = put := by
  cases resumed with
  | same => rfl
  | granted ticket opening =>
      rw [returned] at opening
      cases opening
  | acquired token acquiring =>
      rw [returned] at acquiring
      cases acquiring
  | answered response putting =>
      rw [returned] at putting
      cases putting
  | stopped next waiting => exact absurd returned (waiting result)

theorem heldToken_waiting (waiting : ∀ result, put.stage ≠ .returned result) :
    put.heldToken = put.token := by
  cases stage : put.stage with
  | returned result => exact absurd stage (waiting result)
  | opening => rw [heldToken, stage]
  | acquiring => rw [heldToken, stage]
  | putting => rw [heldToken, stage]
  | copying => rw [heldToken, stage]
  | aborting => rw [heldToken, stage]

/-- A token once acquired stays what it is. -/
theorem token_resume {token : String} (held : put.token = some token)
    (tokenless : put.stage = .acquiring → put.token = none) :
    (put.resume reply).token = some token := by
  have turn := resume_turn put reply
  generalize put.resume reply = next at turn ⊢
  cases turn with
  | same => exact held
  | granted => exact held
  | acquired other acquiring =>
      rw [tokenless acquiring] at held
      cases held
  | answered => exact held
  | verified => exact held
  | aborts => exact held
  | fails => exact held

end PutOnce

end Us3Turbo.Client
