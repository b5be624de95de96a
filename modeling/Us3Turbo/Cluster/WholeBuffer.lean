import Us3Turbo.Backend.DataPlaneService
import Us3Turbo.Client.PutObject

/-! # Does a successful PUT move the whole buffer?

The count of `handlePutObject` travels in `bytes_received`, which `ChunkRpc::Put`
does not read; `MakeTransferOutcome` reports the size of the buffer instead.
-/

namespace Us3Turbo.Cluster

open Us3Turbo.Proto Us3Turbo.Client
open Us3Turbo.Backend (DataPlaneService Server PutReply Transfers discard gdsChunkResponse gdsPutError)

/-- The backend as one attempt meets it; `lost` is the error of an RPC whose answer,
or whose request, does not get through. -/
structure Delivery where
  service : DataPlaneService := {}
  server : Server
  lost : Option RpcError := none

def Delivery.respond (delivery : Delivery) (request : GdsChunkRequest) :
    RpcResult GdsChunkResponse :=
  match delivery.lost with
  | some error => .error error
  | none => (delivery.service.gdsPut delivery.server request).map (·.response)

def served (surroundings : Surroundings) (delivery : Delivery) : Surroundings :=
  { surroundings with backend := delivery.respond }

variable {delivery : Delivery} {surroundings : Surroundings} {put : PutOnce}
  {response : GdsChunkResponse} {request : GdsChunkRequest}

theorem respond_ok_iff (nonempty : request.chunkSize ≠ 0) :
    delivery.respond request = .ok response ↔
      delivery.lost = none ∧ gdsPutError delivery.server request = none ∧
      Transfers delivery.server request.chunkSize (DataPlaneService.put delivery.server request) ∧
      response = gdsChunkResponse (discard delivery.service.computeCrc32c
        (DataPlaneService.put delivery.server request)) := by
  rw [← DataPlaneService.gdsPut_nonempty_iff nonempty]
  cases lost : delivery.lost with
  | some error => simp [Delivery.respond, lost]
  | none =>
      cases answer : delivery.service.gdsPut delivery.server request with
      | error => simp [Delivery.respond, lost, answer, Except.map]
      | ok result => simp [Delivery.respond, lost, answer, Except.map]

theorem acquireToken_nonempty {manager : GdsMemoryManager} {library : Replies} {ptr : DevicePtr}
    {size offset : UInt64} {token : String}
    (acquired : (manager.acquireToken library ptr size offset).token = some token) : size ≠ 0 := by
  intro empty
  rw [GdsMemoryManager.acquireToken, if_pos (.inr empty)] at acquired
  cases acquired

/-- An attempt that passes every check of `PutOnce`, with `reply` what its
`handlePutObject` returns. -/
structure Accepted (surroundings : Surroundings) (delivery : Delivery) (options : ClientOptions)
    (attempt : PutAttempt) (buffer : ConstBufferView) (reply : PutReply) : Prop where
  arrives : delivery.lost = none
  transfers : Transfers delivery.server buffer.size reply
  granted : ∃ opened token, surroundings.proxy (openSessionRequest attempt) = .ok opened ∧
    echoes attempt opened ∧
    (surroundings.manager.acquireToken surroundings.library buffer.data buffer.size 0).token =
      some token ∧
    gdsPutError delivery.server
      (gdsChunkRequest attempt ⟨opened.ticket⟩ token buffer.size) = none ∧
    DataPlaneService.put delivery.server
      (gdsChunkRequest attempt ⟨opened.ticket⟩ token buffer.size) = reply
  verifies : options.verifyCrc32c = true → ∃ host, surroundings.memory = some host ∧
    crc32c host = (discard delivery.service.computeCrc32c reply).crc32c

theorem succeeds_served_iff : put.Succeeds (served surroundings delivery) response ↔
    ∃ reply, Accepted surroundings delivery put.options put.attempt put.buffer reply ∧
      response = gdsChunkResponse (discard delivery.service.computeCrc32c reply) := by
  constructor
  · rintro ⟨opened, answer, echoed, token, acquired, responded, verifies⟩
    have nonempty := acquireToken_nonempty acquired
    obtain ⟨arrives, checked, transfers, rfl⟩ := (respond_ok_iff nonempty).mp responded
    refine ⟨_, ?_, rfl⟩
    exact ⟨arrives, transfers, ⟨opened, token, answer, echoed, acquired, checked, rfl⟩, verifies⟩
  · rintro ⟨reply, accepted, rfl⟩
    obtain ⟨arrives, transfers, granted, verifies⟩ := accepted
    obtain ⟨opened, token, answer, echoed, acquired, checked, rfl⟩ := granted
    have nonempty := acquireToken_nonempty acquired
    have responded := (respond_ok_iff nonempty).mpr ⟨arrives, checked, transfers, rfl⟩
    exact ⟨opened, answer, echoed, token, acquired, responded, verifies⟩

/-- The inputs of an attempt determine what its `handlePutObject` returns. -/
theorem Accepted.unique {options : ClientOptions} {attempt : PutAttempt} {buffer : ConstBufferView}
    {reply other : PutReply} (accepted : Accepted surroundings delivery options attempt buffer reply)
    (again : Accepted surroundings delivery options attempt buffer other) : reply = other := by
  obtain ⟨opened, token, answer, _, acquired, _, rfl⟩ := accepted.granted
  obtain ⟨opened', token', answer', _, acquired', _, rfl⟩ := again.granted
  rw [answer, Except.ok.injEq] at answer'
  rw [acquired, Option.some.injEq] at acquired'
  rw [answer', acquired']

/-! ## Over a whole `PutObject` -/

/-- A `true` means that the backend received the whole buffer, as the output says. -/
def Whole (buffer : ConstBufferView) (outcome : Bool × Progress) : Prop :=
  outcome.1 = true → outcome.2.out.bytesTransferred = buffer.size ∧
    ∃ put response, outcome.2.attempts.getLast? = some put ∧ put.stage = .returned true ∧
      put.response = some response ∧ response.bytesReceived = buffer.size

structure Upload where
  client : ClientState
  start : Int
  request : PutObjectRequest
  buffer : ConstBufferView
  out : TransferOutcome
  surroundings : Nat → Surroundings
  delivery : Nat → Delivery

namespace Upload

def run (upload : Upload) : Bool × Progress :=
  upload.client.putObject upload.start (fun i => served (upload.surroundings i) (upload.delivery i))
    upload.request upload.buffer upload.out

def Admitted (upload : Upload) : Prop :=
  upload.client.initialized = true ∧ ¬ (upload.client.options.putSingleMaxBytes ≠ 0 ∧
    upload.buffer.size > upload.client.options.putSingleMaxBytes)

def attempt (upload : Upload) (i : Nat) : PutAttempt :=
  makePutAttempt upload.client.options upload.request (upload.surroundings i).requestValue
    (upload.surroundings i).sessionValue

/-- Attempt `i` comes before the deadline and passes every check, with `reply` from
its `handlePutObject`. -/
def Passes (upload : Upload) (i : Nat) (reply : PutReply) : Prop :=
  (upload.surroundings i).now < upload.client.deadline upload.start ∧
    Accepted (upload.surroundings i) (upload.delivery i) upload.client.options (upload.attempt i)
      upload.buffer reply

def FirstIsFull (upload : Upload) : Prop :=
  ∀ i reply, i < 3 → upload.Passes i reply → (∀ j < i, ∀ other, ¬ upload.Passes j other) →
    reply.transferred.toUInt64 = upload.buffer.size

variable {upload : Upload} {i : Nat} {reply : PutReply}

def step (upload : Upload) (i : Nat) (progress : Progress) : Bool × Progress :=
  upload.client.tryOnce upload.start upload.request upload.buffer
    (served (upload.surroundings i) (upload.delivery i)) progress

/-- An attempt fails when it does not pass; otherwise its output and its last
response come from the transfer. -/
theorem step_cases (upload : Upload) (i : Nat) (progress : Progress) :
    ((upload.step i progress).1 = false ∧ ∀ reply, ¬ upload.Passes i reply) ∨
      ∃ after reply, upload.step i progress = (true, ⟨after.out, progress.attempts ++ [after]⟩) ∧
        after.stage = .returned true ∧ upload.Passes i reply ∧
        after.out.bytesTransferred = upload.buffer.size ∧
        after.response = some (gdsChunkResponse
          (discard (upload.delivery i).service.computeCrc32c reply)) := by
  by_cases inTime : (upload.surroundings i).now < upload.client.deadline upload.start
  · let put : PutOnce := .start upload.client.options upload.request upload.buffer progress.out
      (upload.surroundings i).requestValue (upload.surroundings i).sessionValue
    let after := put.finish (served (upload.surroundings i) (upload.delivery i))
    have notLate : ¬ (served (upload.surroundings i) (upload.delivery i)).now ≥
        upload.client.deadline upload.start := not_le.mpr inTime
    have made : upload.step i progress =
        (decide (after.stage = .returned true), ⟨after.out, progress.attempts ++ [after]⟩) := by
      simp only [step, ClientState.tryOnce, if_neg notLate]
      rfl
    have ends : put.Ends (put.Succeeds (served (upload.surroundings i) (upload.delivery i))) after :=
      PutOnce.finish_ends rfl
    cases ends with
    | failed stage none =>
        left
        constructor
        · rw [made, stage]
          rfl
        · rintro reply ⟨_, accepted⟩
          exact none _ (succeeds_served_iff.mpr ⟨reply, accepted, rfl⟩)
    | succeeded response stage answered out holds =>
        right
        obtain ⟨reply, accepted, rfl⟩ := succeeds_served_iff.mp holds
        refine ⟨after, reply, ?_, stage, ⟨inTime, accepted⟩, ?_, answered⟩
        · rw [made, stage]
          rfl
        · rw [out]
          rfl
  · left
    have late : (served (upload.surroundings i) (upload.delivery i)).now ≥
        upload.client.deadline upload.start := not_lt.mp inTime
    constructor
    · simp only [step, ClientState.tryOnce, if_pos late]
    · rintro reply ⟨early, _⟩
      exact inTime early

theorem step_true_iff (i : Nat) (progress : Progress) :
    (upload.step i progress).1 = true ↔ ∃ reply, upload.Passes i reply := by
  rcases upload.step_cases i progress with ⟨failed, none⟩ | ⟨after, reply, result, _, passes, _⟩
  · rw [failed]
    refine ⟨fun success => ?_, fun ⟨reply, passes⟩ => absurd passes (none reply)⟩
    cases success
  · rw [result]
    exact ⟨fun _ => ⟨reply, passes⟩, fun _ => rfl⟩

theorem run_admitted (admitted : upload.Admitted) :
    upload.run = retryIfRetryable {} upload.step ⟨upload.out, []⟩ := by
  obtain ⟨initialized, fits⟩ := admitted
  simp only [run, ClientState.putObject, initialized, Bool.not_true, Bool.false_eq_true, if_false,
    if_neg fits]
  rfl

theorem run_rejected (rejected : ¬ upload.Admitted) : upload.run.1 = false := by
  by_cases initialized : upload.client.initialized = true
  · have large : upload.client.options.putSingleMaxBytes ≠ 0 ∧
        upload.buffer.size > upload.client.options.putSingleMaxBytes := by
      by_contra fits
      exact rejected ⟨initialized, fits⟩
    simp only [run, ClientState.putObject, initialized, Bool.not_true, Bool.false_eq_true, if_false,
      if_pos large]
  · simp only [run, ClientState.putObject, Bool.not_eq_true] at initialized ⊢
    simp only [initialized, Bool.not_false, if_true]

theorem run_first (admitted : upload.Admitted) (within : i < 3) (passes : upload.Passes i reply)
    (earlier : ∀ j < i, ∀ other, ¬ upload.Passes j other) :
    ∃ progress, upload.run = upload.step i progress := by
  rw [run_admitted admitted]
  exact retryIfRetryable_first step_true_iff within ⟨reply, passes⟩
    fun j before ⟨other, passes'⟩ => earlier j before other passes'

/-- `PutObject` reports a whole buffer truthfully exactly when the first attempt that
passes its checks was not a short transfer. -/
theorem whole_buffer_iff (upload : Upload) :
    Whole upload.buffer upload.run ↔ (upload.Admitted → upload.FirstIsFull) := by
  constructor
  · intro whole admitted i reply within passes earlier
    obtain ⟨progress, result⟩ := run_first admitted within passes earlier
    rcases upload.step_cases i progress with
      ⟨_, none⟩ | ⟨after, found, made, stage, passed, _, answered⟩
    · exact absurd passes (none reply)
    · rw [Whole, result, made] at whole
      obtain ⟨_, put, response, last, _, received, bytes⟩ := whole rfl
      rw [List.getLast?_concat, Option.some.injEq] at last
      rw [← last, answered, Option.some.injEq] at received
      rw [← received] at bytes
      rw [passes.2.unique passed.2]
      exact bytes
  · intro full success
    have admitted : upload.Admitted := by
      by_contra rejected
      rw [run_rejected rejected] at success
      cases success
    have found := success
    rw [run_admitted admitted] at found
    obtain ⟨i, within, ⟨reply, passes⟩, earlier⟩ :=
      retryIfRetryable_true (by decide) step_true_iff found
    have before : ∀ j < i, ∀ other, ¬ upload.Passes j other :=
      fun j less other passes' => earlier j less ⟨other, passes'⟩
    obtain ⟨progress, result⟩ := run_first admitted within passes before
    rcases upload.step_cases i progress with
      ⟨_, none⟩ | ⟨after, moved, made, stage, passed, reported, answered⟩
    · exact absurd passes (none reply)
    · rw [result, made]
      refine ⟨reported, after, _, List.getLast?_concat, stage, answered, ?_⟩
      exact full admitted i moved within passed before

end Upload

/-! ## A short transfer that nobody notices -/

/-- A PUT of four bytes without verification, of which the backend receives three. -/
def shortUpload : Upload where
  client := { initialized := true }
  start := 0
  request := { bucket := "bucket", key := "object", expectedSize := some 4 }
  buffer := { data := 4096, size := 4 }
  out := {}
  surroundings _ := {
    now := 0
    requestValue := 1
    sessionValue := 2
    proxy := fun request => .ok {
      requestId := request.requestId
      sessionId := request.sessionId
      ticket := "ticket"
      gatewayId := "proxy-0"
      dataEndpoint := "127.0.0.1:9200"
      expireAt := "" }
    manager := {}
    library := ⟨true, true, some "1000:42"⟩
    backend := fun _ => .error ⟨0, ""⟩
    memory := none
    abort := .ok ⟨false⟩ }
  delivery _ := {
    server := {
      available := true
      lease := true
      channel := true
      handlePutObject := fun _ => { transferred := 3, memory := [1, 2, 3], status := "" } } }

theorem short_put_reported_whole : ¬ ∀ upload : Upload, Whole upload.buffer upload.run := by
  intro always
  obtain ⟨_, put, response, last, _, answered, bytes⟩ := always shortUpload (by decide)
  have three : (shortUpload.run.2.attempts.getLast?.bind PutOnce.response).map (·.bytesReceived) =
      some 3 := by decide
  rw [last, Option.bind_some, answered, Option.map_some, bytes] at three
  exact absurd three (by decide)

end Us3Turbo.Cluster
