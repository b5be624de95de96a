import Us3Turbo.Cluster.WholeBuffer

/-! # What `verify_crc32c` verifies

`PutOnce` compares the CRC of the buffer with the one in the answer.  The answer
carries 0 when the backend was told not to compute it, and the comparison takes
that 0 for a CRC.
-/

namespace Us3Turbo.Cluster

open Us3Turbo.Proto Us3Turbo.Client
open Us3Turbo.Backend (DataPlaneService Server PutReply Transfers discard gdsPutError)

variable {surroundings : Surroundings} {delivery : Delivery} {put : PutOnce} {reply : PutReply}
  {host : List UInt8}

/-- An attempt whose `OpenSession`, token, `GdsPut` and D2H copy all succeed; the
copy brings `host` and `reply` is what `handlePutObject` returned. -/
structure Compared (surroundings : Surroundings) (delivery : Delivery) (put : PutOnce)
    (reply : PutReply) (host : List UInt8) : Prop where
  arrives : delivery.lost = none
  transfers : Transfers delivery.server put.buffer.size reply
  granted : ∃ opened token, surroundings.proxy (openSessionRequest put.attempt) = .ok opened ∧
    echoes put.attempt opened ∧
    (surroundings.manager.acquireToken surroundings.library put.buffer.data put.buffer.size 0).token =
      some token ∧
    gdsPutError delivery.server
      (gdsChunkRequest put.attempt ⟨opened.ticket⟩ token put.buffer.size) = none ∧
    DataPlaneService.put delivery.server
      (gdsChunkRequest put.attempt ⟨opened.ticket⟩ token put.buffer.size) = reply
  copied : surroundings.memory = some host

/-- The bytes that the transfer brought into the pinned buffer. -/
def received (reply : PutReply) : List UInt8 := reply.memory.take reply.transferred.toUInt64.toNat

theorem returned_true_iff (opening : put.stage = .opening) (verify : put.options.verifyCrc32c = true)
    (compared : Compared surroundings delivery put reply host) :
    (put.finish (served surroundings delivery)).stage = .returned true ↔
      Client.crc32c host = (discard delivery.service.computeCrc32c reply).crc32c := by
  have ends : put.Ends (put.Succeeds (served surroundings delivery))
      (put.finish (served surroundings delivery)) := PutOnce.finish_ends opening
  have accepts : (∃ response, put.Succeeds (served surroundings delivery) response) ↔
      Client.crc32c host = (discard delivery.service.computeCrc32c reply).crc32c := by
    constructor
    · rintro ⟨response, succeeds⟩
      obtain ⟨other, accepted, _⟩ := succeeds_served_iff.mp succeeds
      -- the reply is settled before the verification, so it is the same with it off
      have passed : Accepted surroundings delivery { put.options with verifyCrc32c := false }
          put.attempt put.buffer other :=
        ⟨accepted.arrives, accepted.transfers, accepted.granted, fun off => by cases off⟩
      have same : other = reply := passed.unique ⟨compared.arrives, compared.transfers,
        compared.granted, fun off => by cases off⟩
      obtain ⟨copy, copied, equal⟩ := accepted.verifies verify
      rw [compared.copied, Option.some.injEq] at copied
      rw [copied, equal, same]
    · intro equal
      exact ⟨_, succeeds_served_iff.mpr ⟨reply, ⟨compared.arrives, compared.transfers,
        compared.granted, fun _ => ⟨host, compared.copied, equal⟩⟩, rfl⟩⟩
  rw [← accepts]
  cases ends with
  | failed stage none =>
      rw [stage]
      constructor
      · intro success
        cases success
      · rintro ⟨response, succeeds⟩
        exact absurd succeeds (none response)
  | succeeded response stage _ _ holds => exact ⟨fun _ => ⟨response, holds⟩, fun _ => stage⟩

/-- A verified attempt returns true exactly for intact data when the backend computes
CRCs.  When it does not, the verdict is whether the CRC of the buffer is 0, right only
for intact data of CRC 0 and for damaged data of another. -/
theorem verification_exact_iff (opening : put.stage = .opening)
    (verify : put.options.verifyCrc32c = true)
    (compared : Compared surroundings delivery put reply host) :
    ((put.finish (served surroundings delivery)).stage = .returned true ↔
        Backend.crc32c (received reply) = Client.crc32c host) ↔
      delivery.service.computeCrc32c = true ∨
        (Client.crc32c host = 0 ↔ Backend.crc32c (received reply) = Client.crc32c host) := by
  rw [returned_true_iff opening verify compared]
  cases compute : delivery.service.computeCrc32c with
  | true =>
      have answered : (discard true reply).crc32c = Backend.crc32c (received reply) := rfl
      simp only [answered, true_or, iff_true]
      exact eq_comm
  | false =>
      have answered : (discard false reply).crc32c = 0 := rfl
      simp only [answered, Bool.false_eq_true, false_or]

/-! ## A backend told not to compute CRCs -/

/-- Four bytes that arrive intact. -/
def intactReply : PutReply := { transferred := 4, memory := [1, 2, 3, 4], status := "" }

def intactSurroundings : Surroundings := { shortUpload.surroundings 0 with memory := some [1, 2, 3, 4] }

def intactDelivery (computeCrc32c : Bool) : Delivery where
  service := { computeCrc32c }
  server := {
    available := true
    lease := true
    channel := true
    handlePutObject := fun _ => intactReply }

def verifiedPut : PutOnce :=
  .start { verifyCrc32c := true } shortUpload.request shortUpload.buffer {} 1 2

theorem intact_compared (computeCrc32c : Bool) :
    Compared intactSurroundings (intactDelivery computeCrc32c) verifiedPut intactReply [1, 2, 3, 4] where
  arrives := rfl
  transfers := ⟨by decide, by decide, rfl, rfl, by decide⟩
  granted := ⟨_, "1000:42", rfl, ⟨rfl, rfl⟩, by decide, rfl, rfl⟩
  copied := rfl

theorem intact_data_rejected :
    ¬ ∀ (surroundings : Surroundings) (delivery : Delivery) (put : PutOnce) (reply : PutReply)
        (host : List UInt8), put.stage = .opening → put.options.verifyCrc32c = true →
      Compared surroundings delivery put reply host →
      ((put.finish (served surroundings delivery)).stage = .returned true ↔
        Backend.crc32c (received reply) = Client.crc32c host) := by
  intro always
  have verdict := (returned_true_iff rfl rfl (intact_compared false)).mp
    ((always _ _ _ _ _ rfl rfl (intact_compared false)).mpr (by decide))
  exact absurd verdict (by decide)

theorem intact_data_verified :
    (verifiedPut.finish (served intactSurroundings (intactDelivery true))).stage = .returned true ↔
      Backend.crc32c (received intactReply) = Client.crc32c [1, 2, 3, 4] :=
  (verification_exact_iff rfl rfl (intact_compared true)).mpr (.inl rfl)

end Us3Turbo.Cluster
