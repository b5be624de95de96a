import Us3Turbo.Client.PutOnce
import Us3Turbo.Backend.Crc32c
import Us3Turbo.Data.CrcDetection

/-! # The two CRC-32C implementations

Client and backend each have a copy of the table-driven CRC.  Both compute the
Castagnoli remainder, and a corruption on the way that is a short burst or flips
an odd number of bits makes them disagree.
-/

namespace Us3Turbo.Cluster

open Polynomial Us3Turbo.Data Us3Turbo.Data.Crc Us3Turbo.Client

/-- The Castagnoli CRC by polynomial division: the message moved up by 32 places, 32 ones
added to its first 32 bits, modulo `X ^ 32 + 0x1EDC6F41`, then reflected and inverted. -/
noncomputable def castagnoli (data : List UInt8) : UInt32 :=
  bitReverse (lowWord ((ofBits (messageBits data) * X ^ 32 +
    (∑ i ∈ Finset.range 32, X ^ i) * X ^ (8 * data.length)) %ₘ (X ^ 32 + natural 0x1EDC6F41))) ^^^
    0xFFFFFFFF

theorem generator_kPoly : generator Client.kPoly = X ^ 32 + natural 0x1EDC6F41 := by
  rw [generator, reflected_mirror (show wordBits Client.kPoly = (wordBits 0x1EDC6F41).reverse by decide)]

theorem reflected_init : reflected Client.crc32cInit = ∑ i ∈ Finset.range 32, X ^ i := by
  rw [reflected_mirror (show wordBits Client.crc32cInit = (wordBits 0xFFFFFFFF).reverse by decide),
    natural]
  apply Finset.sum_congr rfl
  intro i member
  have set : wordBit 0xFFFFFFFF i = true := by
    have inside : i < 32 := Finset.mem_range.mp member
    clear member
    revert i
    decide
  rw [if_pos set]

theorem crc32c_eq_castagnoli (data : List UInt8) : Client.crc32c data = castagnoli data := by
  rw [Client.crc32c, Client.crc32cFinalize, Client.crc32cUpdate, Client.kTable, update_eq_remainder,
    generator_kPoly, reflected_init]
  rfl

theorem backend_crc32c (data : List UInt8) : Backend.crc32c data = Client.crc32c data := rfl

/-- Fed in any pieces, both implementations give the Castagnoli CRC of the whole. -/
theorem crc32c_pieces (pieces : List (List UInt8)) :
    Client.crc32cFinalize (pieces.foldl Client.crc32cUpdate Client.crc32cInit) =
        Client.crc32c pieces.flatten ∧
      Backend.crc32cFinalize (pieces.foldl Backend.crc32cUpdate Backend.crc32cInit) =
        Backend.crc32c pieces.flatten ∧
      Client.crc32c pieces.flatten = castagnoli pieces.flatten ∧
      Backend.crc32c pieces.flatten = castagnoli pieces.flatten := by
  refine ⟨?_, ?_, crc32c_eq_castagnoli _, ?_⟩
  · exact congrArg Client.crc32cFinalize (update_pieces Client.kTable _ pieces)
  · exact congrArg Backend.crc32cFinalize (update_pieces Backend.kTable _ pieces)
  · rw [backend_crc32c, crc32c_eq_castagnoli]

/-! ## Corruption -/

theorem crc32c_eq_iff {left right : List UInt8} : Client.crc32c left = Backend.crc32c right ↔
    update (makeTable Client.kPoly) Client.crc32cInit left =
      update (makeTable Client.kPoly) Client.crc32cInit right :=
  UInt32.xor_left_inj _

/-- A difference within 32 consecutive bits, or in an odd number of bits, is seen by
both CRCs and fails the comparison of `PutOnce`. -/
theorem corruption_detected {sent received : List UInt8} (same : sent.length = received.length)
    (corrupted : BurstApart sent received ∨ Odd (differing sent received).card) :
    Client.crc32c sent ≠ Backend.crc32c received ∧
      ∀ put : PutOnce, put.stage = .copying → put.result.crc32c = Backend.crc32c received →
        (put.resume (.copied (some sent))).stage = .aborting := by
  have differ : Client.crc32c sent ≠ Backend.crc32c received := by
    rw [ne_eq, crc32c_eq_iff]
    obtain burst | flips := corrupted
    · exact update_ne_of_burst (by decide) same burst
    · exact update_ne_of_odd (by decide) (by decide) same flips
  refine ⟨differ, ?_⟩
  intro put copying answered
  have mismatch : Client.crc32c sent ≠ put.result.crc32c := by rwa [answered]
  simp only [PutOnce.resume, copying, PutOnce.onCopied, if_neg mismatch]

theorem flipped_bit_detected : Client.crc32c [1, 2, 3] ≠ Backend.crc32c [1, 2, 7] ∧
    ∀ put : PutOnce, put.stage = .copying → put.result.crc32c = Backend.crc32c [1, 2, 7] →
      (put.resume (.copied (some [1, 2, 3]))).stage = .aborting :=
  corruption_detected rfl (.inr (by decide))

end Us3Turbo.Cluster
