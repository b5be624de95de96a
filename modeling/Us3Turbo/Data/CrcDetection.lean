import Us3Turbo.Data.CrcRemainder
import Mathlib.Algebra.Polynomial.Eval.Degree
import Mathlib.Data.Nat.Count

/-! # Corruption that a CRC cannot miss

Two messages of one length get the same register exactly when the generator
divides their difference.  It divides no difference that fits into 32 consecutive
bits, and, having an even number of terms, none of an odd number of bits.
-/

namespace Us3Turbo.Data.Crc

open Polynomial

variable {poly state : UInt32} {left right : List UInt8} {bits window : List Bool}

def bitAt (data : List UInt8) (position : Nat) : Bool :=
  byteBit (data.getD (position / 8) 0) (position % 8)

/-- The bit positions, bit `j` of octet `i` being `8 * i + j`, at which two messages differ. -/
def differing (left right : List UInt8) : Finset Nat :=
  (Finset.range (8 * left.length)).filter fun position => bitAt left position ≠ bitAt right position

def difference (left right : List UInt8) : List Bool :=
  List.zipWith xor (messageBits left) (messageBits right)

theorem getElem?_messageBits {data : List UInt8} {position : Nat} (inside : position < 8 * data.length) :
    (messageBits data)[position]? = some (bitAt data position) := by
  induction data generalizing position with
  | nil => simp at inside
  | cons byte rest ih =>
      have bits : messageBits (byte :: rest) = byteBits byte ++ messageBits rest := rfl
      rw [List.length_cons] at inside
      rw [bits]
      by_cases first : position < 8
      · rw [List.getElem?_append_left (by simpa using first)]
        have start : position / 8 = 0 := by omega
        have whole : position % 8 = position := by omega
        simp [byteBits, first, bitAt, start, whole]
      · rw [List.getElem?_append_right (by simp; omega), length_byteBits, ih (by omega)]
        obtain ⟨later, rfl⟩ : ∃ later, position = later + 8 := ⟨position - 8, by omega⟩
        have octet : (later + 8) / 8 = later / 8 + 1 := by omega
        simp [bitAt, octet]

theorem getElem?_difference (same : left.length = right.length) (position : Nat) :
    (difference left right)[position]? =
      if position < 8 * left.length then some (xor (bitAt left position) (bitAt right position))
      else none := by
  rw [difference, List.getElem?_zipWith]
  by_cases inside : position < 8 * left.length
  · rw [getElem?_messageBits inside, getElem?_messageBits (same ▸ inside), if_pos inside]
  · rw [List.getElem?_eq_none (by rw [length_messageBits]; omega), if_neg inside]

theorem difference_true_iff (same : left.length = right.length) (position : Nat) :
    (difference left right)[position]? = some true ↔ position ∈ differing left right := by
  rw [getElem?_difference same, differing, Finset.mem_filter, Finset.mem_range]
  by_cases inside : position < 8 * left.length
  · simp [inside]
  · simp [inside]

theorem difference_eq_map (same : left.length = right.length) : difference left right =
    (List.range (8 * left.length)).map fun position =>
      xor (bitAt left position) (bitAt right position) := by
  apply List.ext_getElem?
  intro position
  rw [getElem?_difference same]
  split <;> rename_i inside
  · simp [inside]
  · rw [List.getElem?_eq_none (by simpa using inside)]

theorem count_difference (same : left.length = right.length) :
    (difference left right).count true = (differing left right).card := by
  rw [difference_eq_map same, differing, ← Nat.count_eq_card_filter_range, Nat.count, List.count,
    List.countP_map]
  congr 1
  funext position
  simp only [Function.comp_apply, ne_eq, decide_not]
  cases bitAt left position with
  | true => simp
  | false => simp

/-! ## What the generator does not divide -/

/-- A pattern whose set bits lie within 32 consecutive places. -/
def Burst (bits : List Bool) : Prop :=
  ∃ before window after, bits = List.replicate before false ++ window ++ List.replicate after false ∧
    window.length ≤ 32 ∧ true ∈ window

theorem coprime_X_pow (odd : wordBit poly 31 = true) (count : Nat) :
    IsCoprime (generator poly) (X ^ count) := by
  have constant : (generator poly).coeff 0 = 1 := by
    have lowest : (reflected poly).coeff 0 = 1 := by
      rw [show 0 = 31 - 31 from rfl, coeff_reflected (by decide), odd, if_pos rfl]
    rw [generator, coeff_add, lowest]
    simp
  apply IsCoprime.pow_right
  refine ⟨1, -(generator poly).divX, ?_⟩
  have split := divX_mul_X_add (generator poly)
  rw [constant, map_one] at split
  calc 1 * generator poly + -(generator poly).divX * X
      = (generator poly).divX * X + 1 - (generator poly).divX * X := by
        rw [one_mul, neg_mul, ← sub_eq_add_neg]
        rw [split]
    _ = 1 := by ring

theorem not_dvd_burst (odd : wordBit poly 31 = true) (burst : Burst bits) :
    ¬ generator poly ∣ ofBits bits := by
  obtain ⟨before, window, after, rfl, short, set⟩ := burst
  intro divides
  rw [ofBits_padded, ofBits_led] at divides
  have window_divides : generator poly ∣ ofBits window :=
    (coprime_X_pow odd after).dvd_of_dvd_mul_right divides
  have small : (ofBits window).degree < (generator poly).degree := by
    rw [degree_generator]
    exact degree_ofBits_lt.trans_le (by exact_mod_cast short)
  have zero := (modByMonic_eq_zero_iff_dvd (monic_generator poly)).mpr window_divides
  rw [(modByMonic_eq_self_iff (monic_generator poly)).mpr small] at zero
  exact ofBits_ne_zero set zero

theorem not_dvd_odd (even : Odd ((wordBits poly).count true)) (odd : Odd (bits.count true)) :
    ¬ generator poly ∣ ofBits bits := by
  intro divides
  -- the generator has an even number of terms, so it vanishes at 1
  have root : (generator poly).eval 1 = 0 := by
    rw [generator, eval_add, eval_pow, eval_X, one_pow, reflected, eval_one_ofBits,
      ZMod.natCast_eq_one_iff_odd.mpr even]
    rfl
  have zero : (ofBits bits).eval 1 = 0 := eval_eq_zero_of_dvd_of_eval_eq_zero divides root
  rw [eval_one_ofBits, ZMod.natCast_eq_one_iff_odd.mpr odd] at zero
  exact absurd zero (by decide)

/-! ## Corrupted messages -/

theorem reflected_injective : Function.Injective reflected := by
  intro left right equal
  rw [← bitReverse_lowWord_reflected left, ← bitReverse_lowWord_reflected right, equal]

theorem update_eq_iff (odd : wordBit poly 31 = true) (same : left.length = right.length) :
    update (makeTable poly) state left = update (makeTable poly) state right ↔
      generator poly ∣ ofBits (difference left right) := by
  have mixed : (ofBits (messageBits left) * X ^ 32 + reflected state * X ^ (8 * left.length)) -
      (ofBits (messageBits right) * X ^ 32 + reflected state * X ^ (8 * right.length)) =
      ofBits (difference left right) * X ^ 32 := by
    rw [difference, ofBits_xor (by rw [length_messageBits, length_messageBits, same]), same,
      ← CharTwo.sub_eq_add (ofBits (messageBits left))]
    ring
  rw [← reflected_injective.eq_iff, reflected_update, reflected_update, ← sub_eq_zero,
    ← sub_modByMonic, mixed, modByMonic_eq_zero_iff_dvd (monic_generator poly)]
  exact ⟨(coprime_X_pow odd 32).dvd_of_dvd_mul_right, fun divides => Dvd.dvd.mul_right divides _⟩

/-- The messages differ, and only within 32 consecutive bit positions. -/
def BurstApart (left right : List UInt8) : Prop :=
  (differing left right).Nonempty ∧
    ∃ first, ∀ position ∈ differing left right, first ≤ position ∧ position < first + 32

theorem eq_replicate_of_off (off : ∀ i : Nat, bits[i]? ≠ some true) :
    bits = List.replicate bits.length false := by
  apply List.eq_replicate_iff.mpr
  refine ⟨rfl, ?_⟩
  intro bit member
  obtain ⟨i, found⟩ := List.mem_iff_getElem?.mp member
  cases bit with
  | true => exact absurd found (off i)
  | false => rfl

theorem burst_difference (same : left.length = right.length) (apart : BurstApart left right) :
    Burst (difference left right) := by
  obtain ⟨⟨position, member⟩, first, within⟩ := apart
  have set := (difference_true_iff same position).mpr member
  have bounds := within position member
  have before : (difference left right).take first =
      List.replicate ((difference left right).take first).length false := by
    apply eq_replicate_of_off
    intro i found
    rw [List.getElem?_take] at found
    split at found
    · have bounds := within i ((difference_true_iff same i).mp found)
      omega
    · cases found
  have after : (difference left right).drop (first + 32) =
      List.replicate ((difference left right).drop (first + 32)).length false := by
    apply eq_replicate_of_off
    intro i found
    rw [List.getElem?_drop] at found
    have bounds := within _ ((difference_true_iff same _).mp found)
    omega
  refine ⟨((difference left right).take first).length, ((difference left right).drop first).take 32,
    ((difference left right).drop (first + 32)).length, ?_, List.length_take_le _ _, ?_⟩
  · calc difference left right
        = (difference left right).take first ++ (((difference left right).drop first).take 32 ++
            ((difference left right).drop first).drop 32) := by
          rw [List.take_append_drop, List.take_append_drop]
      _ = List.replicate ((difference left right).take first).length false ++
            ((difference left right).drop first).take 32 ++
            List.replicate ((difference left right).drop (first + 32)).length false := by
          rw [← before, ← after, List.drop_drop, List.append_assoc]
  · apply List.mem_of_getElem?
    rw [List.getElem?_take_of_lt (show position - first < 32 by omega), List.getElem?_drop,
      show first + (position - first) = position by omega]
    exact set

theorem update_ne_of_burst (odd : wordBit poly 31 = true) (same : left.length = right.length)
    (apart : BurstApart left right) :
    update (makeTable poly) state left ≠ update (makeTable poly) state right := by
  intro equal
  exact not_dvd_burst odd (burst_difference same apart) ((update_eq_iff odd same).mp equal)

theorem update_ne_of_odd (odd : wordBit poly 31 = true) (even : Odd ((wordBits poly).count true))
    (same : left.length = right.length) (flips : Odd (differing left right).card) :
    update (makeTable poly) state left ≠ update (makeTable poly) state right := by
  intro equal
  rw [← count_difference same] at flips
  exact not_dvd_odd even flips ((update_eq_iff odd same).mp equal)

end Us3Turbo.Data.Crc
