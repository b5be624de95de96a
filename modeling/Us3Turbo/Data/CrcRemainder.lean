import Us3Turbo.Data.BitPolynomial
import Us3Turbo.Data.Crc
import Mathlib.RingTheory.AdjoinRoot

/-! # A reflected CRC is a polynomial remainder

A register stands for the polynomial whose highest power is its lowest bit.
Shifting multiplies by `X` modulo the generator, and one table step is eight
shifts of the register with the octet mixed in.
-/

namespace Us3Turbo.Data.Crc

open Polynomial

variable {poly state word : UInt32} {data : List UInt8}

noncomputable def reflected (word : UInt32) : (ZMod 2)[X] := ofBits (wordBits word)

noncomputable def generator (poly : UInt32) : (ZMod 2)[X] := X ^ 32 + reflected poly

/-- The bits of a message octet by octet, lowest bit first. -/
def messageBits (data : List UInt8) : List Bool := data.flatMap byteBits

theorem length_messageBits : (messageBits data).length = 8 * data.length := by
  induction data with
  | nil => rfl
  | cons byte rest ih =>
      simp only [messageBits, List.flatMap_cons, List.length_append, length_byteBits,
        List.length_cons] at ih ⊢
      omega

theorem reflected_xor (left right : UInt32) :
    reflected (left ^^^ right) = reflected left + reflected right := by
  rw [reflected, wordBits_xor, ofBits_xor (by simp)]
  rfl

theorem degree_reflected_lt (word : UInt32) : (reflected word).degree < 32 := by
  have bound : (reflected word).degree < (wordBits word).length := degree_ofBits_lt
  rwa [length_wordBits] at bound

theorem degree_reflected_lt_X (word : UInt32) :
    (reflected word).degree < (X ^ 32 : (ZMod 2)[X]).degree := by
  rw [degree_X_pow]
  exact degree_reflected_lt word

theorem degree_generator (poly : UInt32) : (generator poly).degree = 32 := by
  rw [generator, degree_add_eq_left_of_degree_lt (degree_reflected_lt_X poly), degree_X_pow]
  rfl

theorem monic_generator (poly : UInt32) : (generator poly).Monic :=
  monic_X_pow_add (degree_reflected_lt poly)

/-! ## Shifts and table steps modulo the generator -/

noncomputable abbrev residue (poly : UInt32) : (ZMod 2)[X] →+* AdjoinRoot (generator poly) :=
  AdjoinRoot.mk (generator poly)

theorem residue_generator : residue poly (generator poly) = 0 := AdjoinRoot.mk_self

theorem reflected_shiftRight_one (word : UInt32) : X * reflected word =
    reflected (word >>> 1) + if wordBit word 0 then X ^ 32 else 0 := by
  have first : bitsFrom word 0 1 = [wordBit word 0] := rfl
  rw [reflected, reflected, wordBits_shiftRight_one, wordBits_split word (show 1 + 31 = 32 from rfl),
    first, ofBits_append, show [false] = List.replicate 1 false from rfl, ofBits_padded,
    length_bitsFrom]
  cases wordBit word 0 with
  | true =>
      simp only [ofBits, if_true, List.length_nil]
      ring
  | false =>
      simp only [ofBits, Bool.false_eq_true, if_false]
      ring

theorem low_bit_iff (word : UInt32) : word &&& 1 ≠ 0 ↔ wordBit word 0 = true := by
  have single := BitVec.and_one_eq_setWidth_ofBool_getLsbD (x := word.toBitVec)
  rw [ne_eq, ← UInt32.toBitVec_inj, UInt32.toBitVec_and, wordBit]
  change ¬ word.toBitVec &&& 1#32 = 0#32 ↔ _
  rw [single]
  cases word.toBitVec.getLsbD 0 with
  | true => decide
  | false => decide

theorem shift_eq (poly word : UInt32) : shift poly word =
    if wordBit word 0 then (word >>> 1) ^^^ poly else word >>> 1 := by
  simp only [shift, low_bit_iff]

theorem residue_X_pow : residue poly (X ^ 32) = residue poly (reflected poly) := by
  have split : (X ^ 32 : (ZMod 2)[X]) = generator poly + reflected poly := by
    rw [generator, add_assoc, CharTwo.add_self_eq_zero, add_zero]
  rw [split, map_add, residue_generator, zero_add]

theorem residue_shift (word : UInt32) :
    residue poly (reflected (shift poly word)) = residue poly (X * reflected word) := by
  rw [reflected_shiftRight_one, shift_eq]
  cases wordBit word 0 with
  | true => rw [if_pos rfl, if_pos rfl, reflected_xor, map_add, map_add, residue_X_pow]
  | false => rw [if_neg Bool.false_ne_true, if_neg Bool.false_ne_true, add_zero]

theorem residue_shifts (count : Nat) (word : UInt32) :
    residue poly (reflected ((shift poly)^[count] word)) =
      residue poly (X ^ count * reflected word) := by
  induction count generalizing word with
  | zero => rw [Function.iterate_zero, id_eq, pow_zero, one_mul]
  | succ count ih =>
      rw [Function.iterate_succ_apply, ih, map_mul, residue_shift, ← map_mul]
      exact congrArg (residue poly) (by ring)

theorem reflected_shiftRight_eight (word : UInt32) : X ^ 8 * reflected word =
    reflected (word >>> 8) + X ^ 32 * ofBits (bitsFrom word 0 8) := by
  rw [reflected, reflected, wordBits_shiftRight_eight,
    wordBits_split word (show 8 + 24 = 32 from rfl), ofBits_append, ofBits_padded, length_bitsFrom]
  ring

theorem reflected_low (word : UInt32) :
    reflected (word &&& 0xFF) = X ^ 24 * ofBits (bitsFrom word 0 8) := by
  rw [reflected, wordBits_low, ofBits_padded]
  ring

theorem tableIndex (word : UInt32) :
    UInt32.ofNat (Fin.ofNat 256 (word &&& 0xFF).toNat) = word &&& 0xFF := by
  have small : (word &&& 0xFF).toNat < 256 := by
    rw [UInt32.toNat_and]
    exact Nat.lt_succ_of_le Nat.and_le_right
  rw [Fin.val_ofNat, Nat.mod_eq_of_lt small, UInt32.ofNat_toNat]

/-- One step of the table multiplies the register by `X ^ 8` and takes the octet in. -/
theorem residue_step (state : UInt32) (byte : UInt8) :
    residue poly (reflected ((state >>> 8) ^^^ makeTable poly
        (Fin.ofNat 256 ((state ^^^ byte.toUInt32) &&& 0xFF).toNat))) =
      residue poly (X ^ 8 * reflected state + X ^ 32 * ofBits (byteBits byte)) := by
  have mixed : ofBits (bitsFrom (state ^^^ byte.toUInt32) 0 8) =
      ofBits (bitsFrom state 0 8) + ofBits (byteBits byte) := by
    rw [bitsFrom_mixed, ofBits_xor (by simp)]
  rw [reflected_xor, map_add, makeTable, tableIndex, residue_shifts, reflected_low, mixed, ← map_add]
  rw [reflected_shiftRight_eight]
  exact congrArg (residue poly) (by ring)

theorem residue_update (poly state : UInt32) (data : List UInt8) :
    residue poly (reflected (update (makeTable poly) state data)) =
      residue poly (X ^ (8 * data.length) * reflected state + X ^ 32 * ofBits (messageBits data)) := by
  induction data generalizing state with
  | nil => simp [update, messageBits, ofBits]
  | cons byte rest ih =>
      have bits : messageBits (byte :: rest) = byteBits byte ++ messageBits rest := rfl
      have lengths : 8 * (byte :: rest).length = 8 * rest.length + 8 := rfl
      have first : update (makeTable poly) state (byte :: rest) = update (makeTable poly)
          ((state >>> 8) ^^^ makeTable poly
            (Fin.ofNat 256 ((state ^^^ byte.toUInt32) &&& 0xFF).toNat)) rest := rfl
      rw [first, ih, map_add, map_mul, residue_step, ← map_mul, ← map_add, bits, ofBits_append,
        length_messageBits, lengths]
      exact congrArg (residue poly) (by ring)

/-- The register after a message is the remainder of the message, moved up by 32
places, with the starting register on top of it. -/
theorem reflected_update (poly state : UInt32) (data : List UInt8) :
    reflected (update (makeTable poly) state data) =
      (ofBits (messageBits data) * X ^ 32 + reflected state * X ^ (8 * data.length)) %ₘ
        generator poly := by
  have divides : generator poly ∣ (ofBits (messageBits data) * X ^ 32 +
      reflected state * X ^ (8 * data.length)) - reflected (update (makeTable poly) state data) := by
    apply AdjoinRoot.mk_eq_mk.mp
    change residue poly _ = residue poly _
    rw [residue_update]
    exact congrArg (residue poly) (by ring)
  have small : (reflected (update (makeTable poly) state data)).degree < (generator poly).degree := by
    rw [degree_generator]
    exact degree_reflected_lt _
  rw [(modByMonic_eq_of_dvd_sub (monic_generator poly) divides),
    (modByMonic_eq_self_iff (monic_generator poly)).mpr small]

/-! ## Back from polynomials to registers -/

/-- The 32 lowest coefficients, that of `X ^ i` as bit `i`. -/
noncomputable def lowWord (polynomial : (ZMod 2)[X]) : UInt32 :=
  ⟨(BitVec.ofBoolListLE ((List.range 32).map fun i => decide (polynomial.coeff i = 1))).cast (by simp)⟩

def bitReverse (word : UInt32) : UInt32 := ⟨word.toBitVec.reverse⟩

theorem coeff_reflected {i : Nat} (inside : i < 32) :
    (reflected word).coeff (31 - i) = if wordBit word i then 1 else 0 := by
  have index : (wordBits word).reverse[31 - i]? = some (wordBit word i) := by
    rw [List.getElem?_reverse (by simp; omega), length_wordBits, show 32 - 1 - (31 - i) = i by omega]
    simp [wordBits, inside]
  rw [reflected, coeff_ofBits, index]
  simp only [Option.some.injEq]

theorem wordBit_lowWord {polynomial : (ZMod 2)[X]} {i : Nat} (inside : i < 32) :
    wordBit (lowWord polynomial) i = decide (polynomial.coeff i = 1) := by
  simp only [wordBit, lowWord]
  rw [BitVec.getLsbD_cast, BitVec.getLsbD_ofBoolListLE, List.getD_eq_getElem?_getD]
  simp [inside]

theorem bitReverse_lowWord_reflected (word : UInt32) : bitReverse (lowWord (reflected word)) = word := by
  apply UInt32.toBitVec_inj.mp
  apply BitVec.eq_of_getLsbD_eq
  intro i inside
  have mirrored : (bitReverse (lowWord (reflected word))).toBitVec.getLsbD i =
      wordBit (lowWord (reflected word)) (31 - i) := by
    rw [bitReverse, BitVec.getLsbD_reverse, BitVec.getMsbD_eq_getLsbD, decide_eq_true inside,
      Bool.true_and]
    rfl
  rw [mirrored, wordBit_lowWord (by omega), coeff_reflected inside]
  change _ = wordBit word i
  cases wordBit word i with
  | true => simp
  | false => simp

/-- A word with bit `i` as the coefficient of `X ^ i`. -/
noncomputable def natural (word : UInt32) : (ZMod 2)[X] :=
  ∑ i ∈ Finset.range 32, if wordBit word i then X ^ i else 0

theorem reflected_mirror {mirrored : UInt32} (mirror : wordBits word = (wordBits mirrored).reverse) :
    reflected word = natural mirrored := by
  ext power
  rw [reflected, mirror, coeff_ofBits, List.reverse_reverse, natural, finsetSum_coeff]
  by_cases inside : power < 32
  · have index : (wordBits mirrored)[power]? = some (wordBit mirrored power) := by
      simp [wordBits, inside]
    rw [index, Finset.sum_eq_single_of_mem power (Finset.mem_range.mpr inside)]
    · cases wordBit mirrored power with
      | true => simp
      | false => simp
    · intro other _ different
      cases wordBit mirrored other with
      | true => simp [coeff_X_pow, different.symm]
      | false => simp
  · rw [List.getElem?_eq_none (by simp; omega), Finset.sum_eq_zero]
    · simp
    · intro other member
      have bound : other < 32 := Finset.mem_range.mp member
      have different : power ≠ other := by omega
      cases wordBit mirrored other with
      | true => simp [coeff_X_pow, different]
      | false => simp

theorem update_eq_remainder (poly state : UInt32) (data : List UInt8) :
    update (makeTable poly) state data = bitReverse (lowWord
      ((ofBits (messageBits data) * X ^ 32 + reflected state * X ^ (8 * data.length)) %ₘ
        generator poly)) := by
  rw [← reflected_update, bitReverse_lowWord_reflected]

/-- Feeding a message in pieces is feeding it at once. -/
theorem update_pieces (table : Fin 256 → UInt32) (state : UInt32) (pieces : List (List UInt8)) :
    pieces.foldl (update table) state = update table state pieces.flatten := by
  induction pieces generalizing state with
  | nil => rfl
  | cons piece rest ih =>
      rw [List.foldl_cons, ih, List.flatten_cons, update, update, update, List.foldl_append]

end Us3Turbo.Data.Crc
