import Mathlib.Algebra.CharP.Two
import Mathlib.Algebra.Field.ZMod
import Mathlib.Algebra.Polynomial.Div

/-! # Bit strings as polynomials over the two-element field

The first bit of a string is the coefficient of the highest power.
-/

namespace Us3Turbo.Data

open Polynomial

noncomputable def ofBits : List Bool → (ZMod 2)[X]
  | [] => 0
  | bit :: rest => (if bit then X ^ rest.length else 0) + ofBits rest

variable {bits left right : List Bool}

theorem ofBits_append : ofBits (left ++ right) = ofBits left * X ^ right.length + ofBits right := by
  induction left with
  | nil => simp [ofBits]
  | cons bit rest ih =>
      rw [List.cons_append, ofBits, ofBits, ih, List.length_append, add_mul, add_assoc]
      cases bit with
      | true => simp only [if_true, pow_add]
      | false => simp

@[simp] theorem ofBits_replicate_false (count : Nat) : ofBits (List.replicate count false) = 0 := by
  induction count with
  | zero => rfl
  | succ count ih => simp [List.replicate_succ, ofBits, ih]

theorem ofBits_padded (count : Nat) :
    ofBits (bits ++ List.replicate count false) = ofBits bits * X ^ count := by
  rw [ofBits_append, ofBits_replicate_false, List.length_replicate, add_zero]

theorem ofBits_led (count : Nat) : ofBits (List.replicate count false ++ bits) = ofBits bits := by
  rw [ofBits_append, ofBits_replicate_false, zero_mul, zero_add]

theorem ofBits_xor (same : left.length = right.length) :
    ofBits (List.zipWith xor left right) = ofBits left + ofBits right := by
  induction left generalizing right with
  | nil =>
      cases right with
      | nil => simp [ofBits]
      | cons bit rest => cases same
  | cons bit rest ih =>
      cases right with
      | nil => cases same
      | cons other others =>
          have lengths : rest.length = others.length := by simpa using same
          have span : (List.zipWith xor rest others).length = others.length := by simp [lengths]
          rw [List.zipWith_cons_cons, ofBits, ofBits, ofBits, ih lengths, span, lengths]
          have head : (if xor bit other then (X : (ZMod 2)[X]) ^ others.length else 0) =
              (if bit then X ^ others.length else 0) + if other then X ^ others.length else 0 := by
            cases bit with
            | false => cases other <;> simp
            | true =>
                cases other with
                | false => simp
                | true => simp [CharTwo.add_self_eq_zero]
          rw [head]
          ring

theorem degree_ofBits_lt : (ofBits bits).degree < bits.length := by
  induction bits with
  | nil => simp [ofBits]
  | cons bit rest ih =>
      have grown : (rest.length : WithBot Nat) < (rest.length + 1 : Nat) := by
        exact_mod_cast Nat.lt_succ_self _
      rw [ofBits, List.length_cons]
      refine lt_of_le_of_lt (degree_add_le _ _) (max_lt ?_ (ih.trans grown))
      cases bit with
      | true => simpa only [if_true, degree_X_pow] using grown
      | false => simp

theorem coeff_ofBits (power : Nat) :
    (ofBits bits).coeff power = if bits.reverse[power]? = some true then 1 else 0 := by
  induction bits with
  | nil => simp [ofBits]
  | cons bit rest ih =>
      rw [ofBits, coeff_add, ih, List.reverse_cons]
      obtain below | here | above := lt_trichotomy power rest.length
      · rw [List.getElem?_append_left (by simpa using below)]
        cases bit with
        | true => simp [coeff_X_pow, below.ne]
        | false => simp
      · subst here
        rw [List.getElem?_append_right (by simp), List.getElem?_eq_none (by simp)]
        cases bit with
        | true => simp
        | false => simp
      · rw [List.getElem?_eq_none (l := rest.reverse) (by simp; omega),
          List.getElem?_eq_none (l := rest.reverse ++ [bit]) (by simp; omega)]
        cases bit with
        | true => simp [coeff_X_pow, above.ne']
        | false => simp

/-- At 1, only the parity of the number of set bits is left. -/
theorem eval_one_ofBits : (ofBits bits).eval 1 = (bits.count true : ZMod 2) := by
  induction bits with
  | nil => simp [ofBits]
  | cons bit rest ih =>
      rw [ofBits, eval_add, ih]
      cases bit with
      | true => simp [add_comm]
      | false => simp

theorem ofBits_ne_zero (set : true ∈ bits) : ofBits bits ≠ 0 := by
  induction bits with
  | nil => cases set
  | cons bit rest ih =>
      cases bit with
      | false =>
          have later : true ∈ rest := by simpa using set
          simpa [ofBits] using ih later
      | true =>
          intro zero
          have lead : (X ^ rest.length : (ZMod 2)[X]) = -ofBits rest := by
            rw [ofBits, if_pos rfl] at zero
            exact eq_neg_of_add_eq_zero_left zero
          have degrees := congrArg degree lead
          rw [degree_X_pow, degree_neg] at degrees
          exact absurd degrees degree_ofBits_lt.ne'

/-! ## Bits of machine words, least significant first -/

def wordBit (word : UInt32) (i : Nat) : Bool := word.toBitVec.getLsbD i

def byteBit (byte : UInt8) (i : Nat) : Bool := byte.toBitVec.getLsbD i

def wordBits (word : UInt32) : List Bool := (List.range 32).map (wordBit word)

def byteBits (byte : UInt8) : List Bool := (List.range 8).map (byteBit byte)

/-- The bits of a word from `first` on, `count` of them. -/
def bitsFrom (word : UInt32) (first count : Nat) : List Bool :=
  (List.range count).map fun i => wordBit word (first + i)

@[simp] theorem length_wordBits (word : UInt32) : (wordBits word).length = 32 := by
  simp [wordBits]

@[simp] theorem length_byteBits (byte : UInt8) : (byteBits byte).length = 8 := by
  simp [byteBits]

@[simp] theorem length_bitsFrom (word : UInt32) (first count : Nat) :
    (bitsFrom word first count).length = count := by
  simp [bitsFrom]

theorem wordBits_xor (left right : UInt32) :
    wordBits (left ^^^ right) = List.zipWith xor (wordBits left) (wordBits right) := by
  simp [wordBits, wordBit, List.zipWith_map, List.zipWith_self]

theorem wordBits_split (word : UInt32) {first count : Nat} (whole : first + count = 32) :
    wordBits word = bitsFrom word 0 first ++ bitsFrom word first count := by
  rw [wordBits, ← whole, List.range_add, List.map_append, List.map_map]
  simp only [bitsFrom, Nat.zero_add]
  rfl

/-- A word whose bits are off from `kept` on. -/
theorem wordBits_padded {word : UInt32} {bits : List Bool} {kept count : Nat}
    (whole : kept + count = 32) (low : (List.range kept).map (wordBit word) = bits)
    (off : ∀ i, kept ≤ i → wordBit word i = false) :
    wordBits word = bits ++ List.replicate count false := by
  rw [wordBits, ← whole, List.range_add, List.map_append, List.map_map, low]
  congr 1
  apply List.eq_replicate_iff.mpr
  refine ⟨by simp, ?_⟩
  intro bit member
  obtain ⟨i, _, rfl⟩ := List.mem_map.mp member
  exact off _ (Nat.le_add_right _ _)

theorem wordBit_toUInt32 (byte : UInt8) (i : Nat) : wordBit byte.toUInt32 i = byteBit byte i := by
  simp only [wordBit, byteBit, UInt8.toBitVec_toUInt32, BitVec.getLsbD_setWidth,
    Bool.and_eq_right_iff_imp, decide_eq_true_eq]
  intro set
  have inside := BitVec.lt_of_getLsbD set
  omega

theorem bitsFrom_mixed (word : UInt32) (byte : UInt8) :
    bitsFrom (word ^^^ byte.toUInt32) 0 8 = List.zipWith xor (bitsFrom word 0 8) (byteBits byte) := by
  have mixed : ∀ i, wordBit (word ^^^ byte.toUInt32) i = xor (wordBit word i) (byteBit byte i) := by
    intro i
    rw [← wordBit_toUInt32]
    simp [wordBit]
  simp [bitsFrom, byteBits, mixed, List.zipWith_map, List.zipWith_self]

theorem wordBit_mask (i : Nat) : wordBit 0xFF i = decide (i < 8) := by
  by_cases inside : i < 32
  · revert i
    decide
  · rw [wordBit, BitVec.getLsbD_of_ge _ _ (by omega)]
    exact (decide_eq_false (by omega)).symm

theorem wordBit_and (left right : UInt32) (i : Nat) :
    wordBit (left &&& right) i = (wordBit left i && wordBit right i) := by
  simp [wordBit]

theorem wordBits_low (word : UInt32) :
    wordBits (word &&& 0xFF) = bitsFrom word 0 8 ++ List.replicate 24 false := by
  refine wordBits_padded rfl ?_ ?_
  · apply List.map_congr_left
    intro i member
    have low : i < 8 := List.mem_range.mp member
    rw [wordBit_and, wordBit_mask, decide_eq_true low, Bool.and_true, Nat.zero_add]
  · intro i high
    rw [wordBit_and, wordBit_mask, decide_eq_false (by omega), Bool.and_false]

theorem wordBits_shiftRight {word : UInt32} {first count : Nat} (whole : first + count = 32)
    {shifted : UInt32} (moved : ∀ i, wordBit shifted i = wordBit word (first + i)) :
    wordBits shifted = bitsFrom word first count ++ List.replicate first false := by
  refine wordBits_padded (by omega) (List.map_congr_left fun i _ => moved i) ?_
  intro i high
  rw [moved, wordBit, BitVec.getLsbD_of_ge _ _ (by omega)]

theorem wordBits_shiftRight_one (word : UInt32) :
    wordBits (word >>> 1) = bitsFrom word 1 31 ++ [false] :=
  wordBits_shiftRight rfl fun i => by simp [wordBit]

theorem wordBits_shiftRight_eight (word : UInt32) :
    wordBits (word >>> 8) = bitsFrom word 8 24 ++ List.replicate 8 false :=
  wordBits_shiftRight rfl fun i => by simp [wordBit]

end Us3Turbo.Data
