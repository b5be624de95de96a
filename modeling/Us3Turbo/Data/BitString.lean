import Mathlib.Algebra.Group.Nat.Defs
import Mathlib.Data.List.Induction
import Mathlib.Data.Nat.Bitwise

/-! # Bit strings, the most significant bit first

A number is written with a fixed count of bits; a string of bits is read as a
number or cut into octets.
-/

namespace Us3Turbo.Data

variable {width more value other : Nat} {bits rest : List Bool} {bytes : List UInt8}

def bitString : Nat → Nat → List Bool
  | 0, _ => []
  | width + 1, value => value.testBit width :: bitString width value

def readBits (bits : List Bool) : Nat :=
  bits.foldl (fun total bit => 2 * total + bit.toNat) 0

/-- The whole octets of a string; what is left at its end is dropped. -/
def octets : List Bool → List UInt8
  | b7 :: b6 :: b5 :: b4 :: b3 :: b2 :: b1 :: b0 :: rest =>
      UInt8.ofNat (readBits [b7, b6, b5, b4, b3, b2, b1, b0]) :: octets rest
  | _ => []

def octetBits (bytes : List UInt8) : List Bool := bytes.flatMap fun byte => bitString 8 byte.toNat

def bigEndian (bytes : List UInt8) : Nat :=
  bytes.foldl (fun total byte => 256 * total + byte.toNat) 0

@[simp] theorem length_bitString : (bitString width value).length = width := by
  induction width with
  | zero => rfl
  | succ width ih => rw [bitString, List.length_cons, ih]

theorem bitString_congr (same : ∀ index < width, value.testBit index = other.testBit index) :
    bitString width value = bitString width other := by
  induction width with
  | zero => rfl
  | succ width ih =>
      rw [bitString, bitString, same width (Nat.lt_succ_self width),
        ih fun index below => same index (Nat.lt_succ_of_lt below)]

theorem bitString_append :
    bitString (width + more) value = bitString width (value >>> more) ++ bitString more value := by
  induction width with
  | zero => rw [Nat.zero_add, bitString, List.nil_append]
  | succ width ih =>
      rw [Nat.succ_add, bitString, bitString, ih, Nat.testBit_shiftRight, Nat.add_comm more width,
        List.cons_append]

theorem bitString_mod : bitString width (value % 2 ^ width) = bitString width value := by
  refine bitString_congr fun index below => ?_
  rw [Nat.testBit_mod_two_pow, decide_eq_true below, Bool.true_and]

theorem bitString_div_append_mod :
    bitString width (value / 2 ^ more) ++ bitString more (value % 2 ^ more) =
      bitString (width + more) value := by
  rw [bitString_mod, ← Nat.shiftRight_eq_div_pow, bitString_append]

theorem bitString_concat {low : Nat} (high : Nat) (below : low < 2 ^ more) :
    bitString (width + more) (high <<< more ||| low) = bitString width high ++ bitString more low := by
  rw [← Nat.shiftLeft_add_eq_or_of_lt below, Nat.shiftLeft_eq, Nat.mul_comm,
    ← bitString_div_append_mod, Nat.mul_add_div (Nat.two_pow_pos more), Nat.div_eq_of_lt below,
    Nat.add_zero, Nat.mul_add_mod, Nat.mod_eq_of_lt below]

theorem bitString_zero : bitString width 0 = List.replicate width false := by
  induction width with
  | zero => rfl
  | succ width ih => rw [bitString, Nat.zero_testBit, ih, List.replicate_succ]

theorem readBits_append :
    readBits (bits ++ rest) = readBits bits * 2 ^ rest.length + readBits rest := by
  induction rest using List.reverseRecOn with
  | nil => simp [readBits]
  | append_singleton rest bit ih =>
      have last (front : List Bool) : readBits (front ++ [bit]) = 2 * readBits front + bit.toNat := by
        rw [readBits, List.foldl_append, List.foldl_cons, List.foldl_nil, readBits]
      rw [← List.append_assoc, last, last, ih, List.length_append, List.length_singleton,
        Nat.pow_succ', Nat.mul_left_comm, Nat.mul_add, Nat.add_assoc]

theorem readBits_bitString : readBits (bitString width value) = value % 2 ^ width := by
  induction width generalizing value with
  | zero => rw [Nat.pow_zero, Nat.mod_one]; rfl
  | succ width ih =>
      have low : readBits (bitString 1 value) = value % 2 := by
        rw [bitString, bitString, Nat.testBit_zero]
        rcases Nat.mod_two_eq_zero_or_one value with even | odd
        · simp [readBits, even]
        · simp [readBits, odd]
      rw [bitString_append, readBits_append, ih, low, length_bitString, Nat.shiftRight_eq_div_pow,
        Nat.pow_one, Nat.pow_succ', Nat.mod_mul]
      omega

/-! ## Octets -/

theorem octets_short (short : bits.length < 8) : octets bits = [] := by
  unfold octets
  split
  · simp only [List.length_cons] at short
    omega
  · rfl

theorem octets_bitString_append (byte : UInt8) :
    octets (bitString 8 byte.toNat ++ rest) = byte :: octets rest := by
  have same : UInt8.ofNat (readBits (bitString 8 byte.toNat)) = byte := by
    rw [readBits_bitString, Nat.mod_eq_of_lt byte.toNat_lt, UInt8.ofNat_toNat]
  simpa only [bitString, List.cons_append, List.nil_append, octets, List.cons.injEq, and_true]
    using same

theorem octets_octetBits_append (short : rest.length < 8) :
    octets (octetBits bytes ++ rest) = bytes := by
  induction bytes with
  | nil => exact octets_short short
  | cons byte bytes ih =>
      rw [octetBits, List.flatMap_cons, List.append_assoc, octets_bitString_append, ← octetBits, ih]

theorem octets_octetBits (bytes : List UInt8) : octets (octetBits bytes) = bytes := by
  have short : ([] : List Bool).length < 8 := by decide
  rw [← List.append_nil (octetBits bytes), octets_octetBits_append short]

@[simp] theorem octetBits_append (left right : List UInt8) :
    octetBits (left ++ right) = octetBits left ++ octetBits right := List.flatMap_append

@[simp] theorem octetBits_singleton (byte : UInt8) : octetBits [byte] = bitString 8 byte.toNat :=
  List.flatMap_singleton ..

@[simp] theorem length_octetBits : (octetBits bytes).length = 8 * bytes.length := by
  induction bytes with
  | nil => rfl
  | cons byte bytes ih =>
      rw [octetBits, List.flatMap_cons, List.length_append, ← octetBits, ih, length_bitString,
        List.length_cons]
      omega

theorem bigEndian_eq_readBits : bigEndian bytes = readBits (octetBits bytes) := by
  induction bytes using List.reverseRecOn with
  | nil => rfl
  | append_singleton front byte ih =>
      have below : byte.toNat % 2 ^ 8 = byte.toNat := Nat.mod_eq_of_lt byte.toNat_lt
      rw [bigEndian, List.foldl_append, List.foldl_cons, List.foldl_nil, ← bigEndian, ih,
        octetBits_append, octetBits_singleton, readBits_append, readBits_bitString, below,
        length_bitString, Nat.mul_comm]
      rfl

end Us3Turbo.Data
