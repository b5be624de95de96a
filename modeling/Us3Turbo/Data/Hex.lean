import Mathlib.Algebra.Group.Nat.Defs
import Mathlib.Data.Nat.Basic

/-! # Zero-padded lowercase hexadecimal

`lowerHex width value` is what `printf` makes of `%0<width>x` for a value that
fits in `width` digits.
-/

namespace Us3Turbo.Data

variable {width value : Nat}

def hexDigits : Nat → Nat → List Char
  | 0, _ => []
  | width + 1, value => hexDigits width (value / 16) ++ [Nat.digitChar (value % 16)]

def lowerHex (width value : Nat) : String := String.ofList (hexDigits width value)

def hexAlphabet : List Char := "0123456789abcdef".toList

def readHex (digits : List Char) : Nat :=
  digits.foldl (fun total digit => 16 * total + hexAlphabet.idxOf digit) 0

/-- `text` is `value` in exactly `width` lowercase hexadecimal digits. -/
structure IsLowerHex (width value : Nat) (text : String) : Prop where
  length : text.length = width
  digits : ∀ digit ∈ text.toList, digit ∈ hexAlphabet
  reads : readHex text.toList = value

theorem digitChar_spec {digit : Nat} (small : digit < 16) :
    Nat.digitChar digit ∈ hexAlphabet ∧ hexAlphabet.idxOf (Nat.digitChar digit) = digit := by
  have all : ∀ digit : Fin 16, Nat.digitChar digit ∈ hexAlphabet ∧
      hexAlphabet.idxOf (Nat.digitChar digit) = digit := by decide
  exact all ⟨digit, small⟩

theorem readHex_concat {digits : List Char} {digit : Char} :
    readHex (digits ++ [digit]) = 16 * readHex digits + hexAlphabet.idxOf digit := by
  rw [readHex, List.foldl_append, List.foldl_cons, List.foldl_nil, ← readHex]

theorem length_hexDigits : (hexDigits width value).length = width := by
  induction width generalizing value with
  | zero => rfl
  | succ width ih => simp [hexDigits, ih]

theorem hexDigits_subset : ∀ digit ∈ hexDigits width value, digit ∈ hexAlphabet := by
  induction width generalizing value with
  | zero => simp [hexDigits]
  | succ width ih =>
      intro digit member
      rcases List.mem_append.mp member with earlier | last
      · exact ih digit earlier
      · rw [List.mem_singleton.mp last]
        exact (digitChar_spec (Nat.mod_lt _ (by decide))).1

theorem readHex_hexDigits : readHex (hexDigits width value) = value % 16 ^ width := by
  induction width generalizing value with
  | zero => simp [hexDigits, readHex, Nat.mod_one]
  | succ width ih =>
      have last := (digitChar_spec (Nat.mod_lt value (show 16 > 0 by decide))).2
      rw [hexDigits, readHex_concat, ih, last, Nat.pow_succ', Nat.mod_mul]
      omega

theorem isLowerHex_lowerHex (fits : value < 16 ^ width) :
    IsLowerHex width value (lowerHex width value) where
  length := by rw [lowerHex, String.length_ofList, length_hexDigits]
  digits := by
    rw [lowerHex, String.toList_ofList]
    exact hexDigits_subset
  reads := by rw [lowerHex, String.toList_ofList, readHex_hexDigits, Nat.mod_eq_of_lt fits]

/-! ## Spellings in either case -/

/-- `digits` is `value` in base 16, in either case and behind any number of zeros. -/
def SpellsHex (value : Nat) (digits : List Char) : Prop :=
  ∃ zeros, digits.map Char.toLower = List.replicate zeros '0' ++ Nat.toDigits 16 value

theorem toDigits_subset : ∀ digit ∈ Nat.toDigits 16 value, digit ∈ hexAlphabet := by
  induction value using Nat.strongRecOn with
  | ind value ih =>
      intro digit member
      rw [Nat.toDigits_eq_if (by decide)] at member
      split at member
      · rename_i small
        rw [List.mem_singleton.mp member]
        exact (digitChar_spec small).1
      · rcases List.mem_append.mp member with earlier | last
        · exact ih (value / 16) (by omega) digit earlier
        · rw [List.mem_singleton.mp last]
          exact (digitChar_spec (Nat.mod_lt _ (by decide))).1

theorem readHex_toDigits : readHex (Nat.toDigits 16 value) = value := by
  induction value using Nat.strongRecOn with
  | ind value ih =>
      rw [Nat.toDigits_eq_if (by decide)]
      split
      · rename_i small
        have last := (digitChar_spec small).2
        rw [← List.nil_append [_], readHex_concat, last]
        exact Nat.zero_add value
      · have last := (digitChar_spec (Nat.mod_lt value (show 16 > 0 by decide))).2
        rw [readHex_concat, ih (value / 16) (by omega), last]
        omega

theorem readHex_zeros {zeros : Nat} {digits : List Char} :
    readHex (List.replicate zeros '0' ++ digits) = readHex digits := by
  induction zeros with
  | zero => rfl
  | succ zeros ih =>
      rw [List.replicate_succ, List.cons_append, readHex, List.foldl_cons]
      exact ih

namespace SpellsHex

variable {digits : List Char}

theorem digits_subset (spelled : SpellsHex value digits) :
    ∀ digit ∈ digits, digit.toLower ∈ hexAlphabet := by
  intro digit member
  obtain ⟨zeros, lower⟩ := spelled
  have lowered : digit.toLower ∈ digits.map Char.toLower := List.mem_map_of_mem member
  rw [lower] at lowered
  rcases List.mem_append.mp lowered with zero | significant
  · rw [List.eq_of_mem_replicate zero]
    decide
  · exact toDigits_subset _ significant

theorem reads (spelled : SpellsHex value digits) : readHex (digits.map Char.toLower) = value := by
  obtain ⟨zeros, lower⟩ := spelled
  rw [lower, readHex_zeros, readHex_toDigits]

theorem nonempty (spelled : SpellsHex value digits) : digits ≠ [] := by
  obtain ⟨zeros, lower⟩ := spelled
  intro empty
  rw [empty] at lower
  exact Nat.toDigits_ne_nil (List.append_eq_nil_iff.mp lower.symm).2

end SpellsHex

end Us3Turbo.Data
