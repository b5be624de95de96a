import Mathlib.Algebra.Ring.Nat
import Mathlib.Tactic.TypeStar

/-! # Numbers in a fixed number of decimal digits

Texts whose fields have fixed widths are ordered field by field, and a field as its number.
-/

namespace Us3Turbo.Data

/-- The last `width` decimal digits of `value`. -/
def fixedDigits : Nat → Nat → List Char
  | 0, _ => []
  | width + 1, value => fixedDigits width (value / 10) ++ [Nat.digitChar (value % 10)]

theorem length_fixedDigits (width value : Nat) : (fixedDigits width value).length = width := by
  induction width generalizing value with
  | zero => rfl
  | succ width ih => rw [fixedDigits, List.length_append, ih, List.length_singleton]

theorem append_lt_append_iff {Letter : Type*} [LT Letter] {first second rest others : List Letter}
    (same : first.length = second.length) :
    first ++ rest < second ++ others ↔ first < second ∨ first = second ∧ rest < others := by
  induction first generalizing second with
  | nil =>
      rw [List.length_nil, eq_comm, List.length_eq_zero_iff] at same
      subst same
      simp
  | cons letter first ih =>
      cases second with
      | nil => cases same
      | cons other second =>
          rw [List.length_cons, List.length_cons, Nat.add_right_cancel_iff] at same
          rw [List.cons_append, List.cons_append, List.cons_lt_cons_iff, List.cons_lt_cons_iff, ih same,
            List.cons.injEq]
          constructor
          · rintro (letters | ⟨rfl, words | ⟨rfl, rest⟩⟩)
            · exact .inl (.inl letters)
            · exact .inl (.inr ⟨rfl, words⟩)
            · exact .inr ⟨⟨rfl, rfl⟩, rest⟩
          · rintro ((letters | ⟨rfl, words⟩) | ⟨⟨rfl, rfl⟩, rest⟩)
            · exact .inl letters
            · exact .inr ⟨rfl, .inl words⟩
            · exact .inr ⟨rfl, .inr ⟨rfl, rest⟩⟩

theorem digitChar_lt_iff : ∀ left < 10, ∀ right < 10,
    (Nat.digitChar left < Nat.digitChar right ↔ left < right) := by
  decide

theorem digitChar_inj : ∀ left < 10, ∀ right < 10,
    (Nat.digitChar left = Nat.digitChar right ↔ left = right) := by
  decide

section Order

variable {width left right : Nat} (leftFits : left < 10 ^ width) (rightFits : right < 10 ^ width)
include leftFits rightFits

theorem fixedDigits_inj : fixedDigits width left = fixedDigits width right ↔ left = right := by
  induction width generalizing left right with
  | zero =>
      rw [Nat.pow_zero] at leftFits rightFits
      simp only [fixedDigits, true_iff]
      omega
  | succ width ih =>
      rw [Nat.pow_succ] at leftFits rightFits
      rw [fixedDigits, fixedDigits, List.append_singleton_inj,
        ih (Nat.div_lt_of_lt_mul (by omega)) (Nat.div_lt_of_lt_mul (by omega)),
        digitChar_inj _ (Nat.mod_lt _ (by decide)) _ (Nat.mod_lt _ (by decide))]
      omega

theorem fixedDigits_lt_iff : fixedDigits width left < fixedDigits width right ↔ left < right := by
  induction width generalizing left right with
  | zero =>
      rw [Nat.pow_zero] at leftFits rightFits
      simp only [fixedDigits, List.not_lt_nil, false_iff]
      omega
  | succ width ih =>
      rw [Nat.pow_succ] at leftFits rightFits
      have leftRest : left / 10 < 10 ^ width := Nat.div_lt_of_lt_mul (by omega)
      have rightRest : right / 10 < 10 ^ width := Nat.div_lt_of_lt_mul (by omega)
      have same : (fixedDigits width (left / 10)).length = (fixedDigits width (right / 10)).length := by
        rw [length_fixedDigits, length_fixedDigits]
      rw [fixedDigits, fixedDigits, append_lt_append_iff same, ih leftRest rightRest,
        fixedDigits_inj leftRest rightRest, List.cons_lt_cons_iff,
        digitChar_lt_iff _ (Nat.mod_lt _ (by decide)) _ (Nat.mod_lt _ (by decide))]
      simp only [List.not_lt_nil, and_false, or_false]
      omega

/-- A field and the separator after it come before what follows them. -/
theorem field_lt_iff (separator : Char) (rest others : List Char) :
    fixedDigits width left ++ separator :: rest < fixedDigits width right ++ separator :: others ↔
      left < right ∨ left = right ∧ rest < others := by
  have same : (fixedDigits width left).length = (fixedDigits width right).length := by
    rw [length_fixedDigits, length_fixedDigits]
  rw [append_lt_append_iff same, fixedDigits_lt_iff leftFits rightFits,
    fixedDigits_inj leftFits rightFits, List.cons_lt_cons_iff]
  simp only [Char.lt_irrefl, false_or, true_and]

end Order

/-- A number written out has no leading zeros. -/
theorem toDigits_eq_fixedDigits {width value : Nat} (low : 10 ^ width ≤ value)
    (high : value < 10 ^ (width + 1)) : Nat.toDigits 10 value = fixedDigits (width + 1) value := by
  induction width generalizing value with
  | zero =>
      rw [Nat.zero_add, Nat.pow_one] at high
      rw [Nat.toDigits_of_lt_base high, fixedDigits, fixedDigits, Nat.mod_eq_of_lt high]
      rfl
  | succ width ih =>
      rw [Nat.pow_succ] at low high
      have positive : 0 < 10 ^ width := Nat.pow_pos (by decide)
      rw [Nat.toDigits_of_base_le (by decide) (by omega), ih (by omega) (by omega)]
      rfl

end Us3Turbo.Data
