import Mathlib.Algebra.Ring.Nat
import Us3Turbo.Transition.System

/-! # What a run can spend

A potential is a number attached to every state.  A step pays what its label
costs out of the potential, and gets what its label brings; over a run the
balance is the same with sums.  Where no label brings anything and every label
costs something, runs are bounded and end in a state from which nothing moves.
-/

namespace Us3Turbo.Transition.System

variable {State Label : Type*} {system : System State Label} {property : State → Prop}
  {start after : State} {labels : List Label}

structure Potential (system : System State Label) (property : State → Prop) where
  level : State → Nat
  cost : Label → Nat
  gain : Label → Nat
  keeps : ∀ {before label after}, property before → system.step before label after → property after
  pays : ∀ {before label after}, property before → system.step before label after →
    level after + cost label ≤ level before + gain label

namespace Potential

variable (potential : Potential system property)

theorem run (holds : property start) (run : system.Run start labels after) :
    potential.level after + (labels.map potential.cost).sum ≤
      potential.level start + (labels.map potential.gain).sum := by
  induction run with
  | nil => simp
  | cons head _ ih =>
      have first := potential.pays holds head
      have rest := ih (potential.keeps holds head)
      simp only [List.map_cons, List.sum_cons]
      omega

include potential in
theorem kept (holds : property start) (run : system.Run start labels after) : property after := by
  induction run with
  | nil => exact holds
  | cons head _ ih => exact ih (potential.keeps holds head)

/-- Where no label brings anything, the labels that cost something are bounded. -/
theorem countP_le (counts : Label → Bool) (holds : property start)
    (run : system.Run start labels after)
    (costs : ∀ label, counts label = true → 1 ≤ potential.cost label)
    (brings : ∀ label, potential.gain label = 0) :
    labels.countP counts + potential.level after ≤ potential.level start := by
  induction run with
  | nil => simp
  | @cons before middle after label labels head tail ih =>
      have paid := potential.pays holds head
      have rest := ih (potential.keeps holds head)
      rw [brings label] at paid
      rw [List.countP_cons]
      split
      · have cost := costs label ‹_›
        omega
      · omega

end Potential

def Stuck (system : System State Label) (state : State) : Prop :=
  ∀ label after, ¬ system.step state label after

/-- A run that cannot go on forever can be taken to its end. -/
theorem Potential.exists_stuck (potential : Potential system property) (holds : property start)
    (costs : ∀ label, 1 ≤ potential.cost label) (brings : ∀ label, potential.gain label = 0) :
    ∃ labels after, system.Run start labels after ∧ system.Stuck after := by
  generalize level : potential.level start = bound
  induction bound using Nat.strongRecOn generalizing start with
  | _ bound ih =>
      by_cases stuck : system.Stuck start
      · exact ⟨[], start, .nil start, stuck⟩
      · simp only [Stuck, not_forall, not_not] at stuck
        obtain ⟨label, next, step⟩ := stuck
        have lower : potential.level next < bound := by
          have paid := potential.pays holds step
          have cost := costs label
          rw [brings label] at paid
          omega
        obtain ⟨labels, after, run, ends⟩ := ih _ lower (potential.keeps holds step) rfl
        exact ⟨label :: labels, after, .cons step run, ends⟩

end Us3Turbo.Transition.System
