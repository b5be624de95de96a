import Us3Turbo.Transition.System

/-! # Simulation

Every step of one system is matched by a run of another, which may be empty or
of several steps, and related states stay related.
-/

namespace Us3Turbo.Transition

variable {State Label Other Mark : Type*} {concrete : System State Label}
  {abstract : System Other Mark} {relates : State → Other → Prop}

structure System.Simulation (concrete : System State Label) (abstract : System Other Mark)
    (relates : State → Other → Prop) : Prop where
  initial : ∀ {state}, concrete.initial state → ∃ other, abstract.initial other ∧ relates state other
  step : ∀ {before label after other}, relates before other → concrete.step before label after →
    ∃ marks next, abstract.Run other marks next ∧ relates after next

namespace System.Simulation

variable {before after : State} {labels : List Label} {other : Other}

theorem run (simulation : concrete.Simulation abstract relates) (related : relates before other)
    (run : concrete.Run before labels after) :
    ∃ marks next, abstract.Run other marks next ∧ relates after next := by
  induction run generalizing other with
  | nil state => exact ⟨[], other, .nil other, related⟩
  | cons head _ ih =>
      obtain ⟨first, middle, reached, related⟩ := simulation.step related head
      obtain ⟨rest, next, onward, related⟩ := ih related
      exact ⟨first ++ rest, next, reached.append onward, related⟩

theorem reachable (simulation : concrete.Simulation abstract relates)
    (reachable : concrete.Reachable after) : ∃ next, abstract.Reachable next ∧ relates after next := by
  obtain ⟨start, labels, initial, run⟩ := reachable
  obtain ⟨other, started, related⟩ := simulation.initial initial
  obtain ⟨marks, next, reached, related⟩ := simulation.run related run
  exact ⟨next, ⟨other, marks, started, reached⟩, related⟩

end System.Simulation

end Us3Turbo.Transition
