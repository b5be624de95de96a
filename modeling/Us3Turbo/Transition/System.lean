import Mathlib.Tactic.TypeStar

/-! # Labelled transition systems

Every machine of the development is a `System`: a set of starting states and a
labelled step relation.  A label carries the request and whatever the
surroundings chose during the step (a clock reading, a reply of an outside
library, an interleaving).  The rules below are the only inductions over runs;
a client proves what one step does and reads the whole run off them.
-/

namespace Us3Turbo.Transition

structure System (State Label : Type*) where
  initial : State → Prop
  step : State → Label → State → Prop

namespace System

variable {State Label : Type*} {system : System State Label}
  {guard other : State → Label → State → Prop} {property : State → Prop}
  {before middle after start : State} {label : Label} {labels more : List Label}

inductive Run (system : System State Label) : State → List Label → State → Prop where
  | nil (state : State) : Run system state [] state
  | cons {before middle after : State} {label : Label} {labels : List Label}
      (head : system.step before label middle)
      (tail : Run system middle labels after) :
      Run system before (label :: labels) after

def Reachable (system : System State Label) (state : State) : Prop :=
  ∃ start labels, system.initial start ∧ system.Run start labels state

/-- The runs of `system.restrict guard` are the runs of `system` whose steps
all meet `guard`. -/
def restrict (system : System State Label) (guard : State → Label → State → Prop) :
    System State Label where
  initial := system.initial
  step before label after := system.step before label after ∧ guard before label after

theorem Run.append (first : system.Run before labels middle)
    (second : system.Run middle more after) :
    system.Run before (labels ++ more) after := by
  induction first with
  | nil => exact second
  | cons head _ ih => exact .cons head (ih second)

theorem Run.single (step : system.step before label after) :
    system.Run before [label] after :=
  .cons step (.nil after)

theorem Reachable.of_initial (initial : system.initial start) : system.Reachable start :=
  ⟨start, [], initial, .nil start⟩

theorem Reachable.run (reachable : system.Reachable before)
    (run : system.Run before labels after) : system.Reachable after := by
  obtain ⟨start, first, initial, reached⟩ := reachable
  exact ⟨start, first ++ labels, initial, reached.append run⟩

theorem Reachable.step (reachable : system.Reachable before)
    (step : system.step before label after) : system.Reachable after :=
  reachable.run (.single step)

theorem Run.of_restrict (run : (system.restrict guard).Run before labels after) :
    system.Run before labels after := by
  induction run with
  | nil state => exact .nil state
  | cons head _ ih => exact .cons head.1 ih

theorem Reachable.of_restrict (reachable : (system.restrict guard).Reachable after) :
    system.Reachable after := by
  obtain ⟨start, labels, initial, run⟩ := reachable
  exact ⟨start, labels, initial, run.of_restrict⟩

/-- An inductive invariant: it holds of every starting state and no step breaks it. -/
structure Invariant (system : System State Label) (property : State → Prop) : Prop where
  initial : ∀ {state}, system.initial state → property state
  step : ∀ {before label after}, property before → system.step before label after →
    property after

theorem Invariant.run (invariant : system.Invariant property) (holds : property before)
    (run : system.Run before labels after) : property after := by
  induction run with
  | nil => exact holds
  | cons head _ ih => exact ih (invariant.step holds head)

theorem Invariant.reachable (invariant : system.Invariant property)
    (reachable : system.Reachable after) : property after := by
  obtain ⟨start, labels, initial, run⟩ := reachable
  exact invariant.run (invariant.initial initial) run

theorem Invariant.restrict (invariant : system.Invariant property) :
    (system.restrict guard).Invariant property where
  initial := invariant.initial
  step holds step := invariant.step holds step.1

/-- Two guards that agree on every step taken where `property` holds admit the
same runs, provided the steps meeting one of them keep `property`.  This turns
an exact condition for one step into an exact condition for a whole run. -/
theorem restrict_run_iff (property : State → Prop)
    (agree : ∀ {before label after}, property before → system.step before label after →
      (guard before label after ↔ other before label after))
    (keeps : ∀ {before label after}, property before → system.step before label after →
      guard before label after → property after)
    (holds : property start) :
    (system.restrict guard).Run start labels after ↔
      (system.restrict other).Run start labels after := by
  constructor
  · intro run
    induction run with
    | nil state => exact .nil state
    | cons head _ ih =>
        have same := (agree holds head.1).mp head.2
        exact .cons ⟨head.1, same⟩ (ih (keeps holds head.1 head.2))
  · intro run
    induction run with
    | nil state => exact .nil state
    | cons head _ ih =>
        have same := (agree holds head.1).mpr head.2
        exact .cons ⟨head.1, same⟩ (ih (keeps holds head.1 same))

/-! ## Systems given by a function -/

/-- The system whose labels decide what happens: `advance` is `none` where the label
is not possible. -/
def ofAdvance (initial : State → Prop) (advance : State → Label → Option State) :
    System State Label where
  initial := initial
  step before label after := advance before label = some after

def replay (advance : State → Label → Option State) : State → List Label → Option State
  | state, [] => some state
  | state, label :: labels => (advance state label).bind fun next => replay advance next labels

theorem Run.of_replay {initial : State → Prop} {advance : State → Label → Option State}
    (replayed : replay advance start labels = some after) :
    (ofAdvance initial advance).Run start labels after := by
  induction labels generalizing start with
  | nil =>
      rw [replay, Option.some.injEq] at replayed
      rw [replayed]
      exact .nil after
  | cons label labels ih =>
      obtain ⟨next, advanced, rest⟩ := Option.bind_eq_some_iff.mp replayed
      exact .cons advanced (ih rest)

def guarded (check : State → Label → Bool) (advance : State → Label → Option State)
    (state : State) (label : Label) : Option State :=
  if check state label then advance state label else none

theorem Run.of_guarded {initial : State → Prop} {check : State → Label → Bool}
    {advance : State → Label → Option State}
    (replayed : replay (guarded check advance) start labels = some after) :
    ((ofAdvance initial advance).restrict fun state label _ => check state label = true).Run
      start labels after := by
  induction labels generalizing start with
  | nil =>
      rw [replay, Option.some.injEq] at replayed
      rw [replayed]
      exact .nil after
  | cons label labels ih =>
      obtain ⟨next, advanced, rest⟩ := Option.bind_eq_some_iff.mp replayed
      rw [guarded] at advanced
      split at advanced
      · rename_i admitted
        exact .cons ⟨advanced, admitted⟩ (ih rest)
      · cases advanced

/-- A run whose labels meet the guard wherever they are taken is a run of the
restricted system. -/
theorem Run.restrict_labels (run : system.Run before labels after)
    (all : ∀ label ∈ labels, ∀ before after, guard before label after) :
    (system.restrict guard).Run before labels after := by
  induction run with
  | nil state => exact .nil state
  | cons head _ ih =>
      have first := all _ List.mem_cons_self
      exact .cons ⟨head, first _ _⟩ (ih fun label member => all label (List.mem_cons_of_mem _ member))

end System

end Us3Turbo.Transition
