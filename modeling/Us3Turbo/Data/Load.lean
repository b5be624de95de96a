import Mathlib.Algebra.BigOperators.Finprod
import Mathlib.Data.List.Perm.Basic
import Mathlib.Data.Set.Finite.Basic

/-! # The load of a table

The entries of a table with finitely many of them, or those of a list, each counted with
its weight.
-/

namespace Us3Turbo.Data

variable {Key Value : Type*} {weight : Value → Nat} {table : Key → Option Value} {key : Key}
  {value : Value}

def domain (table : Key → Option Value) : Set Key := {key | (table key).isSome = true}

noncomputable def load (weight : Value → Nat) (table : Key → Option Value) : Nat :=
  finsum fun key => (table key).elim 0 weight

theorem domain_empty : domain (fun _ : Key => (none : Option Value)) = ∅ := by
  simp [domain]

theorem load_empty : load weight (fun _ : Key => none) = 0 :=
  finsum_zero

section Update

variable [DecidableEq Key]

theorem domain_update :
    domain (Function.update table key (some value)) = insert key (domain table) := by
  ext other
  by_cases same : other = key
  · subst same
    simp [domain]
  · simp [domain, same]

theorem finite_update (finite : (domain table).Finite) :
    (domain (Function.update table key (some value))).Finite := by
  rw [domain_update]
  exact finite.insert key

theorem load_eq_sum {keys : Finset Key} (within : ∀ key ∉ keys, table key = none) :
    load weight table = ∑ key ∈ keys, (table key).elim 0 weight := by
  apply finsum_eq_sum_of_support_subset
  intro key loaded
  by_contra outside
  rw [Function.mem_support, within key outside] at loaded
  exact loaded rfl

/-- The new entry is loaded and the old one, if there was one, is unloaded. -/
theorem load_update (weight : Value → Nat) (key : Key) (value : Value)
    (finite : (domain table).Finite) :
    load weight (Function.update table key (some value)) + (table key).elim 0 weight =
      load weight table + weight value := by
  have within : ∀ other ∉ insert key finite.toFinset, table other = none := by
    intro other outside
    rw [Finset.mem_insert, Set.Finite.mem_toFinset, not_or] at outside
    simpa [domain] using outside.2
  have within' : ∀ other ∉ insert key finite.toFinset,
      Function.update table key (some value) other = none := by
    intro other outside
    have different : other ≠ key := fun same => outside (same ▸ Finset.mem_insert_self _ _)
    rw [Function.update_of_ne different, within other outside]
  have rest : ∑ other ∈ (insert key finite.toFinset).erase key,
      (Function.update table key (some value) other).elim 0 weight =
      ∑ other ∈ (insert key finite.toFinset).erase key, (table other).elim 0 weight := by
    apply Finset.sum_congr rfl
    intro other member
    rw [Function.update_of_ne (Finset.ne_of_mem_erase member)]
  have member : key ∈ insert key finite.toFinset := Finset.mem_insert_self _ _
  rw [load_eq_sum within, load_eq_sum within', ← Finset.add_sum_erase _ _ member,
    ← Finset.add_sum_erase _ _ member, rest, Function.update_self, Option.elim_some]
  omega

end Update

theorem sum_map_set (weight : Value → Nat) (value : Value) {values : List Value} {index : Nat}
    {old : Value} (found : values[index]? = some old) :
    ((values.set index value).map weight).sum + weight old =
      (values.map weight).sum + weight value := by
  obtain ⟨inside, rfl⟩ := List.getElem?_eq_some_iff.mp found
  have replaced := ((List.set_perm_cons_eraseIdx inside value).map weight).sum_nat
  have kept := ((List.getElem_cons_eraseIdx_perm inside).map weight).sum_nat
  simp only [List.map_cons, List.sum_cons] at replaced kept
  omega

/-- A list of load one has the load in one place. -/
theorem unique_of_sum_map {values : List Value} (one : (values.map weight).sum = 1) :
    ∃ (index : Nat) (value : Value), values[index]? = some value ∧ weight value ≠ 0 ∧
      ∀ (other : Nat) (value : Value), values[other]? = some value → weight value ≠ 0 →
        other = index := by
  induction values with
  | nil => cases one
  | cons first values ih =>
      rw [List.map_cons, List.sum_cons] at one
      by_cases empty : weight first = 0
      · rw [empty, Nat.zero_add] at one
        obtain ⟨index, value, found, loaded, only⟩ := ih one
        refine ⟨index + 1, value, found, loaded, ?_⟩
        intro other value found loaded
        cases other with
        | zero =>
            cases found
            exact absurd empty loaded
        | succ other => rw [only other value found loaded]
      · have rest : (values.map weight).sum = 0 := by omega
        refine ⟨0, first, rfl, empty, ?_⟩
        intro other value found loaded
        cases other with
        | zero => rfl
        | succ other =>
            have unloaded := List.sum_eq_zero_iff_forall_eq_nat.mp rest (weight value)
              (List.mem_map_of_mem (List.mem_of_getElem? found))
            exact absurd unloaded loaded

end Us3Turbo.Data
