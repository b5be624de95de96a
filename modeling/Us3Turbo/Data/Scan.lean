import Mathlib.Data.Finmap

/-! # Scanning a hash map

A hash map is a finite map; the order in which a loop walks it is not part of
its contents.  An `AList` with the same contents is one such order, and a scan
that stops at the first wanted value is judged over all of them.
-/

namespace Us3Turbo.Data

variable {Key Value : Type*} [DecidableEq Key]
  {map : Finmap fun _ : Key => Value} {order : AList fun _ : Key => Value}
  {wanted : Value → Bool} {key : Key} {value : Value}

/-- `order` is one of the orders in which a hash map holding `map` may be walked. -/
def Walks (order : AList fun _ : Key => Value) (map : Finmap fun _ : Key => Value) : Prop :=
  order.toFinmap = map

instance [DecidableEq Value] : Decidable (Walks order map) :=
  inferInstanceAs (Decidable (order.toFinmap = map))

def scan (order : AList fun _ : Key => Value) (wanted : Value → Bool) : Option Value :=
  (order.entries.find? fun entry => wanted entry.2).map (·.2)

omit [DecidableEq Key] in
theorem exists_walk (map : Finmap fun _ : Key => Value) : ∃ order, Walks order map :=
  map.induction_on fun order => ⟨order, rfl⟩

theorem Walks.mem_entries (walks : Walks order map) :
    ⟨key, value⟩ ∈ order.entries ↔ map.lookup key = some value := by
  rw [← walks, Finmap.lookup_toFinmap]
  exact AList.mem_lookup_iff.symm

theorem Walks.scan_sound (walks : Walks order map)
    (found : scan order wanted = some value) :
    ∃ key, map.lookup key = some value ∧ wanted value = true := by
  obtain ⟨⟨key, value⟩, first, rfl⟩ := Option.map_eq_some_iff.mp found
  exact ⟨key, walks.mem_entries.mp (List.mem_of_find?_eq_some first),
    List.find?_some (p := fun entry : Sigma fun _ : Key => Value => wanted entry.2) first⟩

theorem Walks.scan_none (walks : Walks order map)
    (absent : ∀ key value, map.lookup key = some value → wanted value = false) :
    scan order wanted = none := by
  cases found : scan order wanted with
  | none => rfl
  | some value =>
      obtain ⟨key, stored, accepted⟩ := walks.scan_sound found
      rw [absent key value stored] at accepted
      contradiction

/-- A value that is the only wanted one is found whatever the walk. -/
theorem Walks.scan_unique (walks : Walks order map)
    (stored : map.lookup key = some value) (accepted : wanted value = true)
    (unique : ∀ other found, map.lookup other = some found → wanted found = true → other = key) :
    scan order wanted = some value := by
  cases found : scan order wanted with
  | none =>
      have missed := List.find?_eq_none.mp (Option.map_eq_none_iff.mp found)
        ⟨key, value⟩ (walks.mem_entries.mpr stored)
      exact absurd accepted missed
  | some candidate =>
      obtain ⟨other, lookup, wantedCandidate⟩ := walks.scan_sound found
      rw [unique other candidate lookup wantedCandidate] at lookup
      exact lookup.symm.trans stored

end Us3Turbo.Data
