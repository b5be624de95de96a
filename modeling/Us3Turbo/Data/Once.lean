import Mathlib.Data.List.Pairwise
import Mathlib.Data.List.Perm.Basic

/-! # Lists in which no key occurs twice

`keyOf` gives some items a key; the others are not counted.  Items are taken out of
such a list and put in.
-/

namespace Us3Turbo.Data

variable {Item Key : Type*} {keyOf : Item → Option Key} {items kept fresh : List Item}
  {item other : Item} {key : Key}

def Apart (keyOf : Item → Option Key) (first second : Item) : Prop :=
  ∀ key, keyOf first = some key → keyOf second ≠ some key

def Once (keyOf : Item → Option Key) (items : List Item) : Prop := items.Pairwise (Apart keyOf)

theorem Apart.symm (apart : Apart keyOf item other) : Apart keyOf other item :=
  fun key second first => apart key first second

theorem Apart.of_keyless (keyless : keyOf other = none) : Apart keyOf item other := by
  intro key _
  rw [keyless]
  nofun

namespace Once

theorem nil : Once keyOf [] := List.Pairwise.nil

theorem sublist (once : Once keyOf items) (sublist : kept.Sublist items) : Once keyOf kept :=
  List.Pairwise.sublist sublist once

theorem cons_of_perm (once : Once keyOf items) (taken : items.Perm (item :: kept)) :
    Once keyOf (item :: kept) :=
  (taken.pairwise_iff Apart.symm).mp once

theorem taken (once : Once keyOf items) (taken : items.Perm (item :: kept)) : Once keyOf kept :=
  (List.pairwise_cons.mp (once.cons_of_perm taken)).2

/-- What is left has lost the key of the item taken out. -/
theorem gone (once : Once keyOf items) (taken : items.Perm (item :: kept))
    (named : keyOf item = some key) (member : other ∈ kept) : keyOf other ≠ some key :=
  (List.pairwise_cons.mp (once.cons_of_perm taken)).1 other member key named

theorem append_keyless (once : Once keyOf items) (keyless : ∀ item ∈ fresh, keyOf item = none) :
    Once keyOf (items ++ fresh) := by
  refine List.pairwise_append.mpr ⟨once, ?_, fun first _ second member =>
    .of_keyless (keyless second member)⟩
  exact List.pairwise_iff_forall_sublist.mpr fun pair =>
    .of_keyless (keyless _ (pair.subset (List.mem_cons_of_mem _ List.mem_cons_self)))

theorem append_new (once : Once keyOf items) (named : keyOf item = some key)
    (unused : ∀ other ∈ items, keyOf other ≠ some key) : Once keyOf (items ++ [item]) := by
  refine List.pairwise_append.mpr ⟨once, List.pairwise_singleton _ _, fun first member second new => ?_⟩
  rw [List.mem_singleton.mp new]
  intro found first_named same
  rw [named, Option.some.injEq] at same
  exact unused first member (same ▸ first_named)

end Once

end Us3Turbo.Data
