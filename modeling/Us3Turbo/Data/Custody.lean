import Mathlib.Data.List.Perm.Basic
import Mathlib.Data.Multiset.Count
import Mathlib.Data.Multiset.Range
import Mathlib.Data.Multiset.UnionInter
import Mathlib.Logic.Function.Basic

/-! # Custody of items and their attachments

Items are obtained and discarded, attachments are made to an item and detached
from it, and every holder accounts for what it holds.  The ledgers say what was
ever handed out; the balance of a ledger with the holdings is what makes
ownership linear.
-/

namespace Us3Turbo.Data

/-- Identities handed out in order, and those given back. -/
structure Ledger where
  issued : Nat := 0
  returned : Multiset Nat := 0

namespace Ledger

variable {ledger : Ledger} {held : Multiset Nat} {id : Nat}

def issue (ledger : Ledger) : Ledger := { ledger with issued := ledger.issued + 1 }

def giveBack (ledger : Ledger) (id : Nat) : Ledger :=
  { ledger with returned := id ::ₘ ledger.returned }

/-- How often the identity was handed out. -/
def handedOut (ledger : Ledger) (id : Nat) : Nat := if id < ledger.issued then 1 else 0

theorem handedOut_issue (ledger : Ledger) (id : Nat) :
    ledger.issue.handedOut id = ledger.handedOut id + if id = ledger.issued then 1 else 0 := by
  have more : ledger.issue.issued = ledger.issued + 1 := rfl
  rw [handedOut, handedOut]
  rcases Nat.lt_trichotomy id ledger.issued with known | rfl | unknown
  · rw [if_pos (by omega), if_pos known, if_neg (Nat.ne_of_lt known)]
  · rw [if_pos (by omega), if_neg (Nat.lt_irrefl _), if_pos rfl]
  · rw [if_neg (by omega), if_neg (Nat.lt_asymm unknown), if_neg (Nat.ne_of_gt unknown)]

/-- Every identity handed out is held or was given back, once. -/
def Balanced (ledger : Ledger) (held : Multiset Nat) : Prop :=
  held + ledger.returned = Multiset.range ledger.issued

theorem balanced_empty : Balanced {} 0 := rfl

theorem Balanced.issue (balanced : ledger.Balanced held) :
    ledger.issue.Balanced (ledger.issued ::ₘ held) := by
  rw [Balanced] at balanced
  rw [Balanced, Ledger.issue, Multiset.cons_add, balanced, Multiset.range_succ]

theorem Balanced.giveBack (balanced : ledger.Balanced (id ::ₘ held)) :
    (ledger.giveBack id).Balanced held := by
  rw [Balanced] at balanced
  rw [Balanced, Ledger.giveBack, Multiset.add_cons, ← Multiset.cons_add, balanced]

theorem Balanced.nodup (balanced : ledger.Balanced held) : (held + ledger.returned).Nodup := by
  rw [balanced]
  exact Multiset.nodup_range ledger.issued

theorem Balanced.nodup_returned (balanced : ledger.Balanced held) : ledger.returned.Nodup :=
  (Multiset.nodup_add.mp balanced.nodup).2.1

theorem Balanced.known (balanced : ledger.Balanced held) (holds : id ∈ held) :
    id < ledger.issued := by
  rw [← Multiset.mem_range, ← balanced]
  exact Multiset.mem_add.mpr (.inl holds)

theorem Balanced.not_returned (balanced : ledger.Balanced held) (holds : id ∈ held) :
    id ∉ ledger.returned :=
  Multiset.disjoint_left.mp (Multiset.nodup_add.mp balanced.nodup).2.2 holds

theorem Balanced.held_of_kept (balanced : ledger.Balanced held) (known : id < ledger.issued)
    (kept : id ∉ ledger.returned) : id ∈ held := by
  have member : id ∈ held + ledger.returned := by
    rw [balanced]
    exact Multiset.mem_range.mpr known
  exact (Multiset.mem_add.mp member).resolve_right kept

theorem Balanced.count_held (balanced : ledger.Balanced held) (known : id < ledger.issued)
    (kept : id ∉ ledger.returned) : held.count id = 1 :=
  Multiset.count_eq_one_of_mem (Multiset.nodup_add.mp balanced.nodup).1
    (balanced.held_of_kept known kept)

/-- What is no longer held was given back, once. -/
theorem Balanced.count_returned (balanced : ledger.Balanced held) (known : id < ledger.issued)
    (left : id ∉ held) : ledger.returned.count id = 1 := by
  have back : id ∈ ledger.returned := by
    by_contra kept
    exact left (balanced.held_of_kept known kept)
  exact Multiset.count_eq_one_of_mem balanced.nodup_returned back

end Ledger

structure Holding where
  item : Nat
  attachment : Option Nat := none

/-! ## What a list of holders has -/

section Gathered

variable {Holder : Type*} {heldBy : Holder → List Holding} {holders more : List Holder}
  {holder : Holder} {index : Nat}

def gathered (heldBy : Holder → List Holding) (holders : List Holder) : Multiset Holding :=
  ↑(holders.flatMap heldBy)

@[simp] theorem gathered_nil : gathered heldBy [] = 0 := rfl

@[simp] theorem gathered_cons :
    gathered heldBy (holder :: holders) = ↑(heldBy holder) + gathered heldBy holders := by
  rw [gathered, List.flatMap_cons, ← Multiset.coe_add, gathered]

@[simp] theorem gathered_append :
    gathered heldBy (holders ++ more) = gathered heldBy holders + gathered heldBy more := by
  rw [gathered, List.flatMap_append, ← Multiset.coe_add, gathered, gathered]

theorem mem_gathered {holding : Holding} (member : holder ∈ holders)
    (holds : holding ∈ heldBy holder) : holding ∈ gathered heldBy holders :=
  Multiset.mem_coe.mpr (List.mem_flatMap.mpr ⟨holder, member, holds⟩)

theorem gathered_empty (nothing : ∀ holder ∈ holders, heldBy holder = []) :
    gathered heldBy holders = 0 := by
  rw [gathered, List.flatMap_eq_nil_iff.mpr nothing]
  rfl

theorem gathered_eraseIdx (found : holders[index]? = some holder) :
    gathered heldBy holders = ↑(heldBy holder) + gathered heldBy (holders.eraseIdx index) := by
  obtain ⟨bound, rfl⟩ := List.getElem?_eq_some_iff.mp found
  have order := List.getElem_cons_eraseIdx_perm bound
  rw [gathered, Multiset.coe_eq_coe.mpr (order.symm.flatMap_right heldBy), ← gathered, gathered_cons]

theorem gathered_set (bound : index < holders.length) :
    gathered heldBy (holders.set index holder) =
      ↑(heldBy holder) + gathered heldBy (holders.eraseIdx index) := by
  have order := List.set_perm_cons_eraseIdx bound holder
  rw [gathered, Multiset.coe_eq_coe.mpr (order.flatMap_right heldBy), ← gathered, gathered_cons]

/-- What one holder gives up for what it gets. -/
theorem gathered_exchange {other : Holder} (found : holders[index]? = some other) :
    gathered heldBy (holders.set index holder) + ↑(heldBy other) =
      gathered heldBy holders + ↑(heldBy holder) := by
  have bound : index < holders.length := (List.getElem?_eq_some_iff.mp found).1
  rw [gathered_set bound, gathered_eraseIdx found, Multiset.add_assoc, Multiset.add_comm,
    Multiset.add_comm (gathered heldBy _)]

end Gathered

structure Custody where
  holdings : Multiset Holding := 0
  items : Ledger := {}
  attachments : Ledger := {}
  itemOf : Nat → Nat := fun _ => 0

namespace Custody

variable {custody before after : Custody} {item attachment : Nat} {rest : Multiset Holding}

theorem filterMap_bare : (⟨item, none⟩ ::ₘ rest : Multiset Holding).filterMap (·.attachment) =
    rest.filterMap (·.attachment) :=
  Multiset.filterMap_cons_none _ _ rfl

theorem filterMap_attached :
    (⟨item, some attachment⟩ ::ₘ rest : Multiset Holding).filterMap (·.attachment) =
      attachment ::ₘ rest.filterMap (·.attachment) :=
  Multiset.filterMap_cons_some _ _ _ rfl

/-- `holdings` is what is held afterwards; every step but the first changes one holding. -/
inductive Step (custody : Custody) : Custody → Prop where
  | same (holdings : Multiset Holding) (kept : holdings = custody.holdings) :
      Step custody { custody with holdings }
  | obtain (holdings : Multiset Holding)
      (obtained : holdings = ⟨custody.items.issued, none⟩ ::ₘ custody.holdings) :
      Step custody { custody with holdings, items := custody.items.issue }
  | attach (item : Nat) (rest holdings : Multiset Holding)
      (held : custody.holdings = ⟨item, none⟩ ::ₘ rest)
      (attached : holdings = ⟨item, some custody.attachments.issued⟩ ::ₘ rest) :
      Step custody { custody with
        holdings
        attachments := custody.attachments.issue
        itemOf := Function.update custody.itemOf custody.attachments.issued item }
  | detach (item attachment : Nat) (rest holdings : Multiset Holding)
      (held : custody.holdings = ⟨item, some attachment⟩ ::ₘ rest)
      (detached : holdings = ⟨item, none⟩ ::ₘ rest) :
      Step custody { custody with
        holdings, attachments := custody.attachments.giveBack attachment }
  | discard (item : Nat) (holdings : Multiset Holding)
      (held : custody.holdings = ⟨item, none⟩ ::ₘ holdings) :
      Step custody { custody with holdings, items := custody.items.giveBack item }

def beside (custody : Custody) (others : Multiset Holding) : Custody :=
  { custody with holdings := custody.holdings + others }

/-- A step leaves alone what others hold. -/
theorem Step.beside (step : Step before after) (others : Multiset Holding) :
    Step (before.beside others) (after.beside others) := by
  cases step with
  | same holdings kept =>
      subst kept
      exact .same _ rfl
  | obtain holdings obtained =>
      subst obtained
      exact .obtain _ (Multiset.cons_add ..)
  | attach item rest holdings held attached =>
      subst attached
      refine .attach item (rest + others) _ ?_ (Multiset.cons_add ..)
      rw [Custody.beside, held, Multiset.cons_add]
  | detach item attachment rest holdings held detached =>
      subst detached
      refine .detach item attachment (rest + others) _ ?_ (Multiset.cons_add ..)
      rw [Custody.beside, held, Multiset.cons_add]
  | discard item holdings held =>
      refine .discard item _ ?_
      rw [Custody.beside, held, Multiset.cons_add]

/-- Both ledgers balance, and an attachment is held with the item it was made to. -/
structure Sound (custody : Custody) : Prop where
  items : custody.items.Balanced (custody.holdings.map (·.item))
  attachments : custody.attachments.Balanced (custody.holdings.filterMap (·.attachment))
  attached : ∀ holding ∈ custody.holdings, ∀ attachment, holding.attachment = some attachment →
    custody.itemOf attachment = holding.item

theorem sound_empty : Sound {} where
  items := Ledger.balanced_empty
  attachments := Ledger.balanced_empty
  attached := by simp

theorem Sound.step (sound : Sound before) (step : Step before after) : Sound after := by
  obtain ⟨items, attachments, attached⟩ := sound
  cases step with
  | same holdings kept =>
      subst kept
      exact ⟨items, attachments, attached⟩
  | obtain holdings obtained =>
      subst obtained
      refine ⟨?_, ?_, ?_⟩
      · rw [Multiset.map_cons]
        exact items.issue
      · rw [filterMap_bare]
        exact attachments
      · intro holding member attachment holds
        rcases Multiset.mem_cons.mp member with rfl | old
        · cases holds
        · exact attached holding old attachment holds
  | attach item rest holdings held new =>
      subst new
      rw [held] at items attachments attached
      rw [Multiset.map_cons] at items
      rw [filterMap_bare] at attachments
      refine ⟨?_, ?_, ?_⟩
      · rw [Multiset.map_cons]
        exact items
      · rw [filterMap_attached]
        exact attachments.issue
      · intro holding member attachment holds
        rcases Multiset.mem_cons.mp member with rfl | old
        · cases holds
          exact Function.update_self ..
        · have known : attachment < before.attachments.issued :=
            attachments.known ((Multiset.mem_filterMap _ _).mpr ⟨holding, old, holds⟩)
          exact (Function.update_of_ne (Nat.ne_of_lt known) _ _).trans
            (attached holding (Multiset.mem_cons_of_mem old) attachment holds)
  | detach item attachment rest holdings held new =>
      subst new
      rw [held] at items attachments attached
      rw [Multiset.map_cons] at items
      rw [filterMap_attached] at attachments
      refine ⟨?_, ?_, ?_⟩
      · rw [Multiset.map_cons]
        exact items
      · rw [filterMap_bare]
        exact attachments.giveBack
      · intro holding member other holds
        rcases Multiset.mem_cons.mp member with rfl | old
        · cases holds
        · exact attached holding (Multiset.mem_cons_of_mem old) other holds
  | discard item holdings held =>
      rw [held] at items attachments attached
      rw [Multiset.map_cons] at items
      rw [filterMap_bare] at attachments
      refine ⟨items.giveBack, attachments, ?_⟩
      intro holding member attachment holds
      exact attached holding (Multiset.mem_cons_of_mem member) attachment holds

/-- Items come to the holders by being handed out, and leave them by being given back. -/
theorem Step.count (step : Step before after) (item : Nat) :
    (after.holdings.map (·.item)).count item + after.items.returned.count item +
        before.items.handedOut item =
      (before.holdings.map (·.item)).count item + before.items.returned.count item +
        after.items.handedOut item := by
  cases step with
  | same holdings kept => rw [kept]
  | obtain holdings obtained =>
      rw [Ledger.handedOut_issue, obtained, Multiset.map_cons, Multiset.count_cons]
      simp only [Ledger.issue]
      omega
  | attach other rest holdings held attached =>
      simp only [held, attached, Multiset.map_cons, Multiset.count_cons]
  | detach other attachment rest holdings held detached =>
      simp only [held, detached, Multiset.map_cons, Multiset.count_cons]
  | discard other holdings held =>
      have handed : (before.items.giveBack other).handedOut item = before.items.handedOut item := rfl
      rw [handed, held, Multiset.map_cons, Multiset.count_cons]
      simp only [Ledger.giveBack, Multiset.count_cons]
      omega

theorem Step.handedOut_le (step : Step before after) (item : Nat) :
    before.items.handedOut item ≤ after.items.handedOut item := by
  cases step with
  | obtain holdings obtained =>
      rw [Ledger.handedOut_issue]
      exact Nat.le_add_right _ _
  | same | attach | detach | discard => exact Nat.le_refl _

theorem Step.returned_le (step : Step before after) (item : Nat) :
    before.items.returned.count item ≤ after.items.returned.count item := by
  cases step with
  | discard other holdings held => exact Multiset.count_le_count_cons item other _
  | same | obtain | attach | detach => exact Nat.le_refl _

/-- What one holder has, nobody beside it has. -/
theorem Sound.exclusive {held others : Multiset Holding} {holding other : Holding}
    (sound : Sound custody) (holdings : custody.holdings = held + others) (mine : holding ∈ held)
    (theirs : other ∈ others) : holding.item ≠ other.item := by
  have distinct := (Multiset.nodup_add.mp sound.items.nodup).1
  rw [holdings, Multiset.map_add] at distinct
  have apart := (Multiset.nodup_add.mp distinct).2.2
  have taken : holding.item ∈ held.map (·.item) := Multiset.mem_map_of_mem _ mine
  intro same
  rw [same] at taken
  exact Multiset.disjoint_left.mp apart taken (Multiset.mem_map_of_mem _ theirs)

/-- An item is not discarded while an attachment to it is in force. -/
theorem Sound.item_kept (sound : Sound custody) (known : attachment < custody.attachments.issued)
    (kept : attachment ∉ custody.attachments.returned) :
    custody.itemOf attachment ∉ custody.items.returned := by
  have held := sound.attachments.held_of_kept known kept
  obtain ⟨holding, member, holds⟩ := (Multiset.mem_filterMap _ _).mp held
  rw [sound.attached holding member attachment holds]
  exact sound.items.not_returned (Multiset.mem_map_of_mem _ member)

theorem Sound.all_returned (sound : Sound custody) (nothing : custody.holdings = 0) :
    custody.items.returned = Multiset.range custody.items.issued ∧
      custody.attachments.returned = Multiset.range custody.attachments.issued := by
  have items := sound.items
  have attachments := sound.attachments
  rw [nothing] at items attachments
  rw [Ledger.Balanced, Multiset.map_zero, Multiset.zero_add] at items
  rw [Ledger.Balanced, Multiset.filterMap_zero, Multiset.zero_add] at attachments
  exact ⟨items, attachments⟩

end Custody

end Us3Turbo.Data
