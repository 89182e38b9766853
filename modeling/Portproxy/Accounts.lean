import Mathlib.Data.List.Basic
import Mathlib.Data.List.Induction

/-! Accounts of items that are entered and later leave, either settled or
lapsed. A ledger lists what has been entered and what has left; it balances
against the items still live. -/
namespace Accounts
open scoped List

universe u v

structure Ledger (α : Type u) where
  entered : List α := []
  settled : List α := []
  lapsed : List α := []

variable {α : Type u} {κ : Type v} {ledger : Ledger α} {live : List α} {a : α}

namespace Ledger

instance : Append (Ledger α) where
  append first second :=
    ⟨first.entered ++ second.entered, first.settled ++ second.settled, first.lapsed ++ second.lapsed⟩

@[simp] theorem append_nothing (ledger : Ledger α) : ledger ++ ({} : Ledger α) = ledger := by
  change Ledger.mk _ _ _ = _
  simp

@[simp] theorem entered_append (first second : Ledger α) :
    (first ++ second).entered = first.entered ++ second.entered := rfl

/-- Every item entered has been settled, has lapsed or is live: one of the
three, and once. -/
def Balanced (ledger : Ledger α) (live : List α) : Prop :=
  ledger.settled ++ (live ++ ledger.lapsed) ~ ledger.entered

theorem balanced_empty : Balanced ({} : Ledger α) [] := .refl _

namespace Balanced

theorem enter (balanced : ledger.Balanced live) :
    (ledger ++ ({ entered := [a] } : Ledger α)).Balanced (a :: live) := by
  change ledger.settled ++ [] ++ (a :: live ++ (ledger.lapsed ++ [])) ~ ledger.entered ++ [a]
  simp only [List.append_nil, List.cons_append]
  calc ledger.settled ++ a :: (live ++ ledger.lapsed)
    _ ~ a :: (ledger.settled ++ (live ++ ledger.lapsed)) := List.perm_middle
    _ ~ a :: ledger.entered := List.Perm.cons a balanced
    _ ~ ledger.entered ++ [a] := (List.perm_append_singleton a _).symm

theorem settle [DecidableEq α] (balanced : ledger.Balanced live) (member : a ∈ live) :
    (ledger ++ ({ settled := [a] } : Ledger α)).Balanced (live.erase a) := by
  change ledger.settled ++ [a] ++ (live.erase a ++ (ledger.lapsed ++ [])) ~ ledger.entered ++ []
  simp only [List.append_nil, List.append_assoc, List.singleton_append]
  have back : List.Perm (a :: live.erase a) live := (List.perm_cons_erase member).symm
  calc ledger.settled ++ a :: (live.erase a ++ ledger.lapsed)
    _ ~ ledger.settled ++ (live ++ ledger.lapsed) := (back.append_right _).append_left _
    _ ~ ledger.entered := balanced

theorem lapse (balanced : ledger.Balanced live) (keep : α → Bool) :
    (ledger ++ ({ lapsed := live.filter (!keep ·) } : Ledger α)).Balanced (live.filter keep) := by
  change ledger.settled ++ [] ++ (live.filter keep ++ (ledger.lapsed ++ live.filter (!keep ·))) ~
    ledger.entered ++ []
  simp only [List.append_nil]
  have parts : List.Perm (live.filter keep ++ live.filter (!keep ·)) live :=
    List.filter_append_perm keep live
  calc ledger.settled ++ (live.filter keep ++ (ledger.lapsed ++ live.filter (!keep ·)))
    _ ~ ledger.settled ++ (live.filter keep ++ (live.filter (!keep ·) ++ ledger.lapsed)) :=
        (List.perm_append_comm.append_left _).append_left _
    _ ~ ledger.settled ++ (live ++ ledger.lapsed) := by
        simpa using (parts.append_right ledger.lapsed).append_left ledger.settled
    _ ~ ledger.entered := balanced

/-- The account of the items with a property. -/
theorem count (balanced : ledger.Balanced live) (property : α → Bool) :
    ledger.entered.countP property =
      ledger.settled.countP property + live.countP property + ledger.lapsed.countP property := by
  simp only [← List.Perm.countP_eq property balanced, List.countP_append, Nat.add_assoc]

end Balanced

/-! ## What is outstanding -/

section Outstanding
variable [DecidableEq α]

/-- The items entered and not settled, the latest first. -/
def outstanding (ledger : Ledger α) : List α := ledger.entered.reverse.filter (· ∉ ledger.settled)

theorem outstanding_enter (fresh : a ∉ ledger.settled) :
    (ledger ++ ({ entered := [a] } : Ledger α)).outstanding = a :: ledger.outstanding := by
  change ((ledger.entered ++ [a]).reverse.filter (· ∉ ledger.settled ++ [])) = _
  simp [outstanding, fresh]

theorem outstanding_settle :
    (ledger ++ ({ settled := [a] } : Ledger α)).outstanding = ledger.outstanding.filter (· != a) := by
  change ((ledger.entered ++ []).reverse.filter (· ∉ ledger.settled ++ [a])) = _
  rw [outstanding, List.filter_filter, List.append_nil]
  apply List.filter_congr
  intro b _
  by_cases same : b = a <;> simp [same]

theorem outstanding_lapse (gone : List α) :
    (ledger ++ ({ lapsed := gone } : Ledger α)).outstanding = ledger.outstanding := by
  change ((ledger.entered ++ []).reverse.filter (· ∉ ledger.settled ++ [])) = _
  rw [List.append_nil, List.append_nil, outstanding]

end Outstanding
end Ledger

/-! ## What is entered for what -/

/-- Each item of one kind stands directly behind one that it is for. -/
def Follows (kind : α → Prop) (of : α → α → Prop) (items : List α) : Prop :=
  ∀ before item after, items = before ++ item :: after → kind item →
    ∃ earlier cause, before = earlier ++ [cause] ∧ of cause item

namespace Follows

variable {kind : α → Prop} {of : α → α → Prop} {items first second : List α}

theorem none (without : ∀ item ∈ items, ¬ kind item) : Follows kind of items := by
  intro before item after split here
  exact absurd here (without item (by simp [split]))

/-- An item behind the one that it is for. -/
theorem pair {cause item : α} (idle : ¬ kind cause) (caused : of cause item) : Follows kind of [cause, item] := by
  intro before other after split here
  rcases before with _ | ⟨first, _ | ⟨second, more⟩⟩
  · obtain ⟨rfl, -⟩ := List.cons_eq_cons.mp split
    exact absurd here idle
  · obtain ⟨rfl, behind⟩ := List.cons_eq_cons.mp split
    obtain ⟨rfl, -⟩ := List.cons_eq_cons.mp behind
    exact ⟨[], _, rfl, caused⟩
  · simp at split

theorem append (first' : Follows kind of first) (second' : Follows kind of second) :
    Follows kind of (first ++ second) := by
  intro before item after split here
  rcases List.append_eq_append_iff.mp split with ⟨more, rfl, behind⟩ | ⟨more, inFront, behind⟩
  · obtain ⟨earlier, cause, rfl, caused⟩ := second' more item after behind here
    exact ⟨first ++ earlier, cause, (List.append_assoc ..).symm, caused⟩
  · cases more with
    | nil =>
      obtain ⟨earlier, cause, none, -⟩ := second' [] item after behind.symm here
      simp at none
    | cons next more =>
      obtain ⟨rfl, -⟩ := List.cons_eq_cons.mp behind
      exact first' before item more inFront here

/-- There are no more of that kind than of what they are for. -/
theorem count_le (follows : Follows kind of items) {counted causes : α → Bool}
    (kinds : ∀ item, counted item → kind item)
    (caused : ∀ cause item, of cause item → counted item → causes cause) :
    items.countP counted ≤ items.countP causes := by
  suffices front : items.countP counted ≤ items.dropLast.countP causes from
    Nat.le_trans front (List.dropLast_sublist items).countP_le
  induction items using List.reverseRecOn with
  | nil => simp
  | append_singleton items item ih =>
    have within : Follows kind of items := by
      intro before other after split here
      exact follows before other (after ++ [item]) (by simp [split]) here
    rw [List.dropLast_concat, List.countP_append, List.countP_singleton]
    by_cases here : counted item
    · obtain ⟨earlier, cause, rfl, of⟩ := follows items item [] (by simp) (kinds item here)
      have front := ih within
      rw [List.dropLast_concat] at front
      have split : (earlier ++ [cause]).countP causes = earlier.countP causes + 1 := by
        rw [List.countP_append, List.countP_singleton, if_pos (caused cause item of here)]
      rw [if_pos here]
      omega
    · rw [if_neg here, Nat.add_zero]
      exact Nat.le_trans (ih within) (List.dropLast_sublist items).countP_le

end Follows

end Accounts
