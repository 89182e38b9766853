import Mathlib.Data.List.Nodup
import Mathlib.Data.List.Basic

/-! Lists of entries that are looked up and removed by a key, and tables whose
linked entries come in pairs, each naming the other by its key. -/
namespace KeyedList

universe u v

variable {α : Type u} {κ : Type v} {key : α → κ} {entries : List α}

/-- No two entries share a key. -/
def Distinct (key : α → κ) (entries : List α) : Prop := (entries.map key).Nodup

instance [DecidableEq κ] : Decidable (Distinct key entries) := inferInstanceAs (Decidable (entries.map key).Nodup)

theorem Distinct.nodup (distinct : Distinct key entries) : entries.Nodup :=
  List.Nodup.of_map _ distinct

theorem Distinct.sublist (distinct : Distinct key entries) (part : List.Sublist kept entries) :
    Distinct key kept :=
  List.Nodup.sublist (part.map _) distinct

theorem Distinct.same (distinct : Distinct key entries) (left : a ∈ entries) (right : b ∈ entries)
    (keys : key a = key b) : a = b :=
  List.inj_on_of_nodup_map distinct left right keys

theorem Distinct.cons (distinct : Distinct key entries) (fresh : key a ∉ entries.map key) :
    Distinct key (a :: entries) :=
  List.nodup_cons.mpr ⟨fresh, distinct⟩

/-- What stands in front of an entry has other keys. -/
theorem Distinct.apart (distinct : Distinct key (before ++ a :: after)) (member : b ∈ before) :
    key b ≠ key a := by
  intro same
  rw [Distinct, List.map_append] at distinct
  have disjoint := List.disjoint_of_nodup_append distinct
  exact disjoint (List.mem_map_of_mem member) (by simp [same])

section Removal
variable [DecidableEq κ]

/-- An entry is what a lookup of its key finds. -/
theorem Distinct.find (distinct : Distinct key entries) (member : a ∈ entries) :
    entries.find? (fun b => key b = key a) = some a := by
  cases found : entries.find? (fun b => key b = key a) with
  | none => simpa using List.find?_eq_none.mp found a member
  | some b =>
    have held := List.mem_of_find?_eq_some found
    have keys : key b = key a := by simpa using List.find?_some found
    rw [distinct.same held member keys]

/-- Removing the first entry with a key removes exactly what has that key. -/
theorem Distinct.eraseP_filters (distinct : Distinct key entries) (k : κ) :
    entries.eraseP (fun a => key a = k) = entries.filter (fun a => key a ≠ k) := by
  induction entries with
  | nil => rfl
  | cons a rest ih =>
    have tail := ih (distinct.sublist (List.sublist_cons_self a rest))
    by_cases here : key a = k
    · have absent : ∀ b ∈ rest, key b ≠ k := by
        intro b member same
        exact (List.nodup_cons.mp distinct).1 (here.trans same.symm ▸ List.mem_map_of_mem member)
      have unchanged : rest.filter (fun b => key b ≠ k) = rest :=
        List.filter_eq_self.mpr (by simpa using absent)
      simp only [here, decide_true, List.eraseP_cons_of_pos, ne_eq, not_true_eq_false,
        decide_false, Bool.false_eq_true, not_false_eq_true, List.filter_cons_of_neg]
      simpa using unchanged.symm
    · simp [here, tail]

/-- Removing an entry by its key removes that entry. -/
theorem Distinct.eraseP_erases [DecidableEq α] (distinct : Distinct key entries)
    (member : a ∈ entries) : entries.eraseP (fun b => key b = key a) = entries.erase a := by
  rw [distinct.eraseP_filters, distinct.nodup.erase_eq_filter]
  apply List.filter_congr
  intro b held
  by_cases same : b = a
  · simp [same]
  · have apart : key b ≠ key a := fun keys => same (distinct.same held member keys)
    simp [same, apart]

end Removal

/-! ## Paired tables -/

/-- Every linked entry names another linked entry, which names it back. -/
structure Paired (key mate : α → κ) (linked : α → Prop) (entries : List α) : Prop where
  distinct : Distinct key entries
  mated : ∀ a ∈ entries, linked a →
    ∃ b ∈ entries, linked b ∧ key b = mate a ∧ mate b = key a ∧ key b ≠ key a

variable {mate : α → κ} {linked : α → Prop}

namespace Paired

/-- Entries that are not linked take no part in the pairing. -/
theorem of_unlinked (distinct : Distinct key entries) (none : ∀ a ∈ entries, ¬ linked a) :
    Paired key mate linked entries :=
  ⟨distinct, fun a member held => absurd held (none a member)⟩

/-- Two new entries that name each other keep the table paired. -/
theorem add (paired : Paired key mate linked entries) (linkedA : linked a) (linkedB : linked b)
    (forth : mate a = key b) (back : mate b = key a) (apart : key a ≠ key b)
    (freshA : key a ∉ entries.map key) (freshB : key b ∉ entries.map key) :
    Paired key mate linked (b :: a :: entries) where
  distinct := (paired.distinct.cons freshA).cons (by
    simp only [List.map_cons, List.mem_cons, not_or]
    exact ⟨Ne.symm apart, freshB⟩)
  mated := by
    intro c member held
    simp only [List.mem_cons] at member
    rcases member with rfl | rfl | member
    · exact ⟨a, by simp, linkedA, back.symm, forth, apart⟩
    · exact ⟨b, by simp, linkedB, forth.symm, back, apart.symm⟩
    · obtain ⟨d, inside, linkedD, named, namedBack, different⟩ := paired.mated c member held
      exact ⟨d, by simp [inside], linkedD, named, namedBack, different⟩

/-- Removing an entry together with the one it names keeps the table paired. -/
theorem remove [DecidableEq κ] (paired : Paired key mate linked entries) (member : a ∈ entries) (held : linked a) :
    Paired key mate linked
      ((entries.filter fun b => key b ≠ key a).filter fun b => key b ≠ mate a) where
  distinct := paired.distinct.sublist (List.filter_sublist.trans List.filter_sublist)
  mated := by
    intro c left heldC
    simp only [List.mem_filter, decide_eq_true_eq] at left
    obtain ⟨⟨inside, notA⟩, notMate⟩ := left
    obtain ⟨b, memberB, linkedB, namedB, backB, _⟩ := paired.mated a member held
    obtain ⟨d, memberD, linkedD, named, back, different⟩ := paired.mated c inside heldC
    refine ⟨d, ?_, linkedD, named, back, different⟩
    simp only [List.mem_filter, decide_eq_true_eq]
    refine ⟨⟨memberD, ?_⟩, ?_⟩
    · -- were the mate of `c` the removed `a`, `c` would be the mate of `a`
      intro same
      have isA := paired.distinct.same memberD member same
      exact notMate (by rw [← isA, back])
    · intro same
      have isB := paired.distinct.same memberD memberB (same.trans namedB.symm)
      exact notA (by rw [← back, isB, backB])

end Paired
end KeyedList
