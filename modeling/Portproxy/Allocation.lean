import Mathlib.Data.Finset.Card
import Mathlib.Data.Finset.Range
import Mathlib.Logic.Function.Basic

/-! How many blocks of a memory are allocated, where new blocks get numbers in
order and no number is used again. -/
namespace Allocation

universe u

/-- So many of the blocks below the frontier are allocated, and none beyond it. -/
structure Allocated {α : Type u} (memory : Nat → Option α) (frontier count : Nat) : Prop where
  fresh : ∀ addr ≥ frontier, memory addr = none
  card : ((Finset.range frontier).filter fun addr => (memory addr).isSome).card = count

variable {α : Type u} {memory other : Nat → Option α} {frontier count addr : Nat} {value : α}

namespace Allocated

theorem none : Allocated (fun _ => Option.none : Nat → Option α) frontier 0 := ⟨fun _ _ => rfl, by simp⟩

theorem below (allocated : Allocated memory frontier count) (stored : memory addr = some value) :
    addr < frontier := by
  by_contra beyond
  rw [allocated.fresh addr (Nat.not_lt.mp beyond)] at stored
  cases stored

/-- Only which blocks are allocated counts, not what they hold. -/
theorem congr (allocated : Allocated memory frontier count)
    (same : ∀ addr, (other addr).isSome = (memory addr).isSome) : Allocated other frontier count where
  fresh addr beyond := by
    have empty := same addr
    rw [allocated.fresh addr beyond] at empty
    exact Option.not_isSome_iff_eq_none.mp (by simp [empty])
  card := by
    rw [← allocated.card]
    exact congrArg Finset.card (Finset.filter_congr fun addr _ => by rw [same])

theorem alloc (allocated : Allocated memory frontier count) (value : α) :
    Allocated (Function.update memory frontier (some value)) (frontier + 1) (count + 1) where
  fresh addr beyond := by
    rw [Function.update_of_ne (by omega)]
    exact allocated.fresh addr (by omega)
  card := by
    have before : ∀ addr ∈ Finset.range frontier,
        (Function.update memory frontier (some value) addr).isSome = (memory addr).isSome := by
      intro addr below
      rw [Function.update_of_ne (Nat.ne_of_lt (Finset.mem_range.mp below))]
    rw [Finset.range_add_one, Finset.filter_insert, if_pos (by simp), Finset.card_insert_of_notMem (by simp),
      Finset.filter_congr fun addr below => by rw [before addr below], allocated.card]

theorem free (allocated : Allocated memory frontier count) (stored : (memory addr).isSome) :
    Allocated (Function.update memory addr Option.none) frontier (count - 1) where
  fresh other beyond := by
    by_cases same : other = addr
    · simp [same]
    · rw [Function.update_of_ne same]
      exact allocated.fresh other beyond
  card := by
    obtain ⟨value, held⟩ := Option.isSome_iff_exists.mp stored
    have erased : (Finset.range frontier).filter
          (fun other => (Function.update memory addr Option.none other).isSome) =
        ((Finset.range frontier).filter fun other => (memory other).isSome).erase addr := by
      ext other
      by_cases same : other = addr <;> simp [same]
    rw [erased, Finset.card_erase_of_mem (by simp [allocated.below held, stored]), allocated.card]

end Allocated
end Allocation
