import Mathlib.Algebra.Ring.CharZero
import Mathlib.Algebra.Ring.Int.Defs
import Mathlib.Data.Finset.Card
import Mathlib.Data.Int.Order.Basic

/-! Numbers that are handed out lowest first. As long as no more of them are held
than there are places, all that are held are among the places. -/
namespace LowestFree

variable {held : Finset Int} {n places : Nat}

/-- The lowest number that is not held. -/
structure Lowest (held : Finset Int) (n : Nat) : Prop where
  free : (n : Int) ∉ held
  below : ∀ m < n, (m : Int) ∈ held

/-- All that are held are among the places. -/
abbrev Within (places : Nat) (held : Finset Int) : Prop := ∀ n ∈ held, 0 ≤ n ∧ n < places

theorem lowest_le_card (lowest : Lowest held n) : n ≤ held.card := by
  have inside : (Finset.range n).map Nat.castEmbedding ⊆ held := by
    intro m member
    obtain ⟨m, small, rfl⟩ := Finset.mem_map.mp member
    exact lowest.below m (Finset.mem_range.mp small)
  have card := Finset.card_le_card inside
  rwa [Finset.card_map, Finset.card_range] at card

theorem within_card (within : Within places held) : held.card ≤ places := by
  have inside : held ⊆ (Finset.range places).map Nat.castEmbedding := by
    intro m member
    obtain ⟨low, high⟩ := within m member
    refine Finset.mem_map.mpr ⟨m.toNat, Finset.mem_range.mpr (by omega), ?_⟩
    exact Int.toNat_of_nonneg low
  have card := Finset.card_le_card inside
  rwa [Finset.card_map, Finset.card_range] at card

/-- While a place is free, the next number is one. -/
theorem within_insert (within : Within places held) (lowest : Lowest held n) (room : held.card < places) :
    Within places (insert (n : Int) held) := by
  have first := lowest_le_card lowest
  intro m member
  rcases Finset.mem_insert.mp member with rfl | old
  · omega
  · exact within m old

theorem card_insert_lowest (lowest : Lowest held n) : (insert (n : Int) held).card = held.card + 1 :=
  Finset.card_insert_of_notMem lowest.free

end LowestFree
