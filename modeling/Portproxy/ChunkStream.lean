import Mathlib.Data.List.Basic

/-! A stream that is handed over chunk by chunk. The receiver takes as much of
each chunk as it likes, and what it does not take is not offered again. -/
namespace ChunkStream

universe u

/-- A chunk that was offered, and how many items of it were taken. -/
structure Handover (α : Type u) where
  chunk : List α
  taken : Nat
  deriving DecidableEq, Repr

variable {α : Type u}

namespace Handover

def accepted (handover : Handover α) : List α := handover.chunk.take handover.taken

/-- The receiver took all of the chunk. -/
def Whole (handover : Handover α) : Prop := handover.chunk.length ≤ handover.taken

instance (handover : Handover α) : Decidable handover.Whole := inferInstanceAs (Decidable (_ ≤ _))

theorem accepted_of_whole {handover : Handover α} (whole : handover.Whole) :
    handover.accepted = handover.chunk :=
  List.take_of_length_le whole

end Handover

/-- The stream as it was offered. -/
def offered (handovers : List (Handover α)) : List α := (handovers.map Handover.chunk).flatten

/-- The stream as it was taken. -/
def accepted (handovers : List (Handover α)) : List α := (handovers.map Handover.accepted).flatten

variable {handovers : List (Handover α)}

theorem accepted_of_all_whole (all : ∀ handover ∈ handovers, handover.Whole) :
    accepted handovers = offered handovers := by
  have same : handovers.map Handover.accepted = handovers.map Handover.chunk :=
    List.map_congr_left fun handover member => Handover.accepted_of_whole (all handover member)
  rw [accepted, offered, same]

theorem accepted_length_le (handovers : List (Handover α)) :
    (accepted handovers).length ≤ (offered handovers).length := by
  induction handovers with
  | nil => exact Nat.le_refl _
  | cons handover rest ih =>
    simp only [accepted, offered, List.map_cons, List.flatten_cons, List.length_append,
      Handover.accepted, List.length_take] at ih ⊢
    omega

/-- The receiver has everything that was offered exactly when it took every
chunk whole. -/
theorem caught_up_iff :
    (offered handovers).length ≤ (accepted handovers).length ↔ ∀ handover ∈ handovers, handover.Whole := by
  induction handovers with
  | nil => simp [offered, accepted]
  | cons handover rest ih =>
    have shorter := accepted_length_le rest
    simp only [offered, accepted, List.map_cons, List.flatten_cons, List.length_append,
      Handover.accepted, List.length_take, List.forall_mem_cons] at ih shorter ⊢
    rw [← ih, Handover.Whole]
    omega

/-- As long as every chunk before it was taken whole, a chunk may be cut short
and what was taken still begins the stream. -/
theorem accepted_snoc_prefix (all : ∀ handover ∈ handovers, handover.Whole) (last : Handover α) :
    accepted (handovers ++ [last]) <+: offered (handovers ++ [last]) := by
  have before := accepted_of_all_whole all
  simp only [accepted, offered, List.map_append, List.flatten_append, List.map_cons, List.map_nil,
    List.flatten_cons, List.flatten_nil, List.append_nil] at before ⊢
  rw [before]
  exact (List.prefix_append_right_inj _).mpr (List.take_prefix _ _)

end ChunkStream
