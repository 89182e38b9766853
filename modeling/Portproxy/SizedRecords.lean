import Mathlib.Data.List.Forall2
import Mathlib.Data.List.Basic

/-! Records that lie one behind the other in memory, each at an aligned place and
with a header that tells its size. A loop over them goes by what the headers say
and by how many bytes are left; records that were written whole are come by
whole, wherever the bytes end. -/
namespace SizedRecords

universe u v

/-- How long a header is, where a record may begin, and what a header says of the
size of its record, the header included. -/
structure Layout where
  header : Nat
  align : Nat
  size : List UInt8 → Nat
  header_pos : 0 < header
  align_pos : 0 < align
  /-- The size is read from the header. -/
  size_append : ∀ bytes rest, header ≤ bytes.length → size (bytes ++ rest) = size bytes

namespace Layout

/-- The place of the next record. -/
def padded (L : Layout) (size : Nat) : Nat := (size + (L.align - 1)) / L.align * L.align

/-- A record of its own size begins here and ends within `len` bytes. -/
abbrev Fits (L : Layout) (len : Int) (mem : List UInt8) : Prop :=
  L.header ≤ len ∧ L.header ≤ L.size mem ∧ L.size mem ≤ len

variable {L : Layout}

theorem le_padded (L : Layout) (size : Nat) : size ≤ L.padded size := by
  have whole := Nat.div_add_mod (size + (L.align - 1)) L.align
  have part := Nat.mod_lt (size + (L.align - 1)) L.align_pos
  rw [Nat.mul_comm] at whole
  unfold padded
  omega

theorem padded_lt (L : Layout) (size : Nat) : L.padded size < size + L.align := by
  have whole := Nat.div_mul_le_self (size + (L.align - 1)) L.align
  have positive := L.align_pos
  unfold padded
  omega

end Layout

/-- What a loop over records comes to. -/
inductive Scanned (State : Type u) (Stop : Type v) where
  /-- At some record it returned. -/
  | returned (result : Stop)
  /-- No record fits in the bytes that are left. -/
  | ended (state : State) (left : Int) (rest : List UInt8)
  /-- It read a header where there is no memory. -/
  | outside

variable {L : Layout} {State : Type u} {Stop : Type v}

/-- The loop: as long as a record fits, visit it and go to the next place. What
is visited is memory from the record on. -/
def scan (L : Layout) (visit : State → List UInt8 → Except Stop State) (state : State) (len : Int)
    (mem : List UInt8) : Scanned State Stop :=
  if len < L.header then .ended state len mem
  else if mem.length < L.header then .outside
  else if L.size mem < L.header ∨ len < L.size mem then .ended state len mem
  else
    match visit state mem with
    | .error result => .returned result
    | .ok state => scan L visit state (len - L.padded (L.size mem)) (mem.drop (L.padded (L.size mem)))
termination_by len.toNat
decreasing_by
  have header := L.header_pos
  have further := L.le_padded (L.size mem)
  omega

/-! ## The records of a loop -/

/-- The records a loop comes by, and where it ends. -/
structure Walk where
  records : List (List UInt8)
  left : Int
  rest : List UInt8

def walk (L : Layout) (len : Int) (mem : List UInt8) : Walk :=
  if L.Fits len mem then
    let later := walk L (len - L.padded (L.size mem)) (mem.drop (L.padded (L.size mem)))
    { later with records := mem :: later.records }
  else ⟨[], len, mem⟩
termination_by len.toNat
decreasing_by
  rename_i fits
  have header := L.header_pos
  have further := L.le_padded (L.size mem)
  omega

theorem walk_stop (misfit : ¬ L.Fits len mem) : walk L len mem = ⟨[], len, mem⟩ := by
  rw [walk, if_neg misfit]

theorem walk_next (fits : L.Fits len mem) :
    walk L len mem =
      { walk L (len - L.padded (L.size mem)) (mem.drop (L.padded (L.size mem))) with
        records := mem ::
          (walk L (len - L.padded (L.size mem)) (mem.drop (L.padded (L.size mem)))).records } := by
  rw [walk, if_pos fits]

/-- A loop with as much memory as it has bytes left reads no header outside. -/
theorem scan_eq (visit : State → List UInt8 → Except Stop State) (state : State)
    (inside : len ≤ mem.length) :
    scan L visit state len mem =
      match (walk L len mem).records.foldlM visit state with
      | .error result => .returned result
      | .ok final => .ended final (walk L len mem).left (walk L len mem).rest := by
  induction len, mem using walk.induct L generalizing state with
  | case1 len mem fits ih =>
    have further := L.le_padded (L.size mem)
    have header := L.header_pos
    rw [scan, walk_next fits, if_neg (by omega), if_neg (by omega), if_neg (by omega)]
    rw [List.foldlM_cons]
    cases visit state mem with
    | error result => rfl
    | ok next => exact ih next (by rw [List.length_drop]; omega)
  | case2 len mem misfit =>
    rw [walk_stop misfit, scan]
    by_cases short : len < L.header
    · rw [if_pos short]
      rfl
    · rw [if_neg short, if_neg (by omega), if_pos (by omega)]
      rfl

/-- Every record lies within the bytes. -/
theorem walk_inside (inside : len ≤ mem.length) (member : record ∈ (walk L len mem).records) :
    ∃ before, mem = before ++ record ∧ L.header ≤ L.size record ∧
      (before.length + L.size record : Int) ≤ len := by
  induction len, mem using walk.induct L with
  | case1 len mem fits ih =>
    have further := L.le_padded (L.size mem)
    rw [walk_next fits] at member
    rcases List.mem_cons.mp member with rfl | later
    · exact ⟨[], rfl, fits.2.1, by simpa using fits.2.2⟩
    · obtain ⟨before, split, header, ends⟩ := ih (by rw [List.length_drop]; omega) later
      refine ⟨mem.take (L.padded (L.size mem)) ++ before, ?_, header, ?_⟩
      · rw [List.append_assoc, ← split, List.take_append_drop]
      · rw [List.length_append, List.length_take]
        omega
  | case2 len mem misfit =>
    rw [walk_stop misfit] at member
    exact absurd member List.not_mem_nil

/-- A loop ends before the next place after the bytes, and has left out what is
behind it. -/
theorem walk_left (L : Layout) (mem : List UInt8) (some : 0 ≤ len) :
    -(L.align : Int) < (walk L len mem).left ∧ (walk L len mem).left ≤ len ∧
      (walk L len mem).rest = mem.drop (len - (walk L len mem).left).toNat := by
  induction len, mem using walk.induct L with
  | case1 len mem fits ih =>
    have further := L.le_padded (L.size mem)
    have near := L.padded_lt (L.size mem)
    rw [walk_next fits]
    simp only
    by_cases behind : 0 ≤ len - L.padded (L.size mem)
    · obtain ⟨low, high, rest⟩ := ih behind
      refine ⟨low, by omega, ?_⟩
      rw [rest, List.drop_drop]
      congr 1
      omega
    · rw [walk_stop (by have := L.header_pos; omega)]
      refine ⟨by simp only; omega, by simp only; omega, ?_⟩
      simp only
      congr 1
      omega
  | case2 len mem misfit =>
    have positive := L.align_pos
    rw [walk_stop misfit]
    simp only
    exact ⟨by omega, Int.le_refl len, by simp⟩

/-! ## Records that were written -/

/-- The bytes of one record. -/
structure Layout.Record (L : Layout) (bytes : List UInt8) : Prop where
  header : L.header ≤ bytes.length
  size : L.size bytes = bytes.length

/-- Memory that holds these records, padded with whatever there was. -/
inductive Laid (L : Layout) : List (List UInt8) → List UInt8 → Prop where
  | nil : Laid L [] []
  | cons (record : L.Record bytes) (padded : (bytes ++ padding).length = L.padded bytes.length)
      (behind : Laid L records mem) : Laid L (bytes :: records) (bytes ++ padding ++ mem)

theorem Laid.append (first : Laid L records mem) (second : Laid L others mem') :
    Laid L (records ++ others) (mem ++ mem') := by
  induction first with
  | nil => exact second
  | cons record padded _ ih =>
    rw [List.append_assoc]
    exact .cons record padded ih

/-- A record padded with zeroes. -/
def Layout.pad (L : Layout) (bytes : List UInt8) : List UInt8 :=
  bytes ++ List.replicate (L.padded bytes.length - bytes.length) 0

theorem Layout.length_pad (L : Layout) (bytes : List UInt8) : (L.pad bytes).length = L.padded bytes.length := by
  have further := L.le_padded bytes.length
  rw [pad, List.length_append, List.length_replicate]
  omega

theorem laid_pad (all : ∀ bytes ∈ records, L.Record bytes) : Laid L records (records.flatMap L.pad) := by
  induction records with
  | nil => exact .nil
  | cons bytes later ih =>
    rw [List.flatMap_cons]
    exact .cons (all bytes List.mem_cons_self) (L.length_pad bytes)
      (ih fun other member => all other (List.mem_cons_of_mem _ member))

/-- The records that end within `len` bytes. -/
def whole (L : Layout) : Nat → List (List UInt8) → List (List UInt8)
  | _, [] => []
  | len, bytes :: later =>
    if bytes.length ≤ len then bytes :: whole L (len - L.padded bytes.length) later else []

theorem whole_zero (laid : Laid L records mem) : whole L 0 records = [] := by
  cases laid with
  | nil => rfl
  | cons record _ _ =>
    have header := L.header_pos
    have long := record.header
    rw [whole, if_neg (by omega)]

theorem whole_all (laid : Laid L records mem) : whole L mem.length records = records := by
  induction laid with
  | nil => rfl
  | @cons bytes padding _ mem _ padded _ ih =>
    have here : bytes.length ≤ (bytes ++ padding ++ mem).length := by
      simp only [List.length_append]
      omega
    have rest : (bytes ++ padding ++ mem).length - L.padded bytes.length = mem.length := by
      rw [List.length_append, padded]
      omega
    rw [whole, if_pos here, rest, ih]

/-- Over the first `len` bytes of what was written, whatever is behind them, a
loop comes by the records that end there, and each is as it was written. -/
theorem walk_laid (laid : Laid L records mem) (short : len ≤ mem.length) (tail : List UInt8) :
    List.Forall₂ (· <+: ·) (whole L len records) (walk L len (mem.take len ++ tail)).records := by
  induction laid generalizing len with
  | nil =>
    obtain rfl : len = 0 := by simpa using short
    rw [walk_stop (by have := L.header_pos; simp; omega), whole]
    exact .nil
  | @cons bytes padding _ mem record padded later ih =>
    have further := L.le_padded bytes.length
    have header := L.header_pos
    by_cases here : bytes.length ≤ len
    · have split : (bytes ++ padding ++ mem).take len ++ tail =
          bytes ++ ((padding ++ mem).take (len - bytes.length) ++ tail) := by
        rw [List.append_assoc, List.take_append, List.take_of_length_le here, List.append_assoc]
      have size : L.size ((bytes ++ padding ++ mem).take len ++ tail) = bytes.length := by
        rw [split, L.size_append _ _ record.header, record.size]
      have fits : L.Fits len ((bytes ++ padding ++ mem).take len ++ tail) := by
        have long := record.header
        refine ⟨by omega, by omega, by omega⟩
      rw [walk_next fits, size, whole, if_pos here]
      refine .cons ⟨_, split.symm⟩ ?_
      by_cases room : L.padded bytes.length ≤ len
      · have shift : ((bytes ++ padding ++ mem).take len ++ tail).drop (L.padded bytes.length) =
            mem.take (len - L.padded bytes.length) ++ tail := by
          rw [← padded, List.take_append, List.take_of_length_le (padded ▸ room), List.append_assoc,
            List.drop_left]
        have cast : (len : Int) - L.padded bytes.length = ((len - L.padded bytes.length : Nat) : Int) := by
          omega
        rw [shift, cast]
        refine ih ?_
        rw [List.length_append, padded] at short
        omega
      · rw [Nat.sub_eq_zero_of_le (by omega), whole_zero later, walk_stop (by omega)]
        exact .nil
    · have misfit : ¬ L.Fits len ((bytes ++ padding ++ mem).take len ++ tail) := by
        rintro ⟨enough, -, ends⟩
        -- the header is there, and says that the record is longer
        have cut : (bytes ++ padding ++ mem).take len = bytes.take len := by
          rw [List.append_assoc, List.take_append_of_le_length (by omega)]
        have long : L.header ≤ (bytes.take len).length := by
          rw [List.length_take]
          omega
        have size : L.size (bytes.take len) = bytes.length := by
          rw [← L.size_append _ (bytes.drop len) long, List.take_append_drop, record.size]
        rw [cut, L.size_append _ _ long, size] at ends
        omega
      rw [whole, if_neg here, walk_stop misfit]
      exact .nil

/-- The bytes that are left over when all of them were written as records. -/
theorem walk_laid_left (laid : Laid L records mem) (tail : List UInt8) :
    (walk L mem.length (mem ++ tail)).left = 0 ∧ (walk L mem.length (mem ++ tail)).rest = tail := by
  induction laid with
  | nil =>
    rw [walk_stop (by have := L.header_pos; simp; omega)]
    exact ⟨rfl, rfl⟩
  | @cons bytes padding _ mem record padded later ih =>
    have long := record.header
    have split : bytes ++ padding ++ mem ++ tail = bytes ++ (padding ++ mem ++ tail) := by simp
    have size : L.size (bytes ++ padding ++ mem ++ tail) = bytes.length := by
      rw [split, L.size_append _ _ record.header, record.size]
    have total : (bytes ++ padding ++ mem).length = L.padded bytes.length + mem.length := by
      rw [List.length_append, padded]
    have further := L.le_padded bytes.length
    rw [walk_next ⟨by omega, by omega, by omega⟩, size]
    have shift : (bytes ++ padding ++ mem ++ tail).drop (L.padded bytes.length) = mem ++ tail := by
      rw [← padded, List.append_assoc, List.drop_left]
    have cast : ((bytes ++ padding ++ mem).length : Int) - L.padded bytes.length = mem.length := by omega
    rw [shift, cast]
    exact ih

end SizedRecords
