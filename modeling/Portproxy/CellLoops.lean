import Mathlib.Order.Filter.AtTopBot.Basic
import Portproxy.LinkedCells

/-! Loops over lists in memory: a walk that may return at a cell, the search for a
cell, and taking out the cell that was found. A loop gets as many steps as it may
make; what it comes to does not depend on them once they suffice. -/
namespace LinkedCells
open Filter

universe u v w x

/-- What a run comes to with any number of steps that suffices. -/
abbrev Settles {γ : Type u} (run : Nat → Option γ) (result : γ) : Prop :=
  ∀ᶠ steps in atTop, run steps = some result

theorem Settles.of_ge {γ : Type u} {run : Nat → Option γ} {result : γ} (bound : Nat)
    (ran : ∀ steps ≥ bound, run steps = some result) : Settles run result :=
  eventually_atTop.mpr ⟨bound, ran⟩

/-- One step that does not count. -/
theorem Settles.of_succ {γ : Type u} {run : Nat → Option γ} {result : γ}
    (later : Settles (fun steps => run (steps + 1)) result) : Settles run result := by
  rw [Settles, ← map_add_atTop_eq_nat 1]
  exact later

variable {Addr : Type u} {α : Type v} {σ : Type w} {β : Type x}

/-- A loop from `start` on that keeps a state and may return. -/
def walk (visit : σ → Addr → α → Except β σ) (heap : Heap Addr α) :
    Nat → σ → Option Addr → Option (Except β σ)
  | 0, _, _ => none
  | _ + 1, state, none => some (.ok state)
  | steps + 1, state, some addr =>
    (heap addr).bind fun cell =>
      match visit state addr cell.value with
      | .error result => some (.error result)
      | .ok next => walk visit heap steps next cell.next

/-- A loop that looks for a cell, and remembers the one in front of it. -/
def seek (test : α → Bool) (prev : Option Addr) (addr : Addr) (value : α) :
    Except (Option Addr × Addr) (Option Addr) :=
  if test value then .error (prev, addr) else .ok (some addr)

/-- The first cell that passes the test. -/
def findCell (test : α → Bool) (heap : Heap Addr α) (start : Option Addr) (steps : Nat) :
    Option (Option Addr) :=
  (walk (seek test) heap steps none start).map fun found =>
    match found with
    | .error (_, addr) => some addr
    | .ok _ => none

variable {heap : Heap Addr α} {start : Option Addr} {cells kept rest : List (Addr × α)} {test : α → Bool}

/-- Every cell of a list is stored. -/
theorem Chain.stored (chain : Chain heap start cells) (member : (addr, value) ∈ cells) :
    ∃ next, heap addr = some ⟨value, next⟩ := by
  obtain ⟨before, after, rfl⟩ := List.append_of_mem member
  obtain ⟨middle, -, later⟩ := path_append.mp chain
  cases later with
  | cons stored => exact ⟨_, stored⟩

theorem Chain.walk (chain : Chain heap start cells) (visit : σ → Addr → α → Except β σ) (state : σ) :
    Settles (fun steps => LinkedCells.walk visit heap steps state start)
      (cells.foldlM (fun state cell => visit state cell.1 cell.2) state) := by
  refine .of_ge (cells.length + 1) fun steps enough => ?_
  induction cells generalizing steps state start with
  | nil =>
    cases chain
    obtain ⟨steps, rfl⟩ := Nat.exists_eq_add_of_le' enough
    rfl
  | cons cell rest ih =>
    cases chain with
    | @cons addr value next _ _ stored behind =>
      obtain ⟨steps, rfl⟩ := Nat.exists_eq_add_of_le' enough
      have later (state : σ) := ih behind state (steps + (rest.length + 1)) (Nat.le_add_left _ _)
      change LinkedCells.walk visit heap (steps + (rest.length + 1) + 1) state (some addr) = _
      rw [List.foldlM_cons, LinkedCells.walk, stored, Option.bind_some]
      cases visit state addr value with
      | error result => rfl
      | ok next => exact later next

theorem seek_absent (test : α → Bool) (apart : ∀ cell ∈ cells, test cell.2 = false) (prev : Option Addr) :
    ∃ last, cells.foldlM (fun prev cell => seek test prev cell.1 cell.2) prev = .ok last := by
  induction cells generalizing prev with
  | nil => exact ⟨prev, rfl⟩
  | cons cell rest ih =>
    obtain ⟨here, later⟩ := List.forall_mem_cons.mp apart
    rw [List.foldlM_cons, seek, here]
    exact ih later _

theorem seek_found (test : α → Bool) (apart : ∀ cell ∈ kept, test cell.2 = false)
    (passes : test value = true) (prev : Option Addr) :
    (kept ++ (addr, value) :: rest).foldlM (fun prev cell => seek test prev cell.1 cell.2) prev =
      .error ((kept.getLast?.map Prod.fst).or prev, addr) := by
  induction kept generalizing prev with
  | nil =>
    rw [List.nil_append, List.foldlM_cons, seek, passes]
    rfl
  | cons cell later ih =>
    obtain ⟨here, behind⟩ := List.forall_mem_cons.mp apart
    rw [List.cons_append, List.foldlM_cons, seek, here]
    refine (ih behind (some cell.1)).trans ?_
    cases later with
    | nil => rfl
    | cons second later => simp [List.getLast?_cons]

/-- A search comes to the end, or to the first cell that passes the test. -/
theorem Chain.sought (chain : Chain heap start cells) (test : α → Bool) :
    ((∀ cell ∈ cells, test cell.2 = false) ∧
        ∃ last, Settles (fun steps => LinkedCells.walk (seek test) heap steps none start) (.ok last)) ∨
      ∃ kept addr value rest, cells = kept ++ (addr, value) :: rest ∧ (∀ cell ∈ kept, test cell.2 = false) ∧
        test value = true ∧ Settles (fun steps => LinkedCells.walk (seek test) heap steps none start)
          (.error (kept.getLast?.map Prod.fst, addr)) := by
  have walked := chain.walk (seek test) none
  cases found : cells.find? fun cell => test cell.2 with
  | none =>
    have apart : ∀ cell ∈ cells, test cell.2 = false := by simpa using found
    obtain ⟨last, absent⟩ := seek_absent test apart none
    rw [absent] at walked
    exact .inl ⟨apart, last, walked⟩
  | some cell =>
    obtain ⟨passes, kept, rest, rfl, apart⟩ := List.find?_eq_some_iff_append.mp found
    have apart : ∀ cell ∈ kept, test cell.2 = false := fun cell member => by simpa using apart cell member
    rw [seek_found test apart passes, Option.or_none] at walked
    exact .inr ⟨kept, cell.1, cell.2, rest, rfl, apart, passes, walked⟩

theorem Chain.findCell (chain : Chain heap start cells) (test : α → Bool) :
    Settles (LinkedCells.findCell test heap start)
      ((cells.find? fun cell => test cell.2).map Prod.fst) := by
  rcases chain.sought test with ⟨apart, last, walked⟩ | ⟨kept, addr, value, rest, rfl, apart, passes, walked⟩
  · rw [List.find?_eq_none.mpr (by simpa using apart)]
    filter_upwards [walked] with steps ran
    simp [LinkedCells.findCell, ran]
  · have found : (kept ++ (addr, value) :: rest).find? (fun cell => test cell.2) = some (addr, value) := by
      rw [List.find?_append, List.find?_eq_none.mpr (by simpa using apart)]
      simp [passes]
    rw [found]
    filter_upwards [walked] with steps ran
    simp [LinkedCells.findCell, ran]

section Writing
variable [DecidableEq Addr]

/-- Take out and free the cell `gone` that comes behind `prev`: memory, and where the
list begins then. -/
def unlink (heap : Heap Addr α) (start prev : Option Addr) (gone : Addr) :
    Option (Heap Addr α × Option Addr) :=
  (heap gone).map fun cell =>
    match prev with
    | none => (free heap gone, cell.next)
    | some prev => (free (setNext heap prev cell.next) gone, start)

/-- Linking a cell elsewhere stores and frees nothing. -/
theorem set_next_stored (heap : Heap Addr α) (other : Addr) (next : Option Addr) (addr : Addr) :
    (setNext heap other next addr).isSome = (heap addr).isSome := by
  unfold setNext
  by_cases same : addr = other
  · subst same
    simp
  · simp [Function.update_of_ne same]

/-- A free sees where something is stored only. -/
theorem free_stored {other : Heap Addr α} (same : ∀ addr, (other addr).isSome = (heap addr).isSome)
    (gone addr : Addr) : (free other gone addr).isSome = (free heap gone addr).isSome := by
  unfold free
  by_cases at' : addr = gone
  · simp [at']
  · simp [Function.update_of_ne at', same]

/-- What follows the cells in front of the one that is taken out follows them
afterwards, and nothing else is freed. -/
theorem Chain.unlink_found (chain : Chain heap start (kept ++ (gone, dead) :: rest)) :
    ∃ after head, LinkedCells.unlink heap start (kept.getLast?.map Prod.fst) gone = some (after, head) ∧
      Chain after head (kept ++ rest) ∧ ∀ addr, (after addr).isSome = (free heap gone addr).isSome := by
  rcases List.eq_nil_or_concat' kept with rfl | ⟨front, ⟨prev, value⟩, rfl⟩
  · have distinct := chain.distinct
    rw [List.nil_append] at chain
    cases chain with
    | @cons _ _ next _ _ stored behind =>
      refine ⟨free heap gone, next, by simp [LinkedCells.unlink, stored], ?_, fun _ => rfl⟩
      exact behind.update (List.nodup_cons.mp distinct).1
  · have shape : front ++ [(prev, value)] ++ (gone, dead) :: rest =
        front ++ (prev, value) :: (gone, dead) :: rest := by simp
    rw [shape] at chain
    obtain ⟨middle, -, behind⟩ := path_append.mp chain
    cases behind with
    | cons _ behind =>
      cases behind with
      | @cons _ _ next _ _ stored _ =>
        refine ⟨free (setNext heap prev next) gone, start, by simp [LinkedCells.unlink, stored], ?_, ?_⟩
        · rw [List.append_assoc]
          exact chain.unlink stored
        · exact free_stored (set_next_stored heap prev next) gone

/-- A new cell in front of a list. -/
theorem Chain.push (chain : Chain heap start cells) (fresh : heap addr = none) (value : α) :
    Chain (alloc heap addr ⟨value, start⟩) (some addr) ((addr, value) :: cells) := by
  have absent : addr ∉ cells.map Prod.fst := by
    intro member
    obtain ⟨⟨_, held⟩, among, rfl⟩ := List.mem_map.mp member
    obtain ⟨next, stored⟩ := chain.stored among
    rw [fresh] at stored
    cases stored
  exact .cons (by simp [alloc]) (chain.update absent)

end Writing

end LinkedCells
