import Mathlib.Data.List.Nodup
import Mathlib.Logic.Function.Basic

/-! Singly linked lists in memory. A cell holds a value and the address of the
cell behind it; where there is none, the address is null. What a head leads to
is a path of cells, and a list is a path that ends in null. -/
namespace LinkedCells

universe u v

structure Cell (Addr : Type u) (α : Type v) where
  value : α
  next : Option Addr

/-- What memory holds at an address, if a cell is allocated there. -/
abbrev Heap (Addr : Type u) (α : Type v) := Addr → Option (Cell Addr α)

variable {Addr : Type u} {α : Type v}

/-- Following `next` from `start` visits these cells and arrives at `stop`. -/
inductive Path (heap : Heap Addr α) : Option Addr → List (Addr × α) → Option Addr → Prop where
  | nil : Path heap start [] start
  | cons (stored : heap addr = some ⟨value, next⟩) (rest : Path heap next cells stop) :
      Path heap (some addr) ((addr, value) :: cells) stop

/-- The list at `head`. -/
abbrev Chain (heap : Heap Addr α) (head : Option Addr) (cells : List (Addr × α)) : Prop :=
  Path heap head cells none

variable {heap other : Heap Addr α} {start stop stop' : Option Addr} {cells first second : List (Addr × α)}

theorem Path.start_eq (path : Path heap start ((addr, value) :: rest) stop) : start = some addr := by
  cases path; rfl

theorem path_append :
    Path heap start (first ++ second) stop ↔
      ∃ middle, Path heap start first middle ∧ Path heap middle second stop := by
  constructor
  · intro path
    induction first generalizing start with
    | nil => exact ⟨start, .nil, path⟩
    | cons cell rest ih =>
      cases path with
      | cons stored behind =>
        obtain ⟨middle, before, after⟩ := ih behind
        exact ⟨middle, .cons stored before, after⟩
  · rintro ⟨middle, before, after⟩
    induction before with
    | nil => exact after
    | cons stored _ ih => exact .cons stored (ih after)

/-- Two walks of the same length from one place are the same walk. -/
theorem Path.same (path : Path heap start first stop) (path' : Path heap start second stop')
    (long : first.length = second.length) : first = second ∧ stop = stop' := by
  induction path generalizing second with
  | nil =>
    cases path' with
    | nil => exact ⟨rfl, rfl⟩
    | cons => cases long
  | cons stored _ ih =>
    cases path' with
    | nil => cases long
    | cons stored' rest' =>
      cases stored.symm.trans stored'
      obtain ⟨rfl, rfl⟩ := ih rest' (Nat.succ.inj long)
      exact ⟨rfl, rfl⟩

theorem Chain.unique (chain : Chain heap start first) (chain' : Chain heap start second) :
    first = second := by
  induction first generalizing start second with
  | nil => cases chain; cases chain'; rfl
  | cons cell rest ih =>
    cases chain with
    | cons stored behind =>
      cases chain' with
      | cons stored' behind' =>
        cases stored.symm.trans stored'
        rw [ih behind behind']

/-- A list that ends visits no cell twice. -/
theorem Chain.distinct (chain : Chain heap start cells) : (cells.map Prod.fst).Nodup := by
  induction cells generalizing start with
  | nil => exact .nil
  | cons cell rest ih =>
    obtain ⟨addr, value⟩ := cell
    cases chain with
    | cons stored behind =>
      refine List.nodup_cons.mpr ⟨fun again => ?_, ih behind⟩
      -- from there on the same cells would come once more, and so for ever
      obtain ⟨⟨_, value'⟩, member, rfl⟩ := List.mem_map.mp again
      obtain ⟨before, after, rfl⟩ := List.append_of_mem member
      obtain ⟨middle, -, later⟩ := path_append.mp behind
      cases later with
      | cons stored' later =>
        have whole := Chain.unique (.cons stored behind) (.cons stored' later)
        have long := congrArg List.length whole
        simp only [List.length_cons, List.length_append] at long
        omega

/-- A walk depends on the cells it visits only. -/
theorem Path.frame (path : Path heap start cells stop)
    (agree : ∀ addr ∈ cells.map Prod.fst, other addr = heap addr) : Path other start cells stop := by
  induction path with
  | nil => exact .nil
  | cons stored _ ih =>
    refine .cons ((agree _ List.mem_cons_self).trans stored) (ih fun addr member => ?_)
    exact agree addr (List.mem_cons_of_mem _ member)

/-! ## Writing -/

variable [DecidableEq Addr]

def alloc (heap : Heap Addr α) (addr : Addr) (cell : Cell Addr α) : Heap Addr α :=
  Function.update heap addr (some cell)

def free (heap : Heap Addr α) (addr : Addr) : Heap Addr α := Function.update heap addr none

def setNext (heap : Heap Addr α) (addr : Addr) (next : Option Addr) : Heap Addr α :=
  Function.update heap addr ((heap addr).map fun cell => { cell with next })

def setValue (heap : Heap Addr α) (addr : Addr) (value : α) : Heap Addr α :=
  Function.update heap addr ((heap addr).map fun cell => { cell with value })

/-- What is written elsewhere does not matter. -/
theorem Path.update (path : Path heap start cells stop) (absent : addr ∉ cells.map Prod.fst) :
    Path (Function.update heap addr stored) start cells stop := by
  refine path.frame fun other member => Function.update_of_ne ?_ _ _
  rintro rfl
  exact absent member

/-- A new `next` in the last cell of a path leads it elsewhere. -/
theorem Path.relink (path : Path heap start (cells ++ [(addr, value)]) stop)
    (once : addr ∉ cells.map Prod.fst) :
    Path (LinkedCells.setNext heap addr next) start (cells ++ [(addr, value)]) next := by
  obtain ⟨middle, before, last⟩ := path_append.mp path
  cases last with
  | cons stored =>
    refine path_append.mpr ⟨some addr, before.update once, .cons ?_ .nil⟩
    simp [LinkedCells.setNext, stored]

/-- The cell behind another one, taken out and freed. -/
theorem Chain.unlink (chain : Chain heap start (cells ++ (addr, value) :: (gone, dead) :: rest))
    (stored : heap gone = some ⟨dead, next⟩) :
    Chain (free (setNext heap addr next) gone) start (cells ++ (addr, value) :: rest) := by
  have distinct := chain.distinct
  simp only [List.map_append, List.map_cons, List.nodup_append, List.nodup_cons, List.mem_cons,
    not_or] at distinct
  obtain ⟨-, ⟨⟨apart, addrAbsent⟩, goneAbsent, -⟩, before⟩ := distinct
  have once : addr ∉ cells.map Prod.fst := fun member => before addr member addr (.inl rfl) rfl
  have goneBefore : gone ∉ cells.map Prod.fst :=
    fun member => before gone member gone (.inr (.inl rfl)) rfl
  have shape : cells ++ (addr, value) :: (gone, dead) :: rest =
      cells ++ [(addr, value)] ++ (gone, dead) :: rest := by simp
  rw [Chain, shape, path_append] at chain
  obtain ⟨middle, reached, later⟩ := chain
  cases later with
  | cons stored' behind =>
    cases stored.symm.trans stored'
    have linked : Path (setNext heap addr next) start (cells ++ [(addr, value)]) next :=
      reached.relink once
    have untouched : Path (setNext heap addr next) next rest none := behind.update addrAbsent
    have kept : gone ∉ (cells ++ [(addr, value)]).map Prod.fst := by
      simpa [goneBefore] using Ne.symm apart
    rw [Chain, List.append_cons]
    exact path_append.mpr ⟨next, linked.update kept, untouched.update goneAbsent⟩

end LinkedCells
