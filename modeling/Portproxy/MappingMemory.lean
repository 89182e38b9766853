import Mathlib.Data.Option.Basic
import Portproxy.LinkedCells
import Portproxy.Mappings

/-! The mapping list of `framework.c` in memory, where a node is unlinked by a
write through its predecessor. What the functions do to the list of nodes, their
versions in memory do to the cells. -/
namespace Portproxy.MappingMemory
open LinkedCells KeyedList

/-- The nodes in memory, and `ctx->mappings`. -/
structure Memory where
  heap : Heap Nat Mapping
  mappings : Option Nat

/-- The loop of `mapping_delete` from `tmp` on: its result, and what it leaves
in memory. There is no result where it reads through a null pointer or in a
freed node, or where the steps do not suffice. -/
def deleteLoop (heap : Heap Nat Mapping) (m : Nat) : Nat → Nat → Option (Int × Heap Nat Mapping)
  | 0, _ => none
  | steps + 1, tmp =>
    (heap tmp).bind fun cell =>
      match cell.next with
      | none => some (-1, heap)
      | some next =>
        if next = m then
          (heap next).map fun behind => (0, free (setNext heap tmp behind.next) m)
        else deleteLoop heap m steps next

/-- `mapping_delete`, of a node. Only a node behind another one is freed. -/
def mappingDelete (steps : Nat) (memory : Memory) (m : Nat) : Option (Int × Memory) :=
  memory.mappings.bind fun tmp =>
    if tmp = m then (memory.heap tmp).map fun cell => (0, { memory with mappings := cell.next })
    else (deleteLoop memory.heap m steps tmp).map fun done => (done.1, { memory with heap := done.2 })

/-- The loop of `ctx_mappings_remove_expired` standing at `m`, where a deletion
may take `reach` steps: the memory it leaves, and what `mapping_delete` returned
each time. -/
def removeExpiredLoop (now : Int) (reach : Nat) : Nat → Memory → Option Nat → Option (Memory × List Int)
  | 0, _, _ => none
  | _ + 1, memory, none => some (memory, [])
  | steps + 1, memory, some m =>
    (memory.heap m).bind fun cell =>
      if cell.value.timeout ≤ now then
        (mappingDelete reach memory m).bind fun deleted =>
          (removeExpiredLoop now reach steps deleted.2 deleted.2.mappings).map fun swept =>
            (swept.1, deleted.1 :: swept.2)
      else removeExpiredLoop now reach steps memory cell.next

/-- `ctx_mappings_remove_expired` at time `now`. -/
def ctxMappingsRemoveExpired (now : Int) (steps : Nat) (memory : Memory) : Option (Memory × List Int) :=
  removeExpiredLoop now steps steps memory memory.mappings

/-! ## What the list is -/

/-- The cell a node is in. -/
abbrev cell (m : Mapping) : Nat × Mapping := (m.node, m)

/-- Following `next` from `ctx->mappings` gives these nodes, and then null. -/
abbrev Lists (memory : Memory) (mappings : List Mapping) : Prop :=
  Chain memory.heap memory.mappings (mappings.map cell)

variable {memory : Memory} {mappings kept rest : List Mapping} {m tmp : Mapping} {now : Int}

theorem Lists.distinct (lists : Lists memory mappings) : DistinctNodes mappings := by
  have nodup := Chain.distinct lists
  rwa [List.map_map] at nodup

theorem lists_append :
    Lists memory (kept ++ rest) ↔
      ∃ next, Path memory.heap memory.mappings (kept.map cell) next ∧
        Chain memory.heap next (rest.map cell) := by
  rw [Lists, List.map_append]
  exact path_append

/-! ## Deletion -/

/-- The loop walks to the node in front of `m`, and unlinks `m` there. -/
private theorem delete_loop_reaches {heap : Heap Nat Mapping}
    (path : Path heap (some start) ((kept ++ [tmp]).map cell) (some node))
    (apart : ∀ other ∈ (kept ++ [tmp]).tail, other.node ≠ node)
    (stored : heap node = some ⟨value, next⟩) (enough : kept.length < steps) :
    deleteLoop heap node steps start = some (0, free (setNext heap tmp.node next) node) := by
  induction kept generalizing start steps with
  | nil =>
    obtain ⟨steps, rfl⟩ := Nat.exists_eq_succ_of_ne_zero (Nat.ne_of_gt enough)
    cases path with
    | cons here last =>
      cases last
      simp [deleteLoop, here, stored]
  | cons first kept ih =>
    obtain ⟨steps, rfl⟩ := Nat.exists_eq_succ_of_ne_zero (Nat.ne_of_gt (Nat.zero_lt_of_lt enough))
    rw [List.cons_append, List.map_cons] at path
    cases path with
    | cons here behind =>
      have later : ∀ other ∈ kept ++ [tmp], other.node ≠ node := by simpa using apart
      obtain ⟨second, others, shape⟩ : ∃ second others, kept ++ [tmp] = second :: others :=
        List.exists_cons_of_ne_nil (by simp)
      have next' : Path heap (some second.node) ((kept ++ [tmp]).map cell) (some node) := by
        rw [shape] at behind ⊢
        rwa [← behind.start_eq]
      have reached := ih next' (fun other member => later other (List.mem_of_mem_tail member))
        (Nat.lt_of_succ_lt_succ enough)
      have elsewhere : second.node ≠ node := later second (by simp [shape])
      rw [shape, List.map_cons] at behind
      rw [behind.start_eq] at here
      simp [deleteLoop, here, elsewhere, reached]

/-- Whichever node of the list is deleted, the others stay, and nothing is read
that is not there. -/
theorem delete_unlinks (lists : Lists memory (kept ++ m :: rest)) :
    ∃ after, Lists after (kept ++ rest) ∧
      ∀ steps ≥ kept.length, mappingDelete steps memory m.node = some (0, after) := by
  have distinct := lists.distinct
  rcases List.eq_nil_or_concat' kept with rfl | ⟨front, tmp, rfl⟩
  · -- the list then starts behind the node
    have head : memory.mappings = some m.node := Path.start_eq lists
    rw [List.nil_append, Lists, List.map_cons, head] at lists
    cases lists with
    | @cons _ _ next _ _ stored behind =>
      refine ⟨{ memory with mappings := next }, behind, fun steps _ => ?_⟩
      simp [mappingDelete, head, stored]
  · -- the node in front of it is written
    have apart : ∀ other ∈ front ++ [tmp], other.node ≠ m.node := fun other member => distinct.apart member
    obtain ⟨first, others, shape⟩ : ∃ first others, front ++ [tmp] = first :: others :=
      List.exists_cons_of_ne_nil (by simp)
    have head : memory.mappings = some first.node := by
      rw [shape] at lists
      exact Path.start_eq lists
    obtain ⟨middle, reached, behind⟩ := lists_append.mp lists
    cases behind with
    | @cons _ _ next _ _ stored _ =>
      have whole : Chain memory.heap memory.mappings
          (front.map cell ++ cell tmp :: cell m :: rest.map cell) := by
        rw [List.append_assoc, Lists, List.map_append] at lists
        exact lists
      rw [head] at reached
      refine ⟨⟨free (setNext memory.heap tmp.node next) m.node, memory.mappings⟩, ?_, fun steps enough => ?_⟩
      · rw [List.append_assoc, Lists, List.map_append]
        exact whole.unlink stored
      · have deleted := delete_loop_reaches reached
          (fun other member => apart other (List.mem_of_mem_tail member)) stored
          (by simpa [Nat.succ_le_iff] using enough)
        have notFirst : first.node ≠ m.node := apart first (by simp [shape])
        simp [mappingDelete, head, notFirst, deleted]

/-! ## The sweep -/

/-- The walk in memory does what the walk over the list of nodes does. -/
theorem remove_expired_refines (now : Int) (kept : List Mapping) {next : Option Nat}
    (reached : Path memory.heap memory.mappings (kept.map cell) next)
    (behind : Chain memory.heap next (rest.map cell))
    (fuel : Nat)
    (clean : .fault ∉ (Portproxy.removeExpiredLoop now fuel (kept ++ rest) rest).2) :
    ∃ after, Lists after (Portproxy.removeExpiredLoop now fuel (kept ++ rest) rest).1 ∧
      ∀ reach ≥ (kept ++ rest).length, ∀ steps ≥ fuel,
        removeExpiredLoop now reach steps memory next = some (after,
          List.replicate (Portproxy.removeExpiredLoop now fuel (kept ++ rest) rest).2.length 0) := by
  induction fuel generalizing memory kept rest next with
  | zero => simp [Portproxy.removeExpiredLoop] at clean
  | succ fuel ih =>
    have lists : Lists memory (kept ++ rest) := lists_append.mpr ⟨next, reached, behind⟩
    cases rest with
    | nil =>
      cases behind
      refine ⟨memory, lists, fun reach _ steps enough => ?_⟩
      obtain ⟨steps, rfl⟩ := Nat.exists_eq_add_of_le' enough
      rfl
    | cons m rest =>
      cases behind with
      | @cons _ _ later _ _ stored behind' =>
        by_cases expired : m.timeout ≤ now
        · -- the node is unlinked and the walk starts over at the head
          obtain ⟨left, lists', deleted⟩ := delete_unlinks lists
          simp only [Portproxy.removeExpiredLoop, expired, ↓reduceIte,
            mapping_delete_behind lists.distinct, List.mem_cons, reduceCtorEq, false_or] at clean ⊢
          obtain ⟨after, remaining, swept⟩ := ih [] .nil lists' clean
          refine ⟨after, remaining, fun reach far steps enough => ?_⟩
          obtain ⟨steps, rfl⟩ := Nat.exists_eq_add_of_le' enough
          have again := swept reach (le_trans (by simp) far) (steps + fuel) (Nat.le_add_left _ _)
          have unlinked := deleted reach (le_trans (by simp) far)
          rw [List.nil_append] at again
          simp [removeExpiredLoop, stored, expired, unlinked, again, List.replicate_succ]
        · have reached' : Path memory.heap memory.mappings ((kept ++ [m]).map cell) later := by
            rw [List.map_append]
            exact path_append.mpr ⟨some m.node, reached, .cons stored .nil⟩
          simp only [Portproxy.removeExpiredLoop, expired, ↓reduceIte] at clean ⊢
          obtain ⟨after, remaining, swept⟩ := ih (kept ++ [m]) reached' behind' (by simpa using clean)
          simp only [List.append_assoc, List.singleton_append] at remaining swept
          refine ⟨after, remaining, fun reach far steps enough => ?_⟩
          obtain ⟨steps, rfl⟩ := Nat.exists_eq_add_of_le' enough
          have again := swept reach far (steps + fuel) (Nat.le_add_left _ _)
          simpa [removeExpiredLoop, stored, expired] using again

/-- The sweep in memory ends, and leaves the list of the nodes that have not
expired; no deletion fails. -/
theorem sweep_filters (now : Int) (lists : Lists memory mappings) :
    ∃ after bound, Lists after (mappings.filter (now < ·.timeout)) ∧
      ∀ steps ≥ bound, ctxMappingsRemoveExpired now steps memory =
        some (after, List.replicate (mappings.countP (·.timeout ≤ now)) 0) := by
  have filters := remove_expired_filters lists.distinct now
  rw [Portproxy.ctxMappingsRemoveExpired] at filters
  obtain ⟨after, remaining, swept⟩ := remove_expired_refines now [] .nil lists
    ((mappings.length + 1) * (mappings.length + 1)) (by simp [filters])
  simp only [List.nil_append, filters, List.length_map] at remaining swept
  refine ⟨after, (mappings.length + 1) * (mappings.length + 1), remaining, fun steps enough => ?_⟩
  have long : mappings.length ≤ steps := le_trans (by nlinarith) enough
  rw [ctxMappingsRemoveExpired, swept steps long steps enough, List.countP_eq_length_filter]

/-- Two nodes in memory, of which only the second one has expired. -/
def newer : Mapping := { node := 16, timeout := 300 }
def older : Mapping := { node := 32, timeout := 100 }

def twoNodes : Memory where
  heap addr :=
    if addr = 16 then some ⟨newer, some 32⟩ else if addr = 32 then some ⟨older, none⟩ else none
  mappings := some 16

theorem two_nodes_swept :
    Lists twoNodes [newer, older] ∧
      ∃ after bound, Lists after [newer] ∧
        ∀ steps ≥ bound, ctxMappingsRemoveExpired 200 steps twoNodes = some (after, [0]) :=
  have lists : Lists twoNodes [newer, older] := .cons rfl (.cons rfl .nil)
  ⟨lists, sweep_filters 200 lists⟩

end Portproxy.MappingMemory
