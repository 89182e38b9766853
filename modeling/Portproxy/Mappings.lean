import Mathlib.Data.List.Basic
import Mathlib.Tactic.Linarith
import Portproxy.KeyedList
import Portproxy.State

/-! The mapping list of `framework.c`: lookup, deletion, creation, the expiry
sweep and the wait until the next expiry. -/
namespace Portproxy
open KeyedList

/-- The test in the loop of `mapping_find`. -/
def mappingMatches (pkt : Pkt) (m : Mapping) : Bool :=
  (addrCmp m.aftrIPv4 mcast || addrCmp pkt.srcIP m.aftrIPv4) &&
    addrCmp pkt.dstIP m.wanIP &&
    pkt.srcPort == m.routerPort &&
    pkt.dstPort == m.wanPort &&
    pkt.proto == m.proto

def mappingFind (mappings : List Mapping) (pkt : Pkt) : Option Mapping :=
  mappings.find? (mappingMatches pkt)

/-- The loop of `mapping_delete`: the list from `tmp` on, with the node at
address `m` unlinked from behind `tmp`, if it is there. -/
def unlinkAfter (m : Nat) (tmp : Mapping) : List Mapping → Option (List Mapping)
  | [] => none
  | next :: rest =>
    if next.node = m then some (tmp :: rest)
    else (unlinkAfter m next rest).map (tmp :: ·)

/-- `mapping_delete`: its result and the list it leaves. On an empty list the
code reads through a null pointer. -/
def mappingDelete (mappings : List Mapping) (m : Nat) : Option (Int × List Mapping) :=
  match mappings with
  | [] => none
  | tmp :: rest =>
    if tmp.node = m then some (0, rest)
    else match unlinkAfter m tmp rest with
      | some left => some (0, left)
      | none => some (-1, mappings)

/-- `mapping_create`, for a query that goes out of `sock`. The node is the next
one `malloc` gives. -/
def mappingCreate (ctx : Context) (k : Kernel) (pkt : Pkt) (sock : Int) : Mapping where
  node := k.heap
  clientIP := pkt.srcIP
  lanIP := pkt.dstIP
  wanIP := ctx.wanIP
  aftrIPv4 := if !addrCmp pkt.dstIP mcast then ctx.aftrIPv4 else mcast
  proto := pkt.proto
  clientPort := pkt.srcPort
  lanPort := pkt.dstPort
  wanPort := k.sockGetPort sock
  routerPort := pkt.dstPort
  lanSock := pkt.sock
  wanSock := sock

/-- The deadline `mapping_add` gives a mapping at time `now`. -/
def Mapping.stamped (m : Mapping) (ctx : Context) (now : Int) : Mapping :=
  { m with timeout := int32 (now + ctx.timeout) }

/-- `mapping_add` at time `now`. -/
def mappingAdd (now : Int) (ctx : Context) (m : Mapping) : Context :=
  { ctx with mappings := m.stamped ctx now :: ctx.mappings }

/-- The loop of `ctx_mappings_remove_expired` over the list `all`, with `m` and
the nodes behind it still to visit. It starts over after each removal. -/
def removeExpiredLoop (now : Int) : Nat → List Mapping → List Mapping → List Mapping × List Event
  | 0, all, _ => (all, [.fault])
  | _ + 1, all, [] => (all, [])
  | fuel + 1, all, m :: next =>
    if m.timeout ≤ now then
      match mappingDelete all m.node with
      | none => (all, [.fault])
      | some (_, left) =>
        let swept := removeExpiredLoop now fuel left left
        (swept.1, .expired m :: swept.2)
    else removeExpiredLoop now fuel all next

/-- `ctx_mappings_remove_expired` at time `now`. -/
def ctxMappingsRemoveExpired (now : Int) (mappings : List Mapping) : List Mapping × List Event :=
  removeExpiredLoop now ((mappings.length + 1) * (mappings.length + 1)) mappings mappings

/-- The loop of `ctx_timeout_get`; `now` is unsigned, so every comparison and
subtraction is. -/
def timeoutLoop (now : Int) : List Mapping → Int → Int
  | [], timeout => timeout
  | m :: rest, timeout =>
    if uint32 m.timeout < now then 0
    else if timeout > uint32 (m.timeout - now) then timeoutLoop now rest (uint32 (m.timeout - now))
    else timeoutLoop now rest timeout

/-- `ctx_timeout_get` at time `now`. -/
def ctxTimeoutGet (now : Int) (mappings : List Mapping) : Int :=
  let timeout := timeoutLoop (uint32 now) mappings 3600
  if timeout = 0 then 1 else timeout

/-! ## Lookup -/

variable {mappings kept next rest : List Mapping} {m tmp : Mapping} {pkt : Pkt} {now : Int}

theorem mapping_matches_iff :
    mappingMatches pkt m = true ↔
      (m.aftrIPv4 = mcast ∨ pkt.srcIP = m.aftrIPv4) ∧ pkt.dstIP = m.wanIP ∧
        pkt.srcPort = m.routerPort ∧ pkt.dstPort = m.wanPort ∧ pkt.proto = m.proto := by
  simp [mappingMatches, and_assoc]

/-- What is found is the newest mapping that matches. -/
theorem mapping_find_some (found : mappingFind mappings pkt = some m) :
    m ∈ mappings ∧ mappingMatches pkt m = true :=
  ⟨List.mem_of_find?_eq_some found, List.find?_some found⟩

theorem mapping_find_none :
    mappingFind mappings pkt = none ↔ ∀ m ∈ mappings, mappingMatches pkt m = false := by
  simp [mappingFind]

/-! ## Deletion -/

/-- No two nodes of the list share an address. -/
abbrev DistinctNodes (mappings : List Mapping) : Prop := Distinct Mapping.node mappings

private theorem unlink_after_some (member : ∃ m ∈ rest, m.node = node) :
    unlinkAfter node tmp rest = some (tmp :: rest.eraseP (·.node = node)) := by
  induction rest generalizing tmp with
  | nil => simp at member
  | cons next rest ih =>
    by_cases here : next.node = node
    · simp [unlinkAfter, here]
    · have later : ∃ m ∈ rest, m.node = node := by simpa [here] using member
      simp [unlinkAfter, here, ih later]

/-- Deletion succeeds on every node of the list, first, middle or last, and
unlinks that node only. -/
theorem mapping_delete_unlinks (member : ∃ m ∈ mappings, m.node = node) :
    mappingDelete mappings node = some (0, mappings.eraseP (·.node = node)) := by
  cases mappings with
  | nil => simp at member
  | cons tmp rest =>
    by_cases here : tmp.node = node
    · simp [mappingDelete, here]
    · have later : ∃ m ∈ rest, m.node = node := by simpa [here] using member
      simp [mappingDelete, here, unlink_after_some later]

theorem mapping_delete_behind (distinct : DistinctNodes (kept ++ m :: next)) :
    mappingDelete (kept ++ m :: next) m.node = some (0, kept ++ next) := by
  have apart : ∀ other ∈ kept, ¬ other.node = m.node := fun other member => distinct.apart member
  rw [mapping_delete_unlinks ⟨m, by simp, rfl⟩, List.eraseP_append_right _ (by simpa using apart)]
  simp

/-! ## The sweep -/

private theorem remove_expired_loop (kept next : List Mapping) (distinct : DistinctNodes (kept ++ next))
    (live : ∀ m ∈ kept, now < m.timeout)
    (enough : next.length + 1 +
      next.countP (·.timeout ≤ now) * ((kept ++ next).length + 1) ≤ fuel) :
    removeExpiredLoop now fuel (kept ++ next) next =
      ((kept ++ next).filter (now < ·.timeout),
        (next.filter (·.timeout ≤ now)).map .expired) := by
  induction fuel generalizing kept next with
  | zero => omega
  | succ fuel ih =>
    cases next with
    | nil =>
      have all : kept.filter (now < ·.timeout) = kept :=
        List.filter_eq_self.mpr (by simpa using live)
      simp [removeExpiredLoop, all]
    | cons m next =>
      by_cases expired : m.timeout ≤ now
      · -- the node is unlinked and the walk starts over at the head
        have unlinked := mapping_delete_behind distinct
        have again := ih [] (kept ++ next)
          (distinct.sublist ((List.sublist_cons_self m next).append_left kept)) (by simp) (by
            have none : kept.countP (·.timeout ≤ now) = 0 := by
              simpa [List.countP_eq_zero] using live
            simp only [List.countP_cons, expired, decide_true, List.length_cons,
              List.length_append, List.countP_append, none, ↓reduceIte, List.nil_append] at enough ⊢
            generalize next.countP (·.timeout ≤ now) = count at *
            nlinarith)
        have fresh : kept.filter (·.timeout ≤ now) = [] := by simpa using live
        simp only [List.nil_append] at again
        simp only [removeExpiredLoop, expired, ↓reduceIte, unlinked, again]
        simp [expired, fresh, not_lt.mpr expired]
      · have later := ih (kept ++ [m]) next (by simpa using distinct)
          (by simp only [List.mem_append, List.mem_singleton]
              rintro other (member | rfl)
              · exact live other member
              · exact not_le.mp expired)
          (by simp only [List.countP_cons, expired, decide_false, List.length_cons,
                Bool.false_eq_true, ↓reduceIte, Nat.add_zero, List.append_assoc,
                List.singleton_append, List.length_append] at enough ⊢
              omega)
        simp only [List.append_assoc, List.singleton_append] at later
        simp only [removeExpiredLoop, expired, ↓reduceIte, later]
        simp [expired]

/-- The sweep is a filter: it ends, and takes exactly the expired mappings off
the list. -/
theorem remove_expired_filters (distinct : DistinctNodes mappings) (now : Int) :
    ctxMappingsRemoveExpired now mappings =
      (mappings.filter (now < ·.timeout), (mappings.filter (·.timeout ≤ now)).map .expired) := by
  have bound : mappings.countP (·.timeout ≤ now) ≤ mappings.length := List.countP_le_length
  exact remove_expired_loop [] mappings (by simpa using distinct) (by simp)
    (by simp only [List.nil_append]; nlinarith)

/-- Whatever the list, the sweep only takes mappings off. -/
theorem remove_expired_events (member : event ∈ (removeExpiredLoop now fuel all rest).2) :
    event = .fault ∨ ∃ m, event = .expired m := by
  induction fuel generalizing all rest with
  | zero =>
    left
    simpa [removeExpiredLoop] using member
  | succ fuel ih =>
    cases rest with
    | nil => simp [removeExpiredLoop] at member
    | cons m next =>
      unfold removeExpiredLoop at member
      split at member
      · split at member
        · left
          simpa using member
        · simp only [List.mem_cons] at member
          rcases member with rfl | later
          · exact .inr ⟨m, rfl⟩
          · exact ih later
      · exact ih member

end Portproxy
