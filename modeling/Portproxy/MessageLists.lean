import Portproxy.LinkedCells
import Portproxy.NetlinkReplies

/-! The lists of messages in memory. `store_nlmsg` follows the list to the pointer
that is null and hangs the next block there; `release_nlmsg_list` reads where a
block leads before it frees it. Both lists of a lookup share the memory. -/
namespace Portproxy.MessageLists
open LinkedCells NetlinkDump
open HostOrder (ByteOrder)

/-- The blocks of messages, how many were allocated, and where a list begins. -/
structure MsgList where
  heap : Heap Nat (List UInt8) := fun _ => none
  blocks : Nat := 0
  linfo : Option Nat := none

/-- The block that `lp` points into when the loop of `store_nlmsg` ends. -/
def lastNode (heap : Heap Nat (List UInt8)) : Nat → Nat → Option Nat
  | 0, _ => none
  | steps + 1, n =>
    (heap n).bind fun cell =>
      match cell.next with
      | none => some n
      | some next => lastNode heap steps next

/-- `store_nlmsg` in memory. There is no list any more if its loop does not end. -/
def storeNlmsg (order : ByteOrder) (malloc : Nat → Bool) : RtnlFilter (Option MsgList)
  | none, _, _ => (-1, none)
  | some list, _, n =>
    if malloc list.blocks then
      let heap := alloc list.heap list.blocks ⟨copied order n, none⟩
      match list.linfo with
      | none => (0, some { heap, blocks := list.blocks + 1, linfo := some list.blocks })
      | some first =>
        match lastNode heap (list.blocks + 1) first with
        | none => (-1, none)
        | some last =>
          (0, some { heap := setNext heap last (some list.blocks), blocks := list.blocks + 1, linfo := some first })
    else (-1, some list)

/-- `release_nlmsg_list`: the memory afterwards, and the blocks freed, if the list
ends and no block is read after it was freed. -/
def releaseNlmsgList : Heap Nat (List UInt8) → Nat → Option Nat → Option (Heap Nat (List UInt8) × List Nat)
  | _, 0, _ => none
  | heap, _ + 1, none => some (heap, [])
  | heap, steps + 1, some n =>
    (heap n).bind fun cell =>
      (releaseNlmsgList (free heap n) steps cell.next).map fun rest => (rest.1, n :: rest.2)

/-- Both dumps in one memory: where the first list begins, and memory with the
second one. -/
def dumpsInMemory (order : ByteOrder) (malloc : Nat → Bool) (rth : RtnlHandle) (recvs recvs' : List Recv) :
    Option (Option Nat × MsgList) :=
  let rth := (rtnlWilddumpRequest order rth afPacket rtmGetlink).1
  match rtnlDumpFilter order rth (storeNlmsg order malloc) none (some {}) recvs with
  | .returned _ (some links) later =>
    let rth := (rtnlWilddumpRequest order rth afUnspec rtmGetaddr).1
    match rtnlDumpFilter order rth (storeNlmsg order malloc) none (some { links with linfo := none })
        (later ++ recvs') with
    | .returned _ (some list) _ => some (links.linfo, list)
    | _ => none
  | _ => none

variable {order : ByteOrder} {malloc : Nat → Bool} {heap : Heap Nat (List UInt8)}
  {cells : List (Nat × List UInt8)} {list : MsgList} {msgs : List (List UInt8)}

/-! ## One list -/

theorem last_node (chain : Chain heap (some first) (cells ++ [(last, value)])) :
    ∀ steps > cells.length, lastNode heap steps first = some last := by
  induction cells generalizing first with
  | nil =>
    intro steps enough
    obtain ⟨steps, rfl⟩ := Nat.exists_eq_add_of_le' enough
    cases chain with
    | cons stored behind =>
      cases behind
      simp [lastNode, stored]
  | cons cell rest ih =>
    intro steps enough
    obtain ⟨steps, rfl⟩ := Nat.exists_eq_add_of_le' enough
    cases chain with
    | @cons addr value next _ _ stored behind =>
      cases next with
      | none => cases rest <;> cases behind
      | some next =>
        have enough' : steps + (rest.length + 1) > rest.length := by omega
        simp only [lastNode, stored, Option.bind_some]
        exact ih behind _ enough'

/-- The memory when these cells have been freed. -/
def freed (heap : Heap Nat (List UInt8)) (blocks : List Nat) : Heap Nat (List UInt8) :=
  blocks.foldl free heap

theorem freed_apply (heap : Heap Nat (List UInt8)) (blocks : List Nat) (addr : Nat) :
    freed heap blocks addr = if addr ∈ blocks then none else heap addr := by
  unfold freed
  induction blocks generalizing heap with
  | nil => simp
  | cons block rest ih =>
    rw [List.foldl_cons, ih]
    by_cases later : addr ∈ rest
    · simp [later]
    · by_cases here : addr = block <;> simp [free, later, here]

/-- A list that ends is released block by block. -/
theorem chain_release (chain : Chain heap start cells) :
    ∀ steps > cells.length, releaseNlmsgList heap steps start =
      some (freed heap (cells.map Prod.fst), cells.map Prod.fst) := by
  have distinct := chain.distinct
  induction cells generalizing heap start with
  | nil =>
    cases chain
    intro steps enough
    obtain ⟨steps, rfl⟩ := Nat.exists_eq_add_of_le' enough
    rfl
  | cons cell rest ih =>
    obtain ⟨addr, value⟩ := cell
    obtain ⟨apart, others⟩ := List.nodup_cons.mp distinct
    cases chain with
    | cons stored behind =>
      intro steps enough
      obtain ⟨steps, rfl⟩ := Nat.exists_eq_add_of_le' enough
      have alone : Chain (free heap addr) _ rest := behind.update apart
      have released := ih alone others (steps + (rest.length + 1)) (by omega)
      simp [releaseNlmsgList, stored, released, freed]

/-! ## The lists of a lookup -/

/-- Messages in the blocks from `base` on. -/
def numbered (base : Nat) (msgs : List (List UInt8)) : List (Nat × List UInt8) :=
  (List.range' base msgs.length).zip msgs

theorem numbered_concat (base : Nat) (msgs : List (List UInt8)) (msg : List UInt8) :
    numbered base (msgs ++ [msg]) = numbered base msgs ++ [(base + msgs.length, msg)] := by
  rw [numbered, List.length_append, List.length_singleton, List.range'_concat, Nat.one_mul,
    List.zip_append (by simp)]
  rfl

@[simp] theorem length_numbered (base : Nat) (msgs : List (List UInt8)) :
    (numbered base msgs).length = msgs.length := by
  simp [numbered]

@[simp] theorem numbered_fst (base : Nat) (msgs : List (List UInt8)) :
    (numbered base msgs).map Prod.fst = List.range' base msgs.length := by
  rw [numbered, List.map_fst_zip (by simp)]

@[simp] theorem numbered_snd (base : Nat) (msgs : List (List UInt8)) :
    (numbered base msgs).map Prod.snd = msgs := by
  rw [numbered, List.map_snd_zip (by simp)]

/-- Memory in which the blocks from `base` on hold these messages, as a list, and
the blocks before are as they were. -/
structure Holds (before : Heap Nat (List UInt8)) (base : Nat) (list : MsgList) (msgs : List (List UInt8)) : Prop where
  chain : Chain list.heap list.linfo (numbered base msgs)
  blocks : list.blocks = base + msgs.length
  others : ∀ addr < base, list.heap addr = before addr
  fresh : ∀ addr ≥ list.blocks, list.heap addr = none

theorem store_first (room : malloc list.blocks = true) (head : list.linfo = none) (pid : Nat) (n : List UInt8) :
    storeNlmsg order malloc (some list) pid n =
      (0, some { heap := alloc list.heap list.blocks ⟨copied order n, none⟩, blocks := list.blocks + 1,
                 linfo := some list.blocks }) := by
  simp only [storeNlmsg, room, head, ↓reduceIte]

theorem store_behind (room : malloc list.blocks = true) (head : list.linfo = some first) (pid : Nat)
    (found : lastNode (alloc list.heap list.blocks ⟨copied order n, none⟩) (list.blocks + 1) first = some last) :
    storeNlmsg order malloc (some list) pid n =
      (0, some { heap := setNext (alloc list.heap list.blocks ⟨copied order n, none⟩) last (some list.blocks),
                 blocks := list.blocks + 1, linfo := some first }) := by
  simp only [storeNlmsg, room, head, found, ↓reduceIte]

theorem holds_append (order : ByteOrder) (holds : Holds before base list msgs) (room : malloc list.blocks = true)
    (pid : Nat) (n : List UInt8) :
    ∃ after, storeNlmsg order malloc (some list) pid n = (0, some after) ∧
      Holds before base after (msgs ++ [copied order n]) := by
  have absent : list.blocks ∉ (numbered base msgs).map Prod.fst := by
    rw [numbered_fst, List.mem_range'_1, holds.blocks]
    omega
  have last : numbered base (msgs ++ [copied order n]) = numbered base msgs ++ [(list.blocks, copied order n)] := by
    rw [numbered_concat, holds.blocks]
  have blocks : list.blocks + 1 = base + (msgs ++ [copied order n]).length := by
    rw [holds.blocks, List.length_append, List.length_singleton, Nat.add_assoc]
  have allocated : Chain (alloc list.heap list.blocks ⟨copied order n, none⟩) list.linfo (numbered base msgs) :=
    holds.chain.update absent
  have elsewhere : ∀ addr ≠ list.blocks,
      alloc list.heap list.blocks ⟨copied order n, none⟩ addr = list.heap addr :=
    fun addr other => Function.update_of_ne other _ _
  have low : base ≤ list.blocks := by
    rw [holds.blocks]
    omega
  rcases List.eq_nil_or_concat' msgs with rfl | ⟨front, msg, rfl⟩
  · have head : list.linfo = none := by
      have chain := holds.chain
      generalize list.linfo = start at chain
      cases chain
      rfl
    refine ⟨_, store_first room head pid n, ?_, blocks, ?_, ?_⟩
    · rw [last]
      exact .cons (by simp [alloc]) .nil
    · intro addr earlier
      exact (elsewhere addr (by omega)).trans (holds.others addr earlier)
    · intro addr later
      have behind : addr ≥ list.blocks + 1 := later
      exact (elsewhere addr (by omega)).trans (holds.fresh addr (by omega))
  · obtain ⟨first, head⟩ : ∃ first, list.linfo = some first := by
      obtain ⟨cell, rest, shape⟩ : ∃ cell rest, numbered base (front ++ [msg]) = cell :: rest :=
        List.exists_cons_of_ne_nil (by rw [numbered_concat]; simp)
      have chain := holds.chain
      rw [shape] at chain
      exact ⟨cell.1, chain.start_eq⟩
    rw [numbered_concat, head] at allocated
    have steps : list.blocks + 1 > (numbered base front).length := by
      rw [holds.blocks, length_numbered, List.length_append, List.length_singleton]
      omega
    have once : base + front.length ∉ (numbered base front).map Prod.fst := by
      rw [numbered_fst, List.mem_range'_1]
      omega
    have apart : list.blocks ≠ base + front.length := by
      rw [holds.blocks, List.length_append, List.length_singleton]
      omega
    -- the last block is linked to the new one
    have linked : Path (setNext (alloc list.heap list.blocks ⟨copied order n, none⟩) (base + front.length)
        (some list.blocks)) (some first) (numbered base front ++ [(base + front.length, msg)]) (some list.blocks) :=
      allocated.relink once
    have untouched : ∀ addr ≠ base + front.length,
        setNext (alloc list.heap list.blocks ⟨copied order n, none⟩) (base + front.length) (some list.blocks) addr =
          alloc list.heap list.blocks ⟨copied order n, none⟩ addr :=
      fun addr other => Function.update_of_ne other _ _
    refine ⟨_, store_behind room head pid (last_node allocated _ steps), ?_, blocks, ?_, ?_⟩
    · rw [last, numbered_concat]
      refine path_append.mpr ⟨some list.blocks, linked, .cons ?_ .nil⟩
      exact (untouched _ apart).trans (by simp [alloc])
    · intro addr earlier
      exact (untouched addr (by omega)).trans
        ((elsewhere addr (by omega)).trans (holds.others addr earlier))
    · intro addr later
      have behind : addr ≥ list.blocks + 1 := later
      have top : list.blocks = base + (front.length + 1) := by
        rw [holds.blocks, List.length_append, List.length_singleton]
      exact (untouched addr (by omega)).trans
        ((elsewhere addr (by omega)).trans (holds.fresh addr (by omega)))

/-- The state of the loop in memory and the list of messages it stands for. -/
abbrev Represents (before : Heap Nat (List UInt8)) (base : Nat) (list : Option MsgList)
    (msgs : List (List UInt8)) : Prop :=
  ∃ held, list = some held ∧ Holds before base held msgs

/-- Both filters do the same, the one in memory and the one on lists. -/
theorem store_alike (order : ByteOrder) (malloc : Nat → Bool) (before : Heap Nat (List UInt8)) (base : Nat) :
    Alike (storeNlmsg order malloc) (NetlinkDump.storeNlmsg order fun count => malloc (base + count))
      (Represents before base) := by
  rintro _ msgs pid n ⟨list, rfl, holds⟩
  have same : malloc list.blocks = malloc (base + msgs.length) := by rw [holds.blocks]
  cases room : malloc list.blocks with
  | true =>
    obtain ⟨after, stored, held⟩ := holds_append order holds room pid n
    rw [stored, NetlinkDump.storeNlmsg, ← same, room]
    exact ⟨rfl, after, rfl, held⟩
  | false =>
    have full : storeNlmsg order malloc (some list) pid n = (-1, some list) := by simp [storeNlmsg, room]
    rw [full, NetlinkDump.storeNlmsg, ← same, room]
    exact ⟨rfl, list, rfl, holds⟩

/-- A dump that returns its list returns it in memory too. -/
theorem dump_in_memory (represents : Represents before base start msgs)
    (returned : rtnlDumpFilter order rth (NetlinkDump.storeNlmsg order fun count => malloc (base + count)) none
      msgs recvs = .returned code linfo later) :
    ∃ list, rtnlDumpFilter order rth (storeNlmsg order malloc) none start recvs =
        .returned code (some list) later ∧ Holds before base list linfo := by
  have related := dump_related (store_alike order malloc before base) order rth recvs represents
  rw [returned] at related
  revert related
  generalize rtnlDumpFilter order rth (storeNlmsg order malloc) none start recvs = result
  intro related
  cases related with
  | returned held =>
    obtain ⟨list, rfl, holds⟩ := held
    exact ⟨list, rfl, holds⟩

/-- Two lists in one memory, one behind the other, are released one after the other
and leave nothing. -/
theorem released (first : Holds (fun _ => none) 0 links linfo) (second : Holds links.heap linfo.length list ainfo) :
    Chain list.heap links.linfo (numbered 0 linfo) ∧
      ∃ heap heap', (∀ steps > linfo.length, releaseNlmsgList list.heap steps links.linfo =
          some (heap, (numbered 0 linfo).map Prod.fst)) ∧
        (∀ steps > ainfo.length, releaseNlmsgList heap steps list.linfo =
          some (heap', (numbered linfo.length ainfo).map Prod.fst)) ∧
        ∀ addr, heap' addr = none := by
  have kept : Chain list.heap links.linfo (numbered 0 linfo) := by
    refine first.chain.frame fun addr member => second.others addr ?_
    rw [numbered_fst, List.mem_range'_1] at member
    omega
  have other : Chain (freed list.heap ((numbered 0 linfo).map Prod.fst)) list.linfo (numbered linfo.length ainfo) := by
    refine second.chain.frame fun addr member => ?_
    rw [numbered_fst, List.mem_range'_1] at member
    rw [freed_apply, numbered_fst, if_neg (by rw [List.mem_range'_1]; omega)]
  have firstReleased := chain_release kept
  have secondReleased := chain_release other
  rw [length_numbered] at firstReleased secondReleased
  refine ⟨kept, _, _, firstReleased, secondReleased, fun addr => ?_⟩
  rw [freed_apply, freed_apply, numbered_fst, numbered_fst]
  by_cases allocated : addr < list.blocks
  · rw [second.blocks] at allocated
    by_cases early : addr < linfo.length
    · simp [List.mem_range'_1, early]
    · simp [List.mem_range'_1, show linfo.length ≤ addr by omega, allocated]
  · simp [second.fresh addr (by omega)]

/-- What the lists of two dumps are in memory: they hold the messages, they are
released one after the other, each block once, and then no block is left. -/
theorem lists_in_memory (order : ByteOrder) (malloc : Nat → Bool) (rth : RtnlHandle) (recvs recvs' : List Recv)
    (lists : dumps order malloc (fun count => malloc (linfo.length + count)) rth recvs recvs' =
      some (linfo, ainfo)) :
    ∃ first list links addrs heap heap', dumpsInMemory order malloc rth recvs recvs' = some (first, list) ∧
      Chain list.heap first links ∧ links.map Prod.snd = linfo ∧
      Chain list.heap list.linfo addrs ∧ addrs.map Prod.snd = ainfo ∧
      (∀ steps > linfo.length, releaseNlmsgList list.heap steps first = some (heap, links.map Prod.fst)) ∧
      (∀ steps > ainfo.length, releaseNlmsgList heap steps list.linfo = some (heap', addrs.map Prod.fst)) ∧
      links.map Prod.fst ++ addrs.map Prod.fst = List.range list.blocks ∧ ∀ addr, heap' addr = none := by
  have shifted : (fun count => malloc (0 + count)) = malloc := by
    funext count
    rw [Nat.zero_add]
  unfold dumps at lists
  simp only at lists
  split at lists
  · rename_i firstReturned
    split at lists
    · rename_i secondReturned
      cases lists
      have empty : Represents (fun _ => none) 0 (some {}) [] :=
        ⟨{}, rfl, .nil, rfl, fun _ _ => rfl, fun _ _ => rfl⟩
      rw [← shifted] at firstReturned
      obtain ⟨links, firstRan, first⟩ := dump_in_memory empty firstReturned
      have behind : Represents links.heap linfo.length (some { links with linfo := none }) [] :=
        ⟨_, rfl, .nil, by simpa using first.blocks, fun _ _ => rfl, first.fresh⟩
      obtain ⟨list, secondRan, second⟩ := dump_in_memory behind secondReturned
      obtain ⟨kept, heap, heap', firstReleased, secondReleased, gone⟩ := released first second
      refine ⟨links.linfo, list, _, _, heap, heap', ?_, kept, numbered_snd 0 linfo, second.chain,
        numbered_snd _ ainfo, firstReleased, secondReleased, ?_, gone⟩
      · simp only [dumpsInMemory, firstRan, secondRan]
      · have joined : List.range' 0 linfo.length ++ List.range' (0 + linfo.length) ainfo.length =
            List.range' 0 (linfo.length + ainfo.length) := List.range'_append_1
        rw [Nat.zero_add] at joined
        rw [numbered_fst, numbered_fst, second.blocks, List.range_eq_range']
        exact joined
    · cases lists
  · cases lists

/-- Two links, and two addresses after the second request. -/
def indexMsg (type seq : Nat) (index : UInt8) : NlMsg := { bareMsg type seq with payload := [index, 0, 0, 0] }

def twoLinks : List Recv :=
  [.datagram 0 ((indexMsg 16 41 1).bytes .little ++ (indexMsg 16 41 2).bytes .little),
    .datagram 0 ((bareMsg 3 41).bytes .little)]

def twoAddrs : List Recv :=
  [.datagram 0 ((indexMsg 20 42 1).bytes .little ++
    ((indexMsg 20 42 2).bytes .little ++ (bareMsg 3 42).bytes .little))]

theorem two_links_in_memory :
    ∃ first list links addrs heap heap',
      dumpsInMemory .little (fun _ => true) ⟨7, 40, 0⟩ twoLinks twoAddrs = some (first, list) ∧
      Chain list.heap first links ∧
      links.map Prod.snd = [(indexMsg 16 41 1).bytes .little, (indexMsg 16 41 2).bytes .little] ∧
      Chain list.heap list.linfo addrs ∧
      addrs.map Prod.snd = [(indexMsg 20 42 1).bytes .little, (indexMsg 20 42 2).bytes .little] ∧
      (∀ steps > 2, releaseNlmsgList list.heap steps first = some (heap, links.map Prod.fst)) ∧
      (∀ steps > 2, releaseNlmsgList heap steps list.linfo = some (heap', addrs.map Prod.fst)) ∧
      links.map Prod.fst ++ addrs.map Prod.fst = List.range list.blocks ∧ ∀ addr, heap' addr = none :=
  lists_in_memory .little (fun _ => true) ⟨7, 40, 0⟩ twoLinks twoAddrs (by decide +kernel)

end Portproxy.MessageLists
