import Mathlib.Data.List.Forall2
import Mathlib.Data.Option.Basic
import Portproxy.AddressCollection
import Portproxy.LinkedCells

/-! The interface list of `lowlevel-linux.c` in memory. It is built through a
pointer to its last node over blocks that `malloc` does not clear, and read by
three functions that stop where `next` is null. -/
namespace Portproxy.InterfaceList
open LinkedCells AddressCollection

/-- What else `if_list_get` reads of an `RTM_NEWLINK` message. -/
structure IfInfo extends LinkMsg where
  type : Nat
  flags : Nat
  deriving DecidableEq, Repr

def iflaAddress : Nat := 1

/-- `MAX_IFNAME_LENGTH`, and the size of `mac`. -/
def maxIfnameLength : Nat := 255
def macSize : Nat := 255

/-- `struct iface_t`, but for `next`. The array with its count keeps all that
was written to it. -/
structure IfaceNode where
  name : CString
  id : Int
  hardwareType : Nat
  mac : List UInt8
  maclen : Nat
  ipaddr : AddrArray
  flags : Nat

namespace IfInfo

/-- The name a message carries. -/
def ifname (ifi : IfInfo) : Option CString := (rtattr ifi.attrs iflaIfname).map (·.takeWhile (· ≠ 0))

/-- The hardware address a message carries; a tunnel has none. -/
def lladdr (ifi : IfInfo) : List UInt8 := (rtattr ifi.attrs iflaAddress).getD []

/-- What is written into a node for a message. -/
def node (ifi : IfInfo) (ifname : CString) (ipaddr : AddrArray) : IfaceNode where
  name := ifname.take (maxIfnameLength - 1)
  id := ifi.index
  hardwareType := ifi.type
  mac := ifi.lladdr ++ List.replicate (macSize - ifi.lladdr.length) 0
  maclen := ifi.lladdr.length
  ipaddr
  flags := ifi.flags

end IfInfo

/-- One turn of the loop of `if_list_get`, for a block whose arrays of addresses
hold `array` before. A message without a name is read through a null pointer. -/
def ifaceNode (array : Nat → Nat → InAddr) (ainfo : List AddrMsg) (ifi : IfInfo) : Option IfaceNode :=
  ifi.ifname.bind fun ifname => (ipaddrGlobalGet array ifi.index ainfo {}).map (ifi.node ifname)

/-- Nothing was written outside `mac` or outside a block of addresses. -/
abbrev IfaceNode.Intact (node : IfaceNode) : Prop :=
  node.mac.length ≤ macSize ∧ ∀ write ∈ node.ipaddr.writes, write.index < write.room

/-- The nodes in memory, how many there are, and the pointers `head` and `tmp`. -/
structure IfList where
  heap : Heap Nat IfaceNode := fun _ => none
  blocks : Nat := 0
  head : Option Nat := none
  tmp : Nat := 0

/-- The next node, linked behind the others and filled. `memory` is what the
blocks for nodes hold when `malloc` gives them. -/
def IfList.append (memory : Nat → Cell Nat IfaceNode) (list : IfList) (node : IfaceNode) : IfList :=
  let heap := alloc list.heap list.blocks (memory list.blocks)
  match list.head with
  | none =>
    { heap := setValue heap list.blocks node
      blocks := list.blocks + 1
      head := some list.blocks
      tmp := list.blocks }
  | some head =>
    { heap := setValue (setNext heap list.tmp (some list.blocks)) list.blocks node
      blocks := list.blocks + 1
      head := some head
      tmp := list.blocks }

/-- The loop of `if_list_get`. There is no list where it reads through a null
pointer, or writes outside a block, which may hit anything. -/
def ifListLoop (memory : Nat → Cell Nat IfaceNode) (array : Nat → Nat → Nat → InAddr)
    (ainfo : List AddrMsg) : List IfInfo → IfList → Option IfList
  | [], list => some list
  | ifi :: rest, list =>
    match ifaceNode (array list.blocks) ainfo ifi with
    | none => none
    | some node =>
      if node.Intact then ifListLoop memory array ainfo rest (list.append memory node) else none

/-- `if_list_get` on these dumps. -/
def ifListGet (memory : Nat → Cell Nat IfaceNode) (array : Nat → Nat → Nat → InAddr)
    (linfo : List IfInfo) (ainfo : List AddrMsg) : Option IfList :=
  ifListLoop memory array ainfo linfo {}

/-! ## Reading the list

Each function gives what it returns, if anything, and the nodes it touches. -/

/-- `iface_ip`. -/
def ifaceIp (heap : Heap Nat IfaceNode) (name : CString) : Nat → Option Nat → Option (InAddr × List Nat)
  | 0, _ => none
  | _ + 1, none => some ({}, [])
  | steps + 1, some iface =>
    (heap iface).bind fun cell =>
      if cell.value.name = name then
        some (if cell.value.ipaddr.cnt = 0 then {} else (cell.value.ipaddr.buf.map (· 0)).getD {}, [iface])
      else (ifaceIp heap name steps cell.next).map fun found => (found.1, iface :: found.2)

/-- `ifaces_print`. -/
def ifacesPrint (heap : Heap Nat IfaceNode) : Nat → Option Nat → Option (List Nat)
  | 0, _ => none
  | _ + 1, none => some []
  | steps + 1, some iface =>
    (heap iface).bind fun cell => (ifacesPrint heap steps cell.next).map (iface :: ·)

/-- `if_list_release`, the arrays of addresses aside. -/
def ifListRelease : Heap Nat IfaceNode → Nat → Option Nat → Option (List Nat)
  | _, 0, _ => none
  | _, _ + 1, none => some []
  | heap, steps + 1, some list =>
    (heap list).bind fun cell => (ifListRelease (free heap list) steps cell.next).map (list :: ·)

variable {heap : Heap Nat IfaceNode} {start : Option Nat} {cells : List (Nat × IfaceNode)}
  {memory : Nat → Cell Nat IfaceNode} {array : Nat → Nat → Nat → InAddr} {linfo : List IfInfo}
  {ainfo : List AddrMsg} {list : IfList} {nodes : List IfaceNode}

/-! ## What a list that ends gives -/

/-- The node as far as the addresses are looked up. -/
def IfaceNode.iface (node : IfaceNode) : Iface where
  name := node.name
  ipaddrs := (List.range node.ipaddr.cnt).map fun i => (node.ipaddr.buf.map (· i)).getD {}

theorem first_ipaddr (node : IfaceNode) :
    node.iface.ipaddrs.head? =
      if node.ipaddr.cnt = 0 then none else some ((node.ipaddr.buf.map (· 0)).getD {}) := by
  cases count : node.ipaddr.cnt <;> simp [IfaceNode.iface, count, List.range_succ_eq_map]

/-- On a list that ends, `iface_ip` looks the address up among its nodes. -/
theorem chain_ip (chain : Chain heap start cells) (name : CString) :
    ∃ touched, touched <+: cells.map Prod.fst ∧ ∀ steps > cells.length,
      ifaceIp heap name steps start = some (Portproxy.ifaceIp (cells.map (·.2.iface)) name, touched) := by
  induction cells generalizing start with
  | nil =>
    cases chain
    refine ⟨[], List.nil_prefix, fun steps enough => ?_⟩
    obtain ⟨steps, rfl⟩ := Nat.exists_eq_add_of_le' enough
    rfl
  | cons cell rest ih =>
    obtain ⟨addr, node⟩ := cell
    cases chain with
    | cons stored behind =>
      obtain ⟨touched, within, later⟩ := ih behind
      by_cases here : node.name = name
      · refine ⟨[addr], by simp, fun steps enough => ?_⟩
        obtain ⟨steps, rfl⟩ := Nat.exists_eq_add_of_le' enough
        have named : node.iface.name = name := here
        have first : node.iface.ipaddrs.head?.getD {} =
            if node.ipaddr.cnt = 0 then {} else (node.ipaddr.buf.map (· 0)).getD {} := by
          rw [first_ipaddr]
          split <;> rfl
        simp [ifaceIp, Portproxy.ifaceIp, stored, here, named, first]
      · refine ⟨addr :: touched, by simpa using within, fun steps enough => ?_⟩
        obtain ⟨steps, rfl⟩ := Nat.exists_eq_add_of_le' enough
        have unnamed : ¬ node.iface.name = name := here
        have found := later (steps + (rest.length + 1)) (by omega)
        simp [ifaceIp, Portproxy.ifaceIp, stored, here, unnamed, found]

/-- `ifaces_print` visits each of its nodes once. -/
theorem chain_print (chain : Chain heap start cells) :
    ∀ steps > cells.length, ifacesPrint heap steps start = some (cells.map Prod.fst) := by
  induction cells generalizing start with
  | nil =>
    cases chain
    intro steps enough
    obtain ⟨steps, rfl⟩ := Nat.exists_eq_add_of_le' enough
    rfl
  | cons cell rest ih =>
    obtain ⟨addr, node⟩ := cell
    cases chain with
    | cons stored behind =>
      intro steps enough
      obtain ⟨steps, rfl⟩ := Nat.exists_eq_add_of_le' enough
      have printed := ih behind (steps + (rest.length + 1)) (by omega)
      simp [ifacesPrint, stored, printed]

/-- `if_list_release` frees each of its nodes once, and reads none after that. -/
theorem chain_release (chain : Chain heap start cells) :
    ∀ steps > cells.length, ifListRelease heap steps start = some (cells.map Prod.fst) := by
  have distinct := chain.distinct
  induction cells generalizing heap start with
  | nil =>
    cases chain
    intro steps enough
    obtain ⟨steps, rfl⟩ := Nat.exists_eq_add_of_le' enough
    rfl
  | cons cell rest ih =>
    obtain ⟨addr, node⟩ := cell
    obtain ⟨apart, others⟩ := List.nodup_cons.mp distinct
    cases chain with
    | cons stored behind =>
      intro steps enough
      obtain ⟨steps, rfl⟩ := Nat.exists_eq_add_of_le' enough
      have freed : Chain (free heap addr) _ rest := behind.update apart
      have released := ih freed others (steps + (rest.length + 1)) (by omega)
      simp [ifListRelease, stored, released]

/-! ## Building the list -/

/-- The nodes in the blocks they are in. -/
def numbered (nodes : List IfaceNode) : List (Nat × IfaceNode) := nodes.zipIdx.map Prod.swap

theorem numbered_concat (nodes : List IfaceNode) (node : IfaceNode) :
    numbered (nodes ++ [node]) = numbered nodes ++ [(nodes.length, node)] := by
  simp [numbered, List.zipIdx_append]

@[simp] theorem length_numbered (nodes : List IfaceNode) : (numbered nodes).length = nodes.length := by
  simp [numbered]

@[simp] theorem numbered_snd (nodes : List IfaceNode) : (numbered nodes).map Prod.snd = nodes := by
  rw [numbered, List.map_map]
  exact List.zipIdx_map_fst 0 nodes

theorem numbered_lt (member : block ∈ (numbered nodes).map Prod.fst) : block < nodes.length := by
  rw [numbered, List.map_map] at member
  have inRange : block ∈ List.range' 0 nodes.length := List.zipIdx_map_snd 0 nodes ▸ member
  simpa using inRange

/-- What the last node points at: `next` is never written there. -/
def trailing (memory : Nat → Cell Nat IfaceNode) (count : Nat) : Option Nat :=
  if count = 0 then none else (memory (count - 1)).next

/-- `head` leads over these nodes to whatever the last block held. -/
structure Built (memory : Nat → Cell Nat IfaceNode) (nodes : List IfaceNode) (list : IfList) : Prop where
  blocks : list.blocks = nodes.length
  path : Path list.heap list.head (numbered nodes) (trailing memory nodes.length)
  tmp : nodes ≠ [] → list.tmp + 1 = nodes.length

theorem append_built (built : Built memory nodes list) (node : IfaceNode) :
    Built memory (nodes ++ [node]) (list.append memory node) := by
  have fresh : list.blocks ∉ (numbered nodes).map Prod.fst := by
    intro member
    exact absurd (built.blocks ▸ numbered_lt member) (lt_irrefl _)
  have allocated : Path (alloc list.heap list.blocks (memory list.blocks)) list.head (numbered nodes)
      (trailing memory nodes.length) := built.path.update fresh
  have behind : trailing memory (nodes ++ [node]).length = (memory list.blocks).next := by
    simp [trailing, built.blocks]
  have cells : numbered (nodes ++ [node]) = numbered nodes ++ [(list.blocks, node)] := by
    rw [numbered_concat, built.blocks]
  have blocks : list.blocks + 1 = (nodes ++ [node]).length := by simp [built.blocks]
  rcases List.eq_nil_or_concat' nodes with rfl | ⟨front, last, rfl⟩
  · have head : list.head = none := by
      have path := built.path
      generalize list.head = start at path
      cases path
      rfl
    simp only [IfList.append, head]
    refine ⟨blocks, ?_, fun _ => blocks⟩
    rw [behind, cells]
    exact .cons (by simp [setValue, alloc]) .nil
  · obtain ⟨first, others, shape⟩ : ∃ first others, numbered (front ++ [last]) = first :: others :=
      List.exists_cons_of_ne_nil (by simp [numbered_concat])
    have head : list.head = some first.1 := by
      have path := built.path
      rw [shape] at path
      exact path.start_eq
    have tmp : list.tmp = front.length := by simpa using built.tmp (by simp)
    have apart : list.blocks ≠ list.tmp := by simp [built.blocks, tmp]
    -- the last node is linked to the new one, which is then filled
    have linked : Path (setNext (alloc list.heap list.blocks (memory list.blocks)) list.tmp (some list.blocks))
        list.head (numbered (front ++ [last])) (some list.blocks) := by
      rw [numbered_concat, ← tmp] at allocated ⊢
      refine allocated.relink fun member => ?_
      exact absurd (tmp ▸ numbered_lt member) (lt_irrefl _)
    simp only [IfList.append, head] at linked ⊢
    refine ⟨blocks, ?_, fun _ => blocks⟩
    rw [behind, cells]
    refine path_append.mpr ⟨some list.blocks, linked.update fresh, .cons ?_ .nil⟩
    simp [setValue, setNext, alloc, apart]

/-- A node for this message, with nothing written outside. -/
def Made (ainfo : List AddrMsg) (ifi : IfInfo) (node : IfaceNode) : Prop :=
  ∃ fresh, ifaceNode fresh ainfo ifi = some node ∧ node.Intact

/-- The loop appends a node for each message. -/
theorem loop_builds (built : Built memory nodes list)
    (looped : ifListLoop memory array ainfo linfo list = some after) :
    ∃ more, List.Forall₂ (Made ainfo) linfo more ∧ Built memory (nodes ++ more) after := by
  induction linfo generalizing nodes list with
  | nil =>
    obtain rfl := Option.some.inj looped
    exact ⟨[], .nil, by simpa using built⟩
  | cons ifi rest ih =>
    rw [ifListLoop] at looped
    cases made : ifaceNode (array list.blocks) ainfo ifi with
    | none => simp [made] at looped
    | some node =>
      simp only [made] at looped
      split at looped
      · rename_i intact
        obtain ⟨more, others, longer⟩ := ih (append_built built node) looped
        exact ⟨node :: more, .cons ⟨_, made, intact⟩ others, by simpa using longer⟩
      · cases looped

/-- A message whose data has room where it is stored: the name and the hardware
address in the node, and each address in the block allocated for it. -/
structure Fits (ainfo : List AddrMsg) (ifi : IfInfo) : Prop where
  name : (ifi.ifname.getD []).length < maxIfnameLength
  hardware : ifi.lladdr.length ≤ macSize
  carries : Carries ifi.index ainfo
  single : ainfo.countP (OfInterface afInet ifi.index) ≤ 1

/-- A node holds what its message carries. -/
structure Describes (ifi : IfInfo) (node : IfaceNode) : Prop where
  name : ifi.ifname = some node.name
  index : node.id = ifi.index
  flags : node.flags = ifi.flags
  type : node.hardwareType = ifi.type
  hardware : node.mac.take node.maclen = ifi.lladdr

theorem iface_node_some (fresh : Nat → Nat → InAddr) :
    ifaceNode fresh ainfo ifi = some node ↔
      ∃ ifname, ifi.ifname = some ifname ∧ Carries ifi.index ainfo ∧
        node = ifi.node ifname ((addresses ifi.index ainfo).foldl (AddrArray.push fresh) {}) := by
  rw [ifaceNode]
  cases ifi.ifname with
  | none => simp
  | some ifname =>
    simp only [Option.bind_some, Option.map_eq_some_iff, Option.some.injEq, exists_eq_left']
    constructor
    · rintro ⟨arr, gathered, rfl⟩
      have carries := global_get_carries gathered
      rw [global_get_pushes carries] at gathered
      exact ⟨carries, by rw [Option.some.inj gathered]⟩
    · rintro ⟨carries, rfl⟩
      exact ⟨_, global_get_pushes carries _, rfl⟩

theorem intact_iff (made : ifaceNode fresh ainfo ifi = some node) :
    node.Intact ↔ ifi.lladdr.length ≤ macSize ∧ ainfo.countP (OfInterface afInet ifi.index) ≤ 1 := by
  obtain ⟨ifname, -, -, rfl⟩ := (iface_node_some fresh).mp made
  have written : (ifi.lladdr ++ List.replicate (macSize - ifi.lladdr.length) 0).length ≤ macSize ↔
      ifi.lladdr.length ≤ macSize := by
    rw [List.length_append, List.length_replicate]
    omega
  rw [← length_addresses, ← pushes_in_bounds fresh, ← written]
  rfl

theorem describes_iff (made : ifaceNode fresh ainfo ifi = some node) :
    Describes ifi node ↔ (ifi.ifname.getD []).length < maxIfnameLength := by
  obtain ⟨ifname, named, -, rfl⟩ := (iface_node_some fresh).mp made
  rw [named]
  constructor
  · rintro ⟨kept, -⟩
    have whole : ifname = ifname.take (maxIfnameLength - 1) := Option.some.inj (named.symm.trans kept)
    have short := congrArg List.length whole
    rw [List.length_take, maxIfnameLength] at short
    rw [Option.getD_some, maxIfnameLength]
    omega
  · intro short
    refine ⟨named.trans ?_, rfl, rfl, rfl, List.take_left⟩
    exact congrArg some (List.take_of_length_le (Nat.le_sub_one_of_lt short)).symm

/-- The nodes hold their messages if these fit. -/
theorem describes_iff_fits (made : List.Forall₂ (Made ainfo) linfo nodes) :
    List.Forall₂ Describes linfo nodes ↔ ∀ ifi ∈ linfo, Fits ainfo ifi := by
  induction made with
  | nil => simp
  | cons here _ ih =>
    obtain ⟨fresh, made, intact⟩ := here
    obtain ⟨ifname, -, carries, -⟩ := (iface_node_some fresh).mp made
    obtain ⟨hardware, single⟩ := (intact_iff made).mp intact
    rw [List.forall₂_cons, List.forall_mem_cons, ih, describes_iff made]
    have fits (short : _) : Fits ainfo _ := ⟨short, hardware, carries, single⟩
    exact and_congr_left' ⟨fits, Fits.name⟩

/-- A list with one node for each message, in their order, and what its readers
do with it. -/
structure WellFormed (linfo : List IfInfo) (list : IfList) (cells : List (Nat × IfaceNode)) : Prop where
  chain : Chain list.heap list.head cells
  nodes : List.Forall₂ Describes linfo (cells.map Prod.snd)
  ip : ∀ name, ∃ found touched bound, touched <+: cells.map Prod.fst ∧
    ∀ steps ≥ bound, ifaceIp list.heap name steps list.head = some (found, touched)
  print : ∃ bound, ∀ steps ≥ bound, ifacesPrint list.heap steps list.head = some (cells.map Prod.fst)
  release : ∃ bound, ∀ steps ≥ bound, ifListRelease list.heap steps list.head = some (cells.map Prod.fst)

theorem well_formed (chain : Chain list.heap list.head cells)
    (nodes : List.Forall₂ Describes linfo (cells.map Prod.snd)) : WellFormed linfo list cells where
  chain := chain
  nodes := nodes
  ip name := by
    obtain ⟨touched, within, found⟩ := chain_ip chain name
    exact ⟨_, touched, cells.length + 1, within, found⟩
  print := ⟨cells.length + 1, chain_print chain⟩
  release := ⟨cells.length + 1, chain_release chain⟩

theorem get_builds (gotten : ifListGet memory array linfo ainfo = some list) :
    ∃ nodes, List.Forall₂ (Made ainfo) linfo nodes ∧ Built memory nodes list := by
  have start : Built memory [] {} := ⟨rfl, .nil, fun nonempty => absurd rfl nonempty⟩
  exact loop_builds start gotten

/-- A list of as many nodes as messages ends behind the last one that was built. -/
theorem chain_of_get (gotten : ifListGet memory array linfo ainfo = some list)
    (chain : Chain list.heap list.head cells) (long : linfo.length = cells.length) :
    trailing memory linfo.length = none ∧ List.Forall₂ (Made ainfo) linfo (cells.map Prod.snd) := by
  obtain ⟨nodes, made, built⟩ := get_builds gotten
  -- the walk over as many cells can only be the one that was built
  obtain ⟨rfl, ends⟩ := built.path.same chain (by rw [length_numbered, ← made.length_eq, long])
  rw [← made.length_eq] at ends
  exact ⟨ends, by simpa using made⟩

/-- Where every message fits, the loop gets through. -/
theorem loop_of_fits (named : ∀ ifi ∈ linfo, ifi.ifname.isSome) (fits : ∀ ifi ∈ linfo, Fits ainfo ifi) :
    ∃ after, ifListLoop memory array ainfo linfo list = some after := by
  induction linfo generalizing list with
  | nil => exact ⟨list, rfl⟩
  | cons ifi rest ih =>
    have here := fits ifi List.mem_cons_self
    obtain ⟨ifname, given⟩ := Option.isSome_iff_exists.mp (named ifi List.mem_cons_self)
    have made := (iface_node_some (array list.blocks)).mpr ⟨ifname, given, here.carries, rfl⟩
    have intact := (intact_iff made).mpr ⟨here.hardware, here.single⟩
    rw [ifListLoop]
    simp only [made, if_pos intact]
    exact ih (fun other member => named other (List.mem_cons_of_mem _ member))
      fun other member => fits other (List.mem_cons_of_mem _ member)

/-- The list is well formed exactly if the last block happened to hold null where
`next` is, and every message fits. -/
theorem list_well_formed_iff (memory : Nat → Cell Nat IfaceNode) (array : Nat → Nat → Nat → InAddr)
    (linfo : List IfInfo) (ainfo : List AddrMsg) (named : ∀ ifi ∈ linfo, ifi.ifname.isSome) :
    (∃ list cells, ifListGet memory array linfo ainfo = some list ∧ WellFormed linfo list cells) ↔
      (linfo ≠ [] → (memory (linfo.length - 1)).next = none) ∧ ∀ ifi ∈ linfo, Fits ainfo ifi := by
  have tail : trailing memory linfo.length = none ↔
      (linfo ≠ [] → (memory (linfo.length - 1)).next = none) := by
    cases linfo <;> simp [trailing]
  constructor
  · rintro ⟨list, cells, gotten, formed⟩
    have long := formed.nodes.length_eq
    rw [List.length_map] at long
    obtain ⟨ends, made⟩ := chain_of_get gotten formed.chain long
    exact ⟨tail.mp ends, (describes_iff_fits made).mp formed.nodes⟩
  · rintro ⟨ends, fits⟩
    obtain ⟨list, gotten⟩ : ∃ list, ifListGet memory array linfo ainfo = some list :=
      loop_of_fits named fits
    obtain ⟨nodes, made, built⟩ := get_builds gotten
    have chain := built.path
    rw [← made.length_eq, tail.mpr ends] at chain
    exact ⟨list, numbered nodes, gotten, well_formed chain (by simpa using (describes_iff_fits made).mpr fits)⟩

/-- The loopback interface and the WAN interface. -/
def loopback : IfInfo where
  index := 1
  attrs := [⟨iflaIfname, [0x6c, 0x6f, 0]⟩, ⟨iflaAddress, [0, 0, 0, 0, 0, 0]⟩]
  type := 772
  flags := 0x49

def wan : IfInfo where
  index := 2
  attrs := [⟨iflaIfname, [0x77, 0x61, 0x6e, 0x30, 0]⟩, ⟨iflaAddress, [2, 0, 0, 0, 0, 1]⟩]
  type := 1
  flags := 0x1043

/-- A block of zeroes, and one in which something was stored before. -/
def clearCell : Cell Nat IfaceNode where
  value := { name := [], id := 0, hardwareType := 0, mac := [], maclen := 0, ipaddr := {}, flags := 0 }
  next := none

def usedCell : Cell Nat IfaceNode := { clearCell with next := some 4096 }

theorem cleared_well_formed :
    (∃ list cells, ifListGet (fun _ => clearCell) (fun _ _ _ => {}) [loopback, wan] hostEntries = some list ∧
        WellFormed [loopback, wan] list cells) ↔
      ([loopback, wan] ≠ [] → (clearCell).next = none) ∧ ∀ ifi ∈ [loopback, wan], Fits hostEntries ifi :=
  list_well_formed_iff (fun _ => clearCell) (fun _ _ _ => {}) [loopback, wan] hostEntries (by decide)

/-- One interface on a host is enough for the list not to end. -/
theorem used_block_not_ended :
    ¬ ∃ list cells, ifListGet (fun _ => usedCell) (fun _ _ _ => {}) [loopback] [loopbackEntry] = some list ∧
      WellFormed [loopback] list cells := by
  rintro ⟨list, cells, gotten, formed⟩
  have long := formed.nodes.length_eq
  rw [List.length_map] at long
  cases (chain_of_get gotten formed.chain long).1

end Portproxy.InterfaceList
