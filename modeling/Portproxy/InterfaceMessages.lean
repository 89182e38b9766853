import Mathlib.Data.List.TakeWhile
import Portproxy.InterfaceList
import Portproxy.NetlinkReplies

/-! The lookups of `lowlevel-linux.c` over the bytes of the messages they have
stored: which fields they read, and through which pointers. On messages as the
kernel writes them they do what they do on what the messages say. -/
namespace Portproxy.InterfaceMessages
open SizedRecords Attributes NetlinkDump
open HostOrder (ByteOrder)
open AddressCollection (Addressed OfInterface global_get_of_read)
open InterfaceList (IfInfo IfaceNode IfList iflaAddress maxIfnameLength macSize)

/-- A field that is read. -/
def fieldAt (order : ByteOrder) (offset width : Nat) (mem : List UInt8) : Option Nat :=
  if offset + width ≤ mem.length then some (field order offset width mem) else none

/-- A string that is read: up to a zero, wherever that is. -/
def stringAt (mem : List UInt8) : Option CString :=
  if 0 ∈ mem then some (mem.takeWhile (· ≠ 0)) else none

/-- `memcpy` of `width` bytes. -/
def bytesAt (width : Nat) (mem : List UInt8) : Option (List UInt8) :=
  if width ≤ mem.length then some (mem.take width) else none

/-- `ifa->ifa_index == ifindex`, as unsigned integers. -/
def sameIndex (index : Nat) (ifindex : Int) : Bool := index = uint32 ifindex

/-- The largest types that the tables have room for, as the headers give them. -/
structure MaxTypes where
  ifla : Nat
  ifa : Nat

/-- Memory from the address of an entry on: `IFA_ADDRESS`, or `IFA_LOCAL` where there
is none. There is nothing to read through if there is neither. -/
def addrAt (order : ByteOrder) (types : MaxTypes) (n : List UInt8) : Option (List UInt8) :=
  (parseRtattr order types.ifa (n.drop 24) (nlmsgLen order n - 24)).bind fun parsed =>
    ((parsed.tb ifaAddress).or (parsed.tb ifaLocal)).map rtaData

/-- `ipaddr_global_get`. -/
def ipaddrGlobalGet (order : ByteOrder) (types : MaxTypes) (fresh : Nat → Nat → InAddr) (ifindex : Int) :
    List (List UInt8) → AddrArray → Option AddrArray
  | [], arr => some arr
  | n :: rest, arr =>
    (fieldAt order 16 1 n).bind fun family =>
      if family = afInet then
        (fieldAt order 20 4 n).bind fun index =>
          if sameIndex index ifindex then
            (addrAt order types n).bind fun mem =>
              (bytesAt 4 mem).bind fun addr =>
                ipaddrGlobalGet order types fresh ifindex rest (arr.push fresh (inOfBytes addr))
          else ipaddrGlobalGet order types fresh ifindex rest arr
      else ipaddrGlobalGet order types fresh ifindex rest arr

/-- `ipaddr6_global_get`. -/
def ipaddr6GlobalGet (host : Host) (types : MaxTypes) (ifindex : Int) :
    List (List UInt8) → Option (Option In6Addr)
  | [] => some none
  | n :: rest =>
    (fieldAt host.order 16 1 n).bind fun family =>
      if family = afInet6 then
        (fieldAt host.order 20 4 n).bind fun index =>
          if sameIndex index ifindex then
            (addrAt host.order types n).bind fun mem =>
              (bytesAt 16 mem).bind fun addr =>
                if skipsAddr host (in6OfBytes addr) then ipaddr6GlobalGet host types ifindex rest
                else some (some (in6OfBytes addr))
          else ipaddr6GlobalGet host types ifindex rest
      else ipaddr6GlobalGet host types ifindex rest

/-- One turn of the loop of `if_list_get`. -/
def ifaceNode (order : ByteOrder) (types : MaxTypes) (array : Nat → Nat → InAddr) (ainfo : List (List UInt8))
    (n : List UInt8) : Option IfaceNode :=
  (parseRtattr order types.ifla (n.drop 32) (nlmsgLen order n - 32)).bind fun parsed =>
    ((parsed.tb iflaIfname).bind fun rta => stringAt (rtaData rta)).bind fun ifname =>
      (fieldAt order 18 2 n).bind fun type =>
        (fieldAt order 20 4 n).bind fun index =>
          (fieldAt order 24 4 n).bind fun flags =>
            let lladdr := ((parsed.tb iflaAddress).map (rtaPayload order)).getD []
            (ipaddrGlobalGet order types array (int32 index) ainfo {}).map fun ipaddr =>
              { name := ifname.take (maxIfnameLength - 1)
                id := int32 index
                hardwareType := type
                mac := lladdr ++ List.replicate (macSize - lladdr.length) 0
                maclen := lladdr.length
                ipaddr
                flags }

/-- The loop of `if_list_get`. -/
def ifListLoop (order : ByteOrder) (types : MaxTypes) (memory : Nat → LinkedCells.Cell Nat IfaceNode)
    (array : Nat → Nat → Nat → InAddr) (ainfo : List (List UInt8)) :
    List (List UInt8) → IfList → Option IfList
  | [], list => some list
  | n :: rest, list =>
    match ifaceNode order types (array list.blocks) ainfo n with
    | none => none
    | some node =>
      if node.Intact then ifListLoop order types memory array ainfo rest (list.append memory node) else none

/-- `if_list_get` on what is received. -/
def ifListGet (order : ByteOrder) (types : MaxTypes) (malloc malloc' : Nat → Bool)
    (memory : Nat → LinkedCells.Cell Nat IfaceNode) (array : Nat → Nat → Nat → InAddr) (rth : RtnlHandle)
    (recvs recvs' : List Recv) : Option IfList :=
  (dumps order malloc malloc' rth recvs recvs').bind fun lists =>
    ifListLoop order types memory array lists.2 lists.1 {}

/-- The loop of `iface_ip6_get`; `found` is what is in `addr`. -/
def ifaceIp6Loop (host : Host) (types : MaxTypes) (iface : CString) (ainfo : List (List UInt8)) :
    List (List UInt8) → Option In6Addr → Option (Option In6Addr)
  | [], found => some found
  | n :: rest, found =>
    (parseRtattr host.order types.ifla (n.drop 32) (nlmsgLen host.order n - 32)).bind fun parsed =>
      ((parsed.tb iflaIfname).bind fun rta => stringAt (rtaData rta)).bind fun ifname =>
        if ifname = iface then
          (fieldAt host.order 20 4 n).bind fun index =>
            (ipaddr6GlobalGet host types (int32 index) ainfo).bind fun addr =>
              ifaceIp6Loop host types iface ainfo rest (addr.or found)
        else ifaceIp6Loop host types iface ainfo rest found

/-- `iface_ip6_get` on what is received: the address, if it returns 0. -/
def ifaceIp6Get (host : Host) (types : MaxTypes) (malloc malloc' : Nat → Bool) (iface : CString)
    (rth : RtnlHandle) (recvs recvs' : List Recv) : Option (Option In6Addr) :=
  (dumps host.order malloc malloc' rth recvs recvs').bind fun lists =>
    ifaceIp6Loop host types iface lists.2 lists.1 none

/-! ## What a message says -/

/-- An `RTM_NEWLINK` message. -/
def linkOf (order : ByteOrder) (n : List UInt8) : IfInfo where
  index := int32 (field order 20 4 n)
  attrs := attrs order (n.drop 32) (n.length - 32)
  type := field order 18 2 n
  flags := field order 24 4 n

/-- An `RTM_NEWADDR` message. -/
def addrOf (order : ByteOrder) (n : List UInt8) : AddrMsg where
  family := field order 16 1 n
  index := int32 (field order 20 4 n)
  attrs := attrs order (n.drop 24) (n.length - 24)

/-- A message that `if_list_get` and `iface_ip6_get` read as what it says: its
attributes are all there, and the name ends. -/
structure LinkRead (order : ByteOrder) (types : MaxTypes) (n : List UInt8) : Prop where
  length : nlmsgLen order n = n.length
  header : 32 ≤ n.length
  legible : Legible order (n.drop 32) (n.length - 32)
  name : ∀ data, rtattr (linkOf order n).attrs iflaIfname = some data → 0 ∈ data

/-- The same for an address entry: an address has the bytes that are copied. -/
structure AddrRead (order : ByteOrder) (types : MaxTypes) (n : List UInt8) : Prop where
  length : nlmsgLen order n = n.length
  header : 24 ≤ n.length
  legible : Legible order (n.drop 24) (n.length - 24)
  addr : (addrOf order n).family = afInet → ∀ data, ifaAddr (addrOf order n) = some data → 4 ≤ data.length
  addr6 : (addrOf order n).family = afInet6 → ∀ data, ifaAddr (addrOf order n) = some data → 16 ≤ data.length

/-- The tables have room for the types that are looked up. -/
structure MaxTypes.Enough (types : MaxTypes) : Prop where
  ifla : iflaIfname ≤ types.ifla
  ifa : ifaLocal ≤ types.ifa

variable {order : ByteOrder} {host : Host} {types : MaxTypes} {n : List UInt8} {ainfo linfo : List (List UInt8)}
  {ifindex : Int} {fresh : Nat → Nat → InAddr}

theorem field_at (enough : offset + width ≤ n.length) :
    fieldAt order offset width n = some (field order offset width n) := if_pos enough

theorem load_lt (order : ByteOrder) (bytes : List UInt8) : order.load bytes < 256 ^ bytes.length := by
  have back := order.load_store bytes.length (order.load bytes)
  rw [order.store_load] at back
  rw [back]
  exact Nat.mod_lt _ (Nat.pow_pos (by omega))

theorem field4_lt (order : ByteOrder) (enough : offset + 4 ≤ n.length) :
    field order offset 4 n < 4294967296 := by
  have bound := load_lt order ((n.drop offset).take 4)
  have width : ((n.drop offset).take 4).length = 4 := by
    rw [List.length_take, List.length_drop]
    omega
  rw [width] at bound
  exact bound

theorem same_index_iff (small : index < 4294967296) (low : -2147483648 ≤ ifindex) (high : ifindex < 2147483648) :
    sameIndex index ifindex = true ↔ int32 index = ifindex := by
  rw [sameIndex, decide_eq_true_iff]
  unfold int32 uint32
  omega

theorem addr_index (order : ByteOrder) (n : List UInt8) :
    (addrOf order n).index = int32 (field order 20 4 n) := by
  simp only [addrOf]

theorem link_index (order : ByteOrder) (n : List UInt8) :
    (linkOf order n).index = int32 (field order 20 4 n) := by
  simp only [linkOf]

theorem int32_range (n : Int) : -2147483648 ≤ int32 n ∧ int32 n < 2147483648 := by
  unfold int32
  omega

theorem payload_within (order : ByteOrder) (rta : List UInt8) : rtaPayload order rta <+: rtaData rta :=
  List.take_prefix _ _

theorem bytes_at (long : width ≤ data.length) (within : data <+: mem) :
    bytesAt width mem = some (data.take width) := by
  obtain ⟨rest, rfl⟩ := within
  rw [bytesAt, if_pos (by rw [List.length_append]; omega), List.take_append_of_le_length long]

theorem string_at (zero : 0 ∈ data) (within : data <+: mem) :
    stringAt mem = some (data.takeWhile (· ≠ 0)) := by
  obtain ⟨rest, rfl⟩ := within
  rw [stringAt, if_pos (List.mem_append_left _ zero), List.takeWhile_append]
  have stops : (data.takeWhile (· ≠ 0)).length ≠ data.length := by
    intro whole
    rw [← (List.takeWhile_prefix _).eq_of_length whole] at zero
    simpa using List.mem_takeWhile_imp zero
  rw [if_neg stops]

theorem in_of_taken (data : List UInt8) : inOfBytes (data.take 4) = inOfBytes data := by
  simp [inOfBytes, List.getD_eq_getElem?_getD]

theorem in6_of_taken (data : List UInt8) : in6OfBytes (data.take 16) = in6OfBytes data := by
  unfold in6OfBytes
  congr 1
  funext i
  simp [List.getD_eq_getElem?_getD, i.isLt]

/-- The address of an entry is where its attribute says. -/
theorem addr_at (enough : types.Enough) (read : AddrRead order types n) :
    (ifaAddr (addrOf order n) = none ∧ addrAt order types n = none) ∨
      ∃ data mem, ifaAddr (addrOf order n) = some data ∧ addrAt order types n = some mem ∧ data <+: mem := by
  have inside : ((n.length : Int) - 24) ≤ (n.drop 24).length := by
    rw [List.length_drop]
    omega
  obtain ⟨parsed, found, table, -⟩ := (parse_rtattr_any_bytes order types.ifa inside).1 read.legible
  have local' : ifaLocal ≤ types.ifa := enough.ifa
  have address : ifaAddress ≤ types.ifa := le_trans (by simp [ifaAddress, ifaLocal]) local'
  have first := table.last ifaAddress address
  have second := table.last ifaLocal local'
  have addr : ifaAddr (addrOf order n) =
      ((parsed.tb ifaAddress).or (parsed.tb ifaLocal)).map (rtaPayload order) := by
    rw [ifaAddr, addrOf, ← first, ← second]
    cases parsed.tb ifaAddress <;> rfl
  have at' : addrAt order types n = ((parsed.tb ifaAddress).or (parsed.tb ifaLocal)).map rtaData := by
    rw [addrAt, read.length, found, Option.bind_some]
  rw [addr, at']
  cases (parsed.tb ifaAddress).or (parsed.tb ifaLocal) with
  | none => exact .inl ⟨rfl, rfl⟩
  | some rta => exact .inr ⟨_, _, rfl, rfl, payload_within order rta⟩

/-- `ipaddr_global_get` on the messages does what it does on what they say. -/
theorem ipaddr_global_get_eq (enough : types.Enough) (read : ∀ n ∈ ainfo, AddrRead order types n)
    (low : -2147483648 ≤ ifindex) (high : ifindex < 2147483648) (arr : AddrArray) :
    ipaddrGlobalGet order types fresh ifindex ainfo arr =
      Portproxy.ipaddrGlobalGet fresh ifindex (ainfo.map (addrOf order)) arr := by
  induction ainfo generalizing arr with
  | nil => rfl
  | cons n rest ih =>
    have here := read n List.mem_cons_self
    have later := ih fun other member => read other (List.mem_cons_of_mem _ member)
    have long := here.header
    have small : field order 20 4 n < 4294967296 := field4_lt order (by omega)
    have same := same_index_iff small low high
    rw [← addr_index] at same
    have first : fieldAt order 16 1 n = some (addrOf order n).family := field_at (by omega)
    have second : fieldAt order 20 4 n = some (field order 20 4 n) := field_at (by omega)
    rw [ipaddrGlobalGet, List.map_cons, Portproxy.ipaddrGlobalGet, first, second]
    simp only [Option.bind_some]
    by_cases family : (addrOf order n).family = afInet
    · by_cases mine : (addrOf order n).index = ifindex
      · rw [if_pos family, if_pos (same.mpr mine), if_pos ⟨family, mine⟩]
        rcases addr_at enough here with ⟨none, none'⟩ | ⟨data, mem, some, some', within⟩
        · rw [none, none']
          rfl
        · have copied := bytes_at (here.addr family data some) within
          simp only [some, some', copied, Option.bind_some, in_of_taken]
          exact later _
      · have other : ¬ sameIndex (field order 20 4 n) ifindex = true := mt same.mp mine
        simp only [family, mine, other, ↓reduceIte, and_false, Bool.false_eq_true]
        exact later _
    · simp only [family, false_and, ↓reduceIte]
      exact later _

/-- `ipaddr6_global_get` on the messages does what it does on what they say. -/
theorem ipaddr6_global_get_eq (enough : types.Enough) (read : ∀ n ∈ ainfo, AddrRead host.order types n)
    (low : -2147483648 ≤ ifindex) (high : ifindex < 2147483648) :
    ipaddr6GlobalGet host types ifindex ainfo = ipaddr6GlobalRead host ifindex (ainfo.map (addrOf host.order)) := by
  induction ainfo with
  | nil => rfl
  | cons n rest ih =>
    have here := read n List.mem_cons_self
    have later := ih fun other member => read other (List.mem_cons_of_mem _ member)
    have long := here.header
    have small : field host.order 20 4 n < 4294967296 := field4_lt host.order (by omega)
    have same := same_index_iff small low high
    rw [← addr_index] at same
    have first : fieldAt host.order 16 1 n = some (addrOf host.order n).family := field_at (by omega)
    have second : fieldAt host.order 20 4 n = some (field host.order 20 4 n) := field_at (by omega)
    rw [ipaddr6GlobalGet, List.map_cons, ipaddr6GlobalRead, first, second]
    simp only [Option.bind_some]
    by_cases family : (addrOf host.order n).family = afInet6
    · by_cases mine : (addrOf host.order n).index = ifindex
      · rw [if_pos family, if_pos (same.mpr mine), if_pos ⟨family, mine⟩]
        rcases addr_at enough here with ⟨none, none'⟩ | ⟨data, mem, some, some', within⟩
        · rw [none, none']
          rfl
        · have copied := bytes_at (here.addr6 family data some) within
          simp only [some, some', copied, Option.bind_some, Option.map_some, in6_of_taken, later]
      · have other : ¬ sameIndex (field host.order 20 4 n) ifindex = true := mt same.mp mine
        simp only [family, mine, other, ↓reduceIte, and_false, Bool.false_eq_true]
        exact later
    · simp only [family, false_and, ↓reduceIte]
      exact later

/-- A link is named and described by its attributes. -/
theorem link_at (enough : types.Enough) (read : LinkRead order types n) :
    ∃ parsed, parseRtattr order types.ifla (n.drop 32) (nlmsgLen order n - 32) = some parsed ∧
      ((parsed.tb iflaIfname).bind fun rta => stringAt (rtaData rta)) = (linkOf order n).ifname ∧
      ((parsed.tb iflaAddress).map (rtaPayload order)).getD [] = (linkOf order n).lladdr := by
  have inside : ((n.length : Int) - 32) ≤ (n.drop 32).length := by
    rw [List.length_drop]
    omega
  obtain ⟨parsed, found, table, -⟩ := (parse_rtattr_any_bytes order types.ifla inside).1 read.legible
  have named : iflaIfname ≤ types.ifla := enough.ifla
  have address : iflaAddress ≤ types.ifla := le_trans (by simp [iflaAddress, iflaIfname]) named
  rw [read.length]
  refine ⟨parsed, found, ?_, ?_⟩
  · have held := table.last iflaIfname named
    have zero := read.name
    unfold IfInfo.ifname
    simp only [linkOf] at zero ⊢
    rw [← held] at zero ⊢
    cases entry : parsed.tb iflaIfname with
    | none => rfl
    | some rta =>
      rw [entry] at zero
      exact string_at (zero _ rfl) (payload_within order rta)
  · have held := table.last iflaAddress address
    unfold IfInfo.lladdr
    simp only [linkOf]
    rw [← held]

theorem iface_node_eq (enough : types.Enough) (read : LinkRead order types n)
    (addrs : ∀ n ∈ ainfo, AddrRead order types n) :
    ifaceNode order types fresh ainfo n =
      InterfaceList.ifaceNode fresh (ainfo.map (addrOf order)) (linkOf order n) := by
  obtain ⟨parsed, found, name, lladdr⟩ := link_at enough read
  have long := read.header
  have type : fieldAt order 18 2 n = some (linkOf order n).type := field_at (by omega)
  have index : fieldAt order 20 4 n = some (field order 20 4 n) := field_at (by omega)
  have flags : fieldAt order 24 4 n = some (linkOf order n).flags := field_at (by omega)
  have range := int32_range (field order 20 4 n)
  rw [ifaceNode, InterfaceList.ifaceNode, found]
  simp only [Option.bind_some, name, lladdr, type, index, flags, ← link_index] at range ⊢
  obtain ⟨low, high⟩ := range
  rw [ipaddr_global_get_eq enough addrs low high]
  rfl

/-- The loop of `if_list_get` builds the list of what the messages say. -/
theorem if_list_loop_eq (enough : types.Enough) (links : ∀ n ∈ linfo, LinkRead order types n)
    (addrs : ∀ n ∈ ainfo, AddrRead order types n) (list : IfList) :
    ifListLoop order types memory array ainfo linfo list =
      InterfaceList.ifListLoop memory array (ainfo.map (addrOf order)) (linfo.map (linkOf order)) list := by
  induction linfo generalizing list with
  | nil => rfl
  | cons n rest ih =>
    have later := ih fun other member => links other (List.mem_cons_of_mem _ member)
    rw [ifListLoop, List.map_cons, InterfaceList.ifListLoop,
      iface_node_eq enough (links n List.mem_cons_self) addrs]
    cases InterfaceList.ifaceNode (array list.blocks) (ainfo.map (addrOf order)) (linkOf order n) with
    | none => rfl
    | some node =>
      simp only
      split
      · exact later _
      · rfl

theorem read_of_addressed (host : Host) (ifindex : Int) (addressed : Addressed afInet6 dump) :
    ∃ found, ipaddr6GlobalRead host ifindex dump = some found := by
  induction dump with
  | nil => exact ⟨none, rfl⟩
  | cons ifa rest ih =>
    obtain ⟨found, later⟩ := ih fun other member => addressed other (List.mem_cons_of_mem _ member)
    by_cases here : OfInterface afInet6 ifindex ifa
    · obtain ⟨data, carried⟩ := Option.isSome_iff_exists.mp (addressed ifa List.mem_cons_self here.1)
      rw [ipaddr6GlobalRead, if_pos here, carried, later, Option.map_some]
      simp only
      split
      · exact ⟨found, rfl⟩
      · exact ⟨_, rfl⟩
    · rw [ipaddr6GlobalRead, if_neg here]
      exact ⟨found, later⟩

/-- The loop of `iface_ip6_get` finds the address that the messages give. -/
theorem iface_ip6_loop_eq (enough : types.Enough) (links : ∀ n ∈ linfo, LinkRead host.order types n)
    (addrs : ∀ n ∈ ainfo, AddrRead host.order types n)
    (named : ∀ n ∈ linfo, (linkOf host.order n).ifname.isSome)
    (addressed : Addressed afInet6 (ainfo.map (addrOf host.order))) (iface : CString)
    (found : Option In6Addr) :
    ifaceIp6Loop host types iface ainfo linfo found =
      some (Portproxy.ifaceIp6Loop host iface (ainfo.map (addrOf host.order))
        (linfo.map fun n => (linkOf host.order n).toLinkMsg) found) := by
  induction linfo generalizing found with
  | nil => rfl
  | cons n rest ih =>
    have later := ih (fun other member => links other (List.mem_cons_of_mem _ member))
      fun other member => named other (List.mem_cons_of_mem _ member)
    have here := links n List.mem_cons_self
    have long := here.header
    obtain ⟨parsed, found', name, -⟩ := link_at enough here
    obtain ⟨ifname, is⟩ := Option.isSome_iff_exists.mp (named n List.mem_cons_self)
    have index : fieldAt host.order 20 4 n = some (field host.order 20 4 n) := field_at (by omega)
    have whose : (rtattr (linkOf host.order n).attrs iflaIfname).map (·.takeWhile (· ≠ 0)) = some ifname := is
    have range := int32_range (field host.order 20 4 n)
    rw [ifaceIp6Loop, List.map_cons, Portproxy.ifaceIp6Loop, found', whose]
    simp only [Option.bind_some, name, is, index, Option.some.injEq, ← link_index] at range ⊢
    by_cases same : ifname = iface
    · rw [if_pos same, if_pos same, ipaddr6_global_get_eq enough addrs range.1 range.2]
      -- every entry has an address, so none is read through a null pointer
      obtain ⟨addr, read⟩ := read_of_addressed host (linkOf host.order n).index addressed
      rw [read, global_get_of_read read]
      exact later _
    · rw [if_neg same, if_neg same]
      exact later found

end Portproxy.InterfaceMessages
