import Mathlib.Data.List.Forall2
import Portproxy.CommandLine
import Portproxy.InterfaceList

/-! Which address the LAN and the WAN interface are taken to have: of the entries
that name the interface the last one counts, and of that entry the attribute that
on a point-to-point link is the address of the other end. -/
namespace Portproxy.InterfaceAddress
open LinkedCells AddressCollection InterfaceList

/-- The IPv4 entries of an interface. -/
def entries (ifindex : Int) (ainfo : List AddrMsg) : List AddrMsg :=
  ainfo.filter (OfInterface afInet ifindex)

/-- The address an entry gives the interface: `IFA_LOCAL`, or `IFA_ADDRESS` where
there is none. -/
def localAddr (ifa : AddrMsg) : InAddr :=
  inOfBytes (((rtattr ifa.attrs ifaLocal).or (rtattr ifa.attrs ifaAddress)).getD [])

/-- The address that is read out of an entry. -/
def readAddr (ifa : AddrMsg) : InAddr := inOfBytes ((ifaAddr ifa).getD [])

/-- The name of a link in the list. -/
def nodeName (ifi : IfInfo) : Option CString := ifi.ifname.map (·.take (maxIfnameLength - 1))

/-- The first interface in the list that has this name there. -/
def linkNamed (linfo : List IfInfo) (name : CString) : Option IfInfo :=
  linfo.find? (nodeName · = some name)

/-- An address of the interface of this name, or zeroes where there is no such
interface or it has no address. -/
def Owned (linfo : List IfInfo) (ainfo : List AddrMsg) (name : CString) (addr : InAddr) : Prop :=
  match linkNamed linfo name with
  | none => addr = {}
  | some ifi =>
    if entries ifi.index ainfo = [] then addr = {}
    else addr ∈ (entries ifi.index ainfo).map localAddr

/-- A node that `if_list_get` fills for a link. -/
abbrev Filled (ainfo : List AddrMsg) (ifi : IfInfo) (node : IfaceNode) : Prop :=
  ∃ fresh, ifaceNode fresh ainfo ifi = some node

/-- A list in memory that ends, with a node for each link, and `ctx->ifaces` at
its head. -/
structure Listed (env : Surroundings) (linfo : List IfInfo) (ainfo : List AddrMsg) (heap : Heap Nat IfaceNode)
    (head : Option Nat) (cells : List (Nat × IfaceNode)) : Prop where
  chain : Chain heap head cells
  filled : List.Forall₂ (Filled ainfo) linfo (cells.map Prod.snd)
  ifaces : env.ifaces = cells.map (·.2.iface)

variable {env : Surroundings} {linfo : List IfInfo} {ainfo : List AddrMsg} {heap : Heap Nat IfaceNode}
  {head : Option Nat} {cells : List (Nat × IfaceNode)} {nodes : List IfaceNode} {name : CString}

/-- What `if_list_get` returns is such a list, if it ends behind the last link. -/
theorem listed_of_get (gotten : ifListGet memory array linfo ainfo = some list)
    (chain : Chain list.heap list.head cells) (long : linfo.length = cells.length)
    (ifaces : env.ifaces = cells.map (·.2.iface)) : Listed env linfo ainfo list.heap list.head cells where
  chain := chain
  filled := (chain_of_get gotten chain long).2.imp fun _ _ ⟨fresh, made, _⟩ => ⟨fresh, made⟩
  ifaces := ifaces

/-- The walk of `iface_ip` over it ends with the address the context is given. -/
theorem listed_ip (listed : Listed env linfo ainfo heap head cells) (name : CString) :
    ∃ touched bound, ∀ steps ≥ bound,
      InterfaceList.ifaceIp heap name steps head = some (Portproxy.ifaceIp env.ifaces name, touched) := by
  obtain ⟨touched, -, found⟩ := chain_ip listed.chain name
  exact ⟨touched, cells.length + 1, by rw [listed.ifaces]; exact found⟩

theorem name_of_node (made : ifaceNode fresh ainfo ifi = some node) :
    nodeName ifi = some node.name := by
  obtain ⟨ifname, named, -, rfl⟩ := (iface_node_some fresh).mp made
  rw [nodeName, named]
  rfl

/-- The first address of a node is that of the last entry. -/
theorem first_of_node (made : ifaceNode fresh ainfo ifi = some node) :
    node.iface.ipaddrs.head? = (entries ifi.index ainfo).getLast?.map readAddr := by
  obtain ⟨ifname, -, -, rfl⟩ := (iface_node_some fresh).mp made
  have count := pushes_count fresh (addresses ifi.index ainfo) {}
  have first := pushes_first fresh (addresses ifi.index ainfo)
  have listed : addresses ifi.index ainfo = (entries ifi.index ainfo).map readAddr := rfl
  rw [first_ipaddr, IfInfo.node, count, first, listed, List.getLast?_map]
  rcases List.eq_nil_or_concat' (entries ifi.index ainfo) with none | ⟨front, last, some⟩
  · simp [none]
  · simp [some]

/-- `iface_ip` takes the last entry of the interface. -/
theorem iface_ip_last (filled : List.Forall₂ (Filled ainfo) linfo nodes) (name : CString) :
    Portproxy.ifaceIp (nodes.map IfaceNode.iface) name =
      ((linkNamed linfo name).bind fun ifi => (entries ifi.index ainfo).getLast?.map readAddr).getD {} := by
  unfold Portproxy.ifaceIp linkNamed
  induction filled with
  | nil => rfl
  | @cons ifi node _ _ here _ ih =>
    obtain ⟨fresh, made⟩ := here
    have named := name_of_node made
    by_cases same : node.name = name
    · have named' : node.iface.name = name := same
      simp [named, same, named', first_of_node made]
    · have unnamed : ¬ node.iface.name = name := same
      simpa [named, same, unnamed] using ih

/-- An entry lacks one of the two attributes, or its `IFA_ADDRESS` is the local
address of one of these entries, its own or another one. -/
def AddressLocal (ifas : List AddrMsg) (ifa : AddrMsg) : Prop :=
  ∀ addr, rtattr ifa.attrs ifaAddress = some addr → (rtattr ifa.attrs ifaLocal).isSome →
    inOfBytes addr ∈ ifas.map localAddr

/-- What is read out of an entry with one attribute is its local address. -/
theorem read_addr_owned_iff (member : ifa ∈ ifas) :
    readAddr ifa ∈ ifas.map localAddr ↔ AddressLocal ifas ifa := by
  have own : localAddr ifa ∈ ifas.map localAddr := List.mem_map_of_mem member
  unfold AddressLocal
  cases address : rtattr ifa.attrs ifaAddress with
  | none =>
    have same : readAddr ifa = localAddr ifa := by simp [readAddr, ifaAddr, localAddr, address]
    simpa [same] using own
  | some addr =>
    have read : readAddr ifa = inOfBytes addr := by simp [readAddr, ifaAddr, address]
    cases local' : rtattr ifa.attrs ifaLocal with
    | none =>
      have same : readAddr ifa = localAddr ifa := by simp [read, localAddr, address, local']
      simpa [same] using own
    | some addr' => simp [read]

/-- The address is one of the interface exactly if its last entry does not carry the
address of another end beside the local one. -/
theorem default_ip_owned_iff (listed : Listed env linfo ainfo heap head cells) (name : CString) :
    (Owned linfo ainfo name (defaultLanIp env name) ∧ Owned linfo ainfo name (defaultWanIp env name)) ↔
      ∀ ifi, linkNamed linfo name = some ifi → ∀ last, (entries ifi.index ainfo).getLast? = some last →
        AddressLocal (entries ifi.index ainfo) last := by
  have found := iface_ip_last listed.filled name
  rw [List.map_map] at found
  rw [defaultLanIp, defaultWanIp, and_self, listed.ifaces]
  change Owned linfo ainfo name (Portproxy.ifaceIp (cells.map (IfaceNode.iface ∘ Prod.snd)) name) ↔ _
  rw [found]
  unfold Owned
  cases linkNamed linfo name with
  | none => simp
  | some ifi =>
    simp only [Option.some.injEq, forall_eq', Option.bind_some]
    rcases List.eq_nil_or_concat' (entries ifi.index ainfo) with none | ⟨front, last, some⟩
    · simp [none]
    · have member : last ∈ entries ifi.index ainfo := by simp [some]
      have owned := read_addr_owned_iff member
      rw [some] at owned ⊢
      simpa using owned

/-- A tunnel whose other end is 192.0.2.1. -/
def tunnelName : CString := [0x70, 0x70, 0x70, 0x30]

def tunnel : IfInfo where
  index := 3
  attrs := [⟨iflaIfname, tunnelName ++ [0]⟩]
  type := 512
  flags := 0x51

def tunnelEntry : AddrMsg where
  family := afInet
  index := 3
  attrs := [⟨ifaAddress, [192, 0, 2, 1]⟩, ⟨ifaLocal, [10, 0, 0, 2]⟩]

/-- Its node, alone in the list. -/
def tunnelNode : IfaceNode := tunnel.node tunnelName (({} : AddrArray).push (fun _ _ => {}) ⟨192, 0, 2, 1⟩)

def tunnelHeap : Heap Nat IfaceNode := fun addr => if addr = 0 then some ⟨tunnelNode, none⟩ else none

def tunnelHost : Surroundings := { ifaces := [tunnelNode.iface] }

theorem tunnel_listed :
    Listed tunnelHost [tunnel] [tunnelEntry] tunnelHeap (some 0) [(0, tunnelNode)] where
  chain := .cons rfl .nil
  filled := .cons ⟨fun _ _ => {}, rfl⟩ .nil
  ifaces := rfl

theorem tunnel_address_iff :
    (Owned [tunnel] [tunnelEntry] tunnelName (defaultLanIp tunnelHost tunnelName) ∧
        Owned [tunnel] [tunnelEntry] tunnelName (defaultWanIp tunnelHost tunnelName)) ↔
      ∀ ifi, linkNamed [tunnel] tunnelName = some ifi →
        ∀ last, (entries ifi.index [tunnelEntry]).getLast? = some last →
          AddressLocal (entries ifi.index [tunnelEntry]) last :=
  default_ip_owned_iff tunnel_listed tunnelName

/-- The tunnel is given the address of its other end. -/
theorem remote_end_taken :
    Listed tunnelHost [tunnel] [tunnelEntry] tunnelHeap (some 0) [(0, tunnelNode)] ∧
      defaultWanIp tunnelHost tunnelName = ⟨192, 0, 2, 1⟩ ∧
      ¬ Owned [tunnel] [tunnelEntry] tunnelName (defaultWanIp tunnelHost tunnelName) := by
  refine ⟨tunnel_listed, by decide, ?_⟩
  change ¬ defaultWanIp tunnelHost tunnelName ∈ [tunnelEntry].map localAddr
  decide

end Portproxy.InterfaceAddress
