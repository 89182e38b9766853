import Portproxy.State

/-! The address lookup over netlink of `lowlevel-linux.c`. A dump is the list
of messages `store_nlmsg` has kept, in the order they arrived. -/
namespace Portproxy

/-- `struct rtattr`. -/
structure RtAttr where
  type : Nat
  data : List UInt8
  deriving DecidableEq, Repr

/-- An `RTM_NEWLINK` message. -/
structure LinkMsg where
  index : Int
  attrs : List RtAttr
  deriving DecidableEq, Repr

/-- An `RTM_NEWADDR` message. -/
structure AddrMsg where
  family : Nat
  index : Int
  attrs : List RtAttr
  deriving DecidableEq, Repr

def afInet : Nat := 2
def afInet6 : Nat := 10

def iflaIfname : Nat := 3
def ifaAddress : Nat := 1
def ifaLocal : Nat := 2

/-- The entry of the table that `parse_rtattr` leaves for this type; an
attribute that occurs again replaces the one before. -/
def rtattr (attrs : List RtAttr) (type : Nat) : Option (List UInt8) :=
  (attrs.reverse.find? (·.type = type)).map RtAttr.data

/-- A `char` in a comparison. -/
def charValue (host : Host) (byte : UInt8) : Int :=
  if host.charSigned ∧ 128 ≤ byte.toNat then byte.toNat - 256 else byte.toNat

/-- The test of `ipaddr6_global_get` for an address to skip. -/
def skipsAddr (host : Host) (addr : In6Addr) : Bool :=
  (charValue host addr[0] == 0xfe && charValue host addr[1] == 0x80) || charValue host addr[0] == 0xff

/-- The sixteen bytes copied out of an attribute. -/
def in6OfBytes (data : List UInt8) : In6Addr := Vector.ofFn fun i => data.getD i 0

/-- `ipaddr6_global_get`: the address found, if any. An entry with neither
address attribute would be read through a null pointer. -/
def ipaddr6GlobalGet (host : Host) (ifindex : Int) : List AddrMsg → Option In6Addr
  | [] => none
  | ifa :: rest =>
    if ifa.family = afInet6 ∧ ifa.index = ifindex then
      let addr := in6OfBytes (((rtattr ifa.attrs ifaAddress).or (rtattr ifa.attrs ifaLocal)).getD [])
      if skipsAddr host addr then ipaddr6GlobalGet host ifindex rest else some addr
    else ipaddr6GlobalGet host ifindex rest

/-- The address of an entry: `IFA_ADDRESS`, or `IFA_LOCAL` where there is none. -/
def ifaAddr (ifa : AddrMsg) : Option (List UInt8) :=
  (rtattr ifa.attrs ifaAddress).or (rtattr ifa.attrs ifaLocal)

/-- `ipaddr6_global_get` where its reads count too: `none` when it reads an entry
without an address. -/
def ipaddr6GlobalRead (host : Host) (ifindex : Int) : List AddrMsg → Option (Option In6Addr)
  | [] => some none
  | ifa :: rest =>
    if ifa.family = afInet6 ∧ ifa.index = ifindex then
      match (ifaAddr ifa).map in6OfBytes with
      | none => none
      | some addr => if skipsAddr host addr then ipaddr6GlobalRead host ifindex rest else some (some addr)
    else ipaddr6GlobalRead host ifindex rest

/-- The four bytes copied out of an attribute. -/
def inOfBytes (data : List UInt8) : InAddr :=
  ⟨data.getD 0 0, data.getD 1 0, data.getD 2 0, data.getD 3 0⟩

/-- An element written by `ipaddr_global_get`, and how many elements the block
has room for. -/
structure ArrayWrite where
  room : Nat
  index : Nat
  deriving DecidableEq, Repr

/-- The array of `ipaddr_global_get`: how many addresses it counts, what memory
holds from the start of its last block on, and all that was written. Before the
first block there is none. -/
structure AddrArray where
  cnt : Nat := 0
  buf : Option (Nat → InAddr) := none
  writes : List ArrayWrite := []

/-- A new block for one more address: the old elements are copied behind
`buf + 4`, four `int`s on, and the address to the start. `fresh` is what the
blocks hold when `malloc` gives them. -/
def AddrArray.push (fresh : Nat → Nat → InAddr) (arr : AddrArray) (addr : InAddr) : AddrArray where
  cnt := arr.cnt + 1
  buf := some fun i =>
    if i = 0 then addr
    else if 4 ≤ i ∧ i < 4 + arr.cnt then (arr.buf.getD (fresh arr.cnt)) (i - 4)
    else fresh arr.cnt i
  writes := arr.writes ++ (List.range arr.cnt).map (fun i => ⟨arr.cnt + 1, i + 4⟩) ++ [⟨arr.cnt + 1, 0⟩]

/-- `ipaddr_global_get`, from `arr` on. An entry without an address is read
through a null pointer. -/
def ipaddrGlobalGet (fresh : Nat → Nat → InAddr) (ifindex : Int) :
    List AddrMsg → AddrArray → Option AddrArray
  | [], arr => some arr
  | ifa :: rest, arr =>
    if ifa.family = afInet ∧ ifa.index = ifindex then
      match ifaAddr ifa with
      | none => none
      | some data => ipaddrGlobalGet fresh ifindex rest (arr.push fresh (inOfBytes data))
    else ipaddrGlobalGet fresh ifindex rest arr

/-- The loop of `iface_ip6_get` over the links; `found` is what an earlier link
of that name has left in `addr`. -/
def ifaceIp6Loop (host : Host) (iface : CString) (ainfo : List AddrMsg) :
    List LinkMsg → Option In6Addr → Option In6Addr
  | [], found => found
  | ifi :: rest, found =>
    if (rtattr ifi.attrs iflaIfname).map (·.takeWhile (· ≠ 0)) = some iface then
      ifaceIp6Loop host iface ainfo rest ((ipaddr6GlobalGet host ifi.index ainfo).or found)
    else ifaceIp6Loop host iface ainfo rest found

/-- `struct iface_t`, as far as the addresses are looked up. -/
structure Iface where
  name : CString
  ipaddrs : List InAddr
  deriving DecidableEq, Repr

/-- `iface_ip`: the first address of the interface of this name, or zeroes. -/
def ifaceIp (ifaces : List Iface) (name : CString) : InAddr :=
  ((ifaces.find? (·.name = name)).bind fun iface => iface.ipaddrs.head?).getD {}

end Portproxy
