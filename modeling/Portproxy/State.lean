import Mathlib.Data.Finset.Fold
import Mathlib.Data.Finset.Lattice.Fold
import Mathlib.Data.Int.Order.Basic
import Mathlib.Order.Lattice.Nat
import Portproxy.ByteOrder

/-! The proxy's data: addresses, mappings, sockets, packets and the context of
`portproxy.h`, the part of the operating system it talks to, and the record of
what it does. A linked list is the list of its nodes; a `mapping_t *` is the
node's address, which the code compares. -/
namespace Portproxy
open HostOrder

/-- The host the code is compiled for: its byte order, and whether a plain
`char` is signed. -/
structure Host where
  order : ByteOrder
  charSigned : Bool
  deriving DecidableEq, Repr

/-- The hosts the proxy usually runs on. -/
def littleHost : Host := { order := .little, charSigned := true }

/-! ## Machine integers -/

/-- Conversion to `int`. -/
def int32 (n : Int) : Int :=
  if n % 4294967296 < 2147483648 then n % 4294967296 else n % 4294967296 - 4294967296

/-- Conversion to `unsigned int`. -/
def uint32 (n : Int) : Int := n % 4294967296

/-- Conversion to `unsigned short`, as at every call of `htons`. -/
def uint16 (n : Int) : Nat := (n % 65536).toNat

theorem int32_of_range (low : -2147483648 ≤ n) (high : n < 2147483648) : int32 n = n := by
  unfold int32; omega

theorem uint32_of_range (low : 0 ≤ n) (high : n < 4294967296) : uint32 n = n := by
  unfold uint32; omega

theorem uint16_of_port (low : 0 ≤ port) (high : port < 65536) : uint16 port = port.toNat := by
  unfold uint16
  rw [Int.emod_eq_of_lt low high]

theorem uint16_lt (n : Int) : uint16 n < 65536 := by
  unfold uint16; omega

/-! ## Addresses -/

/-- `struct in_addr`: four octets, in memory as on the wire. -/
structure InAddr where
  first : UInt8 := 0
  second : UInt8 := 0
  third : UInt8 := 0
  fourth : UInt8 := 0
  deriving DecidableEq, Repr

namespace InAddr

def bytes (addr : InAddr) : List UInt8 := [addr.first, addr.second, addr.third, addr.fourth]

/-- The address a four byte image holds. -/
def ofBytes : List UInt8 → InAddr
  | [first, second, third, fourth] => ⟨first, second, third, fourth⟩
  | _ => {}

@[simp] theorem length_bytes (addr : InAddr) : addr.bytes.length = 4 := rfl
@[simp] theorem ofBytes_bytes (addr : InAddr) : ofBytes addr.bytes = addr := rfl

theorem bytes_ofBytes (image : List UInt8) (size : image.length = 4) :
    (ofBytes image).bytes = image := by
  match image, size with
  | [_, _, _, _], _ => rfl

/-- `s_addr`, the address as a number of the host. -/
def sAddr (order : ByteOrder) (addr : InAddr) : Nat := order.load addr.bytes

end InAddr

/-- A string: its bytes before the terminating zero. -/
abbrev CString := List UInt8

/-- `struct in6_addr`. -/
abbrev In6Addr := Vector UInt8 16

def in6addrAny : In6Addr := Vector.replicate 16 0

/-- `framework_init`: `htonl(4211081199u)` leaves the big-endian image of that
number in memory, on either kind of host. It is 250.255.255.239, and not the
group of SSDP, 239.255.255.250. -/
def mcast : InAddr := .ofBytes (ByteOrder.big.store 4 4211081199)

/-- `INADDR_ANY`. -/
def anyaddr : InAddr := {}

/-- `addr_cmp`: `memcmp` over the four octets. -/
def addrCmp (a b : InAddr) : Bool := a = b

@[simp] theorem addrCmp_iff : addrCmp a b = true ↔ a = b := by simp [addrCmp]

/-! ## Mappings, sockets, packets -/

inductive IpProto where
  | tcp
  | udp
  deriving DecidableEq, Repr

/-- `mapping_t`. -/
structure Mapping where
  /-- The address of the node. -/
  node : Nat := 0
  clientIP : InAddr := {}
  lanIP : InAddr := {}
  wanIP : InAddr := {}
  aftrIPv4 : InAddr := {}
  proto : IpProto := .udp
  clientPort : Int := 0
  lanPort : Int := 0
  wanPort : Int := 0
  routerPort : Int := 0
  /-- The socket the query came in on. -/
  lanSock : Int := 0
  /-- The socket the query went out of. -/
  wanSock : Int := 0
  timeout : Int := 0
  deriving DecidableEq, Repr

/-- `socket_type_t`. -/
inductive SocketType where
  | udp
  | udp6
  | tcpListening
  | tcpConnected
  deriving DecidableEq, Repr

/-- `socket_t`. -/
structure Socket where
  fd : Int
  ipproto : IpProto
  state : SocketType
  /-- The paired socket's descriptor. -/
  peer : Int := 0
  deriving DecidableEq, Repr

/-- `pkt_t`; `data` holds the `datalen` bytes that were received. -/
structure Pkt where
  srcIP : InAddr := {}
  dstIP : InAddr := {}
  srcPort : Int := 0
  dstPort : Int := 0
  proto : IpProto
  data : List UInt8
  sock : Int
  deriving DecidableEq, Repr

def Pkt.datalen (pkt : Pkt) : Int := pkt.data.length

/-! ## The context -/

/-- What `ctx_defaults` and `cmd_line_parse` set in the context and nothing
changes later. -/
structure Config where
  lan : CString := []
  wan : CString := []
  persistent : Int := 0
  lanIP : InAddr := {}
  wanIP : InAddr := {}
  aftrIPv4 : InAddr := {}
  wanIPv6 : In6Addr := in6addrAny
  aftrIPv6 : In6Addr := in6addrAny
  natpmpUdpPort : Nat := 0
  upnpUdpPort : Nat := 0
  upnpTcpPort1 : Nat := 0
  upnpTcpPort2 : Nat := 0
  bindExtNatPmpToNatpmpPort : Int := 0
  sharedUdpSock : Nat := 0
  enableNatPmp : Int := 0
  enableNatPmpExt : Int := 0
  enableUpnpTcp : Int := 0
  enableUpnpUdp : Int := 0
  /-- Mapping lifetime in seconds. -/
  timeout : Int := 0
  deriving DecidableEq, Repr

/-- `context_t`. The defaults are the zeroes `ctx_create` leaves. -/
structure Context extends Config where
  sockets : List Socket := []
  mappings : List Mapping := []
  sharedUdpSockFd : Int := 0
  wanSsdpSock : Int := 0
  lanSsdpSock : Int := 0
  natPmpExtSock : Int := 0
  natPmpLanSock : Int := 0
  deriving DecidableEq, Repr

/-- The descriptors recorded in `ctx->sockets`. -/
def Context.fds (ctx : Context) : List Int := ctx.sockets.map Socket.fd

/-- The context without its two lists. -/
def Context.settings (ctx : Context) : Context := { ctx with sockets := [], mappings := [] }

/-- Contexts with the same settings agree in the configuration and in the
sockets of the features. -/
theorem Context.of_settings {ctx ctx' : Context} (same : ctx.settings = ctx'.settings) :
    ctx.toConfig = ctx'.toConfig ∧ ctx.sharedUdpSockFd = ctx'.sharedUdpSockFd ∧
      ctx.wanSsdpSock = ctx'.wanSsdpSock ∧ ctx.lanSsdpSock = ctx'.lanSsdpSock ∧
      ctx.natPmpExtSock = ctx'.natPmpExtSock ∧ ctx.natPmpLanSock = ctx'.natPmpLanSock := by
  simpa [settings] using same

/-! ## The operating system -/

/-- Where a descriptor is bound, as `getsockname` tells it. -/
structure Local where
  addr : InAddr := {}
  addr6 : In6Addr := in6addrAny
  port : Nat := 0
  device : Option CString := none
  deriving DecidableEq, Repr

/-- What the process holds of the system: its open descriptors, where they are
bound, the next address `malloc` gives a mapping, and the last time read. -/
structure Kernel where
  fds : Finset Int := {0, 1, 2}
  bound : Int → Option Local := fun _ => none
  heap : Nat := 1
  clock : Int := 0

namespace Kernel

/-- The system hands out a descriptor of its choice among those that are not
open. A choice that is open stands for the next one above all open ones. -/
def descriptor (k : Kernel) (choice : Nat) : Int :=
  if (choice : Int) ∈ k.fds then (k.fds.sup Int.toNat + 1 : Nat) else choice

theorem descriptor_fresh (k : Kernel) (choice : Nat) : k.descriptor choice ∉ k.fds := by
  unfold descriptor
  split
  · intro member
    have bound := Finset.le_sup (f := Int.toNat) member
    simp only [Int.toNat_natCast] at bound
    omega
  · assumption

/-- A new descriptor, not bound yet. -/
def opens (k : Kernel) (fd : Int) : Kernel :=
  { k with fds := insert fd k.fds, bound := Function.update k.bound fd (some {}) }

/-- `bind`. -/
def binds (k : Kernel) (fd : Int) (place : Local) : Kernel :=
  { k with bound := Function.update k.bound fd (some place) }

/-- `close`, which is all that `sock_del` does. -/
def sockDel (k : Kernel) (fd : Int) : Kernel :=
  { k with fds := k.fds.erase fd, bound := Function.update k.bound fd none }

/-- `sock_get_port`: the local port, or -1 for anything that is no socket. -/
def sockGetPort (k : Kernel) (fd : Int) : Int :=
  match k.bound fd with
  | some place => place.port
  | none => -1

@[simp] theorem opens_fds (k : Kernel) (fd : Int) : (k.opens fd).fds = insert fd k.fds := rfl
@[simp] theorem binds_fds (k : Kernel) (fd : Int) (place : Local) : (k.binds fd place).fds = k.fds := rfl
@[simp] theorem sockDel_fds (k : Kernel) (fd : Int) : (k.sockDel fd).fds = k.fds.erase fd := rfl

theorem opens_bound (k : Kernel) (other : fd ≠ new) : (k.opens new).bound fd = k.bound fd := by
  simp [opens, other]

theorem binds_bound_self (k : Kernel) : (k.binds fd place).bound fd = some place := by
  simp [binds]

theorem binds_bound (k : Kernel) (other : fd ≠ new) : (k.binds new place).bound fd = k.bound fd := by
  simp [binds, other]

theorem sockDel_bound (k : Kernel) (other : fd ≠ closed) :
    (k.sockDel closed).bound fd = k.bound fd := by
  simp [sockDel, other]

end Kernel

/-- The running process. -/
structure Proxy where
  ctx : Context := {}
  kernel : Kernel := {}

/-! ## What the proxy does -/

/-- The function a datagram or a run of stream bytes is sent by. -/
inductive Sender where
  /-- `handle_packet`, passing a multicast of `packet_wan_mcast` on to the LAN. -/
  | multicast
  /-- `handle_nat_pmp_ext_fromclient`. -/
  | fromClient
  /-- `handle_nat_pmp_ext_fromserver`. -/
  | fromServer
  /-- `query_send`, for this mapping. -/
  | query (m : Mapping)
  /-- `response_send`, for this mapping. -/
  | response (m : Mapping)
  /-- `handle_tcp_packet`. -/
  | relay
  deriving DecidableEq, Repr

/-- One call of `send` or `sendto`, made while the packet received on `source`
is handled. -/
structure Send where
  caller : Sender
  source : Int
  fd : Int
  dest : Option (InAddr × Nat) := none
  data : List UInt8
  result : Int
  deriving DecidableEq, Repr

/-- The error lines of the log that name a broken expectation. -/
inductive Complaint where
  /-- "Error: socket not found." -/
  | socketNotFound
  /-- "Error: unable to find corresponding socket." -/
  | noCorrespondingSocket
  /-- "Error: Unable to find socket %d" -/
  | unableToFindSocket
  /-- "Error: Unable to find correspodning socket %d for socket %d" -/
  | unableToFindPeer
  /-- "Error: Unable to delete socket: fd=%d not found." -/
  | unableToDeleteSocket
  /-- "Error: attempt to close socket, but there are data to read." -/
  | dataToRead
  /-- "Error: overrun: packet from client (%d) larger than 100 bytes." -/
  | overrun
  /-- "Error: received truncated data (%d bytes, less than required 12)" -/
  | truncated
  /-- "Error: incorrect AFTR response. byte[0]!=12 or byte[1]!='P'" -/
  | incorrectResponse
  deriving DecidableEq, Repr

inductive Event where
  /-- `wait_for_traffic` returned this packet. -/
  | received (pkt : Pkt)
  /-- `mapping_add` put this mapping on the list. -/
  | added (m : Mapping)
  /-- `ctx_mappings_remove_expired` took this mapping off the list. -/
  | expired (m : Mapping)
  | sent (call : Send)
  /-- `sock_tcp_accept` connected `wansock` to the server, for `lansock`. -/
  | paired (lansock wansock : Int) (server : InAddr × Nat)
  | complaint (line : Complaint)
  /-- The code follows a null pointer, or never leaves a loop. -/
  | fault
  deriving DecidableEq, Repr

end Portproxy
