import Portproxy.Attributes
import Portproxy.MainLoop

/-! Where a datagram was sent to. The kernel tells it in a control message, and
`sock_recv` and `sock6_recv` go through these messages with the macros of
`sys/socket.h`. Their buffers have room for one packet info. A pointer is memory
from the place it points at on. -/
namespace Portproxy.ControlMessages
open Attributes
open HostOrder (ByteOrder)

/-- What the layout of control messages depends on: the byte order, and the size of
`size_t`. -/
structure Abi where
  order : ByteOrder
  word : Nat
  word_eq : word = 4 ∨ word = 8

/-- The size of `struct cmsghdr`. -/
def Abi.cmsghdr (abi : Abi) : Nat := abi.word + 8

/-- `CMSG_ALIGN`. -/
def Abi.cmsgAlign (abi : Abi) (size : Nat) : Nat := (size + (abi.word - 1)) / abi.word * abi.word

/-- `CMSG_SPACE`. A header needs no padding. -/
def Abi.cmsgSpace (abi : Abi) (size : Nat) : Nat := abi.cmsgAlign size + abi.cmsghdr

def cmsgLen (abi : Abi) (cm : List UInt8) : Nat := field abi.order 0 abi.word cm
def cmsgLevel (abi : Abi) (cm : List UInt8) : Nat := field abi.order abi.word 4 cm
def cmsgType (abi : Abi) (cm : List UInt8) : Nat := field abi.order (abi.word + 4) 4 cm

/-- `CMSG_DATA`. -/
def cmsgData (abi : Abi) (cm : List UInt8) : List UInt8 := cm.drop abi.cmsghdr

/-- `CMSG_NXTHDR`: how far on the next message is, if its header is among the bytes
that are left. -/
def cmsgNxthdr (abi : Abi) (left : Nat) (cm : List UInt8) : Option Nat :=
  let step := abi.cmsgAlign (cmsgLen abi cm)
  if cmsgLen abi cm < abi.cmsghdr ∨ left < step + abi.cmsghdr then none else some step

/-- A packet info: its kind, its size, and where in it the address is. -/
structure PktInfo (Addr : Type) where
  level : Nat
  type : Nat
  size : Nat
  offset : Nat
  width : Nat
  ofBytes : List UInt8 → Addr
  /-- The address lies inside, and what is not address is not much. -/
  fits : 0 < width ∧ offset + width ≤ size ∧ size ≤ offset + width + 8

/-- `struct in_pktinfo`, with `IPPROTO_IP` and `IP_PKTINFO`. -/
def inPktinfo : PktInfo InAddr where
  level := 0
  type := 8
  size := 12
  offset := 8
  width := 4
  ofBytes := inOfBytes
  fits := by omega

/-- `struct in6_pktinfo`, with `IPPROTO_IPV6` and `IPV6_PKTINFO`. -/
def in6Pktinfo : PktInfo In6Addr where
  level := 41
  type := 50
  size := 20
  offset := 0
  width := 16
  ofBytes := in6OfBytes
  fits := by omega

variable {abi : Abi} {Addr : Type} {info : PktInfo Addr} {left : Nat} {cm : List UInt8} {myAddr : Addr}

abbrev IsInfo (abi : Abi) (info : PktInfo Addr) (cm : List UInt8) : Prop :=
  cmsgLevel abi cm = info.level ∧ cmsgType abi cm = info.type

/-- The address in a message, if all of it is in memory. -/
def addrIn (abi : Abi) (info : PktInfo Addr) (cm : List UInt8) : Option Addr :=
  if info.offset + info.width ≤ (cmsgData abi cm).length then
    some (info.ofBytes (((cmsgData abi cm).drop info.offset).take info.width))
  else none

/-- One message in the loop. -/
def recvVisit (abi : Abi) (info : PktInfo Addr) (myAddr : Addr) (cm : List UInt8) : Option Addr :=
  if IsInfo abi info cm then addrIn abi info cm else some myAddr

theorem Abi.word_pos (abi : Abi) : 0 < abi.word := by
  obtain small | large := abi.word_eq <;> omega

theorem Abi.le_align (abi : Abi) (size : Nat) : size ≤ abi.cmsgAlign size := by
  obtain small | large := abi.word_eq <;> simp only [cmsgAlign, *] <;> omega

theorem Abi.align_lt (abi : Abi) (size : Nat) : abi.cmsgAlign size < size + abi.word := by
  obtain small | large := abi.word_eq <;> simp only [cmsgAlign, *] <;> omega

theorem nxthdr_some (next : cmsgNxthdr abi left cm = some step) :
    abi.cmsghdr ≤ step ∧ step + abi.cmsghdr ≤ left := by
  have further := abi.le_align (cmsgLen abi cm)
  simp only [cmsgNxthdr] at next
  split at next
  · cases next
  · next fits =>
    cases next
    omega

/-- The loop of `sock_recv` and `sock6_recv`, from a message on. -/
def recvLoop (abi : Abi) (info : PktInfo Addr) (myAddr : Addr) (left : Nat) (cm : List UInt8) : Option Addr :=
  (recvVisit abi info myAddr cm).bind fun myAddr =>
    match _next : cmsgNxthdr abi left cm with
    | none => some myAddr
    | some step => recvLoop abi info myAddr (left - step) (cm.drop step)
termination_by left
decreasing_by
  have room := nxthdr_some _next
  simp only [Abi.cmsghdr] at room
  omega

/-- The buffer `control`, with what `recvmsg` has left there of the messages. -/
def buffer (abi : Abi) (info : PktInfo Addr) (control : List UInt8) : List UInt8 :=
  control.take (abi.cmsgSpace info.size) ++
    List.replicate (abi.cmsgSpace info.size - control.length) 0

/-- `msg_controllen` when `recvmsg` has returned. -/
def controllen (abi : Abi) (info : PktInfo Addr) (control : List UInt8) : Nat :=
  min control.length (abi.cmsgSpace info.size)

/-- What becomes of `my_addr`, if nothing is read outside the buffer. -/
def recvAddr (abi : Abi) (info : PktInfo Addr) (myAddr : Addr) (control : List UInt8) : Option Addr :=
  if controllen abi info control < abi.cmsghdr then some myAddr
  else recvLoop abi info myAddr (controllen abi info control) (buffer abi info control)

/-- What `recvmsg` delivers, with its control messages. -/
structure Received where
  src : InAddr := {}
  srcPort : UInt16 := 0
  control : List UInt8
  payload : List UInt8

/-- `sock_udp_receive` with `sock_recv`. Nothing has set `my_addr` before. -/
def sockUdpReceive (abi : Abi) (k : Kernel) (sock : Socket) (stack : InAddr) (r : Received) : Option Pkt :=
  (recvAddr abi inPktinfo stack r.control).map fun myAddr =>
    Portproxy.sockUdpReceive k sock { src := r.src, srcPort := r.srcPort, dst := myAddr, payload := r.payload }

/-- `sock_udp6_receive` with `sock6_recv`. -/
def sockUdp6Receive (abi : Abi) (k : Kernel) (sock : Socket) (stack : In6Addr) (r : Received) : Option Pkt :=
  (recvAddr abi in6Pktinfo stack r.control).map fun _ =>
    Portproxy.sockUdp6Receive k sock { src := r.src, srcPort := r.srcPort, payload := r.payload }

/-! ## The messages of the loop -/

/-- The messages the loop comes to behind this one. -/
def behind (abi : Abi) (left : Nat) (cm : List UInt8) : List (List UInt8) :=
  match _next : cmsgNxthdr abi left cm with
  | none => []
  | some step => cm.drop step :: behind abi (left - step) (cm.drop step)
termination_by left
decreasing_by
  have room := nxthdr_some _next
  simp only [Abi.cmsghdr] at room
  omega

theorem behind_last (last : cmsgNxthdr abi left cm = none) : behind abi left cm = [] := by
  rw [behind]
  split
  · rfl
  · next further => rw [last] at further; cases further

theorem behind_next (next : cmsgNxthdr abi left cm = some step) :
    behind abi left cm = cm.drop step :: behind abi (left - step) (cm.drop step) := by
  rw [behind]
  split
  · next last => rw [next] at last; cases last
  · next further => rw [next] at further; cases further; rfl

theorem loop_visits (abi : Abi) (info : PktInfo Addr) (myAddr : Addr) (left : Nat) (cm : List UInt8) :
    recvLoop abi info myAddr left cm = (cm :: behind abi left cm).foldlM (recvVisit abi info) myAddr := by
  induction left, cm using behind.induct abi generalizing myAddr with
  | case1 left cm last =>
    rw [recvLoop, behind_last last]
    refine Option.bind_congr fun found _ => ?_
    split
    · rfl
    · next further => rw [last] at further; cases further
  | case2 left cm step next ih =>
    rw [recvLoop, behind_next next]
    refine Option.bind_congr fun found _ => ?_
    split
    · next last => rw [next] at last; cases last
    · next further =>
      rw [next] at further
      cases further
      exact ih found

/-- They begin at least a header further on. -/
theorem behind_shorter (enough : left ≤ cm.length) :
    ∀ other ∈ behind abi left cm, other.length + abi.cmsghdr ≤ cm.length := by
  induction left, cm using behind.induct abi with
  | case1 left cm last =>
    rw [behind_last last]
    simp
  | case2 left cm step next ih =>
    obtain ⟨further, room⟩ := nxthdr_some next
    rw [behind_next next, List.forall_mem_cons, List.length_drop]
    refine ⟨by omega, fun other member => ?_⟩
    have within := ih (by rw [List.length_drop]; omega) other member
    rw [List.length_drop] at within
    omega

/-! ## What is found -/

theorem addr_in_none (short : cm.length + abi.cmsghdr ≤ abi.cmsgSpace info.size) : addrIn abi info cm = none := by
  obtain ⟨positive, -, dense⟩ := info.fits
  have padding := abi.align_lt info.size
  have word := abi.word_pos
  rw [addrIn, if_neg]
  simp only [cmsgData, List.length_drop, Abi.cmsghdr, Abi.cmsgSpace] at short ⊢
  omega

/-- The messages the loop comes to in a buffer. -/
def messages (abi : Abi) (info : PktInfo Addr) (control : List UInt8) : List (List UInt8) :=
  if controllen abi info control < abi.cmsghdr then []
  else buffer abi info control :: behind abi (controllen abi info control) (buffer abi info control)

/-- The address in the first message. -/
def told (abi : Abi) (info : PktInfo Addr) (control : List UInt8) : Option Addr :=
  (messages abi info control).head?.bind fun cm =>
    if IsInfo abi info cm then some (info.ofBytes (((cmsgData abi cm).drop info.offset).take info.width)) else none

theorem length_buffer (abi : Abi) (info : PktInfo Addr) (control : List UInt8) :
    (buffer abi info control).length = abi.cmsgSpace info.size := by
  simp only [buffer, List.length_append, List.length_take, List.length_replicate]
  omega

/-- No message behind the first one can be read to its end. -/
theorem fold_behind {cms : List (List UInt8)} (short : ∀ other ∈ cms, addrIn abi info other = none)
    (myAddr : Addr) :
    cms.foldlM (recvVisit abi info) myAddr =
      if ∃ other ∈ cms, IsInfo abi info other then none else some myAddr := by
  induction cms with
  | nil => simp
  | cons cm later ih =>
    obtain ⟨here, others⟩ := List.forall_mem_cons.mp short
    rw [List.foldlM_cons, recvVisit]
    by_cases found : IsInfo abi info cm
    · rw [if_pos found, here, if_pos ⟨cm, List.mem_cons_self, found⟩]
      rfl
    · rw [if_neg found, Option.bind_eq_bind, Option.bind_some, ih others]
      simp only [List.exists_mem_cons_iff, found, false_or]

theorem addr_in_buffer (abi : Abi) (info : PktInfo Addr) (control : List UInt8) :
    addrIn abi info (buffer abi info control) =
      some (info.ofBytes (((cmsgData abi (buffer abi info control)).drop info.offset).take info.width)) := by
  have inside := info.fits.2.1
  have further := abi.le_align info.size
  rw [addrIn, if_pos]
  rw [cmsgData, List.length_drop, length_buffer, Abi.cmsgSpace]
  omega

theorem recv_addr_eq (abi : Abi) (info : PktInfo Addr) (myAddr : Addr) (control : List UInt8) :
    recvAddr abi info myAddr control =
      if ∃ other ∈ (messages abi info control).tail, IsInfo abi info other then none
      else some ((told abi info control).getD myAddr) := by
  unfold recvAddr told messages
  split
  · simp
  · have short : ∀ other ∈ behind abi (controllen abi info control) (buffer abi info control),
        addrIn abi info other = none := by
      intro other member
      have shorter := behind_shorter (by rw [length_buffer]; exact Nat.min_le_right _ _) other member
      rw [length_buffer] at shorter
      exact addr_in_none shorter
    rw [loop_visits, List.foldlM_cons, recvVisit, addr_in_buffer]
    by_cases first : IsInfo abi info (buffer abi info control)
    · rw [if_pos first, Option.bind_eq_bind, Option.bind_some, fold_behind short]
      simp only [List.tail_cons, List.head?_cons, Option.bind_some, if_pos first, Option.getD_some]
    · rw [if_neg first, Option.bind_eq_bind, Option.bind_some, fold_behind short]
      simp only [List.tail_cons, List.head?_cons, Option.bind_some, if_neg first, Option.getD_none]

/-- The control message with a packet info for IPv4. -/
def pktinfoBytes (abi : Abi) (ifindex : Nat) (specDst addr : InAddr) : List UInt8 :=
  abi.order.store abi.word (abi.cmsghdr + 12) ++ abi.order.store 4 0 ++ abi.order.store 4 8 ++
    abi.order.store 4 ifindex ++ specDst.bytes ++ addr.bytes

/-- `sock_recv` and `sock6_recv` read outside their buffers exactly if they come by a
packet info behind another message. Otherwise the packet has the destination of
the packet info in front, and if there is none there, the one that happened to
be on the stack. -/
theorem received_exactly (abi : Abi) (k : Kernel) (sock : Socket) (stack : InAddr) (stack6 : In6Addr) (r : Received) :
    sockUdpReceive abi k sock stack r =
        (if ∃ other ∈ (messages abi inPktinfo r.control).tail, IsInfo abi inPktinfo other then none
        else some (Portproxy.sockUdpReceive k sock
          { src := r.src, srcPort := r.srcPort, dst := (told abi inPktinfo r.control).getD stack,
            payload := r.payload })) ∧
      sockUdp6Receive abi k sock stack6 r =
        if ∃ other ∈ (messages abi in6Pktinfo r.control).tail, IsInfo abi in6Pktinfo other then none
        else some (Portproxy.sockUdp6Receive k sock
          { src := r.src, srcPort := r.srcPort, payload := r.payload }) := by
  unfold sockUdpReceive sockUdp6Receive
  rw [recv_addr_eq, recv_addr_eq]
  constructor <;> split <;> rfl

/-- A packet info behind an empty message is not in the buffer. -/
example :
    recvAddr ⟨.little, 8, .inr rfl⟩ inPktinfo {}
        ([16, 0, 0, 0, 0, 0, 0, 0, 1, 0, 0, 0, 2, 0, 0, 0] ++
          pktinfoBytes ⟨.little, 8, .inr rfl⟩ 3 {} ⟨10, 0, 0, 2⟩) = none := by
  decide +kernel

/-! ## A packet info that was written -/

theorem length_pktinfo (abi : Abi) (ifindex : Nat) (specDst addr : InAddr) :
    (pktinfoBytes abi ifindex specDst addr).length = abi.cmsghdr + 12 := by
  simp [pktinfoBytes, Abi.cmsghdr]

theorem pktinfo_len (written : pktinfoBytes abi ifindex specDst addr <+: cm) :
    cmsgLen abi cm = abi.cmsghdr + 12 := by
  obtain ⟨rest, rfl⟩ := written
  have read := field_store [] abi.order abi.word (abi.cmsghdr + 12) (abi.order.store 4 0 ++ (abi.order.store 4 8 ++
    (abi.order.store 4 ifindex ++ (specDst.bytes ++ (addr.bytes ++ rest)))))
  have small : abi.cmsghdr + 12 < 256 ^ abi.word := by
    obtain small | large := abi.word_eq <;> simp [Abi.cmsghdr, *]
  rw [Nat.mod_eq_of_lt small] at read
  simpa [cmsgLen, pktinfoBytes] using read

theorem pktinfo_is_info (written : pktinfoBytes abi ifindex specDst addr <+: cm) : IsInfo abi inPktinfo cm := by
  obtain ⟨rest, rfl⟩ := written
  have level := field_store (abi.order.store abi.word (abi.cmsghdr + 12)) abi.order 4 0 (abi.order.store 4 8 ++
    (abi.order.store 4 ifindex ++ (specDst.bytes ++ (addr.bytes ++ rest))))
  have type := field_store (abi.order.store abi.word (abi.cmsghdr + 12) ++ abi.order.store 4 0) abi.order 4 8
    (abi.order.store 4 ifindex ++ (specDst.bytes ++ (addr.bytes ++ rest)))
  constructor
  · simpa [cmsgLevel, pktinfoBytes, inPktinfo] using level
  · simpa [cmsgType, pktinfoBytes, inPktinfo] using type

theorem pktinfo_addr (written : pktinfoBytes abi ifindex specDst addr <+: cm) :
    inOfBytes (((cmsgData abi cm).drop 8).take 4) = addr := by
  obtain ⟨rest, rfl⟩ := written
  have split : pktinfoBytes abi ifindex specDst addr ++ rest =
      (abi.order.store abi.word (abi.cmsghdr + 12) ++ abi.order.store 4 0 ++ abi.order.store 4 8 ++
        abi.order.store 4 ifindex ++ specDst.bytes) ++ (addr.bytes ++ rest) := by
    simp [pktinfoBytes]
  rw [cmsgData, List.drop_drop, split, List.drop_left' (by simp [Abi.cmsghdr]), List.take_left' addr.length_bytes]
  rfl

/-- If the packet info comes first, it is the only message that is come by, and the
packet has the destination that the kernel has written, whatever would be behind it. -/
theorem written_received (abi : Abi) (k : Kernel) (sock : Socket) (stack : InAddr) (src : InAddr) (srcPort : UInt16)
    (payload : List UInt8) (ifindex : Nat) (specDst addr : InAddr) (others : List UInt8) :
    let control := pktinfoBytes abi ifindex specDst addr ++ others
    messages abi inPktinfo control = [buffer abi inPktinfo control] ∧
      sockUdpReceive abi k sock stack { src, srcPort, control, payload } =
        some (Portproxy.sockUdpReceive k sock { src, srcPort, dst := addr, payload }) := by
  intro control
  have room : abi.cmsghdr + 12 ≤ abi.cmsgSpace 12 := by
    have further := abi.le_align 12
    rw [Abi.cmsgSpace]
    omega
  have written : pktinfoBytes abi ifindex specDst addr <+: buffer abi inPktinfo control := by
    rw [buffer, List.take_append, List.take_of_length_le (by rw [length_pktinfo]; exact room), List.append_assoc]
    exact List.prefix_append _ _
  have alone : messages abi inPktinfo control = [buffer abi inPktinfo control] := by
    have long := length_pktinfo abi ifindex specDst addr
    rw [messages, if_neg (by simp only [control, controllen, List.length_append, inPktinfo]; omega), behind_last]
    rw [cmsgNxthdr, pktinfo_len written]
    refine if_pos (.inr ?_)
    have further := abi.le_align (abi.cmsghdr + 12)
    have padding := abi.align_lt 12
    have behind : abi.cmsgSpace 12 < abi.cmsgAlign (abi.cmsghdr + 12) + abi.cmsghdr := by
      simp only [Abi.cmsgSpace, Abi.cmsghdr] at further ⊢
      omega
    exact Nat.lt_of_le_of_lt (Nat.min_le_right _ _) behind
  have found : told abi inPktinfo control = some addr := by
    rw [told, alone, List.head?_cons, Option.bind_some, if_pos (pktinfo_is_info written)]
    exact congrArg some (pktinfo_addr written)
  refine ⟨alone, ?_⟩
  rw [sockUdpReceive, recv_addr_eq, alone, found]
  rfl

end Portproxy.ControlMessages
