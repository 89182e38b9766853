import Portproxy.InterfaceMessages

/-! The lookups of `lowlevel-linux.c` from end to end: the kernel writes what it
knows about links and addresses into messages, sends them in reply to the two
dumps, and the proxy's list and address are those of what the kernel knows. -/
namespace Portproxy.InterfaceLookups
open SizedRecords Attributes NetlinkDump InterfaceMessages
open HostOrder (ByteOrder)
open InterfaceList (IfInfo IfaceNode IfList)
open AddressCollection (Addressed)

/-- A message about a link, as the kernel writes it; what the attributes are padded
with and the fields that are not looked at may be anything. -/
structure LinkWritten (order : ByteOrder) (ifi : IfInfo) (msg : NlMsg) : Prop where
  goes : msg.Goes
  writable : ∀ attr ∈ ifi.attrs, Writable attr
  payload : ∃ family pad change area,
    msg.payload = family :: pad :: (order.store 2 ifi.type ++ (order.store 4 (uint32 ifi.index).toNat ++
      (order.store 4 ifi.flags ++ (order.store 4 change ++ area)))) ∧
      Laid (rtattrLayout order) (ifi.attrs.map (bytesOf order)) area
  index : -2147483648 ≤ ifi.index ∧ ifi.index < 2147483648
  type : ifi.type < 65536
  flags : ifi.flags < 4294967296
  /-- The name is there, with the zero that ends it. -/
  name : ∃ data, rtattr ifi.attrs iflaIfname = some data ∧ 0 ∈ data

/-- A message about an address. -/
structure AddrWritten (order : ByteOrder) (ifa : AddrMsg) (msg : NlMsg) : Prop where
  goes : msg.Goes
  writable : ∀ attr ∈ ifa.attrs, Writable attr
  payload : ∃ prefixlen flags scope area,
    msg.payload = UInt8.ofNat ifa.family :: prefixlen :: flags :: scope ::
      (order.store 4 (uint32 ifa.index).toNat ++ area) ∧
      Laid (rtattrLayout order) (ifa.attrs.map (bytesOf order)) area
  family : ifa.family < 256
  index : -2147483648 ≤ ifa.index ∧ ifa.index < 2147483648
  addr : ifa.family = afInet → ∀ data, ifaAddr ifa = some data → data.length = 4
  addr6 : ifa.family = afInet6 → ∃ data, ifaAddr ifa = some data ∧ data.length = 16

variable {order : ByteOrder} {types : MaxTypes} {msg : NlMsg} {ifi : IfInfo} {ifa : AddrMsg}

theorem index_of_written (range : -2147483648 ≤ index ∧ index < 2147483648) :
    (uint32 index).toNat < 4294967296 ∧ int32 ((uint32 index).toNat : Nat) = index := by
  unfold uint32 int32
  omega

/-- The attributes at the end of a message. -/
theorem attrs_behind (writable : ∀ attr ∈ written, Writable attr)
    (laid : Laid (rtattrLayout order) (written.map (bytesOf order)) area) (behind : n = front ++ area)
    (at' : front.length = offset) :
    attrs order (n.drop offset) (n.length - offset) = written ∧
      Legible order (n.drop offset) (n.length - offset) := by
  subst at'
  have rest : n.drop front.length = area ++ [] := by rw [behind, List.drop_left, List.append_nil]
  have long : (n.length : Int) - front.length = area.length := by
    rw [behind, List.length_append]
    omega
  rw [rest, long]
  exact ⟨attrs_laid writable laid [], .inl (walk_laid_left laid []).1⟩

/-- A field behind what is known of a message. -/
theorem field_behind (behind : n = before ++ (order.store width number ++ rest)) (at' : before.length = offset)
    (small : number < 256 ^ width) : field order offset width n = number := by
  have read := field_store before order width number rest
  rwa [← behind, at', Nat.mod_eq_of_lt small] at read

/-- What the kernel writes about a link is read as it is. -/
theorem link_read (types : MaxTypes) (room : msg.Encodable) (written : LinkWritten order ifi msg) :
    linkOf order (msg.bytes order) = ifi ∧ LinkRead order types (msg.bytes order) := by
  obtain ⟨family, pad, change, area, payload, laid⟩ := written.payload
  obtain ⟨small, index⟩ := index_of_written written.index
  have len := NlMsg.read_len room (List.prefix_refl (msg.bytes order))
  -- the fields, each behind the ones before it
  have atType : msg.bytes order = msg.header order ++ [family, pad] ++ (order.store 2 ifi.type ++
      (order.store 4 (uint32 ifi.index).toNat ++ (order.store 4 ifi.flags ++ (order.store 4 change ++ area)))) := by
    simp [NlMsg.bytes, payload]
  have atIndex : msg.bytes order = msg.header order ++ [family, pad] ++ order.store 2 ifi.type ++
      (order.store 4 (uint32 ifi.index).toNat ++ (order.store 4 ifi.flags ++ (order.store 4 change ++ area))) := by
    simp [atType]
  have atFlags : msg.bytes order = msg.header order ++ [family, pad] ++ order.store 2 ifi.type ++
      order.store 4 (uint32 ifi.index).toNat ++ (order.store 4 ifi.flags ++ (order.store 4 change ++ area)) := by
    simp [atType]
  have atArea : msg.bytes order = msg.header order ++ [family, pad] ++ order.store 2 ifi.type ++
      order.store 4 (uint32 ifi.index).toNat ++ (order.store 4 ifi.flags ++ order.store 4 change) ++ area := by
    simp [atType]
  have typeRead : field order 18 2 (msg.bytes order) = ifi.type := field_behind atType (by simp) written.type
  have indexRead : field order 20 4 (msg.bytes order) = (uint32 ifi.index).toNat :=
    field_behind atIndex (by simp) small
  have flagsRead : field order 24 4 (msg.bytes order) = ifi.flags := field_behind atFlags (by simp) written.flags
  have behind := attrs_behind written.writable laid atArea (by simp : _ = 32)
  have link : linkOf order (msg.bytes order) = ifi := by
    have attrsRead := behind.1
    simp only [Nat.cast_ofNat] at attrsRead
    simp only [linkOf, typeRead, indexRead, flagsRead, attrsRead, index]
  have len : nlmsgLen order (msg.bytes order) = (msg.bytes order).length :=
    (NlMsg.read_len room List.prefix_rfl).trans (NlMsg.length_bytes order msg).symm
  refine ⟨link, len, ?_, behind.2, ?_⟩
  · rw [atArea]
    simp
    omega
  · intro data named
    obtain ⟨data', named', zero⟩ := written.name
    rw [link, named'] at named
    rwa [← Option.some.inj named]

/-- What the kernel writes about an address is read as it is. -/
theorem addr_read (types : MaxTypes) (room : msg.Encodable) (written : AddrWritten order ifa msg) :
    addrOf order (msg.bytes order) = ifa ∧ AddrRead order types (msg.bytes order) := by
  obtain ⟨prefixlen, flags, scope, area, payload, laid⟩ := written.payload
  obtain ⟨small, index⟩ := index_of_written written.index
  have atFamily : msg.bytes order = msg.header order ++ (order.store 1 ifa.family ++
      ([prefixlen, flags, scope] ++ (order.store 4 (uint32 ifa.index).toNat ++ area))) := by
    have byte : order.store 1 ifa.family = [UInt8.ofNat ifa.family] := by cases order <;> rfl
    simp [NlMsg.bytes, payload, byte]
  have atIndex : msg.bytes order = msg.header order ++ order.store 1 ifa.family ++ [prefixlen, flags, scope] ++
      (order.store 4 (uint32 ifa.index).toNat ++ area) := by
    simp [atFamily]
  have atArea : msg.bytes order = msg.header order ++ order.store 1 ifa.family ++ [prefixlen, flags, scope] ++
      order.store 4 (uint32 ifa.index).toNat ++ area := by
    simp [atFamily]
  have familyRead : field order 16 1 (msg.bytes order) = ifa.family :=
    field_behind atFamily (by simp) written.family
  have indexRead : field order 20 4 (msg.bytes order) = (uint32 ifa.index).toNat :=
    field_behind atIndex (by simp) small
  have behind := attrs_behind written.writable laid atArea (by simp : _ = 24)
  have addr : addrOf order (msg.bytes order) = ifa := by
    have attrsRead := behind.1
    simp only [Nat.cast_ofNat] at attrsRead
    simp only [addrOf, familyRead, indexRead, attrsRead, index]
  have len : nlmsgLen order (msg.bytes order) = (msg.bytes order).length :=
    (NlMsg.read_len room List.prefix_rfl).trans (NlMsg.length_bytes order msg).symm
  refine ⟨addr, len, ?_, behind.2, ?_, ?_⟩
  · rw [atArea]
    simp
    omega
  · intro family data carried
    rw [addr] at family carried
    rw [written.addr family data carried]
  · intro family data carried
    rw [addr] at family carried
    obtain ⟨data', carried', size⟩ := written.addr6 family
    rw [carried'] at carried
    rw [← Option.some.inj carried, size]

/-- What the kernel does for the two dumps of a lookup. It sends every message
whole; it answers the second request after it was made; and in between there may
be anything else. -/
structure Answered (order : ByteOrder) (rth : RtnlHandle) (deliveries deliveries' : List Delivery)
    (links : List IfInfo) (addrs : List AddrMsg) : Prop where
  sent : ∀ delivery ∈ deliveries, delivery.Sent
  sent' : ∀ delivery ∈ deliveries', delivery.Sent
  links : ∃ msgs done more, replies order (firstHandle rth) deliveries = msgs ++ done :: more ∧
    done.type = nlmsgDone ∧ List.Forall₂ (LinkWritten order) links msgs
  unasked : replies order (secondHandle rth) deliveries = []
  addrs : ∃ msgs done more, replies order (secondHandle rth) deliveries' = msgs ++ done :: more ∧
    done.type = nlmsgDone ∧ List.Forall₂ (AddrWritten order) addrs msgs

variable {rth : RtnlHandle} {deliveries deliveries' : List Delivery} {links : List IfInfo} {addrs : List AddrMsg}
  {malloc malloc' : Nat → Bool}

theorem written_of {Written : α → NlMsg → Prop} (written : List.Forall₂ Written told msgs)
    (member : msg ∈ msgs) : ∃ what, Written what msg := by
  induction written with
  | nil => cases member
  | cons here _ ih =>
    rcases List.mem_cons.mp member with rfl | later
    · exact ⟨_, here⟩
    · exact ih later

theorem links_read (written : List.Forall₂ (LinkWritten order) links msgs) (room : ∀ msg ∈ msgs, msg.Encodable) :
    (msgs.map (NlMsg.bytes order)).map (linkOf order) = links ∧
      (∀ n ∈ msgs.map (NlMsg.bytes order), LinkRead order types n) ∧
      ∀ n ∈ msgs.map (NlMsg.bytes order), (linkOf order n).ifname.isSome := by
  induction written with
  | nil => simp
  | cons here _ ih =>
    obtain ⟨same, read, named⟩ := ih fun other member => room other (List.mem_cons_of_mem _ member)
    obtain ⟨link, readHere⟩ := link_read types (room _ List.mem_cons_self) here
    obtain ⟨data, name, -⟩ := here.name
    refine ⟨by rw [List.map_cons, List.map_cons, link, same], List.forall_mem_cons.mpr ⟨readHere, read⟩,
      List.forall_mem_cons.mpr ⟨?_, named⟩⟩
    rw [link, IfInfo.ifname, name]
    rfl

theorem addrs_read (written : List.Forall₂ (AddrWritten order) addrs msgs) (room : ∀ msg ∈ msgs, msg.Encodable) :
    (msgs.map (NlMsg.bytes order)).map (addrOf order) = addrs ∧
      (∀ n ∈ msgs.map (NlMsg.bytes order), AddrRead order types n) ∧ Addressed afInet6 addrs := by
  induction written with
  | nil => exact ⟨rfl, by simp, fun _ member => absurd member List.not_mem_nil⟩
  | cons here _ ih =>
    obtain ⟨same, read, addressed⟩ := ih fun other member => room other (List.mem_cons_of_mem _ member)
    obtain ⟨addr, readHere⟩ := addr_read types (room _ List.mem_cons_self) here
    refine ⟨by rw [List.map_cons, List.map_cons, addr, same], List.forall_mem_cons.mpr ⟨readHere, read⟩,
      List.forall_mem_cons.mpr ⟨fun family => ?_, addressed⟩⟩
    obtain ⟨data, carried, -⟩ := here.addr6 family
    rw [carried]
    rfl

/-- Both dumps leave what was written for them. -/
theorem answered_dumps (types : MaxTypes) (answered : Answered order rth deliveries deliveries' links addrs)
    (room : ∀ count, malloc count = true) (room' : ∀ count, malloc' count = true) :
    ∃ linfo ainfo, dumps order malloc malloc' rth (deliveries.map (Delivery.recv order))
        (deliveries'.map (Delivery.recv order)) = some (linfo, ainfo) ∧
      (linfo.map (linkOf order) = links ∧ (∀ n ∈ linfo, LinkRead order types n) ∧
        ∀ n ∈ linfo, (linkOf order n).ifname.isSome) ∧
      ainfo.map (addrOf order) = addrs ∧ (∀ n ∈ ainfo, AddrRead order types n) ∧ Addressed afInet6 addrs := by
  obtain ⟨linkMsgs, done, more, linkReply, last, linkWritten⟩ := answered.links
  obtain ⟨addrMsgs, done', more', addrReply, last', addrWritten⟩ := answered.addrs
  have linkRoom : ∀ msg ∈ linkMsgs, msg.Encodable := by
    intro msg member
    refine replies_encodable order (firstHandle rth) answered.sent msg ?_
    rw [linkReply]
    exact List.mem_append_left _ member
  have addrRoom : ∀ msg ∈ addrMsgs, msg.Encodable := by
    intro msg member
    refine replies_encodable order (secondHandle rth) answered.sent' msg ?_
    rw [addrReply]
    exact List.mem_append_left _ member
  have linksGo : ∀ msg ∈ linkMsgs, msg.Goes := by
    intro msg member
    obtain ⟨ifi, written⟩ := written_of linkWritten member
    exact written.goes
  have addrsGo : ∀ msg ∈ addrMsgs, msg.Goes := by
    intro msg member
    obtain ⟨ifa, written⟩ := written_of addrWritten member
    exact written.goes
  exact ⟨_, _, dumps_of_replies order rth answered.sent answered.sent' room room' linkReply answered.unasked
    addrReply linksGo addrsGo last last', links_read linkWritten linkRoom, addrs_read addrWritten addrRoom⟩

/-- The list that `if_list_get` builds out of what it receives is the one of the
links and addresses that the kernel has written, however the messages came. -/
theorem if_list_of_kernel (order : ByteOrder) (types : MaxTypes) (enough : types.Enough)
    (memory : Nat → LinkedCells.Cell Nat IfaceNode) (array : Nat → Nat → Nat → InAddr)
    (answered : Answered order rth deliveries deliveries' links addrs)
    (room : ∀ count, malloc count = true) (room' : ∀ count, malloc' count = true) :
    ifListGet order types malloc malloc' memory array rth (deliveries.map (Delivery.recv order))
        (deliveries'.map (Delivery.recv order)) =
      InterfaceList.ifListGet memory array links addrs := by
  obtain ⟨linfo, ainfo, lists, ⟨sameLinks, linksRead, -⟩, sameAddrs, addrsRead, -⟩ :=
    answered_dumps types answered room room'
  rw [ifListGet, lists, Option.bind_some, if_list_loop_eq enough linksRead addrsRead, sameLinks, sameAddrs]
  rfl

/-- The address that `iface_ip6_get` finds is the one it finds among what the kernel
has written. -/
theorem iface_ip6_of_kernel (host : Host) (types : MaxTypes) (enough : types.Enough) (iface : CString)
    (answered : Answered host.order rth deliveries deliveries' links addrs)
    (room : ∀ count, malloc count = true) (room' : ∀ count, malloc' count = true) :
    ifaceIp6Get host types malloc malloc' iface rth (deliveries.map (Delivery.recv host.order))
        (deliveries'.map (Delivery.recv host.order)) =
      some (Portproxy.ifaceIp6Loop host iface addrs (links.map IfInfo.toLinkMsg) none) := by
  obtain ⟨linfo, ainfo, lists, ⟨sameLinks, linksRead, named⟩, sameAddrs, addrsRead, addressed⟩ :=
    answered_dumps types answered room room'
  have found := iface_ip6_loop_eq enough linksRead addrsRead named (sameAddrs ▸ addressed) iface none
  rw [ifaceIp6Get, lists, Option.bind_some, found, sameAddrs, ← sameLinks, List.map_map]
  rfl

/-! A host with two interfaces, and what its kernel sends about them. -/

def areaOf (attrs : List RtAttr) : List UInt8 :=
  (attrs.map (bytesOf .little)).flatMap (rtattrLayout .little).pad

def linkMsg (ifi : IfInfo) : NlMsg where
  type := 16
  flags := 2
  seq := 41
  pid := 7
  payload := 0 :: 0 :: (ByteOrder.little.store 2 ifi.type ++ (ByteOrder.little.store 4 (uint32 ifi.index).toNat ++
    (ByteOrder.little.store 4 ifi.flags ++ (ByteOrder.little.store 4 0 ++ areaOf ifi.attrs))))

def addrMsg (ifa : AddrMsg) : NlMsg where
  type := 20
  flags := 2
  seq := 42
  pid := 7
  payload := UInt8.ofNat ifa.family :: 24 :: 128 :: 0 ::
    (ByteOrder.little.store 4 (uint32 ifa.index).toNat ++ areaOf ifa.attrs)

def doneMsg (seq : Nat) : NlMsg := { type := nlmsgDone, flags := 2, seq, pid := 7, payload := [0, 0, 0, 0] }

theorem area_laid (writable : ∀ attr ∈ held, Writable attr) :
    Laid (rtattrLayout .little) (held.map (bytesOf .little)) (areaOf held) := by
  refine laid_pad fun bytes member => ?_
  obtain ⟨attr, among, rfl⟩ := List.mem_map.mp member
  exact record_bytesOf (writable attr among)

theorem link_msg_written (writable : ∀ attr ∈ ifi.attrs, Writable attr)
    (fields : (-2147483648 ≤ ifi.index ∧ ifi.index < 2147483648) ∧ ifi.type < 65536 ∧ ifi.flags < 4294967296)
    (name : ∃ data, rtattr ifi.attrs iflaIfname = some data ∧ 0 ∈ data) :
    LinkWritten .little ifi (linkMsg ifi) where
  goes := (by decide : ¬ (16 = nlmsgDone ∨ 16 = nlmsgError))
  writable := writable
  payload := ⟨0, 0, 0, _, rfl, area_laid writable⟩
  index := fields.1
  type := fields.2.1
  flags := fields.2.2
  name := name

theorem addr_msg_written (writable : ∀ attr ∈ ifa.attrs, Writable attr)
    (fields : ifa.family < 256 ∧ -2147483648 ≤ ifa.index ∧ ifa.index < 2147483648)
    (addr : ∃ data, ifaAddr ifa = some data ∧ (ifa.family = afInet → data.length = 4) ∧
      (ifa.family = afInet6 → data.length = 16)) :
    AddrWritten .little ifa (addrMsg ifa) where
  goes := (by decide : ¬ (20 = nlmsgDone ∨ 20 = nlmsgError))
  writable := writable
  payload := ⟨24, 128, 0, _, rfl, area_laid writable⟩
  family := fields.1
  index := fields.2
  addr family data carried := by
    obtain ⟨data', carried', short, -⟩ := addr
    rw [carried'] at carried
    rw [← Option.some.inj carried, short family]
  addr6 family := by
    obtain ⟨data, carried, -, long⟩ := addr
    exact ⟨data, carried, long family⟩

/-- The replies come in several datagrams, between a failed receive, a message of
another process and a late one. -/
def linkDeliveries : List Delivery :=
  [.datagram 0 [linkMsg InterfaceList.loopback], .failed, .datagram 1234 [doneMsg 41],
    .datagram 0 [linkMsg InterfaceList.wan, doneMsg 41]]

def addrDeliveries : List Delivery :=
  [.datagram 0 [doneMsg 41, addrMsg AddressCollection.loopbackEntry, addrMsg AddressCollection.linkLocalEntry],
    .datagram 0 [addrMsg AddressCollection.wanEntry, addrMsg AddressCollection.globalEntry], .datagram 0 [doneMsg 42]]

theorem host_answered : Answered .little ⟨7, 40, 0⟩ linkDeliveries addrDeliveries
    [InterfaceList.loopback, InterfaceList.wan] AddressCollection.hostEntries where
  sent := by decide +kernel
  sent' := by decide +kernel
  links := ⟨[linkMsg InterfaceList.loopback, linkMsg InterfaceList.wan], doneMsg 41, [], by decide +kernel, rfl,
    .cons (link_msg_written (by decide) (by decide) ⟨_, rfl, by decide⟩)
      (.cons (link_msg_written (by decide) (by decide) ⟨_, rfl, by decide⟩) .nil)⟩
  unasked := by decide +kernel
  addrs := ⟨AddressCollection.hostEntries.map addrMsg, doneMsg 42, [], by decide +kernel, rfl,
    .cons (addr_msg_written (by decide) (by decide) ⟨_, rfl, by decide⟩)
      (.cons (addr_msg_written (by decide) (by decide) ⟨_, rfl, by decide⟩)
        (.cons (addr_msg_written (by decide) (by decide) ⟨_, rfl, by decide⟩)
          (.cons (addr_msg_written (by decide) (by decide) ⟨_, rfl, by decide⟩) .nil)))⟩

def headerTypes : MaxTypes := { ifla := 60, ifa := 11 }

theorem host_list_of_kernel :
    ifListGet .little headerTypes (fun _ => true) (fun _ => true) (fun _ => InterfaceList.clearCell)
        (fun _ _ _ => {}) ⟨7, 40, 0⟩ (linkDeliveries.map (Delivery.recv .little))
        (addrDeliveries.map (Delivery.recv .little)) =
      InterfaceList.ifListGet (fun _ => InterfaceList.clearCell) (fun _ _ _ => {})
        [InterfaceList.loopback, InterfaceList.wan] AddressCollection.hostEntries :=
  if_list_of_kernel .little headerTypes ⟨by decide, by decide⟩ _ _ host_answered (fun _ => rfl) fun _ => rfl

/-- The address found for `wan0` is its first one, out of the bytes received. -/
theorem host_ip6_of_kernel :
    ifaceIp6Get littleHost headerTypes (fun _ => true) (fun _ => true) [0x77, 0x61, 0x6e, 0x30] ⟨7, 40, 0⟩
        (linkDeliveries.map (Delivery.recv .little)) (addrDeliveries.map (Delivery.recv .little)) =
      some (some (in6OfBytes [0xfe, 0x80, 0, 0, 0, 0, 0, 0, 0, 0, 0, 0, 0, 0, 0, 1])) :=
  (iface_ip6_of_kernel littleHost headerTypes ⟨by decide, by decide⟩ [0x77, 0x61, 0x6e, 0x30] host_answered
    (fun _ => rfl) fun _ => rfl).trans (by decide)

end Portproxy.InterfaceLookups
