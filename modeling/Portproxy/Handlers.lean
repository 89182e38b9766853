import Portproxy.Mappings

/-! The packet handlers of `framework.c`: the TCP relay, the extended NAT-PMP
shim and the UDP proxy, dispatched by `handle_packet`. What a system call
answers is an argument. -/
namespace Portproxy
open HostOrder KeyedList

/-! ## The socket list -/

def socketFind (ctx : Context) (fd : Int) : Option Socket := ctx.sockets.find? (·.fd = fd)

def socketAdd2 (ctx : Context) (sock : Socket) : Context :=
  { ctx with sockets := sock :: ctx.sockets }

/-- What a handler leaves: the process, its result and what it did. -/
structure Outcome where
  proxy : Proxy
  result : Int
  events : List Event := []

/-- The loop of `socket_del`. -/
def unlinkSocket (fd : Int) : List Socket → Option (List Socket)
  | [] => none
  | s :: rest => if s.fd = fd then some rest else (unlinkSocket fd rest).map (s :: ·)

def socketDel (p : Proxy) (fd : Int) : Outcome :=
  match unlinkSocket fd p.ctx.sockets with
  | some left =>
    ⟨{ ctx := { p.ctx with sockets := left }, kernel := p.kernel.sockDel fd }, 0, []⟩
  | none => ⟨p, -1, [.complaint .unableToDeleteSocket]⟩

/-! ## Sending -/

def errSocket : Int := -11

/-- `sock_send`, made by `caller` for the packet received on `source`; `sent`
is what `sendto` answers. -/
def sockSend (host : Host) (caller : Sender) (source fd : Int) (addr : InAddr)
    (data : List UInt8) (port sent : Int) : Int × Event :=
  (if sent < 0 then errSocket else 0,
    .sent { caller, source, fd, data
            dest := some (addr, host.order.onWire 2 (host.order.hton 2 (uint16 port)))
            result := sent })

/-- The port put into `sin_port` by `htons` is the one on the wire. -/
theorem sock_send_event (host : Host) :
    (sockSend host caller source fd addr data port sent).2 =
      .sent ⟨caller, source, fd, some (addr, uint16 port), data, sent⟩ := by
  have fits : uint16 port % 65536 = uint16 port := Nat.mod_eq_of_lt (uint16_lt port)
  simp [sockSend, fits]

def querySend (host : Host) (sent : Int) (m : Mapping) (pkt : Pkt) : Int × Event :=
  sockSend host (.query m) pkt.sock m.wanSock m.aftrIPv4 pkt.data m.routerPort sent

def responseSend (host : Host) (sent : Int) (m : Mapping) (pkt : Pkt) : Int × Event :=
  sockSend host (.response m) pkt.sock m.lanSock m.clientIP pkt.data m.clientPort sent

/-! ## The TCP relay -/

def handleTcpPacket (sent : Int) (p : Proxy) (pkt : Pkt) : Outcome :=
  match socketFind p.ctx pkt.sock with
  | none => ⟨p, -1, [.complaint .unableToFindSocket]⟩
  | some sock =>
    match socketFind p.ctx sock.peer with
    | none => ⟨p, -1, [.complaint .unableToFindPeer]⟩
    | some peer =>
      ⟨p, if sent < 0 then sent else 0,
        [.sent { caller := .relay, source := pkt.sock, fd := peer.fd, data := pkt.data, result := sent }]⟩

def handleTcpClose (p : Proxy) (pkt : Pkt) : Outcome :=
  if pkt.datalen ≠ 0 then ⟨p, -1, [.complaint .dataToRead]⟩
  else
    match socketFind p.ctx pkt.sock with
    | none => ⟨p, -1, [.complaint .unableToFindSocket]⟩
    | some sock =>
      let first := socketDel p pkt.sock
      let second := socketDel first.proxy sock.peer
      ⟨second.proxy, 0, first.events ++ second.events⟩

/-! ## The extended NAT-PMP shim -/

/-- The buffer `handle_nat_pmp_ext_fromclient` fills: two marks, the first two
bytes of the `int` that holds the client's port, both addresses, the payload. -/
def encapsulate (host : Host) (ctx : Context) (pkt : Pkt) : List UInt8 :=
  [12, 80] ++ (host.order.store 4 (uint32 pkt.srcPort).toNat).take 2 ++
    ctx.lanIP.bytes ++ pkt.srcIP.bytes ++ pkt.data

def handleNatPmpExtFromclient (host : Host) (sent : Int) (p : Proxy) (pkt : Pkt) : Outcome :=
  if pkt.datalen > 100 then ⟨p, -1, [.complaint .overrun]⟩
  else
    ⟨p, if sent < 0 then -1 else 0,
      [.sent { caller := .fromClient, source := pkt.sock, fd := p.ctx.natPmpExtSock
               data := encapsulate host p.ctx pkt, result := sent }]⟩

/-- The address and port that `handle_nat_pmp_ext_fromserver` reads out of the
header: `sin_port` is the `short` at offset 2, swapped by `ntohs`. -/
def recoverClient (host : Host) (data : List UInt8) : InAddr × Nat :=
  let sinPort := host.order.hton 2 (host.order.load ((data.drop 2).take 2))
  (.ofBytes ((data.drop 8).take 4), host.order.onWire 2 sinPort)

def handleNatPmpExtFromserver (host : Host) (sent : Int) (p : Proxy) (pkt : Pkt) : Outcome :=
  if pkt.datalen < 12 then ⟨p, -1, [.complaint .truncated]⟩
  else if pkt.data[0]? ≠ some 12 ∨ pkt.data[1]? ≠ some 80 then
    ⟨p, -1, [.complaint .incorrectResponse]⟩
  else
    ⟨p, if sent < 0 then -1 else 0,
      [.sent { caller := .fromServer, source := pkt.sock, fd := p.ctx.natPmpLanSock
               dest := some (recoverClient host pkt.data), data := pkt.data.drop 12
               result := sent }]⟩

/-! ## The UDP proxy -/

/-- Sent to `mcast`, and received on the WAN's socket for SSDP. -/
def packetWanMcast (ctx : Context) (pkt : Pkt) : Bool :=
  addrCmp pkt.dstIP mcast && pkt.sock == ctx.wanSsdpSock

def packetValid (_ctx : Context) (_pkt : Pkt) : Int := 1

/-- `query_socket_get` for a UDP packet. `handle_packet` has returned by now
for every other protocol. -/
def querySocketGet (ctx : Context) : Int := ctx.sharedUdpSockFd

/-- The multicast branch of `handle_packet`. -/
def forwardMulticast (host : Host) (sent : Int) (p : Proxy) (pkt : Pkt) : Outcome :=
  ⟨p, 0, [(sockSend host .multicast pkt.sock p.ctx.lanSsdpSock mcast pkt.data pkt.dstPort sent).2]⟩

/-- The branch of `handle_packet` that has found the mapping `m`. -/
def forwardResponse (host : Host) (sent : Int) (p : Proxy) (pkt : Pkt) (m : Mapping) : Outcome :=
  match mappingDelete p.ctx.mappings m.node with
  | none => ⟨p, 0, [(responseSend host sent m pkt).2, .fault]⟩
  | some (_, left) =>
    ⟨{ p with ctx := { p.ctx with mappings := left } }, 0, [(responseSend host sent m pkt).2]⟩

/-- The branch of `handle_packet` for a new packet: a mapping for the response
and the query itself. -/
def forwardQuery (host : Host) (sent addTime : Int) (p : Proxy) (pkt : Pkt) : Outcome :=
  let s := querySocketGet p.ctx
  let m := (mappingCreate p.ctx p.kernel pkt s).stamped p.ctx addTime
  let query := querySend host sent m pkt
  ⟨{ ctx := mappingAdd addTime p.ctx (mappingCreate p.ctx p.kernel pkt s)
     kernel := { p.kernel with heap := p.kernel.heap + 1 } },
    if query.1 < 0 then -1 else 0, [.added m, query.2]⟩

/-- `handle_packet`; `sent` is what the one `send` or `sendto` it makes answers,
`addTime` what `time` answers in `mapping_add`. -/
def handlePacket (host : Host) (sent addTime : Int) (p : Proxy) (pkt : Pkt) : Outcome :=
  if pkt.proto = .tcp then
    if pkt.datalen ≠ 0 then handleTcpPacket sent p pkt else handleTcpClose p pkt
  else if packetWanMcast p.ctx pkt then forwardMulticast host sent p pkt
  else if p.ctx.enableNatPmpExt ≠ 0 then
    if pkt.sock = p.ctx.natPmpExtSock then handleNatPmpExtFromserver host sent p pkt
    else handleNatPmpExtFromclient host sent p pkt
  else
    match mappingFind p.ctx.mappings pkt with
    | some m => forwardResponse host sent p pkt m
    | none =>
      if packetValid p.ctx pkt ≠ 0 then forwardQuery host sent addTime p pkt
      else ⟨p, -1, []⟩

/-! ## What the small steps do -/

/-- `socket_del` takes a socket off the list and closes it, or complains. -/
theorem socket_del_cases (p : Proxy) (fd : Int) :
    (∃ left, socketDel p fd =
        ⟨{ ctx := { p.ctx with sockets := left }, kernel := p.kernel.sockDel fd }, 0, []⟩) ∨
      socketDel p fd = ⟨p, -1, [.complaint .unableToDeleteSocket]⟩ := by
  unfold socketDel
  split
  · exact .inl ⟨_, rfl⟩
  · exact .inr rfl

/-- The relay complains, or passes the data on to the peer of the socket. -/
theorem tcp_packet_cases (sent : Int) (p : Proxy) (pkt : Pkt) :
    (∃ line, handleTcpPacket sent p pkt = ⟨p, -1, [.complaint line]⟩) ∨
      ∃ s peer, socketFind p.ctx pkt.sock = some s ∧ socketFind p.ctx s.peer = some peer ∧
        handleTcpPacket sent p pkt = ⟨p, if sent < 0 then sent else 0,
          [.sent ⟨.relay, pkt.sock, peer.fd, none, pkt.data, sent⟩]⟩ := by
  unfold handleTcpPacket
  split
  · exact .inl ⟨_, rfl⟩
  · rename_i s found
    split
    · exact .inl ⟨_, rfl⟩
    · rename_i peer paired
      exact .inr ⟨s, peer, found, paired, rfl⟩

/-- The end of a stream is refused, or both sockets of the pair are deleted. -/
theorem tcp_close_cases (p : Proxy) (pkt : Pkt) :
    (∃ line, handleTcpClose p pkt = ⟨p, -1, [.complaint line]⟩) ∨
      ∃ peer, handleTcpClose p pkt =
        ⟨(socketDel (socketDel p pkt.sock).proxy peer).proxy, 0,
          (socketDel p pkt.sock).events ++ (socketDel (socketDel p pkt.sock).proxy peer).events⟩ := by
  unfold handleTcpClose
  split
  · exact .inl ⟨_, rfl⟩
  · split
    · exact .inl ⟨_, rfl⟩
    · exact .inr ⟨_, rfl⟩

theorem socket_del_complains (p : Proxy) (fd : Int) :
    ∀ event ∈ (socketDel p fd).events, ∃ line, event = .complaint line := by
  rcases socket_del_cases p fd with ⟨left, deleted⟩ | complained
  · simp [deleted]
  · simp [complained]

theorem tcp_close_complains (p : Proxy) (pkt : Pkt) :
    ∀ event ∈ (handleTcpClose p pkt).events, ∃ line, event = .complaint line := by
  rcases tcp_close_cases p pkt with ⟨line, refused⟩ | ⟨peer, closed⟩
  · simp [refused]
  · rw [closed]
    intro event member
    rcases List.mem_append.mp member with first | second
    · exact socket_del_complains _ _ event first
    · exact socket_del_complains _ _ event second

theorem tcp_packet_unchanged (sent : Int) (p : Proxy) (pkt : Pkt) :
    (handleTcpPacket sent p pkt).proxy = p := by
  rcases tcp_packet_cases sent p pkt with ⟨line, refused⟩ | ⟨_, _, -, -, relayed⟩
  · rw [refused]
  · rw [relayed]

theorem from_client_unchanged (host : Host) (sent : Int) (p : Proxy) (pkt : Pkt) :
    (handleNatPmpExtFromclient host sent p pkt).proxy = p := by
  unfold handleNatPmpExtFromclient
  split <;> rfl

theorem from_server_unchanged (host : Host) (sent : Int) (p : Proxy) (pkt : Pkt) :
    (handleNatPmpExtFromserver host sent p pkt).proxy = p := by
  unfold handleNatPmpExtFromserver
  split
  · rfl
  · split <;> rfl

/-- The shim refuses a client's packet or sends it on, encapsulated. -/
theorem from_client_cases (host : Host) (sent : Int) (p : Proxy) (pkt : Pkt) :
    (100 < pkt.datalen ∧
        (handleNatPmpExtFromclient host sent p pkt).events = [.complaint .overrun]) ∨
      (pkt.datalen ≤ 100 ∧ (handleNatPmpExtFromclient host sent p pkt).events =
        [.sent ⟨.fromClient, pkt.sock, p.ctx.natPmpExtSock, none, encapsulate host p.ctx pkt, sent⟩]) := by
  unfold handleNatPmpExtFromclient
  split
  · exact .inl ⟨by assumption, rfl⟩
  · exact .inr ⟨not_lt.mp (by assumption), rfl⟩

/-- The shim refuses the server's packet or sends its payload to the client
named in the header. -/
theorem from_server_cases (host : Host) (sent : Int) (p : Proxy) (pkt : Pkt) :
    (∃ line, (line = .truncated ∨ line = .incorrectResponse) ∧
        (handleNatPmpExtFromserver host sent p pkt).events = [.complaint line]) ∨
      (12 ≤ pkt.datalen ∧ pkt.data[0]? = some 12 ∧ pkt.data[1]? = some 80 ∧
        (handleNatPmpExtFromserver host sent p pkt).events =
          [.sent ⟨.fromServer, pkt.sock, p.ctx.natPmpLanSock, some (recoverClient host pkt.data),
            pkt.data.drop 12, sent⟩]) := by
  unfold handleNatPmpExtFromserver
  split
  · exact .inl ⟨_, .inl rfl, rfl⟩
  · rename_i long
    split
    · exact .inl ⟨_, .inr rfl, rfl⟩
    · rename_i marked
      simp only [not_or, ne_eq, not_not] at marked
      exact .inr ⟨not_lt.mp long, marked.1, marked.2, rfl⟩

theorem unlink_socket_some (member : ∃ s ∈ sockets, s.fd = fd) :
    unlinkSocket fd sockets = some (sockets.eraseP (·.fd = fd)) := by
  induction sockets with
  | nil => simp at member
  | cons s rest ih =>
    by_cases here : s.fd = fd
    · simp [unlinkSocket, here]
    · have later : ∃ s ∈ rest, s.fd = fd := by simpa [here] using member
      simp [unlinkSocket, here, ih later]

/-- No two sockets of the list share a descriptor. -/
abbrev DistinctSockets (sockets : List Socket) : Prop := Distinct Socket.fd sockets

theorem socket_find_member (distinct : DistinctSockets ctx.sockets) (member : s ∈ ctx.sockets) :
    socketFind ctx s.fd = some s :=
  distinct.find member

/-- Among distinct descriptors a deletion removes and closes the socket asked
for, and no other. -/
theorem socket_del_removes {p : Proxy} (distinct : DistinctSockets p.ctx.sockets)
    (member : s ∈ p.ctx.sockets) :
    socketDel p s.fd =
      ⟨{ ctx := { p.ctx with sockets := p.ctx.sockets.filter (·.fd ≠ s.fd) }
         kernel := p.kernel.sockDel s.fd }, 0, []⟩ := by
  rw [socketDel, unlink_socket_some ⟨s, member, rfl⟩, distinct.eraseP_filters]

/-! ## The UDP branches of `handle_packet` -/

theorem packet_wan_mcast_iff :
    packetWanMcast ctx pkt = true ↔ pkt.dstIP = mcast ∧ pkt.sock = ctx.wanSsdpSock := by
  simp [packetWanMcast]

section Udp
variable {host : Host} {p : Proxy} {pkt : Pkt} {m : Mapping}

theorem handle_multicast (udp : pkt.proto = .udp) (wan : packetWanMcast p.ctx pkt = true) :
    handlePacket host sent addTime p pkt =
      ⟨p, 0, [.sent ⟨.multicast, pkt.sock, p.ctx.lanSsdpSock, some (mcast, uint16 pkt.dstPort),
        pkt.data, sent⟩]⟩ := by
  simp only [handlePacket, udp, reduceCtorEq, ↓reduceIte, wan, forwardMulticast, sock_send_event]

theorem handle_from_server (udp : pkt.proto = .udp) (notWan : packetWanMcast p.ctx pkt = false)
    (extended : p.ctx.enableNatPmpExt ≠ 0) (server : pkt.sock = p.ctx.natPmpExtSock) :
    handlePacket host sent addTime p pkt = handleNatPmpExtFromserver host sent p pkt := by
  simp [handlePacket, udp, notWan, extended, server]

theorem handle_from_client (udp : pkt.proto = .udp) (notWan : packetWanMcast p.ctx pkt = false)
    (extended : p.ctx.enableNatPmpExt ≠ 0) (client : pkt.sock ≠ p.ctx.natPmpExtSock) :
    handlePacket host sent addTime p pkt = handleNatPmpExtFromclient host sent p pkt := by
  simp [handlePacket, udp, notWan, extended, client]

/-- A packet that matches a mapping is the response: it is sent on and the
mapping is used up. -/
theorem handle_response (udp : pkt.proto = .udp) (notWan : packetWanMcast p.ctx pkt = false)
    (classic : p.ctx.enableNatPmpExt = 0) (found : mappingFind p.ctx.mappings pkt = some m) :
    handlePacket host sent addTime p pkt =
      ⟨{ p with ctx := { p.ctx with mappings := p.ctx.mappings.eraseP (·.node = m.node) } }, 0,
        [.sent ⟨.response m, pkt.sock, m.lanSock, some (m.clientIP, uint16 m.clientPort), pkt.data,
          sent⟩]⟩ := by
  have unlinked := mapping_delete_unlinks ⟨m, (mapping_find_some found).1, rfl⟩
  simp only [handlePacket, udp, reduceCtorEq, ↓reduceIte, notWan, Bool.false_eq_true, classic, ne_eq,
    not_true_eq_false, found, forwardResponse, unlinked, responseSend, sock_send_event]

/-- Any other packet becomes a query with a new mapping. -/
theorem handle_query (udp : pkt.proto = .udp) (notWan : packetWanMcast p.ctx pkt = false)
    (classic : p.ctx.enableNatPmpExt = 0) (unmatched : mappingFind p.ctx.mappings pkt = none)
    (created : m = (mappingCreate p.ctx p.kernel pkt p.ctx.sharedUdpSockFd).stamped p.ctx addTime) :
    handlePacket host sent addTime p pkt =
      ⟨{ ctx := { p.ctx with mappings := m :: p.ctx.mappings }
         kernel := { p.kernel with heap := p.kernel.heap + 1 } }, if sent < 0 then -1 else 0,
        [.added m, .sent ⟨.query m, pkt.sock, m.wanSock, some (m.aftrIPv4, uint16 m.routerPort),
          pkt.data, sent⟩]⟩ := by
  subst created
  simp only [handlePacket, udp, reduceCtorEq, ↓reduceIte, notWan, Bool.false_eq_true, classic, ne_eq,
    not_true_eq_false, unmatched, packetValid, one_ne_zero, not_false_eq_true, forwardQuery, querySend,
    querySocketGet, sock_send_event, mappingAdd]
  by_cases failed : sent < 0 <;> simp [sockSend, failed, errSocket]

end Udp

/-! ## What handling a packet sends -/

/-- The one call of `send` or `sendto` that handling a packet may make. -/
inductive Forwards (host : Host) (sent addTime : Int) (p : Proxy) (pkt : Pkt) : Send → Prop where
  | relays (tcp : pkt.proto = .tcp) (found : socketFind p.ctx pkt.sock = some s)
      (paired : socketFind p.ctx s.peer = some other) :
      Forwards host sent addTime p pkt
        { caller := .relay, source := pkt.sock, fd := other.fd, data := pkt.data, result := sent }
  | multicasts (udp : pkt.proto = .udp) (wan : packetWanMcast p.ctx pkt = true) :
      Forwards host sent addTime p pkt
        ⟨.multicast, pkt.sock, p.ctx.lanSsdpSock, some (mcast, uint16 pkt.dstPort), pkt.data, sent⟩
  | fromServer (udp : pkt.proto = .udp) (notWan : packetWanMcast p.ctx pkt = false)
      (extended : p.ctx.enableNatPmpExt ≠ 0) (server : pkt.sock = p.ctx.natPmpExtSock) :
      Forwards host sent addTime p pkt
        ⟨.fromServer, pkt.sock, p.ctx.natPmpLanSock, some (recoverClient host pkt.data),
          pkt.data.drop 12, sent⟩
  | fromClient (udp : pkt.proto = .udp) (notWan : packetWanMcast p.ctx pkt = false)
      (extended : p.ctx.enableNatPmpExt ≠ 0) (client : pkt.sock ≠ p.ctx.natPmpExtSock) :
      Forwards host sent addTime p pkt
        ⟨.fromClient, pkt.sock, p.ctx.natPmpExtSock, none, encapsulate host p.ctx pkt, sent⟩
  | responds (udp : pkt.proto = .udp) (notWan : packetWanMcast p.ctx pkt = false)
      (classic : p.ctx.enableNatPmpExt = 0) (found : mappingFind p.ctx.mappings pkt = some m) :
      Forwards host sent addTime p pkt
        ⟨.response m, pkt.sock, m.lanSock, some (m.clientIP, uint16 m.clientPort), pkt.data, sent⟩
  | queries (udp : pkt.proto = .udp) (notWan : packetWanMcast p.ctx pkt = false)
      (classic : p.ctx.enableNatPmpExt = 0) (unmatched : mappingFind p.ctx.mappings pkt = none)
      (created : m = (mappingCreate p.ctx p.kernel pkt p.ctx.sharedUdpSockFd).stamped p.ctx addTime) :
      Forwards host sent addTime p pkt
        ⟨.query m, pkt.sock, m.wanSock, some (m.aftrIPv4, uint16 m.routerPort), pkt.data, sent⟩

theorem handle_packet_forwards {p : Proxy} {pkt : Pkt}
    (emitted : .sent call ∈ (handlePacket host sent addTime p pkt).events) :
    Forwards host sent addTime p pkt call := by
  cases proto : pkt.proto with
  | tcp =>
    rw [handlePacket, if_pos proto] at emitted
    split at emitted
    · rcases tcp_packet_cases sent p pkt with ⟨line, refused⟩ | ⟨s, peer, found, paired, relayed⟩
      · simp [refused] at emitted
      · rw [relayed] at emitted
        simp only [List.mem_singleton, Event.sent.injEq] at emitted
        exact emitted ▸ .relays proto found paired
    · obtain ⟨line, complaint⟩ := tcp_close_complains p pkt _ emitted
      cases complaint
  | udp =>
    cases wan : packetWanMcast p.ctx pkt with
    | true =>
      rw [handle_multicast proto wan] at emitted
      simp only [List.mem_singleton, Event.sent.injEq] at emitted
      exact emitted ▸ .multicasts proto wan
    | false =>
      by_cases classic : p.ctx.enableNatPmpExt = 0
      · cases found : mappingFind p.ctx.mappings pkt with
        | some m =>
          rw [handle_response proto wan classic found] at emitted
          simp only [List.mem_singleton, Event.sent.injEq] at emitted
          exact emitted ▸ .responds proto wan classic found
        | none =>
          rw [handle_query proto wan classic found rfl] at emitted
          simp only [List.mem_cons, reduceCtorEq, List.not_mem_nil, or_false, false_or,
            Event.sent.injEq] at emitted
          exact emitted ▸ .queries proto wan classic found rfl
      · by_cases server : pkt.sock = p.ctx.natPmpExtSock
        · rw [handle_from_server proto wan classic server] at emitted
          rcases from_server_cases host sent p pkt with ⟨line, -, refused⟩ | ⟨-, -, -, passed⟩
          · simp [refused] at emitted
          · rw [passed] at emitted
            simp only [List.mem_singleton, Event.sent.injEq] at emitted
            exact emitted ▸ .fromServer proto wan classic server
        · rw [handle_from_client proto wan classic server] at emitted
          rcases from_client_cases host sent p pkt with ⟨-, refused⟩ | ⟨-, passed⟩
          · simp [refused] at emitted
          · rw [passed] at emitted
            simp only [List.mem_singleton, Event.sent.injEq] at emitted
            exact emitted ▸ .fromClient proto wan classic server

end Portproxy
