import Portproxy.MainLoop

/-! What one pass of the main loop can do, said once. Every invariant of the
loop and every statement about what it sends is derived from these cases. -/
namespace Portproxy.TurnSemantics
open StepMachine

/-- The socket `wait_for_traffic` turns to: the first of the list that is ready. -/
def picked (p : Proxy) (t : Turn) : Option Socket := p.ctx.sockets.find? (·.fd ∈ t.ready)

/-- `wait_for_traffic` reads `pkt` from the socket `sock` of the list, noting
these events on the way. -/
inductive Receives (p : Proxy) (t : Turn) (sock : Socket) : Pkt → List Event → Prop where
  | udp (chosen : picked p t = some sock) (state : sock.state = .udp) (read : t.recv = some d) :
      Receives p t sock (sockUdpReceive p.kernel sock d) []
  | udp6 (chosen : picked p t = some sock) (state : sock.state = .udp6) (read : t.recv = some d) :
      Receives p t sock (sockUdp6Receive p.kernel sock d) []
  | tcp (chosen : picked p t = some sock) (state : sock.state = .tcpConnected)
      (read : t.recv = some d) :
      Receives p t sock (sockTcpReceive p.ctx sock d).1 (sockTcpReceive p.ctx sock d).2

namespace Receives

variable {p : Proxy} {t : Turn} {sock : Socket} {pkt : Pkt} {noted : List Event}

theorem chosen (received : Receives p t sock pkt noted) : picked p t = some sock := by
  cases received <;> assumption

theorem member (received : Receives p t sock pkt noted) : sock ∈ p.ctx.sockets :=
  List.mem_of_find?_eq_some received.chosen

theorem sock_eq (received : Receives p t sock pkt noted) : pkt.sock = sock.fd := by
  cases received <;> rfl

theorem proto_eq (received : Receives p t sock pkt noted) : pkt.proto = sock.ipproto := by
  cases received <;> rfl

/-- What is received when a datagram waits on an IPv4 socket. -/
theorem of_udp (received : Receives p t sock pkt noted) (chosen : picked p t = some s)
    (state : s.state = .udp) (read : t.recv = some d) :
    sock = s ∧ pkt = sockUdpReceive p.kernel s d := by
  obtain rfl : sock = s := Option.some.inj (received.chosen.symm.trans chosen)
  cases received with
  | udp _ _ reads =>
    obtain rfl := Option.some.inj (reads.symm.trans read)
    exact ⟨rfl, rfl⟩
  | udp6 _ other => rw [state] at other; cases other
  | tcp _ other => rw [state] at other; cases other

/-- Only the TCP receiver complains. -/
theorem noted_complaints (received : Receives p t sock pkt noted) :
    noted = [] ∨ noted = [.complaint .noCorrespondingSocket] := by
  cases received with
  | udp => exact .inl rfl
  | udp6 => exact .inl rfl
  | tcp =>
    unfold sockTcpReceive
    cases socketFind p.ctx sock.peer <;> simp

end Receives

/-- What the packet part of one pass does, case by case. -/
inductive Handled (host : Host) (p : Proxy) (t : Turn) : Proxy → List Event → Prop where
  | idle (quiet : events = [] ∨ events = [.complaint .socketNotFound]) : Handled host p t p events
  | accepts (member : sock ∈ p.ctx.sockets) (state : sock.state = .tcpListening) :
      Handled host p t (sockTcpAccept t.accept p sock).1 (sockTcpAccept t.accept p sock).2
  | relays (received : Receives p t sock pkt noted) (tcp : pkt.proto = .tcp)
      (some : pkt.data ≠ []) :
      Handled host p t p (noted ++ .received pkt :: (handleTcpPacket t.sent p pkt).events)
  | closes (received : Receives p t sock pkt noted) (tcp : pkt.proto = .tcp)
      (none : pkt.data = []) :
      Handled host p t (handleTcpClose p pkt).proxy
        (noted ++ .received pkt :: (handleTcpClose p pkt).events)
  | multicasts (received : Receives p t sock pkt noted) (udp : pkt.proto = .udp)
      (wan : packetWanMcast p.ctx pkt = true) :
      Handled host p t p (noted ++ [.received pkt,
        .sent ⟨.multicast, pkt.sock, p.ctx.lanSsdpSock, Option.some (mcast, uint16 pkt.dstPort),
          pkt.data, t.sent⟩])
  | fromServer (received : Receives p t sock pkt noted) (udp : pkt.proto = .udp)
      (notWan : packetWanMcast p.ctx pkt = false) (extended : p.ctx.enableNatPmpExt ≠ 0)
      (server : pkt.sock = p.ctx.natPmpExtSock) :
      Handled host p t p
        (noted ++ .received pkt :: (handleNatPmpExtFromserver host t.sent p pkt).events)
  | fromClient (received : Receives p t sock pkt noted) (udp : pkt.proto = .udp)
      (notWan : packetWanMcast p.ctx pkt = false) (extended : p.ctx.enableNatPmpExt ≠ 0)
      (client : pkt.sock ≠ p.ctx.natPmpExtSock) :
      Handled host p t p
        (noted ++ .received pkt :: (handleNatPmpExtFromclient host t.sent p pkt).events)
  | responds (received : Receives p t sock pkt noted) (udp : pkt.proto = .udp)
      (notWan : packetWanMcast p.ctx pkt = false) (classic : p.ctx.enableNatPmpExt = 0)
      (found : mappingFind p.ctx.mappings pkt = Option.some m) :
      Handled host p t
        { p with ctx := { p.ctx with mappings := p.ctx.mappings.eraseP (·.node = m.node) } }
        (noted ++ [.received pkt,
          .sent ⟨.response m, pkt.sock, m.lanSock, Option.some (m.clientIP, uint16 m.clientPort),
            pkt.data, t.sent⟩])
  | queries (received : Receives p t sock pkt noted) (udp : pkt.proto = .udp)
      (notWan : packetWanMcast p.ctx pkt = false) (classic : p.ctx.enableNatPmpExt = 0)
      (unmatched : mappingFind p.ctx.mappings pkt = none)
      (created : m = (mappingCreate p.ctx p.kernel pkt p.ctx.sharedUdpSockFd).stamped p.ctx t.addTime) :
      Handled host p t
        { ctx := { p.ctx with mappings := m :: p.ctx.mappings }
          kernel := { p.kernel with heap := p.kernel.heap + 1 } }
        (noted ++ [.received pkt, .added m,
          .sent ⟨.query m, pkt.sock, m.wanSock, Option.some (m.aftrIPv4, uint16 m.routerPort),
            pkt.data, t.sent⟩])

/-- Neither puts a mapping on the list nor takes one off. -/
def Quiet : Event → Prop
  | .added _ | .expired _ => False
  | .sent call => ∀ m, call.caller ≠ .response m
  | _ => True

/-- The packet part of one pass, as the mapping list sees it: the list and the
heap it leaves, and what it emits. -/
inductive MappingTurn (p : Proxy) (t : Turn) : List Mapping → Nat → List Event → Prop where
  | kept (quiet : ∀ event ∈ events, Quiet event) :
      MappingTurn p t p.ctx.mappings p.kernel.heap events
  | used (received : Receives p t sock pkt noted) (udp : pkt.proto = .udp)
      (quiet : ∀ event ∈ noted, Quiet event)
      (found : mappingFind p.ctx.mappings pkt = some m) :
      MappingTurn p t (p.ctx.mappings.eraseP (·.node = m.node)) p.kernel.heap
        (noted ++ [.received pkt,
          .sent ⟨.response m, pkt.sock, m.lanSock, some (m.clientIP, uint16 m.clientPort),
            pkt.data, t.sent⟩])
  | queried (received : Receives p t sock pkt noted) (udp : pkt.proto = .udp)
      (quiet : ∀ event ∈ noted, Quiet event) (notWan : packetWanMcast p.ctx pkt = false)
      (unmatched : mappingFind p.ctx.mappings pkt = none)
      (created : m = (mappingCreate p.ctx p.kernel pkt p.ctx.sharedUdpSockFd).stamped p.ctx t.addTime) :
      MappingTurn p t (m :: p.ctx.mappings) (p.kernel.heap + 1)
        (noted ++ [.received pkt, .added m,
          .sent ⟨.query m, pkt.sock, m.wanSock, some (m.aftrIPv4, uint16 m.routerPort),
            pkt.data, t.sent⟩])

variable {host : Host} {p : Proxy} {t : Turn} {sock s : Socket} {pkt : Pkt} {m : Mapping}
  {noted events : List Event}

private theorem handled_packet (received : Receives p t sock pkt noted) :
    Handled host p t (handlePacket host t.sent t.addTime p pkt).proxy
      (noted ++ .received pkt :: (handlePacket host t.sent t.addTime p pkt).events) := by
  by_cases tcp : pkt.proto = .tcp
  · rw [handlePacket, if_pos tcp]
    by_cases empty : pkt.data = []
    · rw [if_neg (by simp [Pkt.datalen, empty])]
      exact .closes received tcp empty
    · rw [if_pos (by simp [Pkt.datalen, empty])]
      rw [tcp_packet_unchanged]
      exact .relays received tcp empty
  · have udp : pkt.proto = .udp := by
      cases kind : pkt.proto with
      | tcp => exact absurd kind tcp
      | udp => rfl
    by_cases wan : packetWanMcast p.ctx pkt = true
    · rw [handle_multicast udp wan]
      exact .multicasts received udp wan
    · have notWan : packetWanMcast p.ctx pkt = false := by simpa using wan
      by_cases classic : p.ctx.enableNatPmpExt = 0
      · cases found : mappingFind p.ctx.mappings pkt with
        | some m =>
          rw [handle_response udp notWan classic found]
          exact .responds received udp notWan classic found
        | none =>
          rw [handle_query udp notWan classic found rfl]
          exact .queries received udp notWan classic found rfl
      · by_cases server : pkt.sock = p.ctx.natPmpExtSock
        · rw [handle_from_server udp notWan classic server, from_server_unchanged]
          exact .fromServer received udp notWan classic server
        · rw [handle_from_client udp notWan classic server, from_client_unchanged]
          exact .fromClient received udp notWan classic server

private theorem picked_ready (chosen : picked p t = some sock) : t.ready ≠ [] := by
  intro none
  have ready : sock.fd ∈ t.ready := by simpa using List.find?_some chosen
  simp [none] at ready

/-- A packet that is received is handled, with nothing before. -/
theorem receives_turn (host : Host) (received : Receives p t sock pkt noted) :
    handleTurn host p t = ((handlePacket host t.sent t.addTime p pkt).proxy,
      noted ++ .received pkt :: (handlePacket host t.sent t.addTime p pkt).events) := by
  have found : p.ctx.sockets.find? (·.fd ∈ t.ready) = some sock := received.chosen
  have ready := picked_ready received.chosen
  cases received with
  | udp _ state read => simp [handleTurn, waitForTraffic, ready, found, state, read]
  | udp6 _ state read => simp [handleTurn, waitForTraffic, ready, found, state, read]
  | tcp _ state read => simp [handleTurn, waitForTraffic, ready, found, state, read]

theorem listening_turn (chosen : picked p t = some sock) (state : sock.state = .tcpListening) :
    handleTurn host p t = sockTcpAccept t.accept p sock := by
  have found : p.ctx.sockets.find? (·.fd ∈ t.ready) = some sock := chosen
  simp [handleTurn, waitForTraffic, picked_ready chosen, found, state]

/-- Without a socket that is ready, or a packet read from it, nothing happens. -/
theorem quiet_turn (host : Host) (quiet : picked p t = none ∨
      ∃ sock, picked p t = some sock ∧ sock.state ≠ .tcpListening ∧ t.recv = none) :
    (handleTurn host p t).1 = p ∧
      ((handleTurn host p t).2 = [] ∨ (handleTurn host p t).2 = [.complaint .socketNotFound]) := by
  rcases quiet with nobody | ⟨sock, chosen, state, silent⟩
  · have found : p.ctx.sockets.find? (·.fd ∈ t.ready) = none := nobody
    by_cases ready : t.ready = []
    · simp [handleTurn, waitForTraffic, ready]
    · simp [handleTurn, waitForTraffic, ready, found]
  · have found : p.ctx.sockets.find? (·.fd ∈ t.ready) = some sock := chosen
    cases kind : sock.state with
    | tcpListening => exact absurd kind state
    | _ => simp [handleTurn, waitForTraffic, picked_ready chosen, found, kind, silent]

/-- The inversion of one pass: nothing else can happen in it. -/
theorem handle_turn_cases (host : Host) (p : Proxy) (t : Turn) :
    Handled host p t (handleTurn host p t).1 (handleTurn host p t).2 := by
  cases chosen : picked p t with
  | none =>
    obtain ⟨same, quiet⟩ := quiet_turn host (.inl chosen)
    rw [same]
    exact .idle quiet
  | some sock =>
    have member : sock ∈ p.ctx.sockets := List.mem_of_find?_eq_some chosen
    by_cases listening : sock.state = .tcpListening
    · rw [listening_turn chosen listening]
      exact .accepts member listening
    · cases read : t.recv with
      | none =>
        obtain ⟨same, quiet⟩ := quiet_turn host (.inr ⟨sock, chosen, listening, read⟩)
        rw [same]
        exact .idle quiet
      | some d =>
        have received : ∃ pkt noted, Receives p t sock pkt noted := by
          cases state : sock.state with
          | udp => exact ⟨_, _, .udp chosen state read⟩
          | udp6 => exact ⟨_, _, .udp6 chosen state read⟩
          | tcpListening => exact absurd state listening
          | tcpConnected => exact ⟨_, _, .tcp chosen state read⟩
        obtain ⟨pkt, noted, received⟩ := received
        rw [receives_turn host received]
        exact handled_packet received

private theorem accept_events (answers : AcceptAnswers) (p : Proxy) (sock : Socket) :
    ∀ event ∈ (sockTcpAccept answers p sock).2, ∃ lan wan server, event = .paired lan wan server := by
  rcases tcp_accept_cases answers p sock with ⟨-, -, -, -, none⟩ |
    ⟨lan, wan, server, -, -, -, -, -, -, -, -, paired⟩
  · simp [none]
  · rw [paired]
    intro event member
    exact ⟨lan, wan, server, List.mem_singleton.mp member⟩

theorem sweep_events (member : event ∈ (sweep t p).2) : event = .fault ∨ ∃ m, event = .expired m :=
  remove_expired_events member

/-- Behind its packet part a pass emits nothing but what the sweep does. -/
theorem run_turn_events (member : event ∈ (runTurn host p t).2) :
    event ∈ (handleTurn host p t).2 ∨ event = .fault ∨ ∃ m, event = .expired m := by
  rcases List.mem_append.mp member with handled | swept
  · exact .inl handled
  · exact .inr (sweep_events swept)

/-- Whatever a pass sends, it sends while it handles the packet it received. -/
theorem run_turn_sends (emitted : .sent call ∈ (runTurn host p t).2) :
    ∃ sock pkt noted, Receives p t sock pkt noted ∧
      .sent call ∈ (handlePacket host t.sent t.addTime p pkt).events := by
  have handled : .sent call ∈ (handleTurn host p t).2 := by simpa using run_turn_events emitted
  have of_received {sock pkt noted} (received : Receives p t sock pkt noted) : ∃ sock pkt noted,
      Receives p t sock pkt noted ∧ .sent call ∈ (handlePacket host t.sent t.addTime p pkt).events := by
    refine ⟨_, _, _, received, ?_⟩
    rw [receives_turn host received] at handled
    simp only [List.mem_append, List.mem_cons, reduceCtorEq, false_or] at handled
    refine handled.resolve_left fun early => ?_
    rcases received.noted_complaints with none | one
    · simp [none] at early
    · simp [one] at early
  have done := handle_turn_cases host p t
  generalize (handleTurn host p t).1 = next, events_eq : (handleTurn host p t).2 = events at done
  cases done with
  | idle quiet => rcases quiet with none | one <;> simp_all
  | accepts =>
    obtain ⟨_, _, _, paired⟩ := accept_events _ _ _ _ (events_eq ▸ handled)
    cases paired
  | relays received | closes received | multicasts received | fromServer received
  | fromClient received | responds received | queries received => exact of_received received

/-! ## What a pass leaves alone -/

private theorem socket_del_leaves (p : Proxy) (fd : Int) :
    (socketDel p fd).proxy.ctx.settings = p.ctx.settings ∧
      (socketDel p fd).proxy.ctx.mappings = p.ctx.mappings ∧
      (socketDel p fd).proxy.kernel.heap = p.kernel.heap := by
  rcases socket_del_cases p fd with ⟨left, deleted⟩ | complained
  · rw [deleted]
    exact ⟨rfl, rfl, rfl⟩
  · rw [complained]
    exact ⟨rfl, rfl, rfl⟩

private theorem tcp_close_leaves (p : Proxy) (pkt : Pkt) :
    (handleTcpClose p pkt).proxy.ctx.settings = p.ctx.settings ∧
      (handleTcpClose p pkt).proxy.ctx.mappings = p.ctx.mappings ∧
      (handleTcpClose p pkt).proxy.kernel.heap = p.kernel.heap := by
  rcases tcp_close_cases p pkt with ⟨line, refused⟩ | ⟨peer, closed⟩
  · rw [refused]
    exact ⟨rfl, rfl, rfl⟩
  · obtain ⟨settings, mappings, heap⟩ := socket_del_leaves p pkt.sock
    obtain ⟨settings', mappings', heap'⟩ := socket_del_leaves (socketDel p pkt.sock).proxy peer
    rw [closed]
    exact ⟨settings'.trans settings, mappings'.trans mappings, heap'.trans heap⟩

private theorem tcp_accept_leaves (answers : AcceptAnswers) (p : Proxy) (sock : Socket) :
    (sockTcpAccept answers p sock).1.ctx.settings = p.ctx.settings ∧
      (sockTcpAccept answers p sock).1.ctx.mappings = p.ctx.mappings ∧
      (sockTcpAccept answers p sock).1.kernel.heap = p.kernel.heap := by
  rcases tcp_accept_cases answers p sock with ⟨ctx, -, -, heap, -⟩ |
    ⟨lan, wan, server, -, -, -, -, -, -, ctx, kernel, -⟩
  · rw [ctx, heap]
    exact ⟨rfl, rfl, rfl⟩
  · rw [ctx, kernel]
    exact ⟨rfl, rfl, rfl⟩

/-- No pass changes the configuration or the descriptors the features hold. -/
theorem run_turn_settings (host : Host) (p : Proxy) (t : Turn) :
    (runTurn host p t).1.ctx.settings = p.ctx.settings := by
  have handled : (handleTurn host p t).1.ctx.settings = p.ctx.settings := by
    have done := handle_turn_cases host p t
    generalize handleTurn host p t = turned at done ⊢
    obtain ⟨next, events⟩ := turned
    dsimp only at done ⊢
    cases done with
    | accepts => exact (tcp_accept_leaves ..).1
    | closes => exact (tcp_close_leaves ..).1
    | _ => rfl
  exact handled

/-! ## What a pass does to the mapping list -/

theorem noted_quiet (received : Receives p t sock pkt noted) : ∀ event ∈ noted, Quiet event := by
  rcases received.noted_complaints with none | one
  · simp [none]
  · simp [one, Quiet]

private theorem received_quiet (received : Receives p t sock pkt noted)
    (quiet : ∀ event ∈ rest, Quiet event) :
    ∀ event ∈ noted ++ .received pkt :: rest, Quiet event := by
  intro event member
  simp only [List.mem_append, List.mem_cons] at member
  rcases member with member | rfl | member
  · exact noted_quiet received event member
  · trivial
  · exact quiet event member

theorem tcp_packet_quiet (sent : Int) (p : Proxy) (pkt : Pkt) :
    ∀ event ∈ (handleTcpPacket sent p pkt).events, Quiet event := by
  rcases tcp_packet_cases sent p pkt with ⟨line, refused⟩ | ⟨_, _, -, -, relayed⟩
  · simp [refused, Quiet]
  · simp [relayed, Quiet]

theorem tcp_close_quiet (p : Proxy) (pkt : Pkt) :
    ∀ event ∈ (handleTcpClose p pkt).events, Quiet event := by
  intro event member
  obtain ⟨line, rfl⟩ := tcp_close_complains p pkt event member
  trivial

private theorem accept_quiet (answers : AcceptAnswers) (p : Proxy) (sock : Socket) :
    ∀ event ∈ (sockTcpAccept answers p sock).2, Quiet event := by
  intro event member
  obtain ⟨_, _, _, rfl⟩ := accept_events answers p sock event member
  trivial

private theorem from_client_quiet (host : Host) (sent : Int) (p : Proxy) (pkt : Pkt) :
    ∀ event ∈ (handleNatPmpExtFromclient host sent p pkt).events, Quiet event := by
  rcases from_client_cases host sent p pkt with ⟨-, refused⟩ | ⟨-, done⟩
  · simp [refused, Quiet]
  · simp [done, Quiet]

private theorem from_server_quiet (host : Host) (sent : Int) (p : Proxy) (pkt : Pkt) :
    ∀ event ∈ (handleNatPmpExtFromserver host sent p pkt).events, Quiet event := by
  rcases from_server_cases host sent p pkt with ⟨line, -, refused⟩ | ⟨-, -, -, done⟩
  · simp [refused, Quiet]
  · simp [done, Quiet]

theorem handle_turn_mappings (host : Host) (p : Proxy) (t : Turn) :
    MappingTurn p t (handleTurn host p t).1.ctx.mappings (handleTurn host p t).1.kernel.heap
      (handleTurn host p t).2 := by
  have done := handle_turn_cases host p t
  generalize handleTurn host p t = turned at done ⊢
  obtain ⟨next, events⟩ := turned
  dsimp only at done ⊢
  cases done with
  | idle quiet => exact .kept (by rcases quiet with none | one <;> simp_all [Quiet])
  | accepts =>
    obtain ⟨-, mappings, heap⟩ := tcp_accept_leaves t.accept p ‹_›
    rw [mappings, heap]
    exact .kept (accept_quiet _ _ _)
  | relays received => exact .kept (received_quiet received (tcp_packet_quiet _ _ _))
  | closes received =>
    obtain ⟨-, mappings, heap⟩ := tcp_close_leaves p ‹_›
    rw [mappings, heap]
    exact .kept (received_quiet received (tcp_close_quiet _ _))
  | multicasts received => exact .kept (received_quiet received (by simp [Quiet]))
  | fromServer received => exact .kept (received_quiet received (from_server_quiet _ _ _ _))
  | fromClient received => exact .kept (received_quiet received (from_client_quiet _ _ _ _))
  | responds received udp _ _ found => exact .used received udp (noted_quiet received) found
  | queries received udp notWan _ unmatched created =>
    exact .queried received udp (noted_quiet received) notWan unmatched created

/-- The nodes of the list differ, and `malloc` has given none of them out of
what is still to come. -/
structure Nodes (p : Proxy) : Prop where
  distinct : DistinctNodes p.ctx.mappings
  allocated : ∀ m ∈ p.ctx.mappings, m.node < p.kernel.heap

theorem no_nodes (empty : p.ctx.mappings = []) : Nodes p :=
  ⟨by simp [empty, DistinctNodes, KeyedList.Distinct], by simp [empty]⟩

theorem handle_turn_nodes (host : Host) (t : Turn) (nodes : Nodes p) : Nodes (handleTurn host p t).1 := by
  have turn := handle_turn_mappings host p t
  generalize handleTurn host p t = handled at turn ⊢
  obtain ⟨next, events⟩ := handled
  dsimp only at turn ⊢
  constructor
  · generalize next.ctx.mappings = after, next.kernel.heap = heap at turn ⊢
    cases turn with
    | kept => exact nodes.distinct
    | used => exact nodes.distinct.sublist List.eraseP_sublist
    | queried _ _ _ _ _ created =>
      refine nodes.distinct.cons ?_
      simp only [created, Mapping.stamped, mappingCreate, List.mem_map, not_exists, not_and]
      intro old member
      exact (nodes.allocated old member).ne
  · generalize next.ctx.mappings = after, next.kernel.heap = heap at turn ⊢
    cases turn with
    | kept => exact nodes.allocated
    | used => exact fun m member => nodes.allocated m (List.eraseP_subset member)
    | queried _ _ _ _ _ created =>
      intro m member
      rcases List.mem_cons.mp member with rfl | old
      · simp [created, Mapping.stamped, mappingCreate]
      · exact Nat.lt_succ_of_lt (nodes.allocated m old)

/-- A pass ends by taking exactly the expired mappings off the list. -/
theorem run_turn_sweeps (host : Host) (t : Turn) (nodes : Nodes p) :
    (runTurn host p t).1.ctx.mappings =
        (handleTurn host p t).1.ctx.mappings.filter (t.sweepTime < ·.timeout) ∧
      (runTurn host p t).2 = (handleTurn host p t).2 ++
        ((handleTurn host p t).1.ctx.mappings.filter (·.timeout ≤ t.sweepTime)).map .expired := by
  have swept := remove_expired_filters (handle_turn_nodes host t nodes).distinct t.sweepTime
  simp [runTurn, sweep, swept]

theorem run_turn_nodes (host : Host) (t : Turn) (nodes : Nodes p) : Nodes (runTurn host p t).1 := by
  have handled := handle_turn_nodes host t nodes
  have kept := (run_turn_sweeps host t nodes).1
  refine ⟨?_, ?_⟩
  · rw [kept]
    exact handled.distinct.sublist List.filter_sublist
  · rw [kept]
    exact fun m member => handled.allocated m (List.mem_of_mem_filter member)

/-- Where a mapping on the list comes from: it was there before, or this pass
made it for a UDP packet that matched nothing. -/
theorem run_turn_origin (host : Host) (t : Turn) (nodes : Nodes p)
    (member : m ∈ (runTurn host p t).1.ctx.mappings) :
    t.sweepTime < m.timeout ∧ (m ∈ p.ctx.mappings ∨
      ∃ sock pkt noted, Receives p t sock pkt noted ∧ pkt.proto = .udp ∧
        packetWanMcast p.ctx pkt = false ∧ mappingFind p.ctx.mappings pkt = none ∧
        m = (mappingCreate p.ctx p.kernel pkt p.ctx.sharedUdpSockFd).stamped p.ctx t.addTime) := by
  rw [(run_turn_sweeps host t nodes).1] at member
  obtain ⟨handled, live⟩ := List.mem_filter.mp member
  refine ⟨by simpa using live, ?_⟩
  have turn := handle_turn_mappings host p t
  generalize (handleTurn host p t).1.ctx.mappings = after,
    (handleTurn host p t).1.kernel.heap = heap, (handleTurn host p t).2 = events at turn handled
  cases turn with
  | kept => exact .inl handled
  | used => exact .inl (List.eraseP_subset handled)
  | queried received udp _ notWan unmatched created =>
    rcases List.mem_cons.mp handled with rfl | old
    · exact .inr ⟨_, _, _, received, udp, notWan, unmatched, created⟩
    · exact .inl old

end Portproxy.TurnSemantics
