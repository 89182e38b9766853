import Portproxy.Allocation
import Portproxy.ProcessMemory
import Portproxy.TurnSemantics

/-! What the functions of the main loop do in memory they do over lists. What they
allocate and never free is counted. -/
namespace Portproxy.ProcessMemory
open Allocation Filter LinkedCells KeyedList TurnSemantics

/-- How many packets are allocated, and how many sockets and mappings that are on no
list. -/
structure Lost where
  packets : Nat := 0
  sockets : Nat := 0
  mappings : Nat := 0
  deriving DecidableEq, Repr

/-- The process in memory has these lists, and everything else as this one has it;
what is allocated beyond its lists is counted. -/
structure Represents (m : Process) (p : Proxy) (lost : Lost) : Prop where
  ctx : m.ctx = p.ctx.settings
  kernel : m.kernel = p.kernel
  sockets : ∃ cells, Chain m.socketHeap m.sockets cells ∧ cells.map Prod.snd = p.ctx.sockets
  mappings : MappingMemory.Lists m.mappings p.ctx.mappings
  pktBlocks : Allocated m.pktHeap m.pktNext lost.packets
  socketBlocks : Allocated m.socketHeap m.socketNext (p.ctx.sockets.length + lost.sockets)
  mappingBlocks : Allocated m.mappings.heap m.kernel.heap (p.ctx.mappings.length + lost.mappings)

variable {host : Host} {m : Process} {p : Proxy} {lost : Lost} {t : Turn} {pkt : Pkt}
  {memory : MappingMemory.Memory}

/-- Without a descriptor for `wansock` it is not freed. -/
def acceptLost (answers : AcceptAnswers) (lost : Lost) : Lost :=
  if answers.accept.isSome ∧ answers.socket = none then { lost with sockets := lost.sockets + 1 } else lost

/-- `wait_for_traffic` allocates a packet for whatever it reads. -/
def waitLost (p : Proxy) (t : Turn) (lost : Lost) : Lost :=
  match picked p t with
  | none => lost
  | some sock =>
    match sock.state with
    | .tcpListening => acceptLost t.accept lost
    | _ => { lost with packets := lost.packets + 1 }

/-- `handle_tcp_packet` frees the packet once it has sent it on. -/
def tcpPacketLost (p : Proxy) (pkt : Pkt) (lost : Lost) : Lost :=
  match Portproxy.socketFind p.ctx pkt.sock with
  | none => lost
  | some sock =>
    match Portproxy.socketFind p.ctx sock.peer with
    | none => lost
    | some _ => { lost with packets := lost.packets - 1 }

/-- `mapping_delete` does not free the first mapping of the list. -/
def deleteLost (m : Mapping) (mappings : List Mapping) (lost : Lost) : Lost :=
  if mappings.head?.map Mapping.node = some m.node then { lost with mappings := lost.mappings + 1 } else lost

/-- What `handle_packet` leaves behind. -/
def handleLost (p : Proxy) (pkt : Pkt) (lost : Lost) : Lost :=
  if pkt.proto = .tcp then
    if pkt.datalen ≠ 0 then tcpPacketLost p pkt lost else lost
  else if packetWanMcast p.ctx pkt then lost
  else if p.ctx.enableNatPmpExt ≠ 0 then lost
  else
    match Portproxy.mappingFind p.ctx.mappings pkt with
    | none => lost
    | some m => deleteLost m p.ctx.mappings lost

/-! ## The lists -/

theorem socket_find_cases (rep : Represents m p lost) (fd : Int) :
    (Portproxy.socketFind p.ctx fd = none ∧ Settles (socketFind m fd) none) ∨
      ∃ s addr next, Portproxy.socketFind p.ctx fd = some s ∧ Settles (socketFind m fd) (some addr) ∧
        m.socketHeap addr = some ⟨s, next⟩ := by
  obtain ⟨cells, chain, sockets⟩ := rep.sockets
  have walked := chain.findCell (fun s : Socket => s.fd = fd)
  have listed : Portproxy.socketFind p.ctx fd = (cells.find? fun cell => decide (cell.2.fd = fd)).map Prod.snd := by
    rw [Portproxy.socketFind, ← sockets, List.find?_map]
    rfl
  cases found : cells.find? fun cell => decide (cell.2.fd = fd) with
  | none =>
    rw [found] at walked listed
    exact .inl ⟨listed, walked⟩
  | some cell =>
    rw [found] at walked listed
    obtain ⟨next, stored⟩ := chain.stored (List.mem_of_find?_eq_some found)
    exact .inr ⟨cell.2, cell.1, next, listed, walked, stored⟩

theorem unlink_socket_none (absent : ∀ s ∈ sockets, s.fd ≠ fd) : unlinkSocket fd sockets = none := by
  induction sockets with
  | nil => rfl
  | cons s rest ih =>
    obtain ⟨here, later⟩ := List.forall_mem_cons.mp absent
    rw [unlinkSocket, if_neg here, ih later]
    rfl

theorem socket_del_found (listed : p.ctx.sockets = kept ++ s :: rest) (apart : ∀ other ∈ kept, other.fd ≠ s.fd) :
    Portproxy.socketDel p s.fd =
      ⟨{ ctx := { p.ctx with sockets := kept ++ rest }, kernel := p.kernel.sockDel s.fd }, 0, []⟩ := by
  have erased : p.ctx.sockets.eraseP (·.fd = s.fd) = kept ++ rest := by
    rw [listed, List.eraseP_append_right _ (by simpa using apart)]
    simp
  rw [Portproxy.socketDel, unlink_socket_some ⟨s, by simp [listed], rfl⟩, erased]

theorem socket_del_settles (rep : Represents m p lost) (fd : Int) :
    ∃ after, Represents after (Portproxy.socketDel p fd).proxy lost ∧
      Settles (socketDel m fd) (after, (Portproxy.socketDel p fd).events) := by
  obtain ⟨cells, chain, sockets⟩ := rep.sockets
  rcases chain.sought fun s => decide (s.fd = fd) with
    ⟨apart, last, walked⟩ | ⟨kept, addr, s, rest, rfl, apart, passes, walked⟩
  · have absent : ∀ s ∈ p.ctx.sockets, s.fd ≠ fd := by
      rw [← sockets, List.forall_mem_map]
      simpa using apart
    have missing : Portproxy.socketDel p fd = ⟨p, -1, [.complaint .unableToDeleteSocket]⟩ := by
      rw [Portproxy.socketDel, unlink_socket_none absent]
    rw [missing]
    refine ⟨m, rep, ?_⟩
    filter_upwards [walked] with steps ran
    simp [socketDel, ran]
  · obtain ⟨heap, head, taken, left, freed⟩ := chain.unlink_found
    obtain ⟨_, stored⟩ := chain.stored (List.mem_append_right kept List.mem_cons_self)
    obtain rfl : s.fd = fd := by simpa using passes
    have others : ∀ other ∈ kept.map Prod.snd, other.fd ≠ s.fd := by
      rw [List.forall_mem_map]
      simpa using apart
    have listed : p.ctx.sockets = kept.map Prod.snd ++ s :: rest.map Prod.snd := by simp [← sockets]
    have removed := socket_del_found listed others
    have one : p.ctx.sockets.length = (kept.map Prod.snd ++ rest.map Prod.snd).length + 1 := by
      simp [← sockets, Nat.add_assoc]
    rw [removed]
    refine ⟨{ m with kernel := m.kernel.sockDel s.fd, socketHeap := heap, sockets := head }, ?_, ?_⟩
    · exact { rep with
        kernel := by rw [rep.kernel]
        sockets := ⟨_, left, List.map_append⟩
        socketBlocks := by
          have held : (m.socketHeap addr).isSome := by simp [stored]
          have fewer := (rep.socketBlocks.free held).congr freed
          rwa [one, Nat.add_right_comm, Nat.add_sub_cancel] at fewer
        mappingBlocks := rep.mappingBlocks }
    · filter_upwards [walked] with steps ran
      simp [socketDel, ran, taken]

theorem mapping_find_cases (rep : Represents m p lost) (pkt : Pkt) :
    (Portproxy.mappingFind p.ctx.mappings pkt = none ∧ Settles (mappingFind m pkt) none) ∨
      ∃ found, Portproxy.mappingFind p.ctx.mappings pkt = some found ∧
        Settles (mappingFind m pkt) (some found.node) ∧
        ∃ next, m.mappings.heap found.node = some ⟨found, next⟩ := by
  have walked := Chain.findCell rep.mappings (mappingMatches pkt)
  have listed : ((p.ctx.mappings.map MappingMemory.cell).find? fun cell => mappingMatches pkt cell.2).map Prod.fst =
      (Portproxy.mappingFind p.ctx.mappings pkt).map Mapping.node := by
    rw [List.find?_map, Option.map_map]
    rfl
  rw [listed] at walked
  cases found : Portproxy.mappingFind p.ctx.mappings pkt with
  | none =>
    rw [found] at walked
    exact .inl ⟨rfl, walked⟩
  | some m' =>
    rw [found] at walked
    exact .inr ⟨m', rfl, walked,
      Chain.stored rep.mappings (List.mem_map_of_mem (mapping_find_some found).1)⟩

theorem timeouts_fold (now timeout : Int) (mappings : List Mapping) :
    (match (mappings.map MappingMemory.cell).foldlM
        (fun timeout cell => visitTimeout now timeout cell.1 cell.2) timeout with
      | .error timeout | .ok timeout => timeout) = timeoutLoop now mappings timeout := by
  induction mappings generalizing timeout with
  | nil => rfl
  | cons m rest ih =>
    simp only [List.map_cons, List.foldlM_cons, timeoutLoop, visitTimeout]
    by_cases passed : uint32 m.timeout < now
    · simp only [if_pos passed]
      rfl
    · by_cases sooner : timeout > uint32 (m.timeout - now)
      · simp only [if_neg passed, if_pos sooner]
        exact ih _
      · simp only [if_neg passed, if_neg sooner]
        exact ih _

theorem timeout_settles (rep : Represents m p lost) (now : Int) :
    Settles (ctxTimeoutGet now m) (Portproxy.ctxTimeoutGet now p.ctx.mappings) := by
  have walked := Chain.walk rep.mappings (visitTimeout (uint32 now)) 3600
  have folded := timeouts_fold (uint32 now) 3600 p.ctx.mappings
  filter_upwards [walked] with steps ran
  rw [ctxTimeoutGet, ran, Option.map_some, Portproxy.ctxTimeoutGet, ← folded]
  cases (p.ctx.mappings.map MappingMemory.cell).foldlM
    (fun timeout cell => visitTimeout (uint32 now) timeout cell.1 cell.2) 3600 <;> rfl

theorem count_settles (rep : Represents m p lost) : Settles (ctxMappingsCnt m) p.ctx.mappings.length := by
  have counts : ∀ (mappings : List Mapping) (i : Nat),
      (mappings.map MappingMemory.cell).foldlM (fun i _ => (.ok (i + 1) : Except Empty Nat)) i =
        .ok (i + mappings.length) := by
    intro mappings
    induction mappings with
    | nil => intro i; rfl
    | cons m rest ih =>
      intro i
      rw [List.map_cons, List.foldlM_cons, List.length_cons, Nat.add_comm rest.length, ← Nat.add_assoc]
      exact ih (i + 1)
  have walked := Chain.walk rep.mappings (fun i _ _ => (.ok (i + 1) : Except Empty Nat)) 0
  rw [counts, Nat.zero_add] at walked
  filter_upwards [walked] with steps ran
  rw [ctxMappingsCnt, ran]
  rfl

/-! ## Packets -/

theorem malloc_rep (rep : Represents m p lost) (pkt : Pkt) :
    Represents (mallocPkt m pkt) p { lost with packets := lost.packets + 1 } :=
  { rep with pktBlocks := rep.pktBlocks.alloc pkt }

/-- A packet that is returned is stored where it is returned. -/
inductive PktAt (m : Process) : Option Nat → Option Pkt → Prop where
  | none : PktAt m none none
  | some (stored : m.pktHeap addr = some held) : PktAt m (some addr) (some held)

theorem receive_rep (rep : Represents m p lost) (sock : Socket) (fill : Datagram → Pkt) (recv : Option Datagram) :
    Represents (receive m sock fill recv).1 p { lost with packets := lost.packets + 1 } ∧
      PktAt (receive m sock fill recv).1 (receive m sock fill recv).2 (recv.map fill) := by
  cases recv with
  | none => exact ⟨malloc_rep rep _, .none⟩
  | some d => exact ⟨malloc_rep rep _, .some (Function.update_self m.pktNext _ m.pktHeap)⟩

/-! ## Waiting -/

/-- What is written in place of blank cells that were written before. -/
theorem alloc_filled {heap : Heap Nat Socket} (apart : lan ≠ wan) :
    alloc (alloc (alloc (alloc heap lan blankLan) wan blankWan) lan cell) wan cell' =
      alloc (alloc heap lan cell) wan cell' := by
  funext addr
  by_cases atWan : addr = wan
  · simp [alloc, atWan]
  · by_cases atLan : addr = lan <;> simp [alloc, atWan, atLan, apart]

/-- Sockets that are written beyond those of the list leave it as it is. -/
theorem Represents.beyond (rep : Represents m p lost) (more : Nat) {heap : Heap Nat Socket} {next : Nat} {k : Kernel}
    (same : ∀ addr < m.socketNext, heap addr = m.socketHeap addr)
    (blocks : Allocated heap next (p.ctx.sockets.length + more)) (nodes : k.heap = m.kernel.heap) :
    Represents { m with kernel := k, socketHeap := heap, socketNext := next } { p with kernel := k }
      { lost with sockets := more } where
  ctx := rep.ctx
  kernel := rfl
  sockets := by
    obtain ⟨cells, chain, sockets⟩ := rep.sockets
    refine ⟨cells, Path.frame chain fun addr member => same addr ?_, sockets⟩
    obtain ⟨⟨node, value⟩, among, rfl⟩ := List.mem_map.mp member
    obtain ⟨next, held⟩ := Chain.stored chain among
    exact rep.socketBlocks.below held
  mappings := rep.mappings
  pktBlocks := rep.pktBlocks
  socketBlocks := blocks
  mappingBlocks := by
    rw [nodes]
    exact rep.mappingBlocks

/-- A new socket in front of the list. -/
theorem Represents.push (rep : Represents m p lost) (s : Socket) :
    Represents { m with socketHeap := alloc m.socketHeap m.socketNext ⟨s, m.sockets⟩, sockets := some m.socketNext
                        socketNext := m.socketNext + 1 }
      { p with ctx := socketAdd2 p.ctx s } lost where
  ctx := rep.ctx
  kernel := rep.kernel
  sockets := by
    obtain ⟨cells, chain, sockets⟩ := rep.sockets
    exact ⟨_, chain.push (rep.socketBlocks.fresh _ (Nat.le_refl _)) s, by rw [List.map_cons, sockets]; rfl⟩
  mappings := rep.mappings
  pktBlocks := rep.pktBlocks
  socketBlocks := by
    have more := rep.socketBlocks.alloc ⟨s, m.sockets⟩
    rwa [Nat.add_right_comm] at more
  mappingBlocks := rep.mappingBlocks

theorem tcp_accept_settles (rep : Represents m p lost) (answers : AcceptAnswers)
    (stored : m.socketHeap addr = some ⟨sock, next⟩) :
    ∃ after, Represents after (Portproxy.sockTcpAccept answers p sock).1 (acceptLost answers lost) ∧
      sockTcpAccept answers m addr = some (after, (Portproxy.sockTcpAccept answers p sock).2) := by
  unfold sockTcpAccept Portproxy.sockTcpAccept acceptLost
  rw [stored, Option.map_some, rep.kernel]
  cases answers.accept with
  | none => exact ⟨m, rep, rfl⟩
  | some choice =>
    simp only
    generalize p.kernel.descriptor choice = newfd
    -- the two blocks are the next two
    have same (addr : Nat) (small : addr < m.socketNext) : addr ≠ m.socketNext ∧ addr ≠ m.socketNext + 1 := by
      omega
    have two (lan wan : Cell Nat Socket) := (rep.socketBlocks.alloc lan).alloc wan
    cases answers.socket with
    | none =>
      refine ⟨_, rep.beyond (lost.sockets + 1) (fun addr small => ?_) ?_ (by rw [rep.kernel]; rfl), rfl⟩
      · simp [free, alloc, same addr small]
      · exact (two _ _).free (by simp)
    | some choice' =>
      simp only
      generalize (p.kernel.opens newfd).descriptor choice' = relayfd
      by_cases refused : answers.connect < 0
      · rw [if_pos refused, if_pos refused]
        refine ⟨_, rep.beyond lost.sockets (fun addr small => ?_) ?_ (by rw [rep.kernel]; rfl), rfl⟩
        · simp [free, alloc, same addr small]
        · exact ((two _ _).free (by simp)).free (by simp)
      · rw [if_neg refused, if_neg refused, alloc_filled (by omega)]
        have opened : Represents { m with kernel := (p.kernel.opens newfd).opens relayfd }
            { p with kernel := (p.kernel.opens newfd).opens relayfd } lost :=
          rep.beyond lost.sockets (fun _ _ => rfl) rep.socketBlocks (by rw [rep.kernel]; rfl)
        refine ⟨_, (opened.push { fd := newfd, ipproto := .tcp, state := .tcpConnected, peer := relayfd }).push
          { fd := relayfd, ipproto := .tcp, state := .tcpConnected, peer := newfd }, ?_⟩
        rw [rep.ctx]
        rfl

theorem tcp_receive_settles (rep : Represents m p lost) (sock : Socket) (recv : Option Datagram) :
    ∃ w : Waited, Represents w.process p { lost with packets := lost.packets + 1 } ∧
      PktAt w.process w.pkt (recv.map fun d => (Portproxy.sockTcpReceive p.ctx sock d).1) ∧
        w.events = (match recv with
          | none => []
          | some d => (Portproxy.sockTcpReceive p.ctx sock d).2) ∧
          Settles (sockTcpReceive m sock recv) w := by
  obtain ⟨rep', stored⟩ := receive_rep rep sock (fun d => (Portproxy.sockTcpReceive m.ctx sock d).1) recv
  cases recv with
  | none => exact ⟨_, rep', .none, rfl, Eventually.of_forall fun _ => rfl⟩
  | some d =>
    rcases socket_find_cases rep' sock.peer with ⟨absent, walked⟩ | ⟨s, addr, next, found, walked, -⟩
    · refine ⟨⟨_, some m.pktNext, [.complaint .noCorrespondingSocket]⟩, rep', stored, ?_, ?_⟩
      · simp [Portproxy.sockTcpReceive, absent]
      · filter_upwards [walked] with steps ran
        simp only [sockTcpReceive, receive] at ran ⊢
        rw [ran]
        rfl
    · refine ⟨⟨_, some m.pktNext, []⟩, rep', stored, ?_, ?_⟩
      · simp [Portproxy.sockTcpReceive, found]
      · filter_upwards [walked] with steps ran
        simp only [sockTcpReceive, receive] at ran ⊢
        rw [ran]
        rfl

theorem wait_settles (rep : Represents m p lost) (t : Turn) :
    ∃ w : Waited, Represents w.process (Portproxy.waitForTraffic p t).1 (waitLost p t lost) ∧
      PktAt w.process w.pkt (Portproxy.waitForTraffic p t).2.1 ∧
        w.events = (Portproxy.waitForTraffic p t).2.2 ∧ Settles (waitForTraffic m t) w := by
  obtain ⟨cells, chain, sockets⟩ := rep.sockets
  have set := chain.walk (fun set _ (sock : Socket) => (.ok (sock.fd :: set) : Except Empty _)) []
  have timeout := timeout_settles rep t.headTime
  have count := count_settles rep
  have walked := chain.findCell (fun s : Socket => s.fd ∈ t.ready)
  have listed : p.ctx.sockets.find? (·.fd ∈ t.ready) =
      (cells.find? fun cell => decide (cell.2.fd ∈ t.ready)).map Prod.snd := by
    rw [← sockets, List.find?_map]
    rfl
  -- what the loops before `select` come to is not used
  have settle {w : Waited} (ran : t.ready ≠ []) (rest : Settles (readyTraffic m t) w) :
      Settles (waitForTraffic m t) w := by
    filter_upwards [set, timeout, count, rest] with steps setRan timeoutRan countRan ends
    simp only [waitForTraffic, setRan, timeoutRan, countRan, Option.bind_some, if_neg ran]
    exact ends
  unfold Portproxy.waitForTraffic waitLost picked
  by_cases silent : t.ready = []
  · have none : p.ctx.sockets.find? (·.fd ∈ t.ready) = none := by simp [silent]
    rw [if_pos silent, none]
    refine ⟨{ process := m }, rep, .none, rfl, ?_⟩
    filter_upwards [set, timeout, count] with steps setRan timeoutRan countRan
    simp only [waitForTraffic, setRan, timeoutRan, countRan, Option.bind_some, if_pos silent]
  · rw [if_neg silent, listed]
    cases found : cells.find? fun cell => decide (cell.2.fd ∈ t.ready) with
    | none =>
      rw [found] at walked
      refine ⟨{ process := m, events := [.complaint .socketNotFound] }, rep, .none, rfl, settle silent ?_⟩
      filter_upwards [walked] with steps ran
      rw [readyTraffic, ran]
      rfl
    | some cell =>
      rw [found] at walked
      obtain ⟨addr, sock⟩ := cell
      obtain ⟨next, stored⟩ := chain.stored (List.mem_of_find?_eq_some found)
      simp only [Option.map_some]
      cases state : sock.state with
      | udp =>
        obtain ⟨rep', held⟩ := receive_rep rep sock (sockUdpReceive m.kernel sock) t.recv
        rw [rep.kernel] at rep' held
        refine ⟨⟨_, _, []⟩, rep', held, rfl, settle silent ?_⟩
        filter_upwards [walked] with steps ran
        simp [readyTraffic, ran, stored, state, rep.kernel]
      | udp6 =>
        obtain ⟨rep', held⟩ := receive_rep rep sock (sockUdp6Receive m.kernel sock) t.recv
        rw [rep.kernel] at rep' held
        refine ⟨⟨_, _, []⟩, rep', held, rfl, settle silent ?_⟩
        filter_upwards [walked] with steps ran
        simp [readyTraffic, ran, stored, state, rep.kernel]
      | tcpListening =>
        obtain ⟨after, rep', accepted⟩ := tcp_accept_settles rep t.accept stored
        refine ⟨⟨after, none, _⟩, rep', .none, rfl, settle silent ?_⟩
        filter_upwards [walked] with steps ran
        simp [readyTraffic, ran, stored, state, accepted]
      | tcpConnected =>
        obtain ⟨w, rep', held, events, received⟩ := tcp_receive_settles rep sock t.recv
        have settled : Settles (waitForTraffic m t) w := settle silent (by
          filter_upwards [walked, received] with steps ran ends
          simp [readyTraffic, ran, stored, state, ends])
        generalize t.recv = recv at held events ⊢
        cases recv <;> exact ⟨w, rep', held, events, settled⟩

/-! ## Handling -/

theorem tcp_packet_settles (rep : Represents m p lost) (stored : m.pktHeap addr = some pkt) (sent : Int) :
    ∃ after, Represents after (Portproxy.handleTcpPacket sent p pkt).proxy (tcpPacketLost p pkt lost) ∧
      Settles (handleTcpPacket sent m addr) (after, (Portproxy.handleTcpPacket sent p pkt).events) := by
  unfold Portproxy.handleTcpPacket tcpPacketLost
  rcases socket_find_cases rep pkt.sock with ⟨absent, walked⟩ | ⟨s, at', next, found, walked, held⟩
  · rw [absent]
    refine ⟨m, rep, ?_⟩
    filter_upwards [walked] with steps ran
    simp [handleTcpPacket, stored, ran]
  · rw [found]
    rcases socket_find_cases rep s.peer with ⟨absent, walked'⟩ | ⟨peer, _, _, found', walked', held'⟩
    · simp only [absent]
      refine ⟨m, rep, ?_⟩
      filter_upwards [walked, walked'] with steps ran ran'
      simp [handleTcpPacket, stored, ran, held, ran']
    · simp only [found']
      refine ⟨{ m with pktHeap := Function.update m.pktHeap addr none },
        { rep with pktBlocks := rep.pktBlocks.free (by simp [stored]) }, ?_⟩
      filter_upwards [walked, walked'] with steps ran ran'
      simp [handleTcpPacket, stored, ran, held, ran', held', packetDelete]

theorem tcp_close_settles (rep : Represents m p lost) (stored : m.pktHeap addr = some pkt) :
    ∃ after, Represents after (Portproxy.handleTcpClose p pkt).proxy lost ∧
      Settles (handleTcpClose m addr) (after, (Portproxy.handleTcpClose p pkt).events) := by
  unfold Portproxy.handleTcpClose
  by_cases some : pkt.datalen ≠ 0
  · rw [if_pos some]
    refine ⟨m, rep, Eventually.of_forall fun steps => ?_⟩
    simp [handleTcpClose, stored, some]
  · rw [if_neg some]
    rcases socket_find_cases rep pkt.sock with ⟨absent, walked⟩ | ⟨s, at', next, found, walked, held⟩
    · rw [absent]
      refine ⟨m, rep, ?_⟩
      filter_upwards [walked] with steps ran
      simp [handleTcpClose, stored, some, ran]
    · obtain ⟨first, rep', deleted⟩ := socket_del_settles rep pkt.sock
      obtain ⟨second, rep'', deleted'⟩ := socket_del_settles rep' s.peer
      rw [found]
      refine ⟨second, rep'', ?_⟩
      filter_upwards [walked, deleted, deleted'] with steps ran ranFirst ranSecond
      simp [handleTcpClose, stored, some, ran, held, ranFirst, ranSecond]

/-- A mapping that is deleted behind another one is freed. -/
theorem delete_loop_frees (ran : MappingMemory.deleteLoop heap node steps tmp = some (0, after)) :
    (heap node).isSome ∧ ∀ addr, (after addr).isSome = (free heap node addr).isSome := by
  induction steps generalizing tmp with
  | zero => cases ran
  | succ steps ih =>
    rw [MappingMemory.deleteLoop] at ran
    obtain ⟨cell, -, ran⟩ := Option.bind_eq_some_iff.mp ran
    split at ran
    · cases ran
    · split at ran
      · next same =>
        obtain ⟨behind, stored, freed⟩ := Option.map_eq_some_iff.mp ran
        cases freed
        exact ⟨by simp [← same, stored], free_stored (set_next_stored heap _ _) node⟩
      · exact ih ran

/-- How many mappings are allocated after a deletion, which frees all but the first
of the list. -/
theorem mapping_delete_blocks (ran : MappingMemory.mappingDelete steps memory node = some (0, after))
    (blocks : Allocated memory.heap next count) :
    Allocated after.heap next (if memory.mappings = some node then count else count - 1) := by
  rw [MappingMemory.mappingDelete] at ran
  obtain ⟨tmp, head, ran⟩ := Option.bind_eq_some_iff.mp ran
  rw [head]
  split at ran
  · next first =>
    obtain ⟨cell, -, same⟩ := Option.map_eq_some_iff.mp ran
    cases same
    rwa [if_pos (congrArg some first)]
  · next later =>
    obtain ⟨⟨code, heap⟩, deleted, same⟩ := Option.map_eq_some_iff.mp ran
    cases same
    obtain ⟨stored, freed⟩ := delete_loop_frees deleted
    rw [if_neg (by simpa using later)]
    exact (blocks.free stored).congr freed

theorem lists_head (lists : MappingMemory.Lists memory mappings) :
    memory.mappings = mappings.head?.map Mapping.node := by
  cases mappings with
  | nil =>
    have ends : Chain memory.heap memory.mappings [] := lists
    generalize memory.mappings = head at ends ⊢
    cases ends
    rfl
  | cons m rest => exact Path.start_eq lists

theorem response_settles (rep : Represents m p lost)
    (found : Portproxy.mappingFind p.ctx.mappings pkt = some m')
    (stored : m.mappings.heap m'.node = some ⟨m', next⟩) (host : Host) (sent : Int) :
    ∃ after, Represents after (Portproxy.forwardResponse host sent p pkt m').proxy
        (deleteLost m' p.ctx.mappings lost) ∧
      Settles (forwardResponse host sent m pkt m'.node)
        (after, (Portproxy.forwardResponse host sent p pkt m').events) := by
  have member := (mapping_find_some found).1
  obtain ⟨kept, rest, split⟩ := List.append_of_mem member
  have lists : MappingMemory.Lists m.mappings (kept ++ m' :: rest) := split ▸ rep.mappings
  obtain ⟨after, left, deleted⟩ := MappingMemory.delete_unlinks lists
  have unlinked := mapping_delete_behind lists.distinct
  have blocks := mapping_delete_blocks (deleted _ (Nat.le_refl _)) rep.mappingBlocks
  have one : p.ctx.mappings.length = (kept ++ rest).length + 1 := by simp [split, Nat.add_assoc]
  rw [lists_head rep.mappings, one, Nat.add_right_comm, Nat.add_sub_cancel] at blocks
  rw [← split] at unlinked
  have represents : Represents { m with mappings := after }
      { p with ctx := { p.ctx with mappings := kept ++ rest } } (deleteLost m' p.ctx.mappings lost) := by
    unfold deleteLost
    by_cases first : p.ctx.mappings.head?.map Mapping.node = some m'.node
    · rw [if_pos first] at blocks ⊢
      exact { rep with mappings := left, mappingBlocks := blocks }
    · rw [if_neg first] at blocks ⊢
      exact { rep with mappings := left, mappingBlocks := blocks }
  unfold Portproxy.forwardResponse
  rw [unlinked]
  refine ⟨_, represents, ?_⟩
  filter_upwards [eventually_ge_atTop kept.length] with steps enough
  simp [forwardResponse, stored, deleted steps enough]

theorem query_settles (rep : Represents m p lost) (host : Host) (sent addTime : Int) (pkt : Pkt) :
    ∃ after, Represents after (Portproxy.forwardQuery host sent addTime p pkt).proxy lost ∧
      Settles (forwardQuery host sent addTime m pkt)
        (after, (Portproxy.forwardQuery host sent addTime p pkt).events) := by
  have created : (mappingCreate m.ctx m.kernel pkt (querySocketGet m.ctx)).stamped m.ctx addTime =
      (mappingCreate p.ctx p.kernel pkt (querySocketGet p.ctx)).stamped p.ctx addTime := by
    rw [rep.ctx, rep.kernel]
    rfl
  let new := (mappingCreate p.ctx p.kernel pkt (querySocketGet p.ctx)).stamped p.ctx addTime
  let added : Process :=
    { m with kernel := { m.kernel with heap := m.kernel.heap + 1 }
             mappings := { heap := alloc m.mappings.heap m.kernel.heap ⟨new, m.mappings.mappings⟩
                           mappings := some m.kernel.heap } }
  have node : MappingMemory.cell new = (m.kernel.heap, new) := by
    rw [rep.kernel]
    rfl
  have represents : Represents added (Portproxy.forwardQuery host sent addTime p pkt).proxy lost := {
    ctx := rep.ctx
    kernel := by
      change ({ m.kernel with heap := m.kernel.heap + 1 } : Kernel) = _
      rw [rep.kernel]
      rfl
    sockets := rep.sockets
    mappings := by
      have pushed := Chain.push rep.mappings (rep.mappingBlocks.fresh _ (Nat.le_refl _)) new
      rw [← node] at pushed
      exact pushed
    pktBlocks := rep.pktBlocks
    socketBlocks := rep.socketBlocks
    mappingBlocks := by
      have more := rep.mappingBlocks.alloc ⟨new, m.mappings.mappings⟩
      rwa [Nat.add_right_comm] at more }
  refine ⟨added, represents, ?_⟩
  filter_upwards [count_settles represents] with steps ran
  rw [forwardQuery, created]
  simp only [added, new] at ran ⊢
  rw [ran]
  rfl

/-- The shim does not look at the lists. -/
theorem shim_settings (p : Proxy) (host : Host) (sent : Int) (pkt : Pkt) :
    (handleNatPmpExtFromserver host sent ⟨p.ctx.settings, p.kernel⟩ pkt).events =
        (handleNatPmpExtFromserver host sent p pkt).events ∧
      (handleNatPmpExtFromclient host sent ⟨p.ctx.settings, p.kernel⟩ pkt).events =
        (handleNatPmpExtFromclient host sent p pkt).events := by
  unfold handleNatPmpExtFromserver handleNatPmpExtFromclient
  constructor <;> split_ifs <;> rfl

theorem handle_packet_settles (rep : Represents m p lost) (stored : m.pktHeap addr = some pkt) (host : Host)
    (sent addTime : Int) :
    ∃ after, Represents after (Portproxy.handlePacket host sent addTime p pkt).proxy (handleLost p pkt lost) ∧
      Settles (handlePacket host sent addTime m addr)
        (after, (Portproxy.handlePacket host sent addTime p pkt).events) := by
  have wanMcast : packetWanMcast m.ctx pkt = packetWanMcast p.ctx pkt := by rw [rep.ctx]; rfl
  have extended : m.ctx.enableNatPmpExt = p.ctx.enableNatPmpExt := by rw [rep.ctx]; rfl
  have server : m.ctx.natPmpExtSock = p.ctx.natPmpExtSock := by rw [rep.ctx]; rfl
  unfold Portproxy.handlePacket handleLost
  by_cases tcp : pkt.proto = .tcp
  · rw [if_pos tcp, if_pos tcp]
    by_cases some : pkt.datalen ≠ 0
    · obtain ⟨after, rep', settles⟩ := tcp_packet_settles rep stored sent
      rw [if_pos some, if_pos some]
      refine ⟨after, rep', ?_⟩
      filter_upwards [settles] with steps ran
      rw [handlePacket, stored, Option.bind_some, if_pos tcp, if_pos some, ran]
    · obtain ⟨after, rep', settles⟩ := tcp_close_settles rep stored
      rw [if_neg some, if_neg some]
      refine ⟨after, rep', ?_⟩
      filter_upwards [settles] with steps ran
      rw [handlePacket, stored, Option.bind_some, if_pos tcp, if_neg some, ran]
  · rw [if_neg tcp, if_neg tcp]
    by_cases wan : packetWanMcast p.ctx pkt = true
    · rw [if_pos wan, if_pos wan]
      refine ⟨m, rep, Eventually.of_forall fun steps => ?_⟩
      rw [handlePacket, stored, Option.bind_some, if_neg tcp, wanMcast, if_pos wan, rep.ctx]
      rfl
    · rw [if_neg wan, if_neg wan]
      by_cases ext : p.ctx.enableNatPmpExt ≠ 0
      · rw [if_pos ext, if_pos ext]
        by_cases fromServer : pkt.sock = p.ctx.natPmpExtSock
        · rw [if_pos fromServer, from_server_unchanged]
          refine ⟨m, rep, Eventually.of_forall fun steps => ?_⟩
          rw [handlePacket, stored, Option.bind_some, if_neg tcp, wanMcast, if_neg wan, extended, if_pos ext,
            server, if_pos fromServer, Process.proxy, rep.ctx, rep.kernel, (shim_settings p host sent pkt).1]
        · rw [if_neg fromServer, from_client_unchanged]
          refine ⟨m, rep, Eventually.of_forall fun steps => ?_⟩
          rw [handlePacket, stored, Option.bind_some, if_neg tcp, wanMcast, if_neg wan, extended, if_pos ext,
            server, if_neg fromServer, Process.proxy, rep.ctx, rep.kernel, (shim_settings p host sent pkt).2]
      · rw [if_neg ext, if_neg ext]
        rcases mapping_find_cases rep pkt with ⟨absent, walked⟩ | ⟨m', found, walked, next, held⟩
        · rw [absent]
          obtain ⟨after, rep', settles⟩ := query_settles rep host sent addTime pkt
          refine ⟨after, rep', ?_⟩
          filter_upwards [walked, settles] with steps ran ends
          rw [handlePacket, stored, Option.bind_some, if_neg tcp, wanMcast, if_neg wan, extended, if_neg ext, ran]
          exact ends
        · rw [found]
          obtain ⟨after, rep', settles⟩ := response_settles rep found held host sent
          refine ⟨after, rep', ?_⟩
          filter_upwards [walked, settles] with steps ran ends
          rw [handlePacket, stored, Option.bind_some, if_neg tcp, wanMcast, if_neg wan, extended, if_neg ext, ran]
          exact ends

end Portproxy.ProcessMemory
