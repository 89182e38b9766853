import Portproxy.CellLoops
import Portproxy.MappingMemory
import Portproxy.MainLoop

/-! The main loop of `framework.c` in memory, with its two linked lists and the
packets it allocates. There is no result where the code reads through a null
pointer, in a freed block or past the end of a list, where it frees what is not
allocated, or where the steps do not suffice for its loops. -/
namespace Portproxy.ProcessMemory
open LinkedCells

/-- The process: `*ctx` apart from its lists, the lists, and the packets. A block is
known by its number, and each kind of block has numbers of its own. -/
structure Process where
  ctx : Context
  kernel : Kernel
  /-- `ctx->sockets`. -/
  sockets : Option Nat
  socketHeap : Heap Nat Socket
  /-- How many were allocated. -/
  socketNext : Nat
  /-- `ctx->mappings`, with the nodes. -/
  mappings : MappingMemory.Memory
  pktHeap : Nat → Option Pkt
  pktNext : Nat

/-- What a function leaves: the process, and what it did. -/
abbrev Left := Process × List Event

/-- The process apart from the lists. -/
def Process.proxy (m : Process) : Proxy := { ctx := m.ctx, kernel := m.kernel }

/-! ## The lists -/

def socketFind (m : Process) (fd : Int) (steps : Nat) : Option (Option Nat) :=
  findCell (·.fd = fd) m.socketHeap m.sockets steps

/-- `socket_del`. -/
def socketDel (m : Process) (fd : Int) (steps : Nat) : Option Left :=
  (walk (seek (·.fd = fd)) m.socketHeap steps none m.sockets).bind fun found =>
    match found with
    | .ok _ => some (m, [.complaint .unableToDeleteSocket])
    | .error (prev, s) =>
      (unlink m.socketHeap m.sockets prev s).map fun left =>
        ({ m with kernel := m.kernel.sockDel fd, socketHeap := left.1, sockets := left.2 }, [])

def mappingFind (m : Process) (pkt : Pkt) (steps : Nat) : Option (Option Nat) :=
  findCell (mappingMatches pkt) m.mappings.heap m.mappings.mappings steps

/-- One mapping in the loop of `ctx_timeout_get`. -/
def visitTimeout (now timeout : Int) (_ : Nat) (m : Mapping) : Except Int Int :=
  if uint32 m.timeout < now then .error 0
  else if timeout > uint32 (m.timeout - now) then .ok (uint32 (m.timeout - now))
  else .ok timeout

/-- `ctx_timeout_get` at time `now`. -/
def ctxTimeoutGet (now : Int) (m : Process) (steps : Nat) : Option Int :=
  (walk (visitTimeout (uint32 now)) m.mappings.heap steps 3600 m.mappings.mappings).map fun walked =>
    match walked with
    | .error timeout | .ok timeout => if timeout = 0 then 1 else timeout

def ctxMappingsCnt (m : Process) (steps : Nat) : Option Nat :=
  (walk (fun i _ _ => .ok (i + 1)) m.mappings.heap steps 0 m.mappings.mappings).map fun counted =>
    match counted with
    | .error (stop : Empty) => nomatch stop
    | .ok i => i

/-! ## Packets -/

/-- `malloc` of a packet, which is filled with this. -/
def mallocPkt (m : Process) (pkt : Pkt) : Process :=
  { m with pktHeap := Function.update m.pktHeap m.pktNext (some pkt), pktNext := m.pktNext + 1 }

/-- `packet_delete`, for a packet that is there. -/
def packetDelete (m : Process) (pkt : Nat) : Option Process :=
  (m.pktHeap pkt).map fun _ => { m with pktHeap := Function.update m.pktHeap pkt none }

/-- The part of a receive function up to the check of what `recvmsg` answered. The
packet of a failed call is not freed. -/
def receive (m : Process) (sock : Socket) (fill : Datagram → Pkt) : Option Datagram → Process × Option Nat
  | none => (mallocPkt m { proto := sock.ipproto, data := [], sock := sock.fd }, none)
  | some d => (mallocPkt m (fill d), some m.pktNext)

/-- `sock_tcp_accept` on the listening socket at `sock`. Without a descriptor for
`wansock` only `lansock` is freed. -/
def sockTcpAccept (answers : AcceptAnswers) (m : Process) (sock : Nat) : Option Left :=
  (m.socketHeap sock).map fun listening =>
    match answers.accept with
    | none => (m, [])
    | some choice =>
      let newfd := m.kernel.descriptor choice
      let k := m.kernel.opens newfd
      let lansock := m.socketNext
      let wansock := m.socketNext + 1
      let blank : Socket := { fd := -1, ipproto := .tcp, state := .tcpConnected }
      let heap := alloc (alloc m.socketHeap lansock ⟨{ blank with fd := newfd }, m.sockets⟩)
        wansock ⟨blank, none⟩
      match answers.socket with
      | none =>
        ({ m with kernel := k.sockDel newfd, socketHeap := free heap lansock, socketNext := m.socketNext + 2 }, [])
      | some choice =>
        let relayfd := k.descriptor choice
        let k := k.opens relayfd
        if answers.connect < 0 then
          ({ m with kernel := (k.sockDel newfd).sockDel relayfd, socketHeap := free (free heap lansock) wansock
                    socketNext := m.socketNext + 2 }, [])
        else
          -- both are filled, and put in front of the list one after the other
          let heap := alloc heap lansock ⟨{ blank with fd := newfd, peer := relayfd }, m.sockets⟩
          let heap := alloc heap wansock ⟨{ blank with fd := relayfd, peer := newfd }, some lansock⟩
          ({ m with kernel := k, socketHeap := heap, sockets := some wansock, socketNext := m.socketNext + 2 },
            [.paired newfd relayfd (m.ctx.aftrIPv4, uint16 (m.kernel.sockGetPort listening.value.fd))])

/-- What `wait_for_traffic` leaves: the process, the packet it returns, and what it did. -/
structure Waited where
  process : Process
  pkt : Option Nat := none
  events : List Event := []

/-- `sock_tcp_receive`, which looks for the peer once it has received something. -/
def sockTcpReceive (m : Process) (sock : Socket) (recv : Option Datagram) (steps : Nat) : Option Waited :=
  let received := receive m sock (fun d => (Portproxy.sockTcpReceive m.ctx sock d).1) recv
  match received.2 with
  | none => some { process := received.1 }
  | some pkt =>
    (socketFind received.1 sock.peer steps).map fun fwdto =>
      match fwdto with
      | none => { process := received.1, pkt := some pkt, events := [.complaint .noCorrespondingSocket] }
      | some _ => { process := received.1, pkt := some pkt }

/-- `wait_for_traffic` once `select` has returned. -/
def readyTraffic (m : Process) (t : Turn) (steps : Nat) : Option Waited :=
  (findCell (·.fd ∈ t.ready) m.socketHeap m.sockets steps).bind fun found =>
    match found with
    | none => some { process := m, events := [.complaint .socketNotFound] }
    | some addr =>
      (m.socketHeap addr).bind fun cell =>
        let sock := cell.value
        match sock.state with
        | .udp =>
          let received := receive m sock (sockUdpReceive m.kernel sock) t.recv
          some { process := received.1, pkt := received.2 }
        | .udp6 =>
          let received := receive m sock (sockUdp6Receive m.kernel sock) t.recv
          some { process := received.1, pkt := received.2 }
        | .tcpListening =>
          (sockTcpAccept t.accept m addr).map fun accepted =>
            { process := accepted.1, events := accepted.2 }
        | .tcpConnected => sockTcpReceive m sock t.recv steps

/-- `wait_for_traffic`. Before `select` it goes through both lists, for the timeout
and the set, and once more through the mappings, for the log. -/
def waitForTraffic (m : Process) (t : Turn) (steps : Nat) : Option Waited :=
  (ctxTimeoutGet t.headTime m steps).bind fun _ =>
    (walk (fun set _ (sock : Socket) => (.ok (sock.fd :: set) : Except Empty _)) m.socketHeap steps []
        m.sockets).bind fun _ =>
      (ctxMappingsCnt m steps).bind fun _ =>
        if t.ready = [] then some { process := m } else readyTraffic m t steps

/-! ## Handling a packet -/

def handleTcpPacket (sent : Int) (m : Process) (pkt : Nat) (steps : Nat) : Option Left :=
  (m.pktHeap pkt).bind fun p =>
    (socketFind m p.sock steps).bind fun found =>
      match found with
      | none => some (m, [.complaint .unableToFindSocket])
      | some sock =>
        (m.socketHeap sock).bind fun sock =>
          (socketFind m sock.value.peer steps).bind fun found =>
            match found with
            | none => some (m, [.complaint .unableToFindPeer])
            | some peer =>
              (m.socketHeap peer).bind fun peer =>
                (packetDelete m pkt).map fun m =>
                  (m, [.sent {
                    caller := .relay, source := p.sock, fd := peer.value.fd, data := p.data, result := sent }])

def handleTcpClose (m : Process) (pkt : Nat) (steps : Nat) : Option Left :=
  (m.pktHeap pkt).bind fun p =>
    if p.datalen ≠ 0 then some (m, [.complaint .dataToRead])
    else
      (socketFind m p.sock steps).bind fun found =>
        match found with
        | none => some (m, [.complaint .unableToFindSocket])
        | some sock =>
          (m.socketHeap sock).bind fun sock =>
            (socketDel m p.sock steps).bind fun first =>
              (socketDel first.1 sock.value.peer steps).map fun second => (second.1, first.2 ++ second.2)

/-- The branch of `handle_packet` that has found a mapping, at `node`. -/
def forwardResponse (host : Host) (sent : Int) (m : Process) (p : Pkt) (node : Nat) (steps : Nat) : Option Left :=
  (m.mappings.heap node).bind fun cell =>
    (MappingMemory.mappingDelete steps m.mappings node).map fun deleted =>
      ({ m with mappings := deleted.2 }, [(responseSend host sent cell.value p).2])

/-- The branch for a new packet. -/
def forwardQuery (host : Host) (sent addTime : Int) (m : Process) (p : Pkt) (steps : Nat) : Option Left :=
  let created := (mappingCreate m.ctx m.kernel p (querySocketGet m.ctx)).stamped m.ctx addTime
  let added : Process :=
    { m with kernel := { m.kernel with heap := m.kernel.heap + 1 }
             mappings :=
              { heap := alloc m.mappings.heap m.kernel.heap ⟨created, m.mappings.mappings⟩
                mappings := some m.kernel.heap } }
  (ctxMappingsCnt added steps).map fun _ => (added, [.added created, (querySend host sent created p).2])

/-- `handle_packet`. -/
def handlePacket (host : Host) (sent addTime : Int) (m : Process) (pkt : Nat) (steps : Nat) : Option Left :=
  (m.pktHeap pkt).bind fun p =>
    if p.proto = .tcp then
      if p.datalen ≠ 0 then handleTcpPacket sent m pkt steps else handleTcpClose m pkt steps
    else if packetWanMcast m.ctx p then
      some (m, [(sockSend host .multicast p.sock m.ctx.lanSsdpSock mcast p.data p.dstPort sent).2])
    else if m.ctx.enableNatPmpExt ≠ 0 then
      if p.sock = m.ctx.natPmpExtSock then some (m, (handleNatPmpExtFromserver host sent m.proxy p).events)
      else some (m, (handleNatPmpExtFromclient host sent m.proxy p).events)
    else
      (mappingFind m p steps).bind fun found =>
        match found with
        | some node => forwardResponse host sent m p node steps
        | none =>
          if packetValid m.ctx p ≠ 0 then forwardQuery host sent addTime m p steps else some (m, [])

/-- The packet part of one pass of `run`. -/
def handleTurn (host : Host) (m : Process) (t : Turn) (steps : Nat) : Option Left :=
  (waitForTraffic m t steps).bind fun waited =>
    match waited.pkt with
    | none => some (waited.process, waited.events)
    | some pkt =>
      (waited.process.pktHeap pkt).bind fun p =>
        (handlePacket host t.sent t.addTime waited.process pkt steps).map fun handled =>
          (handled.1, waited.events ++ .received p :: handled.2)

/-- One pass of `run`. -/
def runTurn (host : Host) (m : Process) (t : Turn) (steps : Nat) : Option Left :=
  (handleTurn host m t steps).bind fun handled =>
    (MappingMemory.ctxMappingsRemoveExpired t.sweepTime steps handled.1.mappings).map fun swept =>
      ({ handled.1 with mappings := swept.1, kernel := { handled.1.kernel with clock := t.sweepTime } }, handled.2)

/-- `run`, until a shutdown after these passes. -/
def run (host : Host) (steps : Nat) : Process → List Turn → Option Left
  | m, [] => some (m, [])
  | m, t :: rest =>
    (runTurn host m t steps).bind fun turned =>
      (run host steps turned.1 rest).map fun later => (later.1, turned.2 ++ later.2)

/-- The loop of `sockets_close`. -/
def socketsClose : Process → Nat → Option Process
  | _, 0 => none
  | m, steps + 1 =>
    match m.sockets with
    | none => some m
    | some sock =>
      (m.socketHeap sock).bind fun cell =>
        (socketDel m cell.value.fd (steps + 1)).bind fun deleted => socketsClose deleted.1 steps

end Portproxy.ProcessMemory
