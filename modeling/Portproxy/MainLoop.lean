import Portproxy.Machine
import Portproxy.Handlers

/-! The main loop, `run`: one pass waits for traffic, receives at most one
packet, handles it and sweeps expired mappings. A `Turn` holds what the system
answers to the calls of one pass; a run is a list of turns. -/
namespace Portproxy
open StepMachine

/-- What `recvmsg` delivers. -/
structure Datagram where
  src : InAddr := {}
  srcPort : UInt16 := 0
  dst : InAddr := {}
  payload : List UInt8
  deriving DecidableEq, Repr

/-- The answers to `accept`, `socket` and `connect`; a failed call has no
descriptor. -/
structure AcceptAnswers where
  accept : Option Nat := none
  socket : Option Nat := none
  connect : Int := 0
  deriving DecidableEq, Repr

structure Turn where
  /-- `time` in `ctx_timeout_get`. -/
  headTime : Int := 0
  /-- The descriptors `select` reports as ready; none after a timeout or an error. -/
  ready : List Int := []
  /-- `recvmsg`, which may fail. -/
  recv : Option Datagram := none
  accept : AcceptAnswers := {}
  /-- `send` or `sendto`. -/
  sent : Int := 0
  /-- `time` in `mapping_add`. -/
  addTime : Int := 0
  /-- `time` in `ctx_mappings_remove_expired`. -/
  sweepTime : Int := 0
  deriving DecidableEq, Repr

/-- The receive buffer of `sock_udp_receive`, `sock_udp6_receive` and
`sock_tcp_receive`. -/
def bufferSize : Nat := 1500

def sockUdpReceive (k : Kernel) (sock : Socket) (d : Datagram) : Pkt where
  srcIP := d.src
  dstIP := d.dst
  srcPort := d.srcPort.toNat
  dstPort := k.sockGetPort sock.fd
  proto := sock.ipproto
  data := d.payload.take bufferSize
  sock := sock.fd

/-- Neither addresses nor the peer's port are taken over. -/
def sockUdp6Receive (k : Kernel) (sock : Socket) (d : Datagram) : Pkt where
  dstPort := k.sockGetPort sock.fd
  proto := sock.ipproto
  data := d.payload.take bufferSize
  sock := sock.fd

def sockTcpReceive (ctx : Context) (sock : Socket) (d : Datagram) : Pkt × List Event :=
  ({ proto := sock.ipproto, data := d.payload.take bufferSize, sock := sock.fd },
    match socketFind ctx sock.peer with
    | none => [.complaint .noCorrespondingSocket]
    | some _ => [])

/-- `sock_tcp_accept` on the listening socket `sock`. -/
def sockTcpAccept (answers : AcceptAnswers) (p : Proxy) (sock : Socket) : Proxy × List Event :=
  match answers.accept with
  | none => (p, [])
  | some choice =>
    let newfd := p.kernel.descriptor choice
    let k := p.kernel.opens newfd
    match answers.socket with
    | none => ({ p with kernel := k.sockDel newfd }, [])
    | some choice =>
      let relayfd := k.descriptor choice
      let k := k.opens relayfd
      if answers.connect < 0 then ({ p with kernel := (k.sockDel newfd).sockDel relayfd }, [])
      else
        let lansock : Socket := { fd := newfd, ipproto := .tcp, state := .tcpConnected, peer := relayfd }
        let wansock : Socket := { fd := relayfd, ipproto := .tcp, state := .tcpConnected, peer := newfd }
        ({ ctx := socketAdd2 (socketAdd2 p.ctx lansock) wansock, kernel := k },
          [.paired newfd relayfd (p.ctx.aftrIPv4, uint16 (p.kernel.sockGetPort sock.fd))])

/-- An accept either changes neither the list nor the open descriptors, or
adds a pair on two new descriptors. -/
theorem tcp_accept_cases (answers : AcceptAnswers) (p : Proxy) (sock : Socket) :
    ((sockTcpAccept answers p sock).1.ctx = p.ctx ∧
        (sockTcpAccept answers p sock).1.kernel.fds = p.kernel.fds ∧
        (∀ fd ∈ p.kernel.fds, (sockTcpAccept answers p sock).1.kernel.bound fd = p.kernel.bound fd) ∧
        (sockTcpAccept answers p sock).1.kernel.heap = p.kernel.heap ∧
        (sockTcpAccept answers p sock).2 = []) ∨
      (∃ lan wan server, lan ∉ p.kernel.fds ∧ wan ∉ p.kernel.fds ∧ lan ≠ wan ∧
        answers.accept.isSome ∧ answers.socket.isSome ∧ 0 ≤ answers.connect ∧
        (sockTcpAccept answers p sock).1.ctx = { p.ctx with sockets :=
          { fd := wan, ipproto := .tcp, state := .tcpConnected, peer := lan } ::
          { fd := lan, ipproto := .tcp, state := .tcpConnected, peer := wan } :: p.ctx.sockets } ∧
        (sockTcpAccept answers p sock).1.kernel = (p.kernel.opens lan).opens wan ∧
        (sockTcpAccept answers p sock).2 = [.paired lan wan server]) := by
  unfold sockTcpAccept
  cases accepted : answers.accept with
  | none => exact .inl ⟨rfl, rfl, fun _ _ => rfl, rfl, rfl⟩
  | some choice =>
    have freshLan := p.kernel.descriptor_fresh choice
    dsimp only
    generalize p.kernel.descriptor choice = lan at freshLan ⊢
    cases opened : answers.socket with
    | none =>
      refine .inl ⟨rfl, by simp [freshLan], ?_, rfl, rfl⟩
      intro fd held
      have other : fd ≠ lan := fun same => freshLan (same ▸ held)
      rw [Kernel.sockDel_bound _ other, Kernel.opens_bound _ other]
    | some choice' =>
      have freshWan := (p.kernel.opens lan).descriptor_fresh choice'
      dsimp only
      generalize (p.kernel.opens lan).descriptor choice' = wan at freshWan ⊢
      have apart : lan ≠ wan := by rintro rfl; simp at freshWan
      have freshWan : wan ∉ p.kernel.fds := fun held => freshWan (by simp [held])
      split
      · refine .inl ⟨rfl, ?_, ?_, rfl, rfl⟩
        · simp [Finset.erase_insert_of_ne apart.symm, freshLan, freshWan]
        · intro fd held
          have notLan : fd ≠ lan := fun same => freshLan (same ▸ held)
          have notWan : fd ≠ wan := fun same => freshWan (same ▸ held)
          rw [Kernel.sockDel_bound _ notWan, Kernel.sockDel_bound _ notLan,
            Kernel.opens_bound _ notWan, Kernel.opens_bound _ notLan]
      · rename_i connected
        exact .inr ⟨lan, wan, _, freshLan, freshWan, apart, rfl, rfl, not_lt.mp connected, rfl, rfl, rfl⟩

/-- `wait_for_traffic`: the process afterwards, the packet it returns, if any,
and what it did. -/
def waitForTraffic (p : Proxy) (t : Turn) : Proxy × Option Pkt × List Event :=
  if t.ready = [] then (p, none, [])
  else
    match p.ctx.sockets.find? (·.fd ∈ t.ready) with
    | none => (p, none, [.complaint .socketNotFound])
    | some sock =>
      match sock.state with
      | .udp => (p, t.recv.map (sockUdpReceive p.kernel sock), [])
      | .udp6 => (p, t.recv.map (sockUdp6Receive p.kernel sock), [])
      | .tcpListening =>
        let accepted := sockTcpAccept t.accept p sock
        (accepted.1, none, accepted.2)
      | .tcpConnected =>
        match t.recv with
        | none => (p, none, [])
        | some d =>
          let received := sockTcpReceive p.ctx sock d
          (p, some received.1, received.2)

/-- `ctx_mappings_remove_expired` on the process. -/
def sweep (t : Turn) (p : Proxy) : Proxy × List Event :=
  let swept := ctxMappingsRemoveExpired t.sweepTime p.ctx.mappings
  ({ ctx := { p.ctx with mappings := swept.1 }, kernel := { p.kernel with clock := t.sweepTime } },
    swept.2)

/-- The packet part of one pass of `run`. -/
def handleTurn (host : Host) (p : Proxy) (t : Turn) : Proxy × List Event :=
  let waited := waitForTraffic p t
  match waited.2.1 with
  | none => (waited.1, waited.2.2)
  | some pkt =>
    let handled := handlePacket host t.sent t.addTime waited.1 pkt
    (handled.proxy, waited.2.2 ++ .received pkt :: handled.events)

/-- One pass of `run`. -/
def runTurn (host : Host) (p : Proxy) (t : Turn) : Proxy × List Event :=
  let handled := handleTurn host p t
  let swept := sweep t handled.1
  (swept.1, handled.2 ++ swept.2)

/-- `run` as a machine: its runs are all the passes a shutdown may end. -/
def run (host : Host) : Machine Proxy Turn Event := ⟨runTurn host⟩

end Portproxy
