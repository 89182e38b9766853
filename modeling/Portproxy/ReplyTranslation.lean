import Portproxy.SocketRoles

/-! Translation there and back. A query leaves under the proxy's own address and
port and puts a mapping in front of the list; the reply matches that mapping
before any other, is given the client's address back and takes the mapping off
the list again. -/
namespace Portproxy.ReplyTranslation
open SocketRoles

/-- A UDP packet with the ports of a datagram. -/
structure OnPorts (pkt : Pkt) : Prop where
  udp : pkt.proto = .udp
  srcPort : 0 ≤ pkt.srcPort ∧ pkt.srcPort < 65536
  dstPort : 0 ≤ pkt.dstPort ∧ pkt.dstPort < 65536

/-- The packet `q` matches no mapping and is forwarded as the query `call`,
which is sent successfully. -/
structure Forwarded (host : Host) (sent addTime : Int) (p : Proxy) (q : Pkt) (call : Send) : Prop where
  unmatched : ∀ m ∈ p.ctx.mappings, mappingMatches q m = false
  emitted : .sent call ∈ (handlePacket host sent addTime p q).events
  query : ∃ m, call.caller = .query m
  success : 0 ≤ call.result

/-- The datagram `r` comes from where `call` was sent, or from anywhere if `q`
was a multicast, and goes to the shared socket. -/
structure Replies (p : Proxy) (q : Pkt) (call : Send) (r : Pkt) : Prop where
  source : ∃ addr, call.dest = some (addr, r.srcPort.toNat) ∧ (q.dstIP = mcast ∨ r.srcIP = addr)
  dstIP : r.dstIP = p.ctx.wanIP
  dstPort : r.dstPort = p.kernel.sockGetPort p.ctx.sharedUdpSockFd

/-- Handling `r` sends its payload once and unchanged to the client of `q`, over
the socket `q` came in on, and leaves the context `ctx`. -/
structure Restores (q r : Pkt) (ctx : Context) (outcome : Outcome) : Prop where
  sent : ∃ call, outcome.events = [.sent call] ∧ call.fd = q.sock ∧
    call.dest = some (q.srcIP, q.srcPort.toNat) ∧ call.data = r.data
  restored : outcome.proxy.ctx = ctx

variable {host : Host} {p : Proxy} {q r : Pkt} {m : Mapping}

/-- The mapping of a query matches the replies to it. -/
theorem created_matches (ports : OnPorts q) (replyPorts : OnPorts r)
    (created : m = (mappingCreate p.ctx p.kernel q p.ctx.sharedUdpSockFd).stamped p.ctx addTime)
    (replies : Replies p q ⟨.query m, q.sock, m.wanSock, some (m.aftrIPv4, uint16 m.routerPort), q.data, sent⟩ r) :
    mappingMatches r m = true := by
  obtain ⟨addr, dest, source⟩ := replies.source
  simp only [Option.some.injEq, Prod.mk.injEq] at dest
  obtain ⟨rfl, port⟩ := dest
  have router : m.routerPort = q.dstPort := by rw [created]; rfl
  have group : m.aftrIPv4 = if !addrCmp q.dstIP mcast then p.ctx.aftrIPv4 else mcast := by rw [created]; rfl
  rw [router, uint16_of_port ports.dstPort.1 ports.dstPort.2] at port
  have asked : r.srcPort = q.dstPort := by
    have low := replyPorts.srcPort.1
    have low' := ports.dstPort.1
    omega
  refine mapping_matches_iff.mpr ⟨?_, ?_, asked.trans router.symm, ?_, ?_⟩
  · refine source.imp_left fun multicast => ?_
    rw [group, multicast]
    simp
  · rw [replies.dstIP, created]
    rfl
  · rw [replies.dstPort, created]
    rfl
  · rw [replyPorts.udp, created]
    exact ports.udp.symm

/-- Whatever else is on the list, also mappings the reply would match as well,
handling a query and then its reply brings the reply to the client and restores
the list. -/
theorem reply_inverts_query (host : Host) (p : Proxy) (classic : p.ctx.enableNatPmpExt = 0)
    (wanIP : p.ctx.wanIP ≠ mcast) (ports : OnPorts q) (replyPorts : OnPorts r)
    (forwarded : Forwarded host sent addTime p q call) (replies : Replies p q call r)
    (sent' addTime' : Int) :
    Restores q r p.ctx
      (handlePacket host sent' addTime' (handlePacket host sent addTime p q).proxy r) := by
  obtain ⟨m, caller⟩ := forwarded.query
  have forwards := handle_packet_forwards forwarded.emitted
  cases forwards with
  | @queries m udp notWan _ unmatched created =>
    cases caller
    rw [handle_query udp notWan classic unmatched created]
    have newest : mappingFind (m :: p.ctx.mappings) r = some m := by
      simp [mappingFind, created_matches ports replyPorts created replies]
    have notWan' : packetWanMcast { p.ctx with mappings := m :: p.ctx.mappings } r = false := by
      simp [packetWanMcast, addrCmp, replies.dstIP, wanIP]
    rw [handle_response (p := ⟨{ p.ctx with mappings := m :: p.ctx.mappings }, _⟩)
      replyPorts.udp notWan' classic newest]
    constructor
    case sent =>
      refine ⟨_, rfl, ?_, ?_, rfl⟩
      · rw [created]
        rfl
      · rw [created, ← uint16_of_port ports.srcPort.1 ports.srcPort.2]
        rfl
    case restored => simp
  | _ => cases caller

/-- A client asks while another client's query waits for the same port. -/
theorem household_translation_restored :
    let first : Pkt := { srcIP := ⟨192, 168, 1, 8⟩, srcPort := 4000, dstIP := ⟨192, 168, 1, 1⟩
                         dstPort := 5351, proto := .udp, data := [0, 0], sock := 3 }
    let q : Pkt := { first with srcIP := ⟨192, 168, 1, 7⟩ }
    let r : Pkt := { srcIP := ⟨192, 0, 0, 1⟩, srcPort := 5351, dstIP := ⟨10, 0, 0, 2⟩
                     dstPort := 40000, proto := .udp, data := [0, 128, 0, 0], sock := 6 }
    let p := (handlePacket littleHost 2 100 household first).proxy
    Restores q r p.ctx
      (handlePacket littleHost 4 101 (handlePacket littleHost 2 100 p q).proxy r) := by
  intro first q r p
  refine reply_inverts_query littleHost p rfl (by decide) ?query ?reply
    ⟨?unmatched, List.mem_cons_of_mem _ (List.mem_singleton.mpr rfl), ⟨_, rfl⟩, by decide⟩ ?replies 4 101
  case query => exact ⟨rfl, by decide, by decide⟩
  case reply => exact ⟨rfl, by decide, by decide⟩
  case unmatched => decide
  case replies => exact ⟨⟨⟨192, 0, 0, 1⟩, by decide, .inr rfl⟩, rfl, rfl⟩

end Portproxy.ReplyTranslation
