import Portproxy.WanSide

/-! All forwarded queries share one WAN socket and one mapping list. What keeps
their replies apart is how every mapping is made: the port it waits for is the
local port of the LAN socket its query came in on, and a mapping for NAT-PMP
names the AFTR. -/
namespace Portproxy.SharedSocket
open StepMachine SocketRoles TurnSemantics RelayPairing WanSide

variable {host : Host} {p p₀ : Proxy} {t : Turn} {sock : Socket} {pkt : Pkt} {m : Mapping}
  {noted history : List Event}

/-! ## Where mappings come from -/

/-- A mapping as the proxy started at `p₀` makes them: it ties the LAN socket of
its query to the port of that socket, and to the shared socket. -/
structure Origin (p₀ : Proxy) (m : Mapping) : Prop where
  proto : m.proto = .udp
  wanIP : m.wanIP = p₀.ctx.wanIP
  wanSock : m.wanSock = p₀.ctx.sharedUdpSockFd
  wanPort : m.wanPort = p₀.kernel.sockGetPort p₀.ctx.sharedUdpSockFd
  lanSock : ∃ s ∈ p₀.ctx.sockets, s.fd = m.lanSock ∧ s.state = .udp
  lanPort : m.lanPort = p₀.kernel.sockGetPort m.lanSock
  routerPort : m.routerPort = m.lanPort
  aftrIPv4 : m.aftrIPv4 = if m.lanIP = mcast then mcast else p₀.ctx.aftrIPv4

/-- Without extended NAT-PMP every UDP packet comes in on an IPv4 socket, and
there is a socket to send queries from. -/
theorem udp_packet (booted : Booted host p₀) (classic : p₀.ctx.enableNatPmpExt = 0)
    (shared : p₀.ctx.sharedUdpSock ≠ 0) (relaying : Relaying p₀ p history)
    (received : Receives p t sock pkt noted) (udp : pkt.proto = .udp) :
    sock.state = .udp ∧ p₀.ctx.sharesSocket ∧ p₀.ctx.sharedUdpSockFd ∈ p₀.kernel.fds := by
  obtain ⟨natPmp, tcp₁, tcp₂, laid⟩ := booted_laid booted
  have first := relaying.udp_socket received udp
  obtain ⟨role, listed, proto, kind⟩ := laid.role_of first
  rw [← received.proto_eq, udp] at proto
  have enabled := mem_layout.mp listed
  have shares : p₀.ctx.sharesSocket ∧ sock.state = .udp := by
    cases role with
    | upnpTcp1 | upnpTcp2 => cases proto
    | extLan | extAftr => exact absurd classic enabled.1
    | ssdpLan | ssdpWan => exact ⟨⟨shared, .inl enabled.1⟩, kind⟩
    | natPmp => exact ⟨⟨shared, .inr enabled.1⟩, kind⟩
    | shared => exact ⟨enabled.1, kind⟩
  have listed : (.shared, p₀.ctx.sharedUdpSockFd) ∈ layout p₀.ctx natPmp tcp₁ tcp₂ :=
    mem_layout.mpr ⟨shares.1, rfl⟩
  exact ⟨shares.2, shares.1, laid.held _ listed⟩

theorem port_constant (relaying : Relaying p₀ p history) (first : fd ∈ p₀.kernel.fds) :
    p.kernel.sockGetPort fd = p₀.kernel.sockGetPort fd := by
  unfold Kernel.sockGetPort
  rw [relaying.bound fd first]

/-- The destination port of a UDP packet is the local port of its socket. -/
theorem packet_port (booted : Booted host p₀) (relaying : Relaying p₀ p history)
    (received : Receives p t sock pkt noted) (udp : pkt.proto = .udp) (ipv4 : sock.state = .udp) :
    pkt.dstPort = p₀.kernel.sockGetPort pkt.sock := by
  have held := (booted_fresh booted).held sock (relaying.udp_socket received udp)
  rw [received.sock_eq, ← port_constant relaying held]
  cases received with
  | udp => rfl
  | udp6 _ other => rw [ipv4] at other; cases other
  | tcp _ other => rw [ipv4] at other; cases other

/-- A run of the classic proxy on a shared socket. -/
structure Sharing (p₀ p : Proxy) : Prop where
  relaying : ∃ history, Relaying p₀ p history
  nodes : Nodes p
  origins : ∀ m ∈ p.ctx.mappings, Origin p₀ m

theorem booted_sharing (booted : Booted host p₀) : Sharing p₀ p₀ := by
  have fresh := booted_fresh booted
  exact ⟨⟨[], fresh_relaying fresh⟩, no_nodes fresh.mappings, by simp [fresh.mappings]⟩

/-- Every mapping the proxy makes has an origin, also one for a packet that was
no query. -/
theorem created_origin (booted : Booted host p₀) (classic : p₀.ctx.enableNatPmpExt = 0)
    (shared : p₀.ctx.sharedUdpSock ≠ 0) (relaying : Relaying p₀ p history)
    (received : Receives p t sock pkt noted) (udp : pkt.proto = .udp) (addTime : Int) :
    Origin p₀ ((mappingCreate p.ctx p.kernel pkt p.ctx.sharedUdpSockFd).stamped p.ctx addTime) := by
  obtain ⟨ipv4, -, held⟩ := udp_packet booted classic shared relaying received udp
  obtain ⟨config, sharedFd, -⟩ := Context.of_settings relaying.settings
  have wanIP : p.ctx.wanIP = p₀.ctx.wanIP := congrArg Config.wanIP config
  have aftr : p.ctx.aftrIPv4 = p₀.ctx.aftrIPv4 := congrArg Config.aftrIPv4 config
  constructor
  case proto => exact udp
  case wanIP => exact wanIP
  case wanSock => exact sharedFd
  case wanPort =>
    change p.kernel.sockGetPort p.ctx.sharedUdpSockFd = _
    rw [sharedFd, port_constant relaying held]
  case lanSock => exact ⟨sock, relaying.udp_socket received udp, received.sock_eq.symm, ipv4⟩
  case lanPort => exact packet_port booted relaying received udp ipv4
  case routerPort => rfl
  case aftrIPv4 =>
    change (if !addrCmp pkt.dstIP mcast then p.ctx.aftrIPv4 else mcast) =
      if pkt.dstIP = mcast then mcast else p₀.ctx.aftrIPv4
    rw [aftr]
    by_cases group : pkt.dstIP = mcast <;> simp [addrCmp, group]

theorem run_turn_sharing (host : Host) (t : Turn) (booted : Booted host p₀)
    (classic : p₀.ctx.enableNatPmpExt = 0) (shared : p₀.ctx.sharedUdpSock ≠ 0) (sharing : Sharing p₀ p) :
    Sharing p₀ (runTurn host p t).1 := by
  obtain ⟨history, relaying⟩ := sharing.relaying
  refine ⟨⟨_, relaying.run_turn⟩, run_turn_nodes host t sharing.nodes, ?_⟩
  intro m member
  obtain ⟨-, old | ⟨sock, pkt, noted, received, udp, -, -, rfl⟩⟩ :=
    run_turn_origin host t sharing.nodes member
  · exact sharing.origins m old
  · exact created_origin booted classic shared relaying received udp t.addTime

/-! ## Who may answer whom -/

/-- The SSDP socket towards the LAN. -/
def SsdpLan (ctx : Context) (fd : Int) : Prop := ctx.enableUpnpUdp ≠ 0 ∧ fd = ctx.lanSsdpSock

/-- The NAT-PMP socket towards the LAN: of the UDP sockets of the start, the one
that is neither for SSDP nor shared. The context has no field for it. -/
structure NatPmpLan (p₀ : Proxy) (fd : Int) : Prop where
  opened : ∃ s ∈ p₀.ctx.sockets, s.fd = fd ∧ s.state = .udp
  inward : ¬ FacesWan p₀.ctx fd
  notSsdp : ¬ SsdpLan p₀.ctx fd

theorem nat_pmp_held (booted : Booted host p₀) (lan : NatPmpLan p₀ fd) : fd ∈ p₀.kernel.fds := by
  obtain ⟨s, member, rfl, -⟩ := lan.opened
  exact (booted_fresh booted).held s member

theorem nat_pmp_port (booted : Booted host p₀) (classic : p₀.ctx.enableNatPmpExt = 0)
    (asked : uint16 p₀.ctx.natpmpUdpPort ≠ 0) (lan : NatPmpLan p₀ fd) :
    p₀.kernel.sockGetPort fd = uint16 p₀.ctx.natpmpUdpPort := by
  obtain ⟨natPmp, tcp₁, tcp₂, laid⟩ := booted_laid booted
  obtain ⟨s, member, rfl, state⟩ := lan.opened
  obtain ⟨role, listed, -, kind⟩ := laid.role_of member
  have enabled := mem_layout.mp listed
  rw [state] at kind
  cases role with
  | upnpTcp1 | upnpTcp2 | extAftr => cases kind
  | extLan => exact absurd classic enabled.1
  | ssdpLan => exact absurd enabled lan.notSsdp
  | ssdpWan => exact absurd (.inr enabled) lan.inward
  | shared => exact absurd (.inl enabled) lan.inward
  | natPmp => exact laid.local_port listed asked

theorem ssdp_port (booted : Booted host p₀) (asked : uint16 p₀.ctx.upnpUdpPort ≠ 0)
    (lan : SsdpLan p₀.ctx fd) : p₀.kernel.sockGetPort fd = uint16 p₀.ctx.upnpUdpPort := by
  obtain ⟨natPmp, tcp₁, tcp₂, laid⟩ := booted_laid booted
  have listed : (.ssdpLan, fd) ∈ layout p₀.ctx natPmp tcp₁ tcp₂ := mem_layout.mpr lan
  exact laid.local_port listed asked

/-- What may be sent for a received packet: through the NAT-PMP socket only what
the AFTR sent from its NAT-PMP port to the shared socket, through the SSDP
socket no other replies than from the uPNP port, and every reply out of the
port that its query was sent to. -/
structure Separated (p₀ p : Proxy) (pkt : Pkt) (call : Send) : Prop where
  natPmp : NatPmpLan p₀ call.fd →
    pkt.srcIP = p₀.ctx.aftrIPv4 ∧ pkt.srcPort = uint16 p₀.ctx.natpmpUdpPort ∧
      pkt.dstIP = p₀.ctx.wanIP ∧ pkt.dstPort = p.kernel.sockGetPort p₀.ctx.sharedUdpSockFd
  ssdp : ∀ m, call.caller = .response m → SsdpLan p₀.ctx call.fd →
    pkt.srcPort = uint16 p₀.ctx.upnpUdpPort
  samePort : ∀ m, call.caller = .response m → p.kernel.sockGetPort call.fd = m.lanPort

private theorem separated_elsewhere (noReply : ∀ m, call.caller ≠ .response m)
    (elsewhere : ¬ NatPmpLan p₀ call.fd) : Separated p₀ p pkt call :=
  ⟨fun lan => absurd lan elsewhere, fun m reply => absurd reply (noReply m),
    fun m reply => absurd reply (noReply m)⟩

/-- Everything the NAT-PMP socket receives is addressed to the proxy itself. -/
def AddressedToLan (p₀ p : Proxy) (t : Turn) : Prop :=
  ∀ sock pkt noted, Receives p t sock pkt noted → NatPmpLan p₀ pkt.sock → pkt.dstIP = p₀.ctx.lanIP

/-- A run in which the NAT-PMP socket received only what was addressed to it. -/
structure Addressed (p₀ p : Proxy) : Prop where
  sharing : Sharing p₀ p
  unicast : ∀ m ∈ p.ctx.mappings, NatPmpLan p₀ m.lanSock → m.lanIP = p₀.ctx.lanIP

private theorem run_turn_addressed (host : Host) (t : Turn) (booted : Booted host p₀)
    (classic : p₀.ctx.enableNatPmpExt = 0) (shared : p₀.ctx.sharedUdpSock ≠ 0)
    (addressed : Addressed p₀ p) (toLan : AddressedToLan p₀ p t) : Addressed p₀ (runTurn host p t).1 := by
  refine ⟨run_turn_sharing host t booted classic shared addressed.sharing, ?_⟩
  intro m member lan
  obtain ⟨-, old | ⟨sock, pkt, noted, received, -, -, -, rfl⟩⟩ :=
    run_turn_origin host t addressed.sharing.nodes member
  · exact addressed.unicast m old lan
  · exact toLan sock pkt noted received lan

/-- Every query goes out of the shared socket, which is not the NAT-PMP one. -/
private theorem shared_not_nat_pmp (shares : p₀.ctx.sharesSocket) : ¬ NatPmpLan p₀ p₀.ctx.sharedUdpSockFd :=
  fun lan => lan.inward (.inl ⟨shares, rfl⟩)

/-- A multicast from the WAN goes to the SSDP socket, if there is one. -/
private theorem multicast_not_nat_pmp (booted : Booted host p₀) (mcastFree : p₀.ctx.lanIP ≠ mcast)
    (settings : p.ctx.settings = p₀.ctx.settings) (received : Receives p t sock pkt noted)
    (toLan : AddressedToLan p₀ p t) (wan : packetWanMcast p.ctx pkt = true) :
    ¬ NatPmpLan p₀ p.ctx.lanSsdpSock := by
  intro lan
  obtain ⟨group, onWan⟩ := packet_wan_mcast_iff.mp wan
  obtain ⟨-, -, wanSock, lanSock, -⟩ := Context.of_settings settings
  rw [lanSock] at lan
  by_cases enabled : p₀.ctx.enableUpnpUdp = 0
  · -- neither SSDP socket is set, so the packet came in on the NAT-PMP socket itself
    rw [booted_ssdp_unset booted enabled, ← wanSock, ← onWan] at lan
    exact mcastFree ((toLan sock pkt noted received lan).symm.trans group)
  · exact lan.notSsdp ⟨enabled, rfl⟩

section Run
variable (booted : Booted host p₀) (classic : p₀.ctx.enableNatPmpExt = 0)
  (shared : p₀.ctx.sharedUdpSock ≠ 0) (natPmpPort : uint16 p₀.ctx.natpmpUdpPort ≠ 0)
  (upnpPort : uint16 p₀.ctx.upnpUdpPort ≠ 0) (lanIP : p₀.ctx.lanIP ≠ mcast)
  (aftrIPv4 : p₀.ctx.aftrIPv4 ≠ mcast)
include booted classic shared natPmpPort upnpPort lanIP aftrIPv4

private theorem forwards_separated (addressed : Addressed p₀ p) (toLan : AddressedToLan p₀ p t)
    (received : Receives p t sock pkt noted)
    (forwards : Forwards host t.sent t.addTime p pkt call) : Separated p₀ p pkt call := by
  obtain ⟨history, relaying⟩ := addressed.sharing.relaying
  obtain ⟨config, sharedFd, -⟩ := Context.of_settings relaying.settings
  cases forwards with
  | relays tcp found peer =>
    obtain ⟨connected, -⟩ := receives_tcp relaying.paired relaying.typed received tcp
    obtain ⟨other, held, named, linked, -⟩ := peer_found relaying.paired received.member connected
    rw [received.sock_eq, socket_find_member relaying.paired.distinct received.member] at found
    cases found
    obtain rfl := Option.some.inj (named.symm.trans peer)
    exact separated_elsewhere (by simp) fun lan =>
      relaying.apart other held linked (nat_pmp_held booted lan)
  | multicasts udp wan =>
    exact separated_elsewhere (by simp)
      (multicast_not_nat_pmp booted lanIP relaying.settings received toLan wan)
  | fromServer _ _ extended | fromClient _ _ extended =>
    exact absurd ((congrArg Config.enableNatPmpExt config).trans classic) extended
  | queries udp _ _ _ created =>
    obtain ⟨-, shares, -⟩ := udp_packet booted classic shared relaying received udp
    refine separated_elsewhere (by simp) ?_
    rw [created]
    change ¬ NatPmpLan p₀ p.ctx.sharedUdpSockFd
    rw [sharedFd]
    exact shared_not_nat_pmp shares
  | @responds m udp _ _ found =>
    obtain ⟨-, -, held⟩ := udp_packet booted classic shared relaying received udp
    obtain ⟨listed, hit⟩ := mapping_find_some found
    obtain ⟨source, dst, srcPort, dstPort, -⟩ := mapping_matches_iff.mp hit
    have origin := addressed.sharing.origins m listed
    have asked : pkt.srcPort = p₀.kernel.sockGetPort m.lanSock :=
      srcPort.trans (origin.routerPort.trans origin.lanPort)
    constructor
    case natPmp =>
      intro lan
      have unicast : m.aftrIPv4 = p₀.ctx.aftrIPv4 := by
        rw [origin.aftrIPv4, addressed.unicast m listed lan, if_neg lanIP]
      rw [unicast] at source
      refine ⟨source.resolve_left aftrIPv4, ?_, dst.trans origin.wanIP, ?_⟩
      · rw [asked]
        exact nat_pmp_port booted classic natPmpPort lan
      · rw [dstPort, origin.wanPort, port_constant relaying held]
    case ssdp =>
      intro _ _ lan
      rw [asked]
      exact ssdp_port booted upnpPort lan
    case samePort =>
      intro _ same
      cases same
      obtain ⟨s, member, same, -⟩ := origin.lanSock
      have first : m.lanSock ∈ p₀.kernel.fds := same ▸ (booted_fresh booted).held s member
      rw [origin.lanPort]
      exact port_constant relaying first

end Run

/-- Only the AFTR can answer a NAT-PMP client, and NAT-PMP and SSDP do not
cross: in every run with forged packets of any kind, what handling a received
packet sends is separated. -/
theorem only_aftr_answers (host : Host) (p₀ : Proxy) (booted : Booted host p₀)
    (classic : p₀.ctx.enableNatPmpExt = 0) (shared : p₀.ctx.sharedUdpSock ≠ 0)
    (natPmpPort : uint16 p₀.ctx.natpmpUdpPort ≠ 0) (upnpPort : uint16 p₀.ctx.upnpUdpPort ≠ 0)
    (lanIP : p₀.ctx.lanIP ≠ mcast) (aftrIPv4 : p₀.ctx.aftrIPv4 ≠ mcast) (turns : List Turn)
    (toLan : (run host).Along (AddressedToLan p₀) p₀ turns) :
    (run host).Along (fun p t => ∀ sock pkt noted, Receives p t sock pkt noted → ∀ call,
      .sent call ∈ (handlePacket host t.sent t.addTime p pkt).events → Separated p₀ p pkt call)
      p₀ turns := by
  have initially : Addressed p₀ p₀ := by
    refine ⟨booted_sharing booted, ?_⟩
    simp [(booted_fresh booted).mappings]
  refine (run host).along_of_invariant (Addressed p₀) ?_ ?_ initially toLan
  · intro p t addressed admitted
    exact run_turn_addressed host t booted classic shared addressed admitted
  · intro p t addressed admitted sock pkt noted received call sent
    exact forwards_separated booted classic shared natPmpPort upnpPort lanIP aftrIPv4 addressed
      admitted received (handle_packet_forwards sent)

/-- A client asks; a forged answer and then the AFTR's come in. -/
theorem household_forgery_separated :
    (run littleHost).Along (fun p t => ∀ sock pkt noted, Receives p t sock pkt noted → ∀ call,
      .sent call ∈ (handlePacket littleHost t.sent t.addTime p pkt).events → Separated household p pkt call)
      household [
        { ready := [3], sent := 2, addTime := 100, sweepTime := 100
          recv := some { src := ⟨192, 168, 1, 7⟩, srcPort := 4000,
                         dst := ⟨192, 168, 1, 1⟩, payload := [0, 0] } },
        { ready := [6], sent := 4, addTime := 101, sweepTime := 101
          recv := some { src := ⟨203, 0, 113, 9⟩, srcPort := 5351, dst := ⟨10, 0, 0, 2⟩, payload := [0, 66] } },
        { ready := [6], sent := 4, addTime := 101, sweepTime := 101
          recv := some { src := ⟨192, 0, 0, 1⟩, srcPort := 5351,
                         dst := ⟨10, 0, 0, 2⟩, payload := [0, 128] } }] := by
  refine only_aftr_answers littleHost household household_booted rfl (by decide) (by decide) (by decide)
    (by decide) (by decide) _ ⟨?_, ?_, ?_, trivial⟩
  · intro sock pkt noted received _
    obtain ⟨rfl, rfl⟩ := received.of_udp (s := { fd := 3, ipproto := .udp, state := .udp }) rfl rfl rfl
    rfl
  · intro sock pkt noted received lan
    obtain ⟨rfl, rfl⟩ := received.of_udp (s := { fd := 6, ipproto := .udp, state := .udp }) rfl rfl rfl
    exact absurd (.inl ⟨by decide, rfl⟩) lan.inward
  · intro sock pkt noted received lan
    obtain ⟨rfl, rfl⟩ := received.of_udp (s := { fd := 6, ipproto := .udp, state := .udp }) rfl rfl rfl
    exact absurd (.inl ⟨by decide, rfl⟩) lan.inward

end Portproxy.SharedSocket
