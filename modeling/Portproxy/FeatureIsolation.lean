import Portproxy.WanSide

/-! Extended NAT-PMP next to the other protocols. Its shim is meant to take what
comes in on its own two sockets. `handle_packet` asks for one of them only: with
the feature on, the shim takes every UDP packet but what `packet_wan_mcast` takes. -/
namespace Portproxy.FeatureIsolation
open StepMachine SocketRoles TurnSemantics RelayPairing WanSide

/-- The same process with extended NAT-PMP off. -/
def withoutExt (p : Proxy) : Proxy := { p with ctx := { p.ctx with enableNatPmpExt := 0 } }

/-- The sockets that belong to other features: SSDP on either side, and the
shared socket. -/
def OtherFeature (ctx : Context) (fd : Int) : Prop :=
  (ctx.enableUpnpUdp ≠ 0 ∧ fd = ctx.lanSsdpSock) ∨ FacesWan ctx fd

/-- The packet goes to the AFTR, encapsulated. -/
def Encapsulated (host : Host) (p : Proxy) (pkt : Pkt) (outcome : Outcome) : Prop :=
  ∃ call, .sent call ∈ outcome.events ∧ call.fd = p.ctx.natPmpExtSock ∧
    call.data = encapsulate host p.ctx pkt

/-- Both outcomes are the same, but for the feature being on or off. -/
structure SameHandling (outcome other : Outcome) : Prop where
  proxy : withoutExt outcome.proxy = other.proxy
  result : outcome.result = other.result
  events : outcome.events = other.events

/-- What handling a packet in this pass owes to the isolation of the feature. -/
structure Isolated (host : Host) (p : Proxy) (t : Turn) (pkt : Pkt) : Prop where
  encapsulated : Encapsulated host p pkt (handlePacket host t.sent t.addTime p pkt) ↔
    pkt.sock = p.ctx.natPmpLanSock
  untouched : OtherFeature p.ctx pkt.sock →
    SameHandling (handlePacket host t.sent t.addTime p pkt)
      (handlePacket host t.sent t.addTime (withoutExt p) pkt)

/-- The packets that the one comparison in `handle_packet` gets right: besides
what `packet_wan_mcast` takes, those from the AFTR, those of the shim's clients that
fit its buffer and, of the NAT-PMP socket beside it, those that do not. -/
def RightlyTaken (ctx : Context) (pkt : Pkt) : Prop :=
  if packetWanMcast ctx pkt then pkt.sock ≠ ctx.natPmpLanSock
  else pkt.sock = ctx.natPmpExtSock ∨ (pkt.sock = ctx.natPmpLanSock ∧ pkt.datalen ≤ 100) ∨
    (pkt.sock ≠ ctx.natPmpLanSock ∧ ¬ OtherFeature ctx pkt.sock ∧ 100 < pkt.datalen)

variable {host : Host} {p p₀ : Proxy} {t : Turn} {sock : Socket} {pkt : Pkt} {noted history : List Event}

/-! ## The sockets of the feature are its own -/

theorem ext_socks_apart (booted : Booted host p₀) (extended : p₀.ctx.enableNatPmpExt ≠ 0) :
    p₀.ctx.natPmpLanSock ≠ p₀.ctx.natPmpExtSock := by
  obtain ⟨natPmp, tcp₁, tcp₂, laid⟩ := booted_laid booted
  intro same
  have lan : (.extLan, p₀.ctx.natPmpLanSock) ∈ layout p₀.ctx natPmp tcp₁ tcp₂ :=
    mem_layout.mpr ⟨extended, rfl⟩
  have aftr : (.extAftr, p₀.ctx.natPmpLanSock) ∈ layout p₀.ctx natPmp tcp₁ tcp₂ :=
    mem_layout.mpr ⟨extended, same⟩
  cases laid.same_role lan aftr

theorem other_feature_role {ctx : Context} (natPmp tcp₁ tcp₂ : Int) (other : OtherFeature ctx fd) :
    (.ssdpLan, fd) ∈ layout ctx natPmp tcp₁ tcp₂ ∨ (.ssdpWan, fd) ∈ layout ctx natPmp tcp₁ tcp₂ ∨
      (.shared, fd) ∈ layout ctx natPmp tcp₁ tcp₂ := by
  rcases other with lan | shared | wan
  · exact .inl (mem_layout.mpr lan)
  · exact .inr (.inr (mem_layout.mpr shared))
  · exact .inr (.inl (mem_layout.mpr wan))

theorem other_feature_apart (booted : Booted host p₀) (extended : p₀.ctx.enableNatPmpExt ≠ 0)
    (other : OtherFeature p₀.ctx fd) : fd ≠ p₀.ctx.natPmpLanSock ∧ fd ≠ p₀.ctx.natPmpExtSock := by
  obtain ⟨natPmp, tcp₁, tcp₂, laid⟩ := booted_laid booted
  have roles := other_feature_role natPmp tcp₁ tcp₂ other
  constructor
  · rintro rfl
    have lan : (.extLan, p₀.ctx.natPmpLanSock) ∈ layout p₀.ctx natPmp tcp₁ tcp₂ :=
      mem_layout.mpr ⟨extended, rfl⟩
    rcases roles with role | role | role <;> cases laid.same_role lan role
  · rintro rfl
    have aftr : (.extAftr, p₀.ctx.natPmpExtSock) ∈ layout p₀.ctx natPmp tcp₁ tcp₂ :=
      mem_layout.mpr ⟨extended, rfl⟩
    rcases roles with role | role | role <;> cases laid.same_role aftr role

/-- No multicast from the WAN is sent to the AFTR. -/
theorem multicast_not_to_aftr (booted : Booted host p₀) (extended : p₀.ctx.enableNatPmpExt ≠ 0)
    (relaying : Relaying p₀ p history) (received : Receives p t sock pkt noted)
    (udp : pkt.proto = .udp) (wan : packetWanMcast p.ctx pkt = true) :
    p.ctx.lanSsdpSock ≠ p.ctx.natPmpExtSock := by
  obtain ⟨-, -, wanSock, lanSock, extSock, -⟩ := Context.of_settings relaying.settings
  obtain ⟨group, onWan⟩ := packet_wan_mcast_iff.mp wan
  rw [lanSock, extSock]
  by_cases enabled : p₀.ctx.enableUpnpUdp = 0
  · -- the packet itself came in on the socket, and IPv6 packets carry no group address
    obtain ⟨natPmp, tcp₁, tcp₂, laid⟩ := booted_laid booted
    intro same
    rw [booted_ssdp_unset booted enabled, ← wanSock, ← onWan, received.sock_eq] at same
    have aftr : (.extAftr, sock.fd) ∈ layout p₀.ctx natPmp tcp₁ tcp₂ := mem_layout.mpr ⟨extended, same⟩
    obtain ⟨role, listed, -, kind⟩ := laid.role_of (relaying.udp_socket received udp)
    obtain rfl := laid.same_role aftr listed
    cases received with
    | udp _ state => rw [state] at kind; cases kind
    | udp6 =>
      have unset : ({} : InAddr) ≠ mcast := by decide
      exact absurd group unset
    | tcp _ state => rw [state] at kind; cases kind
  · exact (other_feature_apart booted extended (.inl ⟨enabled, rfl⟩)).2

/-! ## One packet -/

/-- Without the feature every UDP packet is sent on. -/
private theorem classic_forwards (host : Host) (sent addTime : Int)
    (classic : p.ctx.enableNatPmpExt = 0) (udp : pkt.proto = .udp) :
    ∃ call, .sent call ∈ (handlePacket host sent addTime p pkt).events := by
  cases wan : packetWanMcast p.ctx pkt with
  | true => exact ⟨_, by rw [handle_multicast udp wan]; exact List.mem_singleton.mpr rfl⟩
  | false =>
    cases found : mappingFind p.ctx.mappings pkt with
    | some m => exact ⟨_, by rw [handle_response udp wan classic found]; exact List.mem_singleton.mpr rfl⟩
    | none =>
      exact ⟨_, by rw [handle_query udp wan classic found rfl]
                   exact List.mem_cons_of_mem _ (List.mem_singleton.mpr rfl)⟩

/-- A multicast from the WAN is handled as without the feature. -/
private theorem multicast_untouched (host : Host) (t : Turn) (udp : pkt.proto = .udp)
    (wan : packetWanMcast p.ctx pkt = true) :
    SameHandling (handlePacket host t.sent t.addTime p pkt)
      (handlePacket host t.sent t.addTime (withoutExt p) pkt) := by
  rw [handle_multicast udp wan, handle_multicast (p := withoutExt p) udp wan]
  exact ⟨rfl, rfl, rfl⟩

private theorem multicast_not_sent (host : Host) (t : Turn) (elsewhere : p.ctx.lanSsdpSock ≠ p.ctx.natPmpExtSock)
    (udp : pkt.proto = .udp) (wan : packetWanMcast p.ctx pkt = true) :
    ¬ Encapsulated host p pkt (handlePacket host t.sent t.addTime p pkt) := by
  rw [handle_multicast udp wan]
  rintro ⟨call, sent, toAftr, -⟩
  simp only [List.mem_singleton, Event.sent.injEq] at sent
  rw [sent] at toAftr
  exact elsewhere toAftr

/-- What comes from the AFTR does not go back there. -/
private theorem from_server_not_sent (host : Host) (t : Turn)
    (apart : p.ctx.natPmpLanSock ≠ p.ctx.natPmpExtSock) (enabled : p.ctx.enableNatPmpExt ≠ 0)
    (udp : pkt.proto = .udp) (wan : packetWanMcast p.ctx pkt = false)
    (server : pkt.sock = p.ctx.natPmpExtSock) :
    ¬ Encapsulated host p pkt (handlePacket host t.sent t.addTime p pkt) := by
  rw [handle_from_server udp wan enabled server]
  rintro ⟨call, sent, toAftr, -⟩
  rcases from_server_cases host t.sent p pkt with ⟨line, -, refused⟩ | ⟨-, -, -, passed⟩
  · simp [refused] at sent
  · rw [passed] at sent
    simp only [List.mem_singleton, Event.sent.injEq] at sent
    rw [sent] at toAftr
    exact apart toAftr

/-- Everything else goes to the AFTR if it fits the shim's buffer. What does not
is refused, though any other handler sends it on. -/
private theorem client_taken (host : Host) (t : Turn) (enabled : p.ctx.enableNatPmpExt ≠ 0)
    (udp : pkt.proto = .udp) (wan : packetWanMcast p.ctx pkt = false)
    (client : pkt.sock ≠ p.ctx.natPmpExtSock) :
    (100 < pkt.datalen ∧ ¬ Encapsulated host p pkt (handlePacket host t.sent t.addTime p pkt) ∧
        ¬ SameHandling (handlePacket host t.sent t.addTime p pkt)
          (handlePacket host t.sent t.addTime (withoutExt p) pkt)) ∨
      (pkt.datalen ≤ 100 ∧ Encapsulated host p pkt (handlePacket host t.sent t.addTime p pkt)) := by
  rw [handle_from_client udp wan enabled client]
  rcases from_client_cases host t.sent p pkt with ⟨long, refused⟩ | ⟨short, passed⟩
  · refine .inl ⟨long, ?_, ?_⟩
    · rintro ⟨call, sent, -⟩
      simp [refused] at sent
    · rintro ⟨-, -, events⟩
      obtain ⟨call, sent⟩ := classic_forwards host t.sent t.addTime (p := withoutExt p) rfl udp
      rw [← events, refused] at sent
      simp at sent
  · exact .inr ⟨short, _, by rw [passed]; exact List.mem_singleton.mpr rfl, rfl, rfl⟩

private theorem isolated_iff_rightly_taken (booted : Booted host p₀)
    (extended : p₀.ctx.enableNatPmpExt ≠ 0) (relaying : Relaying p₀ p history)
    (received : Receives p t sock pkt noted) (udp : pkt.proto = .udp) :
    Isolated host p t pkt ↔ RightlyTaken p.ctx pkt := by
  obtain ⟨config, -, -, ssdpSock, extSock, lanSock⟩ := Context.of_settings relaying.settings
  have enabled : p.ctx.enableNatPmpExt ≠ 0 := by
    rw [config]
    exact extended
  have apart : p.ctx.natPmpLanSock ≠ p.ctx.natPmpExtSock := by
    rw [lanSock, extSock]
    exact ext_socks_apart booted extended
  have others (other : OtherFeature p.ctx pkt.sock) :
      pkt.sock ≠ p.ctx.natPmpLanSock ∧ pkt.sock ≠ p.ctx.natPmpExtSock := by
    rw [OtherFeature, faces_wan_constant relaying, config, ssdpSock] at other
    rw [lanSock, extSock]
    exact other_feature_apart booted extended other
  unfold RightlyTaken
  cases wan : packetWanMcast p.ctx pkt with
  | true =>
    have notSent := multicast_not_sent host t
      (multicast_not_to_aftr booted extended relaying received udp wan) udp wan
    rw [if_pos rfl]
    constructor
    · exact fun isolated onLan => notSent (isolated.encapsulated.mpr onLan)
    · exact fun notLan => ⟨iff_of_false notSent notLan, fun _ => multicast_untouched host t udp wan⟩
  | false =>
    rw [if_neg Bool.false_ne_true]
    by_cases server : pkt.sock = p.ctx.natPmpExtSock
    · have notSent := from_server_not_sent host t apart enabled udp wan server
      refine iff_of_true ⟨iff_of_false notSent ?_, fun other => absurd server (others other).2⟩ (.inl server)
      rw [server]
      exact apart.symm
    · rcases client_taken host t enabled udp wan server with ⟨long, notSent, differs⟩ | ⟨short, sent⟩
      · constructor
        · intro isolated
          exact .inr (.inr ⟨fun onLan => notSent (isolated.encapsulated.mpr onLan),
            fun other => differs (isolated.untouched other), long⟩)
        · rintro (aftr | ⟨-, short⟩ | ⟨notLan, notOther, -⟩)
          · exact absurd aftr server
          · omega
          · exact ⟨iff_of_false notSent notLan, fun other => absurd other notOther⟩
      · constructor
        · exact fun isolated => .inr (.inl ⟨isolated.encapsulated.mp sent, short⟩)
        · rintro (aftr | ⟨onLan, -⟩ | ⟨-, -, long⟩)
          · exact absurd aftr server
          · exact ⟨iff_of_true sent onLan, fun other => absurd onLan (others other).1⟩
          · omega

/-- In every step of every run with extended NAT-PMP on, the feature keeps to
its own sockets for a UDP packet exactly when the packet is one of those that
`handle_packet` takes rightly. -/
theorem isolated_exactly_when_rightly_taken (host : Host) (p₀ : Proxy) (booted : Booted host p₀)
    (extended : p₀.ctx.enableNatPmpExt ≠ 0) (turns : List Turn) :
    (run host).Along (fun p t => ∀ sock pkt noted, Receives p t sock pkt noted → pkt.proto = .udp →
      (Isolated host p t pkt ↔ RightlyTaken p.ctx pkt)) p₀ turns :=
  (run host).along_of_invariant_any (fun p => ∃ history, Relaying p₀ p history)
    (fun _ _ ⟨_, relaying⟩ => ⟨_, relaying.run_turn⟩)
    (fun _ _ ⟨_, relaying⟩ _ _ _ received udp =>
      isolated_iff_rightly_taken booted extended relaying received udp)
    ⟨[], fresh_relaying (booted_fresh booted)⟩ turns

/-- A client of the shim, whose packet is taken rightly, and a host on the WAN. -/
theorem both_modes_isolated_when_rightly_taken :
    (run littleHost).Along (fun p t => ∀ sock pkt noted, Receives p t sock pkt noted → pkt.proto = .udp →
      (Isolated littleHost p t pkt ↔ RightlyTaken p.ctx pkt)) bothModes [
        { ready := [3], sent := 14
          recv := some { src := ⟨192, 168, 1, 7⟩, srcPort := 4000,
                         dst := ⟨192, 168, 1, 1⟩, payload := [0, 0] } },
        { ready := [6], sent := 13
          recv := some { src := ⟨203, 0, 113, 9⟩, srcPort := 9, dst := ⟨10, 0, 0, 2⟩, payload := [0] } }] :=
  isolated_exactly_when_rightly_taken littleHost bothModes both_modes_booted (by decide) _

/-- A datagram from the WAN that arrives at the shared socket is encapsulated
and sent to the AFTR. -/
theorem shared_socket_encapsulated :
    sanityCheck bothStart.ctx.toConfig ≠ 0 ∧
      ¬ (run littleHost).Along (fun p t => ∀ sock pkt noted, Receives p t sock pkt noted →
        pkt.proto = .udp → Isolated littleHost p t pkt) bothModes [
          { ready := [6], sent := 13
            recv := some { src := ⟨203, 0, 113, 9⟩, srcPort := 9,
                           dst := ⟨10, 0, 0, 2⟩, payload := [0] } }] := by
  refine ⟨by decide, ?_⟩
  rintro ⟨isolated, -⟩
  have here := isolated { fd := 6, ipproto := .udp, state := .udp } _ _ (.udp rfl rfl rfl) rfl
  exact absurd (here.encapsulated.mp ⟨_, List.mem_singleton.mpr rfl, rfl, rfl⟩) (by decide)

end Portproxy.FeatureIsolation
