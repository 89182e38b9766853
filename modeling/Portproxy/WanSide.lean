import Portproxy.RelayPairing

/-! Datagrams from the WAN. What comes in on a WAN-side socket is meant to be
delivered to the LAN or dropped. The proxy keeps to that for datagrams that
match a mapping and for those that `packet_wan_mcast` takes, and for no others:
`packet_valid` lets everything else become a query. -/
namespace Portproxy.WanSide
open StepMachine SocketRoles TurnSemantics RelayPairing

/-- The descriptors `sockets_bind` opened towards the WAN. -/
def FacesWan (ctx : Context) (fd : Int) : Prop :=
  (ctx.sharesSocket ∧ fd = ctx.sharedUdpSockFd) ∨ (ctx.enableUpnpUdp ≠ 0 ∧ fd = ctx.wanSsdpSock)

instance (ctx : Context) (fd : Int) : Decidable (FacesWan ctx fd) :=
  inferInstanceAs (Decidable (_ ∨ _))

/-- What `packet_wan_mcast` takes while uPNP (UDP) is on: what was received on the
WAN's socket for SSDP and sent to the constant of the source, 250.255.255.239. -/
def WanMulticast (ctx : Context) (pkt : Pkt) : Prop :=
  ctx.enableUpnpUdp ≠ 0 ∧ pkt.sock = ctx.wanSsdpSock ∧ pkt.dstIP = mcast

/-- What `handle_packet` may do with a datagram from the WAN: nothing leaves
towards the WAN and no mapping is added; the datagram is delivered to the LAN,
by a mapping it matches or as such a multicast, or nothing happens at all. -/
structure Contained (p : Proxy) (pkt : Pkt) (outcome : Outcome) : Prop where
  inward : ∀ call, .sent call ∈ outcome.events → ¬ FacesWan p.ctx call.fd
  unadded : ∀ m, .added m ∉ outcome.events
  delivered_or_dropped :
    (∃ m ∈ p.ctx.mappings, mappingMatches pkt m = true ∧
      ∃ call, .sent call ∈ outcome.events ∧ call.caller = .response m) ∨
    (WanMulticast p.ctx pkt ∧ ∃ call, .sent call ∈ outcome.events ∧ call.caller = .multicast) ∨
    ((∀ call, .sent call ∉ outcome.events) ∧ outcome.proxy.ctx.mappings = p.ctx.mappings)

/-- A pass contains what it receives from the WAN. -/
def Contains (host : Host) (p : Proxy) (t : Turn) : Prop :=
  ∀ sock pkt noted, Receives p t sock pkt noted → pkt.proto = .udp → FacesWan p.ctx pkt.sock →
    Contained p pkt (handlePacket host t.sent t.addTime p pkt)

/-- A pass receives nothing from the WAN but what `packet_wan_mcast` takes and
datagrams that match a mapping. -/
def Expected (p : Proxy) (t : Turn) : Prop :=
  ∀ sock pkt noted, Receives p t sock pkt noted → pkt.proto = .udp → FacesWan p.ctx pkt.sock →
    WanMulticast p.ctx pkt ∨
      (packetWanMcast p.ctx pkt = false ∧ ∃ m ∈ p.ctx.mappings, mappingMatches pkt m = true)

variable {host : Host} {p p₀ : Proxy} {t : Turn} {pkt : Pkt} {history : List Event}

theorem faces_wan_constant (relaying : Relaying p₀ p history) (fd : Int) :
    FacesWan p.ctx fd ↔ FacesWan p₀.ctx fd := by
  change FacesWan p.ctx.settings fd ↔ FacesWan p₀.ctx.settings fd
  rw [relaying.settings]

/-- The LAN side of SSDP is another socket than any on the WAN side. -/
theorem lan_ssdp_faces_lan (booted : Booted host p₀) (enabled : p₀.ctx.enableUpnpUdp ≠ 0) :
    ¬ FacesWan p₀.ctx p₀.ctx.lanSsdpSock := by
  obtain ⟨natPmp, tcp₁, tcp₂, laid⟩ := booted_laid booted
  have lan : (.ssdpLan, p₀.ctx.lanSsdpSock) ∈ layout p₀.ctx natPmp tcp₁ tcp₂ :=
    mem_layout.mpr ⟨enabled, rfl⟩
  rintro (shared | wan)
  · cases laid.same_role lan (mem_layout.mpr shared : (.shared, _) ∈ _)
  · cases laid.same_role lan (mem_layout.mpr wan : (.ssdpWan, _) ∈ _)

/-- The mapping list of a run that only met expected datagrams: every reply
goes to the LAN. -/
structure Inward (p₀ p : Proxy) : Prop where
  relaying : ∃ history, Relaying p₀ p history
  nodes : Nodes p
  inward : ∀ m ∈ p.ctx.mappings, ¬ FacesWan p₀.ctx m.lanSock

private theorem contains_iff_expected (booted : Booted host p₀) (classic : p₀.ctx.enableNatPmpExt = 0)
    (inward : Inward p₀ p) : Contains host p t ↔ Expected p t := by
  obtain ⟨history, relaying⟩ := inward.relaying
  have settings := relaying.settings
  have classic : p.ctx.enableNatPmpExt = 0 := by
    change p.ctx.settings.enableNatPmpExt = 0
    rw [settings]
    exact classic
  refine forall₃_congr fun sock pkt noted => forall₃_congr fun received udp wan => ?_
  by_cases wanMcast : packetWanMcast p.ctx pkt = true
  · rw [handle_multicast udp wanMcast]
    constructor
    · intro contained
      rcases contained.delivered_or_dropped with ⟨_, _, _, call, sent, response⟩ | ⟨ssdp, -⟩ | ⟨none, -⟩
      · simp only [List.mem_singleton, Event.sent.injEq] at sent
        rw [sent] at response
        cases response
      · exact .inl ssdp
      · exact absurd (List.mem_singleton.mpr rfl) (none _)
    · rintro (ssdp | ⟨notMcast, -⟩)
      · refine ⟨?_, by simp, .inr (.inl ⟨ssdp, _, List.mem_singleton.mpr rfl, rfl⟩)⟩
        intro call sent
        simp only [List.mem_singleton, Event.sent.injEq] at sent
        obtain ⟨config, -, -, same, -⟩ := Context.of_settings settings
        have enabled : p.ctx.enableUpnpUdp = p₀.ctx.enableUpnpUdp := congrArg Config.enableUpnpUdp config
        rw [sent, faces_wan_constant relaying]
        change ¬ FacesWan p₀.ctx p.ctx.lanSsdpSock
        rw [same]
        exact lan_ssdp_faces_lan booted (enabled ▸ ssdp.1)
      · rw [wanMcast] at notMcast
        cases notMcast
  · have notWan : packetWanMcast p.ctx pkt = false := by simpa using wanMcast
    cases found : mappingFind p.ctx.mappings pkt with
    | some m =>
      have known := mapping_find_some found
      rw [handle_response udp notWan classic found]
      refine iff_of_true ⟨?_, by simp, .inl ⟨m, known.1, known.2, _, List.mem_singleton.mpr rfl, rfl⟩⟩
        (.inr ⟨notWan, m, known⟩)
      intro call sent
      simp only [List.mem_singleton, Event.sent.injEq] at sent
      rw [sent, faces_wan_constant relaying]
      exact inward.inward m known.1
    | none =>
      rw [handle_query udp notWan classic found rfl]
      refine iff_of_false (fun contained => contained.unadded _ List.mem_cons_self) ?_
      rintro (⟨-, onWan, group⟩ | ⟨-, m, listed, hit⟩)
      · exact wanMcast (packet_wan_mcast_iff.mpr ⟨group, onWan⟩)
      · rw [mapping_find_none.mp found m listed] at hit
        cases hit

private theorem expected_inward (expected : Expected p t) (inward : Inward p₀ p) :
    Inward p₀ (runTurn host p t).1 := by
  obtain ⟨history, relaying⟩ := inward.relaying
  refine ⟨⟨_, relaying.run_turn⟩, run_turn_nodes host t inward.nodes, ?_⟩
  intro m member
  obtain ⟨-, old | ⟨sock, pkt, noted, received, udp, notWan, unmatched, rfl⟩⟩ :=
    run_turn_origin host t inward.nodes member
  · exact inward.inward m old
  · change ¬ FacesWan p₀.ctx pkt.sock
    rw [← faces_wan_constant relaying]
    intro wan
    rcases expected sock pkt noted received udp wan with ⟨-, onWan, group⟩ | ⟨-, m, listed, hit⟩
    · rw [packet_wan_mcast_iff.mpr ⟨group, onWan⟩] at notWan
      cases notWan
    · rw [mapping_find_none.mp unmatched m listed] at hit
      cases hit

/-- In a run from a successful start without extended NAT-PMP, what comes from
the WAN is contained exactly as long as `packet_wan_mcast` takes it, as sent to
250.255.255.239, or it matches a mapping. What was sent to the group of SSDP,
239.255.255.250, has to match one too. -/
theorem wan_contained_iff_expected (host : Host) (p₀ : Proxy) (booted : Booted host p₀)
    (classic : p₀.ctx.enableNatPmpExt = 0) (turns : List Turn) :
    (run host).Along (Contains host) p₀ turns ↔ (run host).Along Expected p₀ turns := by
  have fresh := booted_fresh booted
  have initially : Inward p₀ p₀ :=
    ⟨⟨[], fresh_relaying fresh⟩, no_nodes fresh.mappings, by simp [fresh.mappings]⟩
  exact (run host).along_iff_of_invariant (Inward p₀)
    (fun _ _ inward => contains_iff_expected booted classic inward)
    (fun _ _ inward expected => expected_inward expected inward) initially turns

/-- A client asks and gets its answer from the WAN. -/
theorem household_reply_contained :
    (run littleHost).Along (Contains littleHost) household [
      { ready := [3], sent := 2, addTime := 100, sweepTime := 100
        recv := some { src := ⟨192, 168, 1, 7⟩, srcPort := 4000, dst := ⟨192, 168, 1, 1⟩, payload := [0, 0] } },
      { ready := [6], sent := 4, addTime := 101, sweepTime := 101
        recv := some { src := ⟨192, 0, 0, 1⟩, srcPort := 5351,
                       dst := ⟨10, 0, 0, 2⟩, payload := [0, 128] } }] := by
  refine (wan_contained_iff_expected littleHost household household_booted rfl _).mpr ⟨?_, ?_, trivial⟩
  · intro sock pkt noted received _ wan
    obtain ⟨rfl, rfl⟩ := received.of_udp (s := { fd := 3, ipproto := .udp, state := .udp }) rfl rfl rfl
    exact absurd wan (by decide)
  · intro sock pkt noted received _ _
    obtain ⟨rfl, rfl⟩ := received.of_udp (s := { fd := 6, ipproto := .udp, state := .udp }) rfl rfl rfl
    exact .inr (by decide)

/-- A datagram nobody asked for is turned into a query: a mapping is added, and
it goes back out of the socket it came in on. -/
theorem unsolicited_datagram_forwarded :
    ¬ (run littleHost).Along (Contains littleHost) household [
      { ready := [6], sent := 1, addTime := 100, sweepTime := 100
        recv := some { src := ⟨203, 0, 113, 9⟩, srcPort := 9, dst := ⟨10, 0, 0, 2⟩, payload := [0] } }] := by
  rintro ⟨contains, -⟩
  have contained := contains { fd := 6, ipproto := .udp, state := .udp } _ _ (.udp rfl rfl rfl) rfl
    (.inl ⟨by decide, rfl⟩)
  exact contained.unadded _ List.mem_cons_self

end Portproxy.WanSide
