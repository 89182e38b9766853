import Portproxy.CommandLine
import Portproxy.SharedSocket

/-! Where the proxy sends. Every descriptor that is passed to `send` or `sendto`
is meant to be the one of a socket on the list. With a single exception it is:
queries go out of the shared socket also where `--shared-udp-sock 0` has kept it
from being opened. -/
namespace Portproxy.LiveSends
open StepMachine OptionVector SocketRoles TurnSemantics RelayPairing

/-- What handling a received packet sends goes to sockets on the list. -/
def SendsLive (host : Host) (p : Proxy) (t : Turn) : Prop :=
  ∀ sock pkt noted, Receives p t sock pkt noted → ∀ call,
    .sent call ∈ (handlePacket host t.sent t.addTime p pkt).events → call.fd ∈ p.ctx.fds

/-- The packet becomes a query. -/
structure BecomesQuery (p : Proxy) (pkt : Pkt) : Prop where
  udp : pkt.proto = .udp
  notWan : packetWanMcast p.ctx pkt = false
  classic : p.ctx.enableNatPmpExt = 0
  unmatched : mappingFind p.ctx.mappings pkt = none

/-- For a query there is a shared socket; without one its field is zero, which
may by chance be the descriptor of another socket. -/
def QueriesHaveSocket (p : Proxy) (t : Turn) : Prop :=
  ∀ sock pkt noted, Receives p t sock pkt noted → BecomesQuery p pkt →
    p.ctx.sharedUdpSock ≠ 0 ∨ 0 ∈ p.ctx.fds

variable {host : Host} {p p₀ : Proxy} {t : Turn} {sock : Socket} {pkt : Pkt} {noted history : List Event}

/-- A run from the start `p₀`: replies go out of sockets of the start. -/
structure Serving (p₀ p : Proxy) : Prop where
  relaying : ∃ history, Relaying p₀ p history
  nodes : Nodes p
  lanSocks : ∀ m ∈ p.ctx.mappings, m.lanSock ∈ p₀.ctx.fds

theorem run_turn_serving (host : Host) (t : Turn) (serving : Serving p₀ p) :
    Serving p₀ (runTurn host p t).1 := by
  obtain ⟨history, relaying⟩ := serving.relaying
  refine ⟨⟨_, relaying.run_turn⟩, run_turn_nodes host t serving.nodes, ?_⟩
  intro m member
  obtain ⟨-, old | ⟨sock, pkt, noted, received, udp, -, -, rfl⟩⟩ := run_turn_origin host t serving.nodes member
  · exact serving.lanSocks m old
  · change pkt.sock ∈ p₀.ctx.fds
    rw [received.sock_eq]
    exact List.mem_map_of_mem (relaying.udp_socket received udp)

/-- The sockets of the start are live for good. -/
theorem start_live (relaying : Relaying p₀ p history) (first : fd ∈ p₀.ctx.fds) : fd ∈ p.ctx.fds := by
  obtain ⟨s, member, rfl⟩ := List.mem_map.mp first
  exact List.mem_map_of_mem ((relaying.first_sockets s).mp member).1

/-- A descriptor the start laid out is one of a socket. -/
theorem laid_live (laid : Laid opened p) (role : Role) (listed : (role, fd) ∈ opened) : fd ∈ p.ctx.fds := by
  rw [laid.fds]
  exact List.mem_map_of_mem (f := Prod.snd) listed

/-- The socket that multicasts from the WAN are passed on to is live. Without
uPNP (UDP) it is the one the packet came in on. -/
theorem multicast_live (booted : Booted host p₀) (relaying : Relaying p₀ p history)
    (received : Receives p t sock pkt noted) (wan : packetWanMcast p.ctx pkt = true) :
    p.ctx.lanSsdpSock ∈ p.ctx.fds := by
  obtain ⟨-, -, wanSock, lanSock, -⟩ := Context.of_settings relaying.settings
  by_cases enabled : p₀.ctx.enableUpnpUdp = 0
  · rw [lanSock, booted_ssdp_unset booted enabled, ← wanSock, ← (packet_wan_mcast_iff.mp wan).2,
      received.sock_eq]
    exact List.mem_map_of_mem received.member
  · obtain ⟨natPmp, tcp₁, tcp₂, laid⟩ := booted_laid booted
    rw [lanSock]
    exact start_live relaying (laid_live laid .ssdpLan (mem_layout.mpr ⟨enabled, rfl⟩))

/-- The sockets of extended NAT-PMP are live if it is on. -/
theorem ext_live (booted : Booted host p₀) (relaying : Relaying p₀ p history)
    (extended : p.ctx.enableNatPmpExt ≠ 0) :
    p.ctx.natPmpExtSock ∈ p.ctx.fds ∧ p.ctx.natPmpLanSock ∈ p.ctx.fds := by
  obtain ⟨config, -, -, -, extSock, lanSock⟩ := Context.of_settings relaying.settings
  obtain ⟨natPmp, tcp₁, tcp₂, laid⟩ := booted_laid booted
  rw [config] at extended
  rw [extSock, lanSock]
  exact ⟨start_live relaying (laid_live laid .extAftr (mem_layout.mpr ⟨extended, rfl⟩)),
    start_live relaying (laid_live laid .extLan (mem_layout.mpr ⟨extended, rfl⟩))⟩

/-- The field that queries are sent through names a live socket exactly if one
is shared, or descriptor 0 is one. -/
theorem shared_live_iff (booted : Booted host p₀) (relaying : Relaying p₀ p history)
    (received : Receives p t sock pkt noted) (query : BecomesQuery p pkt) :
    p.ctx.sharedUdpSockFd ∈ p.ctx.fds ↔ p.ctx.sharedUdpSock ≠ 0 ∨ 0 ∈ p.ctx.fds := by
  obtain ⟨config, sharedFd, -⟩ := Context.of_settings relaying.settings
  obtain ⟨natPmp, tcp₁, tcp₂, laid⟩ := booted_laid booted
  by_cases shares : p₀.ctx.sharesSocket
  · have live := start_live relaying (laid_live laid .shared (mem_layout.mpr ⟨shares, rfl⟩))
    rw [sharedFd, config]
    exact iff_of_true live (.inl shares.1)
  · have off : p₀.ctx.sharedUdpSock = 0 := by
      by_contra on
      have classic : p₀.ctx.enableNatPmpExt = 0 := config ▸ query.classic
      exact shares (SharedSocket.udp_packet booted classic on relaying received query.udp).2.1
    rw [sharedFd, booted_shared_unset booted shares, config]
    exact ⟨.inr, fun has => has.resolve_left (not_not.mpr off)⟩

private theorem sends_live_step (booted : Booted host p₀) (serving : Serving p₀ p) :
    SendsLive host p t ↔ QueriesHaveSocket p t := by
  obtain ⟨history, relaying⟩ := serving.relaying
  refine forall₄_congr fun sock pkt noted received => ?_
  by_cases query : BecomesQuery p pkt
  · have live := shared_live_iff booted relaying received query
    rw [handle_query query.udp query.notWan query.classic query.unmatched rfl]
    constructor
    · intro sends _
      exact live.mp (sends _ (List.mem_cons_of_mem _ (List.mem_singleton.mpr rfl)))
    · intro has call sent
      simp only [List.mem_cons, reduceCtorEq, List.not_mem_nil, or_false, false_or, Event.sent.injEq] at sent
      rw [sent]
      exact live.mpr (has query)
  · refine iff_of_true (fun call sent => ?_) fun isQuery => absurd isQuery query
    have forwards := handle_packet_forwards sent
    cases forwards with
    | relays _ _ peer => exact List.mem_map_of_mem (List.mem_of_find?_eq_some peer)
    | multicasts _ wan => exact multicast_live booted relaying received wan
    | fromServer _ _ extended => exact (ext_live booted relaying extended).2
    | fromClient _ _ extended => exact (ext_live booted relaying extended).1
    | responds _ _ _ found => exact start_live relaying (serving.lanSocks _ (mapping_find_some found).1)
    | queries udp notWan classic unmatched => exact absurd ⟨udp, notWan, classic, unmatched⟩ query

/-- In every run from a successful start, after however many attempts, all
sends go to live sockets exactly as long as there is a socket for every query. -/
theorem sends_live_iff (host : Host) (p₀ : Proxy) (booted : Booted host p₀) (turns : List Turn) :
    (run host).Along (SendsLive host) p₀ turns ↔ (run host).Along QueriesHaveSocket p₀ turns := by
  have fresh := booted_fresh booted
  have initially : Serving p₀ p₀ :=
    ⟨⟨[], fresh_relaying fresh⟩, no_nodes fresh.mappings, by simp [fresh.mappings]⟩
  exact (run host).along_iff_of_invariant (Serving p₀) (fun _ _ serving => sends_live_step booted serving)
    (fun _ t serving _ => run_turn_serving host t serving) initially turns

/-- A client's query in the household goes out of the shared socket. -/
theorem household_sends_live :
    (run littleHost).Along (SendsLive littleHost) household [
      { ready := [3], sent := 2, addTime := 100, sweepTime := 100
        recv := some { src := ⟨192, 168, 1, 7⟩, srcPort := 4000,
                       dst := ⟨192, 168, 1, 1⟩, payload := [0, 0] } }] :=
  (sends_live_iff littleHost household household_booted _).mpr ⟨fun _ _ _ _ _ => .inl (by decide), trivial⟩

/-! ## Without a shared socket -/

/-- The command line `portproxy --nat-pmp 1 --nat-pmp-ext 0 --shared-udp-sock 0`. -/
def unsharedArgs : List CString :=
  [cstr "--nat-pmp", cstr "1", cstr "--nat-pmp-ext", cstr "0", cstr "--shared-udp-sock", cstr "0"]

def unsharedLine : CommandLine :=
  { ctxDefaults {} with enableNatPmp := 1, enableNatPmpExt := 0, sharedUdpSock := 0 }

/-- The only socket is the one for NAT-PMP, on descriptor 3. -/
def unsharedAnswers : BindAnswers := { natPmp := { socket := some 3 } }

def unshared : Proxy :=
  match socketsBind littleHost unsharedAnswers { ctx := { toConfig := unsharedLine.toConfig } } with
  | .done _ p => p
  | _ => {}

theorem unshared_booted : Booted littleHost unshared :=
  ⟨unsharedLine.toConfig, {}, [unsharedAnswers], rfl⟩

/-- A client's query is sent to descriptor 0, the standard input. -/
theorem unshared_query_sent_astray :
    mainBinds {} unsharedArgs = some unsharedLine ∧ unshared.ctx.toConfig = unsharedLine.toConfig ∧
      Booted littleHost unshared ∧
      ¬ (run littleHost).Along (SendsLive littleHost) unshared [
        { ready := [3], sent := 2, addTime := 100, sweepTime := 100
          recv := some { src := ⟨192, 168, 1, 7⟩, srcPort := 4000,
                         dst := ⟨192, 168, 1, 1⟩, payload := [0, 0] } }] := by
  refine ⟨by decide, rfl, unshared_booted, ?_⟩
  rintro ⟨live, -⟩
  have listed : (0 : Int) ∈ unshared.ctx.fds :=
    live { fd := 3, ipproto := .udp, state := .udp } _ _ (.udp rfl rfl rfl) _
      (List.mem_cons_of_mem _ (List.mem_singleton.mpr rfl))
  exact absurd listed (by decide)

end Portproxy.LiveSends
