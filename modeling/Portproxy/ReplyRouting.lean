import Mathlib.Data.List.Find
import Portproxy.Conservation
import Portproxy.SharedSocket

/-! Which client gets the AFTR's replies. The AFTR answers the queries in the
order it received them; the proxy gives a reply to the newest query that waits
for the router port. The two agree as long as the newest query is one of the
client the reply is for. -/
namespace Portproxy.ReplyRouting
open StepMachine SocketRoles TurnSemantics RelayPairing WanSide SharedSocket Conservation

/-- One pass of the loop with the AFTR's part in it: the time at which the
packet of the pass is handled and, if this packet is an answer of the AFTR,
which of the waiting queries it answers. -/
structure Exchange where
  turn : Turn
  now : Int := 0
  answered : Option Nat := none
  deriving DecidableEq, Repr

/-- The mapping of a query that went to the AFTR for a client on the LAN. -/
def forwardedBy (ctx : Context) : Event → Option Mapping
  | .sent call =>
    match call.caller with
    | .query m => if 0 ≤ call.result ∧ ¬ FacesWan ctx m.lanSock then some m else none
    | _ => none
  | _ => none

/-- The proxy and the queries that wait at the AFTR, oldest first. An answer to
one of them gives up those before it. -/
def exchange (host : Host) : Machine (Proxy × List Mapping) Exchange Event where
  step s x :=
    let turned := runTurn host s.1 x.turn
    let waiting := match x.answered with
      | some k => s.2.drop (k + 1)
      | none => s.2
    ((turned.1, waiting ++ turned.2.filterMap (forwardedBy s.1.ctx)), turned.2)

/-- The packet is the reply that the AFTR made for the query of this mapping. -/
structure ReplyTo (ctx : Context) (q : Mapping) (pkt : Pkt) : Prop where
  proto : pkt.proto = .udp
  sock : pkt.sock = ctx.sharedUdpSockFd
  srcIP : pkt.srcIP = ctx.aftrIPv4
  srcPort : pkt.srcPort = q.routerPort
  dstIP : pkt.dstIP = q.wanIP
  dstPort : pkt.dstPort = q.wanPort

/-- In this pass the AFTR's reply to the waiting query `q` is handled, before
the mapping of `q` expires. -/
structure Answers (s : Proxy × List Mapping) (x : Exchange) (q : Mapping) (pkt : Pkt) : Prop where
  received : ∃ sock noted, Receives s.1 x.turn sock pkt noted
  waiting : ∃ k, x.answered = some k ∧ s.2[k]? = some q
  reply : ReplyTo s.1.ctx q pkt
  inTime : s.1.kernel.clock ≤ x.now ∧ x.now < q.timeout

def sends (events : List Event) : List Send :=
  events.filterMap fun
    | .sent call => some call
    | _ => none

/-- One datagram is sent: this packet's data, to the client of the query, over
the socket its query came in on. -/
def Reaches (q : Mapping) (pkt : Pkt) (outcome : Outcome) : Prop :=
  ∃ call, sends outcome.events = [call] ∧ call.fd = q.lanSock ∧
    call.dest = some (q.clientIP, uint16 q.clientPort) ∧ call.data = pkt.data

/-- A reply handled in this pass reaches the client that asked. -/
def Delivered (host : Host) (s : Proxy × List Mapping) (x : Exchange) : Prop :=
  ∀ q pkt, Answers s x q pkt → Reaches q pkt (handlePacket host x.turn.sent x.turn.addTime s.1 pkt)

/-- When a reply is handled, the newest mapping that waits for its router port
is one of the same client endpoint, and the reply is not taken for a multicast. -/
def Unmistaken (s : Proxy × List Mapping) (x : Exchange) : Prop :=
  ∀ q pkt, Answers s x q pkt → packetWanMcast s.1.ctx pkt = false ∧
    ∃ m, s.1.ctx.mappings.find? (·.routerPort = q.routerPort) = some m ∧ endpoint m = endpoint q

/-! ## One pass -/

private theorem forwarded_by_some (made : forwardedBy ctx event = some m) :
    ∃ call, event = .sent call ∧ call.caller = .query m ∧ ¬ FacesWan ctx m.lanSock := by
  unfold forwardedBy at made
  split at made
  · rename_i call
    split at made
    · rename_i caller
      split at made
      · rename_i passed
        cases made
        exact ⟨call, rfl, caller, passed.2⟩
      · cases made
    · cases made
  · cases made

variable {host : Host} {p p₀ : Proxy} {t : Turn} {sock : Socket} {pkt : Pkt} {m q : Mapping}
  {noted history : List Event} {waiting : List Mapping}

/-- All mappings share one WAN socket, so a reply differs from the replies to
other queries in its router port at most. -/
theorem reply_found_by_port (origins : ∀ m ∈ p.ctx.mappings, Origin p₀ m) (asked : Origin p₀ q)
    (aftr : p.ctx.aftrIPv4 = p₀.ctx.aftrIPv4) (reply : ReplyTo p.ctx q pkt) :
    mappingFind p.ctx.mappings pkt = p.ctx.mappings.find? (·.routerPort = q.routerPort) := by
  have same : ∀ m ∈ p.ctx.mappings, mappingMatches pkt m = decide (m.routerPort = q.routerPort) := by
    intro m member
    have origin := origins m member
    have source : m.aftrIPv4 = mcast ∨ pkt.srcIP = m.aftrIPv4 := by
      rw [origin.aftrIPv4, reply.srcIP, aftr]
      by_cases group : m.lanIP = mcast <;> simp [group]
    apply Bool.eq_iff_iff.mpr
    rw [mapping_matches_iff, decide_eq_true_iff, reply.srcPort, reply.dstIP, reply.dstPort, reply.proto,
      asked.wanIP, asked.wanPort, origin.wanIP, origin.wanPort, origin.proto]
    simp [source, eq_comm (a := q.routerPort)]
  exact List.find?_congr same

/-- No multicast from the WAN goes out of a socket towards the LAN for a packet
that came in on the shared socket. -/
private theorem multicast_misses (booted : Booted host p₀) (settings : p.ctx.settings = p₀.ctx.settings)
    (shares : p₀.ctx.sharesSocket) (received : pkt.sock = p.ctx.sharedUdpSockFd)
    (wan : packetWanMcast p.ctx pkt = true) : p.ctx.lanSsdpSock = p₀.ctx.sharedUdpSockFd := by
  obtain ⟨-, sharedFd, wanSock, lanSock, -⟩ := Context.of_settings settings
  have both : p₀.ctx.sharedUdpSockFd = p₀.ctx.wanSsdpSock := by
    rw [← sharedFd, ← wanSock, ← received]
    exact (packet_wan_mcast_iff.mp wan).2
  by_cases enabled : p₀.ctx.enableUpnpUdp = 0
  · rw [lanSock, booted_ssdp_unset booted enabled, both]
  · obtain ⟨natPmp, tcp₁, tcp₂, laid⟩ := booted_laid booted
    have sharedRole : (.shared, p₀.ctx.sharedUdpSockFd) ∈ layout p₀.ctx natPmp tcp₁ tcp₂ :=
      mem_layout.mpr ⟨shares, rfl⟩
    have wanRole : (.ssdpWan, p₀.ctx.sharedUdpSockFd) ∈ layout p₀.ctx natPmp tcp₁ tcp₂ :=
      mem_layout.mpr ⟨enabled, both⟩
    cases laid.same_role sharedRole wanRole

/-- What a run of the proxy with its AFTR keeps: every query that waits came
from a socket towards the LAN. -/
structure Routed (p₀ : Proxy) (s : Proxy × List Mapping) : Prop where
  sharing : Sharing p₀ s.1
  waiting : ∀ q ∈ s.2, Origin p₀ q ∧ ¬ FacesWan p₀.ctx q.lanSock

section Run
variable (booted : Booted host p₀) (classic : p₀.ctx.enableNatPmpExt = 0)
  (shared : p₀.ctx.sharedUdpSock ≠ 0)
include booted classic shared

private theorem forwarded_routed (sharing : Sharing p₀ p)
    (forwarded : q ∈ (runTurn host p t).2.filterMap (forwardedBy p.ctx)) :
    Origin p₀ q ∧ ¬ FacesWan p₀.ctx q.lanSock := by
  obtain ⟨history, relaying⟩ := sharing.relaying
  obtain ⟨event, emitted, made⟩ := List.mem_filterMap.mp forwarded
  obtain ⟨call, rfl, caller, onLan⟩ := forwarded_by_some made
  obtain ⟨sock, pkt, noted, received, sent⟩ := run_turn_sends emitted
  have forwards := handle_packet_forwards sent
  cases forwards with
  | @queries m udp _ _ _ created =>
    cases caller
    refine ⟨created ▸ created_origin booted classic shared relaying received udp t.addTime, ?_⟩
    rw [← faces_wan_constant relaying]
    exact onLan
  | _ => cases caller

private theorem exchange_routed (s : Proxy × List Mapping) (x : Exchange) (routed : Routed p₀ s) :
    Routed p₀ ((exchange host).step s x).1 := by
  refine ⟨run_turn_sharing host x.turn booted classic shared routed.sharing, ?_⟩
  intro q member
  rcases List.mem_append.mp member with old | new
  · refine routed.waiting q ?_
    cases answered : x.answered with
    | none => simpa [answered] using old
    | some k =>
      rw [answered] at old
      exact List.mem_of_mem_drop old
  · exact forwarded_routed booted classic shared routed.sharing new

private theorem delivered_iff_unmistaken (s : Proxy × List Mapping) (x : Exchange)
    (routed : Routed p₀ s) : Delivered host s x ↔ Unmistaken s x := by
  obtain ⟨p, waiting⟩ := s
  obtain ⟨history, relaying⟩ := routed.sharing.relaying
  refine forall₃_congr fun q pkt answers => ?_
  obtain ⟨sock, noted, received⟩ := answers.received
  obtain ⟨k, -, position⟩ := answers.waiting
  obtain ⟨asked, onLan⟩ := routed.waiting q (List.mem_of_getElem? position)
  have reply := answers.reply
  obtain ⟨-, shares, -⟩ := udp_packet booted classic shared relaying received reply.proto
  obtain ⟨config, sharedFd, -⟩ := Context.of_settings relaying.settings
  have notShared : p₀.ctx.sharedUdpSockFd ≠ q.lanSock := fun same => onLan (.inl ⟨shares, same.symm⟩)
  have classic : p.ctx.enableNatPmpExt = 0 := (congrArg Config.enableNatPmpExt config).trans classic
  have byPort := reply_found_by_port routed.sharing.origins asked (congrArg Config.aftrIPv4 config) reply
  dsimp only at received ⊢
  cases wan : packetWanMcast p.ctx pkt with
  | true =>
    rw [handle_multicast reply.proto wan]
    refine iff_of_false ?_ (by simp)
    rintro ⟨call, only, sock, -⟩
    simp only [sends, List.filterMap_cons, List.filterMap_nil, List.cons.injEq, and_true] at only
    rw [← only] at sock
    exact notShared ((multicast_misses booted relaying.settings shares reply.sock wan).symm.trans sock)
  | false =>
    rw [← byPort]
    cases found : mappingFind p.ctx.mappings pkt with
    | none =>
      rw [handle_query reply.proto wan classic found rfl]
      refine iff_of_false ?_ (by simp)
      rintro ⟨call, only, sock, -⟩
      simp only [sends, List.filterMap_cons, List.filterMap_nil, List.cons.injEq, and_true] at only
      rw [← only] at sock
      exact notShared (sharedFd ▸ sock)
    | some m =>
      rw [handle_response reply.proto wan classic found]
      simp only [Reaches, sends, endpoint, List.filterMap_cons, List.filterMap_nil, List.cons.injEq, and_true,
        exists_eq_left', Option.some.injEq, Prod.mk.injEq, Endpoint.mk.injEq, true_and]
      tauto

end Run

/-- Every reply of the AFTR that is handled in time reaches the client that
asked, in a run with any number of clients, exactly as long as each reply finds
a mapping of its own client in front of the others. -/
theorem replies_delivered_iff_unmistaken (host : Host) (p₀ : Proxy) (booted : Booted host p₀)
    (classic : p₀.ctx.enableNatPmpExt = 0) (shared : p₀.ctx.sharedUdpSock ≠ 0)
    (exchanges : List Exchange) :
    (exchange host).Along (Delivered host) (p₀, []) exchanges ↔
      (exchange host).Along Unmistaken (p₀, []) exchanges := by
  have initially : Routed p₀ (p₀, []) := ⟨booted_sharing booted, by simp⟩
  exact (exchange host).along_iff_of_invariant (Routed p₀)
    (fun s x routed => delivered_iff_unmistaken booted classic shared s x routed)
    (fun s x routed _ => exchange_routed booted classic shared s x routed) initially exchanges

/-! ## One client and two -/

/-- A client at 192.168.1.7 asks for the public address. -/
def firstAsks : Exchange where
  turn := { ready := [3], sent := 2, addTime := 100, sweepTime := 100
            recv := some { src := ⟨192, 168, 1, 7⟩, srcPort := 4000,
                           dst := ⟨192, 168, 1, 1⟩, payload := [0, 0] } }
  now := 100

/-- So does one at 192.168.1.8. -/
def secondAsks : Exchange where
  turn := { ready := [3], sent := 2, addTime := 100, sweepTime := 100
            recv := some { src := ⟨192, 168, 1, 8⟩, srcPort := 4000,
                           dst := ⟨192, 168, 1, 1⟩, payload := [0, 0] } }
  now := 100

/-- The AFTR answers the query that has waited longest. -/
def aftrAnswers : Exchange where
  turn := { ready := [6], sent := 12, addTime := 101, sweepTime := 101
            recv := some { src := ⟨192, 0, 0, 1⟩, srcPort := 5351, dst := ⟨10, 0, 0, 2⟩, payload := [0, 128] } }
  now := 101
  answered := some 0

/-- Clients that ask one after the other all get their replies. -/
theorem household_replies_delivered :
    (exchange littleHost).Along (Delivered littleHost) (household, [])
      [firstAsks, aftrAnswers, secondAsks, aftrAnswers] := by
  have own (s : Proxy × List Mapping) (q : Mapping) (waits : s.2 = [q])
      (clear : ∀ pkt : Pkt, pkt.sock = s.1.ctx.sharedUdpSockFd → packetWanMcast s.1.ctx pkt = false)
      (newest : s.1.ctx.mappings = [q]) : Unmistaken s aftrAnswers := by
    intro q' pkt answers
    obtain ⟨k, answered, position⟩ := answers.waiting
    cases answered
    rw [waits] at position
    cases position
    exact ⟨clear pkt answers.reply.sock, q, by simp [newest], rfl⟩
  have silent (s : Proxy × List Mapping) (x : Exchange) (none : x.answered = none) : Unmistaken s x := by
    intro q pkt answers
    obtain ⟨k, answered, -⟩ := answers.waiting
    rw [none] at answered
    cases answered
  refine (replies_delivered_iff_unmistaken littleHost household household_booted rfl (by decide) _).mpr
    ⟨silent _ _ rfl, own _ _ rfl ?_ rfl, silent _ _ rfl, own _ _ rfl ?_ rfl, trivial⟩
  all_goals
    intro pkt received
    simp only [packetWanMcast, received, Bool.and_eq_false_iff]
    exact .inr (by decide)

/-- Where two clients wait, the first reply, made for the first client, goes to
the second. -/
theorem first_reply_misrouted :
    ¬ (exchange littleHost).Along (Delivered littleHost) (household, [])
      [firstAsks, secondAsks, aftrAnswers] := by
  rintro ⟨-, -, delivered, -⟩
  obtain ⟨call, only, -, dest, -⟩ := delivered _ _
    ⟨⟨{ fd := 6, ipproto := .udp, state := .udp }, [], .udp rfl rfl rfl⟩, ⟨0, rfl, rfl⟩,
      ⟨rfl, rfl, rfl, rfl, rfl, rfl⟩, by decide⟩
  have sent : call.dest = some (⟨192, 168, 1, 8⟩, 4000) := by
    cases only
    rfl
  rw [sent] at dest
  exact absurd dest (by decide)

end Portproxy.ReplyRouting
