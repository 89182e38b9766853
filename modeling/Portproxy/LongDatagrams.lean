import Portproxy.ShimRoundTrip

/-! Datagrams longer than the receive buffer. `recvmsg` stores what fits and
flags the rest as lost; nobody looks at the flag, so every handler but those
that refuse the packet for another reason passes on the cut payload. -/
namespace Portproxy.LongDatagrams
open SocketRoles ShimRoundTrip

/-- What the receiver of a UDP socket makes of a datagram. -/
inductive Reads (k : Kernel) (sock : Socket) (d : Datagram) : Pkt → Prop where
  | udp (state : sock.state = .udp) (proto : sock.ipproto = .udp) :
      Reads k sock d (sockUdpReceive k sock d)
  | udp6 (state : sock.state = .udp6) (proto : sock.ipproto = .udp) :
      Reads k sock d (sockUdp6Receive k sock d)

/-- What is sent carries the payload of the datagram whole; the shim puts twelve
bytes in front of it or takes them off. -/
def CarriesWhole (d : Datagram) (call : Send) : Prop :=
  match call.caller with
  | .fromClient => ∃ header, header.length = 12 ∧ call.data = header ++ d.payload
  | .fromServer => ∃ header, header.length = 12 ∧ header ++ call.data = d.payload
  | _ => call.data = d.payload

/-- Extended NAT-PMP takes the packet and refuses it if it fills the buffer: from
a client it is too long then, and from the AFTR it lacks the marks of a header. -/
structure Refused (p : Proxy) (pkt : Pkt) : Prop where
  notWan : packetWanMcast p.ctx pkt = false
  extended : p.ctx.enableNatPmpExt ≠ 0
  unmarked : pkt.sock = p.ctx.natPmpExtSock → pkt.data[0]? ≠ some 12 ∨ pkt.data[1]? ≠ some 80

variable {host : Host} {sent addTime : Int} {p : Proxy} {sock : Socket} {d : Datagram} {pkt : Pkt}
  {call : Send}

namespace Reads

theorem udp_packet (reads : Reads p.kernel sock d pkt) : pkt.proto = .udp := by
  cases reads <;> assumption

theorem data_eq (reads : Reads p.kernel sock d pkt) : pkt.data = d.payload.take bufferSize := by
  cases reads <;> rfl

end Reads

/-- A datagram that fits is passed on whole. -/
theorem fitting_carried (reads : Reads p.kernel sock d pkt) (fits : d.payload.length ≤ bufferSize)
    (emitted : .sent call ∈ (handlePacket host sent addTime p pkt).events) : CarriesWhole d call := by
  have data : pkt.data = d.payload := by rw [reads.data_eq, List.take_of_length_le fits]
  have forwards := handle_packet_forwards emitted
  cases forwards with
  | relays tcp => rw [reads.udp_packet] at tcp; cases tcp
  | multicasts => exact data
  | responds => exact data
  | queries => exact data
  | fromClient => exact ⟨header host p.ctx pkt, length_header .., by rw [← data]; rfl⟩
  | fromServer udp notWan extended server =>
    rw [handle_from_server udp notWan extended server] at emitted
    rcases from_server_cases host sent p pkt with ⟨line, -, refused⟩ | ⟨long, -⟩
    · simp [refused] at emitted
    · refine ⟨d.payload.take 12, ?_, ?_⟩
      · rw [List.length_take, ← data]
        simpa [Pkt.datalen] using long
      · rw [data, List.take_append_drop]

/-- A packet that fills the buffer is refused or sent on as it is, but for the
header of the AFTR. -/
theorem full_packet_sent (udp : pkt.proto = .udp) (full : pkt.data.length = bufferSize)
    (taken : ¬ Refused p pkt) :
    ∃ call, .sent call ∈ (handlePacket host sent addTime p pkt).events ∧
      ((call.caller = .fromServer ∧ call.data = pkt.data.drop 12) ∨
        (call.caller ≠ .fromServer ∧ call.caller ≠ .fromClient ∧ call.data = pkt.data)) := by
  cases wan : packetWanMcast p.ctx pkt with
  | true =>
    rw [handle_multicast udp wan]
    exact ⟨_, List.mem_singleton.mpr rfl, .inr ⟨by simp, by simp, rfl⟩⟩
  | false =>
    by_cases classic : p.ctx.enableNatPmpExt = 0
    · cases found : mappingFind p.ctx.mappings pkt with
      | some m =>
        rw [handle_response udp wan classic found]
        exact ⟨_, List.mem_singleton.mpr rfl, .inr ⟨by simp, by simp, rfl⟩⟩
      | none =>
        rw [handle_query udp wan classic found rfl]
        exact ⟨_, List.mem_cons_of_mem _ (List.mem_singleton.mpr rfl), .inr ⟨by simp, by simp, rfl⟩⟩
    · -- the shim takes a packet of this length only from the AFTR, with its marks
      by_cases marked : pkt.sock = p.ctx.natPmpExtSock ∧ pkt.data[0]? = some 12 ∧ pkt.data[1]? = some 80
      · obtain ⟨server, first, second⟩ := marked
        have long : ¬ pkt.datalen < 12 := by simp [Pkt.datalen, full, bufferSize]
        rw [handle_from_server udp wan classic server]
        simp only [handleNatPmpExtFromserver, long, ↓reduceIte, first, second, ne_eq, not_true_eq_false,
          or_self]
        exact ⟨_, List.mem_singleton.mpr rfl, .inl ⟨rfl, rfl⟩⟩
      · refine absurd ⟨wan, classic, fun server => ?_⟩ taken
        rw [← not_and_or]
        exact fun marks => marked ⟨server, marks⟩

/-- A packet that fills the buffer and is refused is not sent on. -/
theorem refused_silent (udp : pkt.proto = .udp) (full : pkt.data.length = bufferSize)
    (refused : Refused p pkt) : .sent call ∉ (handlePacket host sent addTime p pkt).events := by
  intro emitted
  by_cases server : pkt.sock = p.ctx.natPmpExtSock
  · rw [handle_from_server udp refused.notWan refused.extended server] at emitted
    rcases from_server_cases host sent p pkt with ⟨line, -, complained⟩ | ⟨-, first, second, -⟩
    · simp [complained] at emitted
    · rcases refused.unmarked server with other | other
      · exact other first
      · exact other second
  · rw [handle_from_client udp refused.notWan refused.extended server] at emitted
    rcases from_client_cases host sent p pkt with ⟨-, complained⟩ | ⟨short, -⟩
    · simp [complained] at emitted
    · simp [Pkt.datalen, full, bufferSize] at short

/-- What is sent for a datagram carries its payload whole, in any configuration
and state, exactly if the datagram fits the receive buffer or is refused. -/
theorem carried_whole_iff (host : Host) (sent addTime : Int) (p : Proxy)
    (reads : Reads p.kernel sock d pkt) :
    (∀ call, .sent call ∈ (handlePacket host sent addTime p pkt).events → CarriesWhole d call) ↔
      d.payload.length ≤ bufferSize ∨ Refused p pkt := by
  by_cases fits : d.payload.length ≤ bufferSize
  · exact iff_of_true (fun call emitted => fitting_carried reads fits emitted) (.inl fits)
  · have full : pkt.data.length = bufferSize := by
      rw [reads.data_eq, List.length_take]
      omega
    constructor
    · intro whole
      refine .inr (by_contra fun taken => fits ?_)
      obtain ⟨call, emitted, cut⟩ := full_packet_sent reads.udp_packet full taken
      have carried := whole call emitted
      unfold CarriesWhole at carried
      rcases cut with ⟨server, data⟩ | ⟨notServer, notClient, data⟩
      · rw [server] at carried
        obtain ⟨header, twelve, joined⟩ := carried
        have size := congrArg List.length joined
        rw [List.length_append, twelve, data, List.length_drop, full] at size
        rw [← size]
        decide
      · split at carried
        · exact absurd ‹_› notClient
        · exact absurd ‹_› notServer
        · rw [← carried, data, full]
    · rintro (short | refused) call emitted
      · exact absurd short fits
      · exact absurd emitted (refused_silent reads.udp_packet full refused)

/-- A client's datagram of 1501 bytes. -/
def longQuery : Datagram where
  src := ⟨192, 168, 1, 7⟩
  srcPort := 4000
  dst := ⟨192, 168, 1, 1⟩
  payload := List.replicate 1501 0

theorem household_carried_whole :
    (∀ call, .sent call ∈ (handlePacket littleHost 2 100 household
        (sockUdpReceive household.kernel { fd := 3, ipproto := .udp, state := .udp }
          { longQuery with payload := [0, 0] })).events → CarriesWhole { longQuery with payload := [0, 0] } call) ↔
      [0, 0].length ≤ bufferSize ∨ Refused household
        (sockUdpReceive household.kernel { fd := 3, ipproto := .udp, state := .udp }
          { longQuery with payload := [0, 0] }) :=
  carried_whole_iff littleHost 2 100 household (.udp rfl rfl)

/-- The proxy forwards the first 1500 bytes of it. -/
theorem long_query_cut :
    ¬ ∀ call, .sent call ∈ (handlePacket littleHost 1500 100 household
        (sockUdpReceive household.kernel { fd := 3, ipproto := .udp, state := .udp } longQuery)).events →
      CarriesWhole longQuery call := by
  intro whole
  have carried : longQuery.payload.take bufferSize = longQuery.payload :=
    whole _ (List.mem_cons_of_mem _ (List.mem_singleton.mpr rfl))
  have cut := congrArg List.length carried
  have long : longQuery.payload.length = 1501 := List.length_replicate
  rw [List.length_take, long] at cut
  exact absurd cut (by decide)

end Portproxy.LongDatagrams
