import Portproxy.SocketRoles
import Portproxy.TurnSemantics

/-! The extended NAT-PMP shim carries its state in the packets. What a client
sends travels to the AFTR behind a header that names the client, and an answer
behind the same header finds the way back, whatever happens in between. -/
namespace Portproxy.ShimRoundTrip
open HostOrder StepMachine SocketRoles TurnSemantics

/-- What the shim puts in front of a client's payload. -/
def header (host : Host) (ctx : Context) (pkt : Pkt) : List UInt8 :=
  [12, 80] ++ (host.order.store 4 (uint32 pkt.srcPort).toNat).take 2 ++ ctx.lanIP.bytes ++ pkt.srcIP.bytes

variable {host : Host} {ctx : Context} {p p₀ : Proxy} {pkt reply client : Pkt} {payload : List UInt8}

theorem encapsulate_eq (host : Host) (ctx : Context) (pkt : Pkt) :
    encapsulate host ctx pkt = header host ctx pkt ++ pkt.data := rfl

@[simp] theorem length_header (host : Host) (ctx : Context) (pkt : Pkt) :
    (header host ctx pkt).length = 12 := by
  simp [header]

/-- The port a little-endian host writes into the header: its two bytes, the
lower one first. -/
theorem port_bytes (little : host.order = .little) (low : 0 ≤ client.srcPort)
    (high : client.srcPort < 65536) :
    (host.order.store 4 (uint32 client.srcPort).toNat).take 2 = digits 2 client.srcPort.toNat := by
  rw [uint32_of_range low (by omega), little]
  exact take_digits 2 2 _

/-- The header names the client. -/
theorem recover_header (little : host.order = .little) (low : 0 ≤ client.srcPort)
    (high : client.srcPort < 65536) (payload : List UInt8) :
    recoverClient host (header host ctx client ++ payload) = (client.srcIP, client.srcPort.toNat) := by
  have port : host.order.load (digits 2 client.srcPort.toNat) = client.srcPort.toNat := by
    rw [little]
    change value (digits 2 _) = _
    rw [value_digits]
    omega
  rw [header, port_bytes little low high]
  change (InAddr.ofBytes client.srcIP.bytes,
    host.order.onWire 2 (host.order.hton 2 (host.order.load (digits 2 client.srcPort.toNat)))) = _
  rw [port, ByteOrder.onWire_hton, InAddr.ofBytes_bytes]
  congr
  omega

/-- A datagram of a client that is not too long goes out behind its header. -/
theorem from_client_sends (host : Host) (sent : Int) (p : Proxy) (short : client.datalen ≤ 100) :
    (handleNatPmpExtFromclient host sent p client).events =
      [.sent ⟨.fromClient, client.sock, p.ctx.natPmpExtSock, none, header host p.ctx client ++ client.data,
        sent⟩] := by
  rcases from_client_cases host sent p client with ⟨long, -⟩ | ⟨-, passed⟩
  · omega
  · exact passed

/-- A reply behind the header of some host is accepted, and its payload goes to
the client this host reads out of it. -/
theorem from_server_accepts (host origin : Host) (sent : Int) (p : Proxy)
    (behind : reply.data = header origin ctx client ++ payload) :
    (handleNatPmpExtFromserver host sent p reply).events =
      [.sent ⟨.fromServer, reply.sock, p.ctx.natPmpLanSock, some (recoverClient host reply.data), payload,
        sent⟩] := by
  have long : ¬ reply.datalen < 12 := by simp [Pkt.datalen, behind]
  have marked : reply.data[0]? = some 12 ∧ reply.data[1]? = some 80 := by
    rw [behind]
    exact ⟨rfl, rfl⟩
  have rest : reply.data.drop 12 = payload := by
    rw [behind, List.drop_left' (length_header ..)]
  simp only [handleNatPmpExtFromserver, long, ↓reduceIte, marked, ne_eq, not_true_eq_false, or_self, rest]

/-- A reply behind a client's header is accepted, and its payload goes to the
client. -/
theorem from_server_sends (little : host.order = .little) (low : 0 ≤ client.srcPort)
    (high : client.srcPort < 65536) (sent : Int) (p : Proxy)
    (behind : reply.data = header host ctx client ++ payload) :
    (handleNatPmpExtFromserver host sent p reply).events =
      [.sent ⟨.fromServer, reply.sock, p.ctx.natPmpLanSock, some (client.srcIP, client.srcPort.toNat),
        payload, sent⟩] := by
  rw [from_server_accepts host host sent p behind, behind, recover_header little low high]

/-- A list that is long enough, as the bytes of a header and the rest. -/
private theorem header_bytes {bytes : List UInt8} (long : 12 ≤ bytes.length) :
    ∃ a b c d e f g h i j k l rest,
      bytes = [a, b] ++ [c, d] ++ [e, f, g, h] ++ [i, j, k, l] ++ rest := by
  match bytes, long with
  | a :: b :: c :: d :: e :: f :: g :: h :: i :: j :: k :: l :: rest, _ =>
    exact ⟨a, b, c, d, e, f, g, h, i, j, k, l, rest, rfl⟩

/-- An accepted packet whose header carries the LAN address is what the shim
makes of the client and the payload in it. -/
theorem encapsulate_recovered (little : host.order = .little) (long : 12 ≤ reply.datalen)
    (marked : reply.data[0]? = some 12 ∧ reply.data[1]? = some 80)
    (lanIP : (reply.data.drop 4).take 4 = ctx.lanIP.bytes)
    (srcIP : client.srcIP = (recoverClient host reply.data).1)
    (srcPort : client.srcPort = (recoverClient host reply.data).2)
    (data : client.data = reply.data.drop 12) : encapsulate host ctx client = reply.data := by
  obtain ⟨a, b, c, d, e, f, g, h, i, j, k, l, rest, bytes⟩ :=
    header_bytes (by simpa [Pkt.datalen] using long)
  rw [bytes] at marked lanIP srcIP srcPort data ⊢
  obtain ⟨rfl, rfl⟩ : a = 12 ∧ b = 80 := by simpa using marked
  change [e, f, g, h] = _ at lanIP
  change client.srcIP = InAddr.ofBytes [i, j, k, l] at srcIP
  change client.srcPort = host.order.onWire 2 (host.order.hton 2 (host.order.load [c, d])) at srcPort
  change client.data = rest at data
  have bound : value [c, d] < 65536 := by
    have low : c.toNat < 256 := c.toNat_lt
    have high : d.toNat < 256 := d.toNat_lt
    simp only [value]
    omega
  have number : client.srcPort = value [c, d] := by
    rw [srcPort, ByteOrder.onWire_hton, little]
    exact congrArg _ (Nat.mod_eq_of_lt bound)
  have stored : (host.order.store 4 (uint32 client.srcPort).toNat).take 2 = [c, d] := by
    rw [port_bytes little (by omega) (by omega), number]
    exact digits_value [c, d]
  rw [encapsulate, stored, ← lanIP, srcIP, InAddr.bytes_ofBytes _ rfl, data]

/-! ## Over whole runs -/

theorem run_settings (host : Host) (p₀ : Proxy) (turns : List Turn) :
    ((run host).after p₀ turns).ctx.settings = p₀.ctx.settings :=
  (run host).invariant_after_any (fun p => p.ctx.settings = p₀.ctx.settings) p₀
    (fun p t same => (run_turn_settings host p t).trans same) rfl turns

/-- What the shim of a proxy that started as `p₀` does for a client in state `p`
and for the AFTR in state `q`. -/
structure Shim (host : Host) (p₀ p q : Proxy) : Prop where
  /-- A client's datagram goes out behind twelve bytes, and what comes back behind
  the same bytes goes to the client. -/
  conveys : ∀ (client : Pkt) sent, 0 ≤ client.srcPort → client.srcPort < 65536 → client.datalen ≤ 100 →
    ∃ head, head.length = 12 ∧
      (handleNatPmpExtFromclient host sent p client).events =
        [.sent ⟨.fromClient, client.sock, p₀.ctx.natPmpExtSock, none, head ++ client.data, sent⟩] ∧
      ∀ (reply : Pkt) payload sent, reply.data = head ++ payload → reply.datalen ≤ bufferSize →
        (handleNatPmpExtFromserver host sent q reply).events =
          [.sent ⟨.fromServer, reply.sock, p₀.ctx.natPmpLanSock,
            some (client.srcIP, client.srcPort.toNat), payload, sent⟩]
  /-- What the AFTR's packet names as the client, if it is accepted, would have
  sent that packet. -/
  reverts : ∀ (reply : Pkt) sent call, .sent call ∈ (handleNatPmpExtFromserver host sent q reply).events →
    12 ≤ reply.datalen → reply.datalen ≤ 112 → (reply.data.drop 4).take 4 = p₀.ctx.lanIP.bytes →
    ∃ addr, ∃ port : Nat, call.dest = some (addr, port) ∧ ∀ (client : Pkt) sent,
      client.srcIP = addr → client.srcPort = port → client.data = call.data →
        (handleNatPmpExtFromclient host sent p client).events =
          [.sent ⟨.fromClient, client.sock, p₀.ctx.natPmpExtSock, none, reply.data, sent⟩]

/-- On a little-endian host the shim brings every client's datagram to the AFTR
and the answer back to that client, whatever the proxy did before and in
between. -/
theorem shim_round_trip (host : Host) (little : host.order = .little) (p₀ : Proxy)
    (before between : List Turn) :
    Shim host p₀ ((run host).after p₀ before) ((run host).after p₀ (before ++ between)) := by
  have settings := run_settings host p₀ before
  have settings' := run_settings host p₀ (before ++ between)
  generalize (run host).after p₀ before = p, (run host).after p₀ (before ++ between) = q at settings settings'
  obtain ⟨config, -, -, -, extSock, -⟩ := Context.of_settings settings
  obtain ⟨-, -, -, -, -, lanSock⟩ := Context.of_settings settings'
  have lanIP : p.ctx.lanIP = p₀.ctx.lanIP := congrArg Config.lanIP config
  constructor
  case conveys =>
    intro client sent low high short
    rw [← extSock, ← lanSock]
    refine ⟨header host p.ctx client, length_header .., from_client_sends host sent p short, ?_⟩
    intro reply payload sent behind _
    exact from_server_sends little low high sent q behind
  case reverts =>
    intro reply sent call emitted long short lan
    rw [← lanIP] at lan
    rw [← extSock]
    rcases from_server_cases host sent q reply with ⟨line, -, refused⟩ | ⟨-, first, second, passed⟩
    · simp [refused] at emitted
    · rw [passed] at emitted
      simp only [List.mem_singleton, Event.sent.injEq] at emitted
      subst emitted
      refine ⟨_, _, rfl, fun client sent srcIP srcPort data => ?_⟩
      have size : client.datalen ≤ 100 := by
        simp only [Pkt.datalen, data, List.length_drop] at short ⊢
        omega
      rw [from_client_sends host sent p size, ← encapsulate_eq,
        encapsulate_recovered little long ⟨first, second⟩ lan srcIP srcPort data]

/-- A second client asks between the first client's query and its answer. -/
theorem both_modes_round_trip :
    let first : Turn := { ready := [3], recv := some {
      src := ⟨192, 168, 1, 7⟩, srcPort := 4000, dst := ⟨192, 168, 1, 1⟩, payload := [0, 0] }, sent := 14 }
    let second : Turn := { ready := [3], recv := some {
      src := ⟨192, 168, 1, 8⟩, srcPort := 50000, dst := ⟨192, 168, 1, 1⟩, payload := [0, 1] }, sent := 14 }
    Shim littleHost bothModes ((run littleHost).after bothModes [first])
      ((run littleHost).after bothModes ([first] ++ [second])) :=
  shim_round_trip littleHost rfl bothModes _ _

/-! ## Between hosts -/

/-- A client's datagram travels alike on hosts of every kind: all of them send
the same bytes, these carry the client's port in network order, and every host
reads that port out of them again. -/
def Portable (p : Proxy) (client : Pkt) : Prop :=
  ∃ bytes : List UInt8,
    (∀ host sent, (handleNatPmpExtFromclient host sent p client).events =
      [.sent ⟨.fromClient, client.sock, p.ctx.natPmpExtSock, none, bytes, sent⟩]) ∧
    (bytes.drop 2).take 2 = ByteOrder.big.store 2 client.srcPort.toNat ∧
    ∀ host sent (reply : Pkt), reply.data = bytes → ∃ addr,
      (handleNatPmpExtFromserver host sent p reply).events =
        [.sent ⟨.fromServer, reply.sock, p.ctx.natPmpLanSock, some (addr, client.srcPort.toNat),
          bytes.drop 12, sent⟩]

theorem header_port (host : Host) (ctx : Context) (pkt : Pkt) (payload : List UInt8) :
    ((header host ctx pkt ++ payload).drop 2).take 2 =
      (host.order.store 4 (uint32 pkt.srcPort).toNat).take 2 := by
  have two : ((host.order.store 4 (uint32 pkt.srcPort).toNat).take 2).length = 2 := by simp
  change ((host.order.store 4 (uint32 pkt.srcPort).toNat).take 2 ++ ctx.lanIP.bytes ++ pkt.srcIP.bytes ++
    payload).take 2 = _
  rw [List.append_assoc, List.append_assoc, List.take_left' two]

/-- The first two bytes of an `int` that holds a port are zero on a big-endian
host. -/
theorem port_bytes_big (bound : port < 65536) : (ByteOrder.big.store 4 port).take 2 = [0, 0] := by
  have third : port / 256 / 256 = 0 := by omega
  simp [ByteOrder.store, digits, third]

/-- The port is copied out of a host's `int` without a conversion, so hosts work
together for the port that has the same image on all of them: zero. -/
theorem portable_iff_port_zero (p : Proxy) (client : Pkt) (low : 0 ≤ client.srcPort)
    (high : client.srcPort < 65536) (short : client.datalen ≤ 100) :
    Portable p client ↔ client.srcPort = 0 := by
  have number : uint32 client.srcPort = client.srcPort := uint32_of_range low (by omega)
  constructor
  · rintro ⟨bytes, sends, network, -⟩
    have big := sends { order := .big, charSigned := true } 0
    rw [from_client_sends _ _ _ short] at big
    obtain rfl : header _ p.ctx client ++ client.data = bytes := by simpa using big
    rw [header_port, number, port_bytes_big (by omega)] at network
    have read : ByteOrder.big.load [0, 0] = client.srcPort.toNat % 256 ^ 2 := by
      rw [network, ByteOrder.load_store]
    have zero : ByteOrder.big.load [0, 0] = 0 := rfl
    omega
  · intro port
    have image (order : ByteOrder) : (order.store 4 (uint32 client.srcPort).toNat).take 2 = [0, 0] := by
      rw [port]
      cases order <;> rfl
    have same (host : Host) : header host p.ctx client = header littleHost p.ctx client := by
      rw [header, header, image, image]
    refine ⟨header littleHost p.ctx client ++ client.data, ?_, ?_, ?_⟩
    · intro host sent
      rw [from_client_sends host sent p short, same]
    · rw [header_port, image, port]
      rfl
    · intro host sent reply behind
      rw [from_server_accepts host littleHost sent p behind, behind, List.drop_left' (length_header ..)]
      refine ⟨client.srcIP, ?_⟩
      have recovered : recoverClient host (header littleHost p.ctx client ++ client.data) =
          (client.srcIP, client.srcPort.toNat) := by
        rw [header, image, port]
        change (InAddr.ofBytes client.srcIP.bytes,
          host.order.onWire 2 (host.order.hton 2 (host.order.load [0, 0]))) = _
        rw [ByteOrder.onWire_hton, InAddr.ofBytes_bytes]
        cases host.order <;> rfl
      rw [recovered]

/-- A client that sends from port 4000. -/
def client4000 : Pkt where
  srcIP := ⟨192, 168, 1, 7⟩
  srcPort := 4000
  dstPort := 5351
  proto := .udp
  data := [0, 0]
  sock := 3

theorem port_zero_portable :
    Portable bothModes { client4000 with srcPort := 0 } ↔ (0 : Int) = 0 :=
  portable_iff_port_zero bothModes { client4000 with srcPort := 0 } (by decide) (by decide) (by decide)

theorem port_4000_not_portable : ¬ Portable bothModes client4000 := by
  rintro ⟨bytes, sends, network, -⟩
  have little := sends littleHost 0
  rw [from_client_sends _ _ _ (by decide)] at little
  obtain rfl : header _ bothModes.ctx client4000 ++ client4000.data = bytes := by simpa using little
  exact absurd network (by decide)

end Portproxy.ShimRoundTrip
