import Portproxy.SocketRoles

/-! What a failed packet leaves behind. A handler that reports an error is
meant to have changed nothing. All of them keep to that but the one for
queries: it has put the mapping on the list before it learns that the query
cannot be sent. -/
namespace Portproxy.FailedPackets
open SocketRoles

/-- If handling the packet fails, both lists are what they were before. -/
def Atomic (host : Host) (sent addTime : Int) (p : Proxy) (pkt : Pkt) : Prop :=
  (handlePacket host sent addTime p pkt).result < 0 →
    (handlePacket host sent addTime p pkt).proxy.ctx.mappings = p.ctx.mappings ∧
      (handlePacket host sent addTime p pkt).proxy.ctx.sockets = p.ctx.sockets

/-- The packet becomes a query, and the query cannot be sent. -/
structure QueryFails (sent : Int) (p : Proxy) (pkt : Pkt) : Prop where
  udp : pkt.proto = .udp
  notWan : packetWanMcast p.ctx pkt = false
  classic : p.ctx.enableNatPmpExt = 0
  unmatched : mappingFind p.ctx.mappings pkt = none
  unsent : sent < 0

variable {host : Host} {sent addTime : Int} {p : Proxy} {pkt : Pkt}

theorem atomic_of_unchanged (same : (handlePacket host sent addTime p pkt).proxy = p) :
    Atomic host sent addTime p pkt := by
  intro _
  rw [same]
  exact ⟨rfl, rfl⟩

/-- The end of a stream fails only before a socket is deleted. -/
theorem tcp_close_failed (failed : (handleTcpClose p pkt).result < 0) :
    (handleTcpClose p pkt).proxy = p := by
  rcases tcp_close_cases p pkt with ⟨line, refused⟩ | ⟨peer, closed⟩
  · rw [refused]
  · rw [closed] at failed
    exact absurd failed (lt_irrefl 0)

private theorem tcp_atomic (tcp : pkt.proto = .tcp) : Atomic host sent addTime p pkt := by
  by_cases ended : pkt.datalen = 0
  · intro failed
    have close : handlePacket host sent addTime p pkt = handleTcpClose p pkt := by
      simp [handlePacket, tcp, ended]
    rw [close] at failed ⊢
    rw [tcp_close_failed failed]
    exact ⟨rfl, rfl⟩
  · refine atomic_of_unchanged ?_
    rw [handlePacket, if_pos tcp, if_pos ended, tcp_packet_unchanged]

private theorem udp_atomic (udp : pkt.proto = .udp) (fine : ¬ QueryFails sent p pkt) :
    Atomic host sent addTime p pkt := by
  cases wan : packetWanMcast p.ctx pkt with
  | true => exact atomic_of_unchanged (by rw [handle_multicast udp wan])
  | false =>
    by_cases classic : p.ctx.enableNatPmpExt = 0
    · cases found : mappingFind p.ctx.mappings pkt with
      | some m =>
        intro failed
        rw [handle_response udp wan classic found] at failed
        exact absurd failed (lt_irrefl 0)
      | none =>
        -- the only handler that changes a list and may fail afterwards
        have success : ¬ sent < 0 := fun unsent => fine ⟨udp, wan, classic, found, unsent⟩
        intro failed
        rw [handle_query udp wan classic found rfl, if_neg success] at failed
        exact absurd failed (lt_irrefl 0)
    · refine atomic_of_unchanged ?_
      by_cases server : pkt.sock = p.ctx.natPmpExtSock
      · rw [handle_from_server udp wan classic server, from_server_unchanged]
      · rw [handle_from_client udp wan classic server, from_client_unchanged]

/-- A failed packet leaves both lists as they were, for packets and answers of
every kind, exactly if it is not a query that could not be sent. -/
theorem failed_packet_atomic_iff (host : Host) (sent addTime : Int) (p : Proxy) (pkt : Pkt) :
    Atomic host sent addTime p pkt ↔ ¬ QueryFails sent p pkt := by
  constructor
  · rintro atomic ⟨udp, notWan, classic, unmatched, unsent⟩
    have handled : handlePacket host sent addTime p pkt = _ :=
      handle_query udp notWan classic unmatched rfl
    have failed : (handlePacket host sent addTime p pkt).result < 0 := by
      rw [handled, if_pos unsent]
      exact neg_one_lt_zero
    have same := (atomic failed).1
    rw [handled] at same
    exact List.cons_ne_self _ _ same
  · intro fine
    cases proto : pkt.proto with
    | tcp => exact tcp_atomic proto
    | udp => exact udp_atomic proto fine

/-- A query that cannot be sent has its mapping on the list all the same. -/
theorem unsent_query_leaves_mapping :
    ¬ Atomic littleHost (-1) 100 household
      { srcIP := ⟨192, 168, 1, 7⟩, srcPort := 4000, dstIP := ⟨192, 168, 1, 1⟩, dstPort := 5351
        proto := .udp, data := [0, 0], sock := 3 } := by
  intro atomic
  have same := (atomic (by decide)).1
  exact absurd same (by decide)

end Portproxy.FailedPackets
