import Portproxy.RelayPairing

/-! Which socket a pass turns to. `wait_for_traffic` takes the first of the list that
is ready, and connections are put in front of all sockets of the start; so a
connection that always has something to read keeps the proxy from everything else. -/
namespace Portproxy.Starvation
open StepMachine KeyedList SocketRoles TurnSemantics RelayPairing

/-- Every connection comes before every other socket. -/
def ConnectionsFirst (sockets : List Socket) : Prop :=
  sockets.Pairwise fun front behind => Connected behind → Connected front

/-- What is done for connections that are there, or for no socket. -/
def ForConnections : Event → Prop
  | .received pkt => pkt.proto = .tcp
  | .sent call => call.caller = .relay
  | .expired _ => True
  | .added _ | .paired .. | .complaint _ | .fault => False

variable {host : Host} {p p₀ q : Proxy} {t : Turn} {s front : Socket} {events history : List Event}

/-- Where a connection is ready, a connection is picked. -/
theorem connection_picked (first : ConnectionsFirst p.ctx.sockets) (member : s ∈ p.ctx.sockets)
    (connected : Connected s) (ready : s.fd ∈ t.ready) : ∃ front, picked p t = some front ∧ Connected front := by
  cases chosen : picked p t with
  | none => exact absurd (List.find?_eq_none.mp chosen s member) (by simpa using ready)
  | some front =>
    refine ⟨front, rfl, ?_⟩
    obtain ⟨-, kept, rest, sockets, unready⟩ := List.find?_eq_some_iff_append.mp chosen
    have later : s ∈ front :: rest := by
      rw [sockets] at member
      rcases List.mem_append.mp member with earlier | later
      · exact absurd ready (by simpa using unready s earlier)
      · exact later
    rcases List.mem_cons.mp later with rfl | behind
    · exact connected
    · rw [ConnectionsFirst, sockets] at first
      exact List.rel_of_pairwise_cons (List.pairwise_append.mp first).2.1 behind connected

/-- A pass for a connection does nothing for any other socket. -/
theorem connection_turn (relaying : Relaying p₀ p history) (chosen : picked p t = some front)
    (connected : Connected front) : ∀ event ∈ (handleTurn host p t).2, ForConnections event := by
  have member : front ∈ p.ctx.sockets := List.mem_of_find?_eq_some chosen
  have ready : t.ready ≠ [] := by
    have among := List.find?_some chosen
    rintro none
    simp [none] at among
  have tcp : front.ipproto = .tcp := (relaying.typed front member).mpr (.inr connected)
  have state : front.state = .tcpConnected := connected
  unfold picked at chosen
  cases recv : t.recv with
  | none =>
    have waited : waitForTraffic p t = (p, none, []) := by
      simp only [waitForTraffic, if_neg ready, chosen, state, recv]
    simp [handleTurn, waited]
  | some d =>
    have waited : waitForTraffic p t =
        (p, some (sockTcpReceive p.ctx front d).1, (sockTcpReceive p.ctx front d).2) := by
      simp only [waitForTraffic, if_neg ready, chosen, state, recv]
    unfold handleTurn
    rw [waited]
    have silent := tcp_receive_finds relaying.paired member connected d
    have proto : (sockTcpReceive p.ctx front d).1.proto = .tcp := tcp
    simp only [silent, List.nil_append, List.mem_cons]
    rintro event (rfl | handled)
    · exact proto
    · rw [handlePacket, if_pos proto] at handled
      split at handled
      · rw [tcp_packet_relays relaying.paired member connected rfl, List.mem_singleton] at handled
        subst handled
        rfl
      · next ended =>
        have none : (sockTcpReceive p.ctx front d).1.data = [] := by simpa [Pkt.datalen] using ended
        rw [tcp_close_removes_pair relaying.paired member connected rfl none] at handled
        cases handled

/-- Connections are put in front, and taken off anywhere. -/
theorem run_turn_first (relaying : Relaying p₀ p history) (first : ConnectionsFirst p.ctx.sockets) :
    ConnectionsFirst (runTurn host p t).1.ctx.sockets := by
  have turn := handle_turn_relays host (t := t) relaying.paired relaying.typed
  change ConnectionsFirst (handleTurn host p t).1.ctx.sockets
  generalize (handleTurn host p t).1 = q, (handleTurn host p t).2 = events at turn ⊢
  cases turn with
  | apart sockets => rwa [sockets]
  | accepts _ _ _ _ sockets =>
    rw [sockets]
    exact .cons (fun _ _ _ => rfl) (.cons (fun _ _ _ => rfl) first)
  | relays _ _ _ _ same => rwa [same]
  | closes _ _ _ _ sockets =>
    rw [sockets]
    exact (first.filter _).filter _

/-- As long as a connection stays open and is ready in every pass, no datagram is
received, no connection accepted and no query or reply sent. -/
theorem busy_connection_starves (host : Host) (p₀ : Proxy) (booted : Booted host p₀) (before turns : List Turn)
    (s : Socket) (connected : Connected s)
    (busy : (run host).Along (fun p t => s ∈ p.ctx.sockets ∧ s.fd ∈ t.ready) ((run host).after p₀ before)
      turns) :
    (run host).Along (fun p t => ∀ event ∈ (runTurn host p t).2, ForConnections event)
      ((run host).after p₀ before) turns := by
  have none : ConnectionsFirst p₀.ctx.sockets := by
    have unconnected := (booted_fresh booted).unconnected
    exact List.pairwise_of_forall_mem_list fun _ _ s member is => absurd is (unconnected s member)
  let Inv (p : Proxy) := (∃ history, Relaying p₀ p history) ∧ ConnectionsFirst p.ctx.sockets ∧ Nodes p
  have keeps (p : Proxy) (t : Turn) (inv : Inv p) : Inv (runTurn host p t).1 := by
    obtain ⟨⟨history, relaying⟩, first, nodes⟩ := inv
    exact ⟨⟨_, relaying.run_turn⟩, run_turn_first relaying first, run_turn_nodes host t nodes⟩
  have reached : Inv ((run host).after p₀ before) :=
    (run host).invariant_after_any Inv p₀ keeps
      ⟨⟨[], fresh_relaying (booted_fresh booted)⟩, none, no_nodes (booted_fresh booted).mappings⟩ before
  refine (run host).along_of_invariant Inv (fun p t inv _ => keeps p t inv) (fun p t inv here => ?_) reached busy
  obtain ⟨⟨history, relaying⟩, first, nodes⟩ := inv
  obtain ⟨front, chosen, linked⟩ := connection_picked first here.1 connected here.2
  intro event member
  rw [(run_turn_sweeps host t nodes).2] at member
  rcases List.mem_append.mp member with handled | swept
  · exact connection_turn relaying chosen linked event handled
  · obtain ⟨m, -, rfl⟩ := List.mem_map.mp swept
    trivial

/-- A client of the household connects and keeps sending, while a query waits on
socket 3. -/
theorem household_starved :
    let connects : Turn := { ready := [4], accept := { accept := some 7, socket := some 8 } }
    let sends : Turn := { ready := [3, 7], recv := some { payload := [1, 2] }, sent := 2 }
    (run littleHost).Along (fun p t => ∀ event ∈ (runTurn littleHost p t).2, ForConnections event)
      ((run littleHost).after household [connects]) [sends, sends, sends] := by
  intro connects sends
  refine busy_connection_starves littleHost household household_booted [connects] [sends, sends, sends]
    { fd := 7, ipproto := .tcp, state := .tcpConnected, peer := 8 } rfl ?_
  decide +kernel

end Portproxy.Starvation
