import Portproxy.SocketRoles
import Portproxy.TurnSemantics

/-! The TCP relay keeps its connections in pairs. From a fresh start on, every
connected socket has its partner on the list, the partner names it back, and
the descriptors opened since are theirs. -/
namespace Portproxy.RelayPairing
open StepMachine KeyedList SocketRoles TurnSemantics

/-- The packet part of one pass takes no part in the relay: no pair is made, no
stream data read or passed on, and no socket missed. -/
def Inert : Event → Prop
  | .received pkt => pkt.proto = .udp
  | .sent call => call.caller ≠ .relay
  | .paired .. => False
  | .complaint line => line ≠ .noCorrespondingSocket ∧ line ≠ .unableToFindSocket ∧
      line ≠ .unableToFindPeer ∧ line ≠ .unableToDeleteSocket
  | _ => True

abbrev Connected (s : Socket) : Prop := s.state = .tcpConnected

/-- Connected sockets come in pairs that name each other. -/
abbrev PairedSockets (sockets : List Socket) : Prop := Paired Socket.fd Socket.peer Connected sockets

/-- The sockets that speak TCP are the listening and the connected ones. -/
def Typed (sockets : List Socket) : Prop :=
  ∀ s ∈ sockets, s.ipproto = .tcp ↔ s.state = .tcpListening ∨ Connected s

/-- What the packet part of one pass does to the sockets and the descriptors. -/
inductive RelayTurn (p : Proxy) (t : Turn) (q : Proxy) : List Event → Prop where
  | apart (sockets : q.ctx.sockets = p.ctx.sockets) (fds : q.kernel.fds = p.kernel.fds)
      (bound : ∀ fd ∈ p.kernel.fds, q.kernel.bound fd = p.kernel.bound fd)
      (inert : ∀ event ∈ events, Inert event) : RelayTurn p t q events
  | accepts (freshLan : lan ∉ p.kernel.fds) (freshWan : wan ∉ p.kernel.fds) (apart : lan ≠ wan)
      (answered : t.accept.accept.isSome ∧ t.accept.socket.isSome ∧ 0 ≤ t.accept.connect)
      (sockets : q.ctx.sockets =
        { fd := wan, ipproto := .tcp, state := .tcpConnected, peer := lan } ::
        { fd := lan, ipproto := .tcp, state := .tcpConnected, peer := wan } :: p.ctx.sockets)
      (kernel : q.kernel = (p.kernel.opens lan).opens wan) :
      RelayTurn p t q [.paired lan wan server]
  | relays (received : Receives p t s pkt []) (connected : Connected s) (proto : pkt.proto = .tcp)
      (some : pkt.data ≠ []) (same : q = p) :
      RelayTurn p t q [.received pkt,
        .sent { caller := .relay, source := s.fd, fd := s.peer, data := pkt.data, result := t.sent }]
  | closes (received : Receives p t s pkt []) (connected : Connected s) (proto : pkt.proto = .tcp)
      (ended : pkt.data = [])
      (sockets : q.ctx.sockets = (p.ctx.sockets.filter (·.fd ≠ s.fd)).filter (·.fd ≠ s.peer))
      (kernel : q.kernel = (p.kernel.sockDel s.fd).sockDel s.peer) :
      RelayTurn p t q [.received pkt]

variable {host : Host} {p p₀ : Proxy} {t : Turn} {s : Socket} {pkt : Pkt} {history events : List Event}

/-! ## The handlers on paired sockets -/

theorem peer_found (paired : PairedSockets p.ctx.sockets) (member : s ∈ p.ctx.sockets)
    (connected : Connected s) :
    ∃ other ∈ p.ctx.sockets, socketFind p.ctx s.peer = some other ∧ Connected other ∧
      other.fd = s.peer ∧ other.peer = s.fd ∧ other.fd ≠ s.fd := by
  obtain ⟨other, held, linked, named, back, apart⟩ := paired.mated s member connected
  refine ⟨other, held, ?_, linked, named, back, apart⟩
  rw [← named]
  exact socket_find_member paired.distinct held

theorem tcp_receive_finds (paired : PairedSockets p.ctx.sockets) (member : s ∈ p.ctx.sockets)
    (connected : Connected s) (d : Datagram) : (sockTcpReceive p.ctx s d).2 = [] := by
  obtain ⟨other, -, found, -⟩ := peer_found paired member connected
  simp [sockTcpReceive, found]

/-- Data goes to the other end, and nowhere else. -/
theorem tcp_packet_relays (paired : PairedSockets p.ctx.sockets) (member : s ∈ p.ctx.sockets)
    (connected : Connected s) (source : pkt.sock = s.fd) :
    (handleTcpPacket sent p pkt).events =
      [.sent { caller := .relay, source := s.fd, fd := s.peer, data := pkt.data, result := sent }] := by
  obtain ⟨other, -, found, -, named, -⟩ := peer_found paired member connected
  simp [handleTcpPacket, source, socket_find_member paired.distinct member, found, named]

/-- The end of a stream takes both ends of its pair off the list and closes
them, and nothing else. -/
theorem tcp_close_removes_pair (paired : PairedSockets p.ctx.sockets) (member : s ∈ p.ctx.sockets)
    (connected : Connected s) (source : pkt.sock = s.fd) (ended : pkt.data = []) :
    handleTcpClose p pkt =
      ⟨{ ctx := { p.ctx with sockets :=
                  (p.ctx.sockets.filter (·.fd ≠ s.fd)).filter (·.fd ≠ s.peer) }
         kernel := (p.kernel.sockDel s.fd).sockDel s.peer }, 0, []⟩ := by
  obtain ⟨other, held, -, -, named, -, apart⟩ := peer_found paired member connected
  have first := socket_del_removes paired.distinct member
  have left : other ∈ (socketDel p s.fd).proxy.ctx.sockets := by
    simp [first, held, apart]
  have second := socket_del_removes (by
    rw [first]
    exact paired.distinct.sublist List.filter_sublist) left
  rw [named, first] at second
  unfold handleTcpClose
  rw [if_neg (by simp [Pkt.datalen, ended]), source, socket_find_member paired.distinct member]
  dsimp only
  rw [first, second]
  rfl

/-! ## One pass, as the relay sees it -/

/-- Only a connected socket yields a TCP packet. -/
theorem receives_tcp (paired : PairedSockets p.ctx.sockets) (typed : Typed p.ctx.sockets)
    (received : Receives p t s pkt noted) (proto : pkt.proto = .tcp) : Connected s ∧ noted = [] := by
  have speaks := (typed s received.member).mp (received.proto_eq.symm.trans proto)
  cases received with
  | udp _ state => simp [Connected, state] at speaks
  | udp6 _ state => simp [Connected, state] at speaks
  | tcp chosen state =>
    exact ⟨state, tcp_receive_finds paired (List.mem_of_find?_eq_some chosen) state _⟩

private theorem receives_udp (typed : Typed p.ctx.sockets) (received : Receives p t s pkt noted)
    (proto : pkt.proto = .udp) : noted = [] := by
  have silent := (typed s received.member).not.mp (by rw [← received.proto_eq, proto]; simp)
  cases received with
  | udp => rfl
  | udp6 => rfl
  | tcp _ state => exact absurd (.inr state) silent

theorem handle_turn_relays (host : Host) (paired : PairedSockets p.ctx.sockets)
    (typed : Typed p.ctx.sockets) :
    RelayTurn p t (handleTurn host p t).1 (handleTurn host p t).2 := by
  have done := handle_turn_cases host p t
  generalize handleTurn host p t = turned at done ⊢
  obtain ⟨next, events⟩ := turned
  dsimp only at done ⊢
  cases done with
  | idle quiet => exact .apart rfl rfl (fun _ _ => rfl) (by
    rcases quiet with none | one
    · simp [none]
    · simp [one, Inert])
  | @accepts sock member state =>
    rcases tcp_accept_cases t.accept p sock with ⟨ctx, fds, bound, -, none⟩ |
      ⟨lan, wan, server, freshLan, freshWan, apart, accepted, opened, connected, ctx, kernel, paired⟩
    · exact .apart (by rw [ctx]) fds bound (by simp [none])
    · rw [paired]
      exact .accepts freshLan freshWan apart ⟨accepted, opened, connected⟩ (by rw [ctx]) kernel
  | relays received proto some =>
    obtain ⟨connected, rfl⟩ := receives_tcp paired typed received proto
    rw [tcp_packet_relays paired received.member connected received.sock_eq]
    exact .relays received connected proto some rfl
  | closes received proto ended =>
    obtain ⟨connected, rfl⟩ := receives_tcp paired typed received proto
    rw [tcp_close_removes_pair paired received.member connected received.sock_eq ended]
    exact .closes received connected proto ended rfl rfl
  | multicasts received proto =>
    obtain rfl := receives_udp typed received proto
    exact .apart rfl rfl (fun _ _ => rfl) (by simp [Inert, proto])
  | @fromServer sock pkt noted received proto =>
    obtain rfl := receives_udp typed received proto
    refine .apart rfl rfl (fun _ _ => rfl) ?_
    rcases from_server_cases host t.sent p pkt with ⟨line, refused, done⟩ | ⟨-, -, -, done⟩
    · rcases refused with rfl | rfl <;> simp [done, Inert, proto]
    · simp [done, Inert, proto]
  | @fromClient sock pkt noted received proto =>
    obtain rfl := receives_udp typed received proto
    refine .apart rfl rfl (fun _ _ => rfl) ?_
    rcases from_client_cases host t.sent p pkt with ⟨-, done⟩ | ⟨-, done⟩
    · simp [done, Inert, proto]
    · simp [done, Inert, proto]
  | responds received proto =>
    obtain rfl := receives_udp typed received proto
    exact .apart rfl rfl (fun _ _ => rfl) (by simp [Inert, proto])
  | queries received proto =>
    obtain rfl := receives_udp typed received proto
    exact .apart rfl rfl (fun _ _ => rfl) (by simp [Inert, proto])

theorem sweep_inert (t : Turn) (p : Proxy) : ∀ event ∈ (sweep t p).2, Inert event := by
  intro event member
  rcases sweep_events member with rfl | ⟨m, rfl⟩ <;> trivial

/-! ## Whole runs -/

/-- Take note of a pair: each of its descriptors has the other as its other end. -/
def connect (known : Int → Option Int) : Event → Int → Option Int
  | .paired lan wan _ => Function.update (Function.update known lan (some wan)) wan (some lan)
  | _ => known

/-- The other end of each descriptor, by the last pair a history made with it. -/
def connections (history : List Event) : Int → Option Int := history.foldl connect fun _ => none

private theorem connect_inert (inert : ∀ event ∈ events, Inert event) (known : Int → Option Int) :
    events.foldl connect known = known := by
  induction events with
  | nil => rfl
  | cons event rest ih =>
    have here : connect known event = known := by
      cases event with
      | paired lan wan server => exact absurd (inert (.paired lan wan server) (by simp)) (by simp [Inert])
      | _ => rfl
    rw [List.foldl_cons, here]
    exact ih fun other member => inert other (List.mem_cons_of_mem _ member)

private theorem connections_inert (inert : ∀ event ∈ events, Inert event) :
    connections (history ++ events) = connections history := by
  rw [connections, List.foldl_append]
  exact connect_inert inert _

/-- A process as a start leaves it: no connection yet, every socket open. -/
structure Fresh (p : Proxy) : Prop where
  distinct : DistinctSockets p.ctx.sockets
  held : ∀ s ∈ p.ctx.sockets, s.fd ∈ p.kernel.fds
  unconnected : ∀ s ∈ p.ctx.sockets, ¬ Connected s
  typed : Typed p.ctx.sockets
  mappings : p.ctx.mappings = []

theorem laid_fresh (laid : Laid opened p) : Fresh p where
  distinct := by
    have distinct := laid.distinct
    rwa [← laid.fds] at distinct
  held s member := by
    obtain ⟨role, listed, -⟩ := laid.role_of member
    exact laid.held _ listed
  unconnected s member := by
    obtain ⟨role, -, -, state⟩ := laid.role_of member
    rw [Connected, state]
    cases role <;> simp [Role.kind]
  typed s member := by
    obtain ⟨role, -, proto, state⟩ := laid.role_of member
    rw [Connected, proto, state]
    cases role <;> simp [Role.kind, Role.proto]
  mappings := laid.mappings

/-- What holds of a process `p` that ran with this history since it was `p₀`. -/
structure Relaying (p₀ p : Proxy) (history : List Event) : Prop where
  settings : p.ctx.settings = p₀.ctx.settings
  paired : PairedSockets p.ctx.sockets
  typed : Typed p.ctx.sockets
  kept : p.ctx.sockets.filter (fun s => ¬ Connected s) = p₀.ctx.sockets
  held : ∀ s ∈ p.ctx.sockets, s.fd ∈ p.kernel.fds
  opened : ∀ fd, fd ∈ p.kernel.fds ↔
    fd ∈ p₀.kernel.fds ∨ ∃ s ∈ p.ctx.sockets, Connected s ∧ s.fd = fd
  apart : ∀ s ∈ p.ctx.sockets, Connected s → s.fd ∉ p₀.kernel.fds
  bound : ∀ fd ∈ p₀.kernel.fds, p.kernel.bound fd = p₀.kernel.bound fd
  linked : ∀ s ∈ p.ctx.sockets, Connected s → connections history s.fd = some s.peer

theorem fresh_relaying (fresh : Fresh p) : Relaying p p [] where
  settings := rfl
  paired := .of_unlinked fresh.distinct fresh.unconnected
  typed := fresh.typed
  kept := List.filter_eq_self.mpr (by simpa using fresh.unconnected)
  held := fresh.held
  opened fd := by
    constructor
    · exact .inl
    · rintro (held | ⟨s, member, connected, -⟩)
      · exact held
      · exact absurd connected (fresh.unconnected s member)
  apart s member connected := absurd connected (fresh.unconnected s member)
  bound _ _ := rfl
  linked s member connected := absurd connected (fresh.unconnected s member)

namespace Relaying

variable {q : Proxy}

/-- The sockets of the start stay on the list. -/
theorem first_sockets (relaying : Relaying p₀ p history) :
    ∀ s, s ∈ p₀.ctx.sockets ↔ s ∈ p.ctx.sockets ∧ ¬ Connected s := by
  intro s
  rw [← relaying.kept]
  simp

/-- A UDP packet comes in on a socket of the start. -/
theorem udp_socket (relaying : Relaying p₀ p history) (received : Receives p t s pkt noted)
    (udp : pkt.proto = .udp) : s ∈ p₀.ctx.sockets := by
  refine (relaying.first_sockets s).mpr ⟨received.member, fun connected => ?_⟩
  have tcp := (relaying.typed s received.member).mpr (.inr connected)
  rw [← received.proto_eq, udp] at tcp
  cases tcp

private theorem stays (relaying : Relaying p₀ p history) (settings : q.ctx.settings = p.ctx.settings)
    (sockets : q.ctx.sockets = p.ctx.sockets) (fds : q.kernel.fds = p.kernel.fds)
    (bound : ∀ fd ∈ p.kernel.fds, q.kernel.bound fd = p.kernel.bound fd)
    (inert : connections (history ++ events) = connections history) :
    Relaying p₀ q (history ++ events) where
  settings := settings.trans relaying.settings
  paired := by rw [sockets]; exact relaying.paired
  typed := by rw [sockets]; exact relaying.typed
  kept := by rw [sockets]; exact relaying.kept
  held := by rw [sockets, fds]; exact relaying.held
  opened := by rw [sockets, fds]; exact relaying.opened
  apart := by rw [sockets]; exact relaying.apart
  bound fd first := (bound fd ((relaying.opened fd).mpr (.inl first))).trans (relaying.bound fd first)
  linked := by rw [sockets, inert]; exact relaying.linked

private theorem adds (relaying : Relaying p₀ p history) (settings : q.ctx.settings = p.ctx.settings)
    (freshLan : lan ∉ p.kernel.fds) (freshWan : wan ∉ p.kernel.fds) (apart : lan ≠ wan)
    (sockets : q.ctx.sockets =
        { fd := wan, ipproto := .tcp, state := .tcpConnected, peer := lan } ::
        { fd := lan, ipproto := .tcp, state := .tcpConnected, peer := wan } :: p.ctx.sockets)
    (kernel : q.kernel = (p.kernel.opens lan).opens wan) :
    Relaying p₀ q (history ++ [.paired lan wan server]) where
  settings := settings.trans relaying.settings
  paired := by
    have unlisted {fd : Int} (fresh : fd ∉ p.kernel.fds) : fd ∉ p.ctx.sockets.map Socket.fd := by
      intro member
      obtain ⟨s, listed, rfl⟩ := List.mem_map.mp member
      exact fresh (relaying.held s listed)
    rw [sockets]
    exact relaying.paired.add rfl rfl rfl rfl apart (unlisted freshLan) (unlisted freshWan)
  typed := by
    rw [sockets]
    intro s member
    simp only [List.mem_cons] at member
    rcases member with rfl | rfl | old
    · simp [Connected]
    · simp [Connected]
    · exact relaying.typed s old
  kept := by
    rw [sockets]
    simpa [Connected] using relaying.kept
  held := by
    rw [sockets, kernel]
    intro s member
    simp only [List.mem_cons] at member
    rcases member with rfl | rfl | old
    · simp
    · simp
    · simp [relaying.held s old]
  opened fd := by
    have before := relaying.opened fd
    rw [sockets, kernel]
    simp only [Kernel.opens_fds, Finset.mem_insert, List.mem_cons, exists_eq_or_imp, true_and, before]
    rw [eq_comm (a := wan), eq_comm (a := lan), or_left_comm (b := fd ∈ p₀.kernel.fds),
      or_left_comm (b := fd ∈ p₀.kernel.fds)]
  apart := by
    rw [sockets]
    have unheld {fd : Int} (fresh : fd ∉ p.kernel.fds) : fd ∉ p₀.kernel.fds :=
      fun first => fresh ((relaying.opened fd).mpr (.inl first))
    intro s member connected
    simp only [List.mem_cons] at member
    rcases member with rfl | rfl | old
    · exact unheld freshWan
    · exact unheld freshLan
    · exact relaying.apart s old connected
  bound fd first := by
    have held := (relaying.opened fd).mpr (.inl first)
    have notLan : fd ≠ lan := fun same => freshLan (same ▸ held)
    have notWan : fd ≠ wan := fun same => freshWan (same ▸ held)
    rw [kernel, Kernel.opens_bound _ notWan, Kernel.opens_bound _ notLan]
    exact relaying.bound fd first
  linked := by
    rw [sockets]
    intro s member connected
    simp only [List.mem_cons] at member
    rw [connections, List.foldl_append, List.foldl_cons, List.foldl_nil, connect]
    rcases member with rfl | rfl | old
    · simp
    · simp [apart]
    · have held := relaying.held s old
      have notLan : s.fd ≠ lan := fun same => freshLan (same ▸ held)
      have notWan : s.fd ≠ wan := fun same => freshWan (same ▸ held)
      rw [Function.update_of_ne notWan, Function.update_of_ne notLan]
      exact relaying.linked s old connected

private theorem removes (relaying : Relaying p₀ p history) (member : s ∈ p.ctx.sockets)
    (connected : Connected s) (settings : q.ctx.settings = p.ctx.settings)
    (sockets : q.ctx.sockets = (p.ctx.sockets.filter (·.fd ≠ s.fd)).filter (·.fd ≠ s.peer))
    (kernel : q.kernel = (p.kernel.sockDel s.fd).sockDel s.peer)
    (inert : connections (history ++ events) = connections history) :
    Relaying p₀ q (history ++ events) := by
  obtain ⟨other, held, -, otherConnected, named, -, -⟩ := peer_found relaying.paired member connected
  have inside (c : Socket) : c ∈ q.ctx.sockets ↔ c ∈ p.ctx.sockets ∧ c.fd ≠ s.fd ∧ c.fd ≠ s.peer := by
    rw [sockets]
    simp only [List.mem_filter, decide_eq_true_eq, and_assoc]
  have subset (c : Socket) (left : c ∈ q.ctx.sockets) : c ∈ p.ctx.sockets := ((inside c).mp left).1
  have firstApart {fd : Int} (first : fd ∈ p₀.kernel.fds) : fd ≠ s.fd ∧ fd ≠ s.peer :=
    ⟨fun same => relaying.apart s member connected (same ▸ first),
      fun same => relaying.apart other held otherConnected (named ▸ same ▸ first)⟩
  refine ⟨settings.trans relaying.settings, ?_, fun c left => relaying.typed c (subset c left), ?_, ?_, ?_,
    fun c left => relaying.apart c (subset c left), ?_, ?_⟩
  · rw [sockets]
    exact relaying.paired.remove member connected
  · rw [sockets, List.filter_filter, List.filter_filter, ← relaying.kept]
    apply List.filter_congr
    intro c listed
    by_cases linked : Connected c
    · simp [linked]
    · have notSelf : c.fd ≠ s.fd := fun same =>
        linked (relaying.paired.distinct.same listed member same ▸ connected)
      have notPeer : c.fd ≠ s.peer := fun same =>
        linked (relaying.paired.distinct.same listed held (same.trans named.symm) ▸ otherConnected)
      simp [linked, notSelf, notPeer]
  · intro c left
    obtain ⟨listed, notSelf, notPeer⟩ := (inside c).mp left
    rw [kernel]
    simp [notSelf, notPeer, relaying.held c listed]
  · intro fd
    rw [kernel, Kernel.sockDel_fds, Kernel.sockDel_fds, Finset.mem_erase, Finset.mem_erase, relaying.opened]
    constructor
    · rintro ⟨notPeer, notSelf, first | ⟨c, listed, linked, rfl⟩⟩
      · exact .inl first
      · exact .inr ⟨c, (inside c).mpr ⟨listed, notSelf, notPeer⟩, linked, rfl⟩
    · rintro (first | ⟨c, left, linked, rfl⟩)
      · exact ⟨(firstApart first).2, (firstApart first).1, .inl first⟩
      · obtain ⟨listed, notSelf, notPeer⟩ := (inside c).mp left
        exact ⟨notPeer, notSelf, .inr ⟨c, listed, linked, rfl⟩⟩
  · intro fd first
    rw [kernel, Kernel.sockDel_bound _ (firstApart first).2, Kernel.sockDel_bound _ (firstApart first).1]
    exact relaying.bound fd first
  · rw [inert]
    exact fun c left => relaying.linked c (subset c left)

theorem run_turn (relaying : Relaying p₀ p history) :
    Relaying p₀ (runTurn host p t).1 (history ++ (runTurn host p t).2) := by
  have settings := run_turn_settings host p t
  have turn := handle_turn_relays host (t := t) relaying.paired relaying.typed
  have handled : Relaying p₀ (handleTurn host p t).1 (history ++ (handleTurn host p t).2) := by
    have settings : (handleTurn host p t).1.ctx.settings = p.ctx.settings := settings
    generalize (handleTurn host p t).1 = q, (handleTurn host p t).2 = events at turn settings ⊢
    cases turn with
    | apart sockets fds bound inert =>
      exact relaying.stays settings sockets fds bound (connections_inert inert)
    | accepts freshLan freshWan apart answered sockets kernel =>
      exact relaying.adds settings freshLan freshWan apart sockets kernel
    | relays received connected proto some same =>
      subst same
      refine relaying.stays rfl rfl rfl (fun _ _ => rfl) ?_
      rw [connections, List.foldl_append]
      rfl
    | closes received connected proto ended sockets kernel =>
      refine relaying.removes received.member connected settings sockets kernel ?_
      rw [connections, List.foldl_append]
      rfl
  have final := handled.stays (q := (runTurn host p t).1) rfl rfl rfl (fun _ _ => rfl)
    (connections_inert (sweep_inert t (handleTurn host p t).1))
  rwa [List.append_assoc] at final

end Relaying

theorem booted_fresh (booted : Booted host p) : Fresh p := by
  obtain ⟨natPmp, tcp₁, tcp₂, laid⟩ := booted_laid booted
  exact laid_fresh laid

theorem booted_relaying (booted : Booted host p₀) (turns : List Turn) :
    Relaying p₀ ((run host).after p₀ turns) ((run host).trace p₀ turns) := by
  have ran := (run host).recorded.invariant_after_any (fun record => Relaying p₀ record.1 record.2)
    (p₀, []) (fun _ _ relaying => relaying.run_turn) (fresh_relaying (booted_fresh booted)) turns
  rwa [Machine.recorded_after, List.nil_append] at ran

/-- The accounts of the relay: who is paired with whom, and which descriptors
are open since the start. -/
structure PairedRelay (p₀ p : Proxy) : Prop where
  distinct : p.ctx.fds.Nodup
  paired : ∀ s ∈ p.ctx.sockets, Connected s → ∃ other, socketFind p.ctx s.peer = some other ∧
    Connected other ∧ other.peer = s.fd ∧ other.fd ≠ s.fd
  kept : p₀.kernel.fds ⊆ p.kernel.fds
  accounted : ∀ fd, fd ∈ p.kernel.fds \ p₀.kernel.fds ↔ ∃ s ∈ p.ctx.sockets, Connected s ∧ s.fd = fd

/-- What one pass of the loop may do to the relay, after this history. -/
structure RelayPass (p : Proxy) (history : List Event) (t : Turn) (q : Proxy) (events : List Event) :
    Prop where
  /-- An accept that fails at any of its calls leaves list and descriptors as they were. -/
  failed_accept : ∀ s, picked p t = some s → s.state = .tcpListening →
    t.accept.accept = none ∨ t.accept.socket = none ∨ t.accept.connect < 0 →
    q.ctx.sockets = p.ctx.sockets ∧ q.kernel.fds = p.kernel.fds
  /-- The end of a stream removes and closes its own pair. -/
  close : ∀ s d, picked p t = some s → Connected s → t.recv = some d → d.payload = [] →
    q.ctx.sockets = (p.ctx.sockets.filter (·.fd ≠ s.fd)).filter (·.fd ≠ s.peer) ∧
      q.kernel.fds = (p.kernel.fds.erase s.fd).erase s.peer
  /-- What is read from a connection goes to its other end or nowhere. -/
  isolated : ∀ pkt call, .received pkt ∈ events → pkt.proto = .tcp → .sent call ∈ events →
    call.caller = .relay ∧ call.source = pkt.sock ∧ call.data = pkt.data ∧
      connections history pkt.sock = some call.fd
  read_first : ∀ call, .sent call ∈ events → call.caller = .relay →
    ∃ pkt, .received pkt ∈ events ∧ pkt.proto = .tcp
  found : ∀ line, .complaint line ∈ events → line ≠ .noCorrespondingSocket ∧ line ≠ .unableToFindSocket ∧
    line ≠ .unableToFindPeer

private theorem relaying_paired (relaying : Relaying p₀ p history) : PairedRelay p₀ p where
  distinct := relaying.paired.distinct
  paired s member connected := by
    obtain ⟨other, -, found, linked, -, back, apart⟩ := peer_found relaying.paired member connected
    exact ⟨other, found, linked, back, apart⟩
  kept fd first := (relaying.opened fd).mpr (.inl first)
  accounted fd := by
    rw [Finset.mem_sdiff, relaying.opened]
    constructor
    · rintro ⟨first | linked, notFirst⟩
      · exact absurd first notFirst
      · exact linked
    · rintro ⟨s, member, connected, rfl⟩
      exact ⟨.inr ⟨s, member, connected, rfl⟩, relaying.apart s member connected⟩

private theorem relaying_pass (relaying : Relaying p₀ p history) :
    RelayPass p history t (runTurn host p t).1 (runTurn host p t).2 := by
  have turn := handle_turn_relays host (t := t) relaying.paired relaying.typed
  constructor
  case failed_accept =>
    intro s chosen listening fails
    have accept : (handleTurn host p t).1 = (sockTcpAccept t.accept p s).1 := by
      rw [listening_turn chosen listening]
    rcases tcp_accept_cases t.accept p s with ⟨ctx, fds, -⟩ |
      ⟨_, _, _, _, _, _, accepted, opened, connected, -⟩
    · exact ⟨(by rw [accept, ctx] : (handleTurn host p t).1.ctx.sockets = p.ctx.sockets),
        (by rw [accept, fds] : (handleTurn host p t).1.kernel.fds = p.kernel.fds)⟩
    · rcases fails with none | none | negative
      · simp [none] at accepted
      · simp [none] at opened
      · omega
  case close =>
    intro s d chosen connected read ended
    have member : s ∈ p.ctx.sockets := List.mem_of_find?_eq_some chosen
    have proto : s.ipproto = .tcp := (relaying.typed s member).mpr (.inr connected)
    have closed : (handleTurn host p t).1 = (handleTcpClose p (sockTcpReceive p.ctx s d).1).proxy := by
      rw [receives_turn host (.tcp chosen connected read), handlePacket]
      simp [sockTcpReceive, proto, Pkt.datalen, ended]
    have removed : handleTcpClose p (sockTcpReceive p.ctx s d).1 = _ :=
      tcp_close_removes_pair relaying.paired member connected rfl (by simp [sockTcpReceive, ended])
    rw [removed] at closed
    exact ⟨(by rw [closed] : (handleTurn host p t).1.ctx.sockets = _),
      (by rw [closed]; rfl : (handleTurn host p t).1.kernel.fds = _)⟩
  case isolated =>
    intro pkt call received proto sent
    have received : .received pkt ∈ (handleTurn host p t).2 := by
      simpa using run_turn_events received
    have sent : .sent call ∈ (handleTurn host p t).2 := by simpa using run_turn_events sent
    generalize (handleTurn host p t).1 = q, (handleTurn host p t).2 = events at turn received sent
    cases turn with
    | apart _ _ _ inert => simpa [Inert, proto] using inert _ received
    | accepts => simp at sent
    | relays read connected _ _ _ =>
      simp only [List.mem_cons, Event.received.injEq, reduceCtorEq, List.not_mem_nil, or_false,
        false_or, Event.sent.injEq] at received sent
      subst received sent
      refine ⟨rfl, read.sock_eq.symm, rfl, ?_⟩
      rw [read.sock_eq]
      exact relaying.linked _ read.member connected
    | closes => simp at sent
  case read_first =>
    intro call sent relay
    have handled : .sent call ∈ (handleTurn host p t).2 := by simpa using run_turn_events sent
    suffices read : ∃ pkt, .received pkt ∈ (handleTurn host p t).2 ∧ pkt.proto = .tcp by
      obtain ⟨pkt, received, proto⟩ := read
      exact ⟨pkt, List.mem_append_left _ received, proto⟩
    generalize (handleTurn host p t).1 = q, (handleTurn host p t).2 = events at turn handled ⊢
    cases turn with
    | apart _ _ _ inert => exact absurd relay (inert _ handled)
    | accepts => simp at handled
    | relays _ _ proto _ _ => exact ⟨_, by simp, proto⟩
    | closes => simp at handled
  case found =>
    intro line complained
    have handled : .complaint line ∈ (handleTurn host p t).2 := by simpa using run_turn_events complained
    generalize (handleTurn host p t).1 = q, (handleTurn host p t).2 = events at turn handled
    cases turn with
    | apart _ _ _ inert =>
      obtain ⟨corresponding, found, peer, -⟩ := inert _ handled
      exact ⟨corresponding, found, peer⟩
    | accepts | relays | closes => simp at handled

/-- After any run from a successful start, whatever was accepted, read, sent
and closed, the relay is paired and its descriptors are accounted for, and the
next pass keeps the connections apart. -/
theorem relay_paired_and_isolated (host : Host) (p₀ : Proxy) (booted : Booted host p₀)
    (turns : List Turn) (t : Turn) :
    PairedRelay p₀ ((run host).after p₀ turns) ∧
      RelayPass ((run host).after p₀ turns) ((run host).trace p₀ turns) t
        (runTurn host ((run host).after p₀ turns) t).1
        (runTurn host ((run host).after p₀ turns) t).2 :=
  have relaying := booted_relaying booted turns
  ⟨relaying_paired relaying, relaying_pass relaying⟩

/-- A connection is accepted, passes data on and ends. -/
theorem household_connection_paired :
    let turns : List Turn := [
      { ready := [4], accept := { accept := some 7, socket := some 8 } },
      { ready := [7], recv := some { payload := [1, 2, 3] }, sent := 3 }]
    PairedRelay household ((run littleHost).after household turns) ∧
      RelayPass ((run littleHost).after household turns) ((run littleHost).trace household turns)
        { ready := [8], recv := some { payload := [] } }
        (runTurn littleHost ((run littleHost).after household turns)
          { ready := [8], recv := some { payload := [] } }).1
        (runTurn littleHost ((run littleHost).after household turns)
          { ready := [8], recv := some { payload := [] } }).2 :=
  relay_paired_and_isolated littleHost household household_booted _ _

end Portproxy.RelayPairing
