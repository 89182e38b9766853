import Portproxy.ChunkStream
import Portproxy.RelayPairing

/-! The bytes of a relayed connection. Each read is passed on in one `send`,
and what this `send` does not accept is dropped. The other end sees a stream
without holes as long as nothing more is read after a chunk was cut short. -/
namespace Portproxy.RelayStream
open StepMachine ChunkStream SocketRoles TurnSemantics RelayPairing

/-- What is known of a connected socket: the chunks read from it, and those
handed to it. -/
structure Stream where
  read : List (List UInt8) := []
  handed : List (Handover UInt8) := []
  deriving DecidableEq, Repr

/-- Take note of an event. A new pair starts with nothing read and nothing
handed over; a failed `send` takes no byte. -/
def note (known : Int → Stream) : Event → Int → Stream
  | .paired lan wan _ => Function.update (Function.update known lan {}) wan {}
  | .received pkt =>
    if pkt.proto = .tcp then
      Function.update known pkt.sock { known pkt.sock with read := (known pkt.sock).read ++ [pkt.data] }
    else known
  | .sent call =>
    if call.caller = .relay then
      Function.update known call.fd
        { known call.fd with handed := (known call.fd).handed ++ [⟨call.data, call.result.toNat⟩] }
    else known
  | _ => known

/-- The streams of a history, by descriptor. -/
def streams (history : List Event) : Int → Stream := history.foldl note fun _ => {}

/-- The bytes read from a socket. -/
def bytesRead (history : List Event) (fd : Int) : List UInt8 := (streams history fd).read.flatten

/-- The bytes a socket has accepted. -/
def bytesAccepted (history : List Event) (fd : Int) : List UInt8 := accepted (streams history fd).handed

/-- After this pass the streams of all connections have no holes, and the pass
itself hands nothing over ahead of missing bytes. -/
structure Unbroken (record : Proxy × List Event) (q : Proxy) (events : List Event) : Prop where
  prefixed : ∀ s ∈ q.ctx.sockets, Connected s →
    bytesAccepted (record.2 ++ events) s.peer <+: bytesRead (record.2 ++ events) s.fd
  inOrder : ∀ call, .sent call ∈ events → call.caller = .relay →
    (bytesRead record.2 call.source).length ≤ (bytesAccepted record.2 call.fd).length

/-- If this pass reads data from a connection, its other end has taken every
chunk before it whole. -/
def CaughtUp (record : Proxy × List Event) (t : Turn) : Prop :=
  ∀ s pkt noted, Receives record.1 t s pkt noted → pkt.proto = .tcp → pkt.data ≠ [] →
    ∀ handover ∈ (streams record.2 s.peer).handed, handover.Whole

variable {host : Host} {p p₀ q : Proxy} {t : Turn} {s : Socket} {pkt : Pkt}
  {history events noted : List Event} {known : Int → Stream}

/-! ## What a pass adds to the streams -/

private theorem note_inert (inert : Inert event) : note known event = known := by
  cases event with
  | received pkt => simp [note, show pkt.proto = .udp from inert]
  | sent call => simp [note, show call.caller ≠ .relay from inert]
  | paired => cases inert
  | _ => rfl

theorem streams_inert (inert : ∀ event ∈ events, Inert event) :
    streams (history ++ events) = streams history := by
  rw [streams, List.foldl_append]
  change events.foldl note (streams history) = _
  generalize streams history = known
  induction events with
  | nil => rfl
  | cons event rest ih =>
    rw [List.foldl_cons, note_inert (inert event (by simp))]
    exact ih fun other member => inert other (List.mem_cons_of_mem _ member)

/-- A read that is passed on, as `handle_tcp_packet` does it. -/
def relayed (pkt : Pkt) (peer result : Int) : List Event :=
  [.received pkt, .sent { caller := .relay, source := pkt.sock, fd := peer, data := pkt.data, result }]

/-- A chunk that is read is added to what the socket sent, and to what its other
end was handed. -/
theorem streams_relayed (proto : pkt.proto = .tcp) (history : List Event) (peer result fd : Int) :
    (streams (history ++ relayed pkt peer result) fd).read =
        (if fd = pkt.sock then (streams history fd).read ++ [pkt.data] else (streams history fd).read) ∧
      (streams (history ++ relayed pkt peer result) fd).handed =
        if fd = peer then (streams history fd).handed ++ [⟨pkt.data, result.toNat⟩]
        else (streams history fd).handed := by
  have later : streams (history ++ relayed pkt peer result) =
      note (note (streams history) (.received pkt))
        (.sent { caller := .relay, source := pkt.sock, fd := peer, data := pkt.data, result }) := by
    rw [streams, List.foldl_append]
    rfl
  simp only [later, note, proto, ↓reduceIte, Function.update_apply]
  by_cases here : fd = peer
  · subst here
    by_cases both : fd = pkt.sock <;> simp [both]
  · rw [if_neg here, if_neg here]
    by_cases there : fd = pkt.sock <;> simp [there]

/-- An end of stream adds no byte. -/
theorem streams_ended (proto : pkt.proto = .tcp) (history : List Event) (other : fd ≠ pkt.sock) :
    streams (history ++ [.received pkt]) fd = streams history fd := by
  rw [streams, List.foldl_append]
  change note (streams history) (.received pkt) fd = _
  rw [note, if_pos proto, Function.update_of_ne other]

theorem handed_ended (proto : pkt.proto = .tcp) (history : List Event) (fd : Int) :
    (streams (history ++ [.received pkt]) fd).handed = (streams history fd).handed := by
  by_cases here : fd = pkt.sock
  · rw [streams, List.foldl_append]
    change (note (streams history) (.received pkt) fd).handed = _
    rw [note, if_pos proto, here, Function.update_self]
  · rw [streams_ended proto history here]

/-- The chunks read from a connected socket were handed to its other end, which
has a prefix of their bytes. -/
structure Carried (history : List Event) (s : Socket) : Prop where
  matched : (streams history s.peer).handed.map Handover.chunk = (streams history s.fd).read
  prefixed : bytesAccepted history s.peer <+: bytesRead history s.fd

theorem Carried.of_same (carried : Carried history s)
    (read : (streams later s.fd).read = (streams history s.fd).read)
    (handed : (streams later s.peer).handed = (streams history s.peer).handed) : Carried later s := by
  constructor
  · rw [read, handed]
    exact carried.matched
  · rw [bytesAccepted, bytesRead, read, handed]
    exact carried.prefixed

/-- The other end has caught up exactly if it took every chunk whole. -/
theorem Carried.caught_up (carried : Carried history s) :
    (bytesRead history s.fd).length ≤ (bytesAccepted history s.peer).length ↔
      ∀ handover ∈ (streams history s.peer).handed, handover.Whole := by
  have read : bytesRead history s.fd = offered (streams history s.peer).handed := by
    rw [bytesRead, ← carried.matched, offered]
  rw [read]
  exact caught_up_iff

/-- What a run keeps, as long as nothing is read from a connection whose other
end is behind. -/
structure Streaming (p₀ : Proxy) (record : Proxy × List Event) : Prop where
  relaying : Relaying p₀ record.1 record.2
  carried : ∀ s ∈ record.1.ctx.sockets, Connected s → Carried record.2 s

theorem booted_streaming (booted : Booted host p₀) : Streaming p₀ (p₀, []) :=
  ⟨fresh_relaying (booted_fresh booted),
    fun s member connected => absurd connected ((booted_fresh booted).unconnected s member)⟩

private theorem accepts_carried (streaming : Streaming p₀ (p, history)) (freshLan : lan ∉ p.kernel.fds)
    (freshWan : wan ∉ p.kernel.fds) (apart : lan ≠ wan)
    (sockets : q.ctx.sockets =
        { fd := wan, ipproto := .tcp, state := .tcpConnected, peer := lan } ::
        { fd := lan, ipproto := .tcp, state := .tcpConnected, peer := wan } :: p.ctx.sockets)
    (member : s ∈ q.ctx.sockets) (connected : Connected s) :
    Carried (history ++ [.paired lan wan server]) s := by
  have later : streams (history ++ [.paired lan wan server]) =
      Function.update (Function.update (streams history) lan {}) wan {} := by
    rw [streams, List.foldl_append]
    rfl
  have atLan : streams (history ++ [.paired lan wan server]) lan = {} := by
    rw [later, Function.update_of_ne apart, Function.update_self]
  have atWan : streams (history ++ [.paired lan wan server]) wan = {} := by
    rw [later, Function.update_self]
  have empty {fd peer : Int} (left : streams (history ++ [.paired lan wan server]) fd = {})
      (right : streams (history ++ [.paired lan wan server]) peer = {}) :
      Carried (history ++ [.paired lan wan server])
        { fd, ipproto := .tcp, state := .tcpConnected, peer } := by
    constructor <;> simp [bytesAccepted, bytesRead, left, right, accepted]
  rw [sockets] at member
  simp only [List.mem_cons] at member
  rcases member with rfl | rfl | old
  · exact empty atWan atLan
  · exact empty atLan atWan
  · obtain ⟨other, held, -, -, named, -⟩ := peer_found streaming.relaying.paired old connected
    have same {fd : Int} (open_ : fd ∈ p.kernel.fds) :
        streams (history ++ [.paired lan wan server]) fd = streams history fd := by
      have notLan : fd ≠ lan := fun same => freshLan (same ▸ open_)
      have notWan : fd ≠ wan := fun same => freshWan (same ▸ open_)
      rw [later, Function.update_of_ne notWan, Function.update_of_ne notLan]
    exact (streaming.carried s old connected).of_same
      (by rw [same (streaming.relaying.held s old)])
      (by rw [same (named ▸ streaming.relaying.held other held)])

/-- Other connections see nothing of a chunk that is passed on. -/
private theorem relays_carried (streaming : Streaming p₀ (p, history)) (member : s ∈ p.ctx.sockets)
    (connected : Connected s) (source : pkt.sock = s.fd) (proto : pkt.proto = .tcp)
    (caughtUp : ∀ handover ∈ (streams history s.peer).handed, handover.Whole) (result : Int)
    (member' : other ∈ p.ctx.sockets) (connected' : Connected other) :
    Carried (history ++ relayed pkt s.peer result) other := by
  have carried := streaming.carried other member' connected'
  obtain ⟨read, -⟩ := streams_relayed proto history s.peer result other.fd
  obtain ⟨-, handed⟩ := streams_relayed proto history s.peer result other.peer
  rw [source] at read
  by_cases same : other = s
  · subst same
    rw [if_pos rfl] at read handed
    constructor
    · rw [read, handed, List.map_append, carried.matched]
      rfl
    · have wholes := accepted_snoc_prefix caughtUp ⟨pkt.data, result.toNat⟩
      rw [bytesAccepted, bytesRead, read, handed, ← carried.matched]
      simpa [offered] using wholes
  · obtain ⟨far, held, -, -, named, back, -⟩ := peer_found streaming.relaying.paired member connected
    obtain ⟨far', held', -, -, named', back', -⟩ := peer_found streaming.relaying.paired member' connected'
    have distinct := streaming.relaying.paired.distinct
    have fdApart : other.fd ≠ s.fd := fun fds => same (distinct.same member' member fds)
    have peerApart : other.peer ≠ s.peer := by
      intro peers
      have far_eq : far' = far := distinct.same held' held (named'.trans (peers.trans named.symm))
      exact fdApart (by rw [← back', ← back, far_eq])
    rw [if_neg fdApart] at read
    rw [if_neg peerApart] at handed
    exact carried.of_same read handed

/-! ## Every pass -/

private theorem run_turn_streams (host : Host) (p : Proxy) (t : Turn) (history : List Event) :
    streams (history ++ (runTurn host p t).2) = streams (history ++ (handleTurn host p t).2) := by
  have split : history ++ (runTurn host p t).2 =
      (history ++ (handleTurn host p t).2) ++ (sweep t (handleTurn host p t).1).2 := by
    rw [List.append_assoc]
    rfl
  rw [split, streams_inert (sweep_inert _ _)]

/-- A pass that reads data from a connection passes it on, unless its other end
is behind; every other pass leaves the streams of the remaining connections as
they were. -/
private theorem handle_turn_carried (host : Host) (streaming : Streaming p₀ (p, history))
    (caughtUp : CaughtUp (p, history) t) (member : s ∈ (handleTurn host p t).1.ctx.sockets)
    (connected : Connected s) : Carried (history ++ (handleTurn host p t).2) s := by
  have turn := handle_turn_relays host (t := t) streaming.relaying.paired streaming.relaying.typed
  generalize (handleTurn host p t).1 = q, (handleTurn host p t).2 = events at turn member ⊢
  cases turn with
  | apart sockets _ _ inert =>
    have same : streams (history ++ events) = streams history := streams_inert inert
    rw [sockets] at member
    exact (streaming.carried s member connected).of_same (by rw [same]) (by rw [same])
  | accepts freshLan freshWan apart _ sockets _ =>
    exact accepts_carried streaming freshLan freshWan apart sockets member connected
  | @relays s₀ pkt received connected₀ proto some same =>
    subst same
    have carried := relays_carried streaming received.member connected₀ received.sock_eq proto
      (caughtUp s₀ pkt [] received proto some) t.sent member connected
    rwa [relayed, received.sock_eq] at carried
  | @closes s₀ pkt received _ proto ended sockets _ =>
    rw [sockets] at member
    simp only [List.mem_filter, decide_eq_true_eq] at member
    obtain ⟨⟨listed, notSelf⟩, -⟩ := member
    refine (streaming.carried s listed connected).of_same ?_ (handed_ended proto history s.peer)
    rw [streams_ended proto history (received.sock_eq ▸ notSelf)]

private theorem unbroken_iff_caught_up (record : Proxy × List Event) (t : Turn)
    (streaming : Streaming p₀ record) :
    Unbroken record (runTurn host record.1 t).1 (runTurn host record.1 t).2 ↔ CaughtUp record t := by
  obtain ⟨p, history⟩ := record
  have turn := handle_turn_relays host (t := t) streaming.relaying.paired streaming.relaying.typed
  constructor
  · intro unbroken s pkt noted received proto some
    have emitted : .received pkt ∈ (handleTurn host p t).2 := by
      rw [receives_turn host received]
      simp
    have inOrder : ∀ call, .sent call ∈ (handleTurn host p t).2 → call.caller = .relay →
        (bytesRead history call.source).length ≤ (bytesAccepted history call.fd).length :=
      fun call sent => unbroken.inOrder call (List.mem_append_left _ sent)
    generalize (handleTurn host p t).1 = q, (handleTurn host p t).2 = events at turn emitted inOrder
    cases turn with
    | apart _ _ _ inert =>
      have udp : pkt.proto = .udp := inert _ emitted
      rw [udp] at proto
      cases proto
    | accepts => simp at emitted
    | @relays s₀ pkt₀ received₀ connected _ _ _ =>
      obtain rfl : s = s₀ := Option.some.inj (received.chosen.symm.trans received₀.chosen)
      have behind := inOrder _ (List.mem_cons_of_mem _ List.mem_cons_self) rfl
      exact (streaming.carried s received.member connected).caught_up.mp behind
    | closes _ _ _ ended =>
      obtain rfl : pkt = _ := by simpa using emitted
      exact absurd ended some
  · intro caughtUp
    constructor
    · intro s member connected
      have carried := handle_turn_carried host streaming caughtUp member connected
      rw [bytesAccepted, bytesRead, run_turn_streams]
      exact carried.prefixed
    · intro call sent relay
      have handled : .sent call ∈ (handleTurn host p t).2 := by simpa using run_turn_events sent
      generalize (handleTurn host p t).1 = q, (handleTurn host p t).2 = events at turn handled
      cases turn with
      | apart _ _ _ inert => exact absurd relay (inert _ handled)
      | accepts | closes => simp at handled
      | @relays s₀ pkt received connected proto some _ =>
        simp only [List.mem_cons, reduceCtorEq, List.not_mem_nil, or_false, false_or,
          Event.sent.injEq] at handled
        subst handled
        exact (streaming.carried s₀ received.member connected).caught_up.mpr
          (caughtUp s₀ pkt [] received proto some)

private theorem run_turn_streaming (record : Proxy × List Event) (t : Turn)
    (streaming : Streaming p₀ record) (caughtUp : CaughtUp record t) :
    Streaming p₀ ((run host).recorded.step record t).1 := by
  obtain ⟨p, history⟩ := record
  refine ⟨streaming.relaying.run_turn, fun s member connected => ?_⟩
  have carried := handle_turn_carried host streaming caughtUp member connected
  have same := run_turn_streams host p t history
  exact carried.of_same (by rw [← same]; rfl) (by rw [← same]; rfl)

/-- No relayed stream gets a hole, in a run that reads and sends in any pattern,
exactly as long as nothing is read from a connection whose other end did not
take every chunk so far. -/
theorem streams_unbroken_iff_caught_up (host : Host) (p₀ : Proxy) (booted : Booted host p₀)
    (turns : List Turn) :
    (run host).recorded.Along (fun record t =>
        Unbroken record (runTurn host record.1 t).1 (runTurn host record.1 t).2) (p₀, []) turns ↔
      (run host).recorded.Along CaughtUp (p₀, []) turns :=
  (run host).recorded.along_iff_of_invariant (Streaming p₀)
    (fun record t streaming => unbroken_iff_caught_up record t streaming)
    (fun record t streaming caughtUp => run_turn_streaming record t streaming caughtUp)
    (booted_streaming booted) turns

/-! ## A connection of the household -/

/-- A client connects; the proxy connects to the server. -/
def clientConnects : Turn := { ready := [4], accept := { accept := some 7, socket := some 8 } }

/-- The client sends three bytes, of which the server's socket takes `sent`. -/
def threeBytes (sent : Int) : Turn := { ready := [7], recv := some { payload := [1, 2, 3] }, sent }

/-- Then it sends two more. -/
def twoBytes : Turn := { ready := [7], recv := some { payload := [4, 5] }, sent := 2 }

theorem household_stream_unbroken :
    (run littleHost).recorded.Along (fun record t =>
        Unbroken record (runTurn littleHost record.1 t).1 (runTurn littleHost record.1 t).2)
      (household, []) [clientConnects, threeBytes 3, twoBytes] := by
  have whole {record : Proxy × List Event} {t : Turn} (s : Socket) (chosen : picked record.1 t = some s)
      (taken : ∀ handover ∈ (streams record.2 s.peer).handed, handover.Whole) : CaughtUp record t := by
    intro other pkt noted received _ _
    obtain rfl : other = s := Option.some.inj (received.chosen.symm.trans chosen)
    exact taken
  refine (streams_unbroken_iff_caught_up littleHost household household_booted _).mpr ⟨?_, ?_, ?_, trivial⟩
  · exact whole { fd := 4, ipproto := .tcp, state := .tcpListening } rfl (by decide)
  · exact whole { fd := 7, ipproto := .tcp, state := .tcpConnected, peer := 8 } rfl (by decide)
  · exact whole { fd := 7, ipproto := .tcp, state := .tcpConnected, peer := 8 } rfl (by decide)

/-- A short `send` loses the rest of its chunk, and the next chunk is sent all
the same. -/
theorem short_send_leaves_hole :
    ¬ (run littleHost).recorded.Along (fun record t =>
        Unbroken record (runTurn littleHost record.1 t).1 (runTurn littleHost record.1 t).2)
      (household, []) [clientConnects, threeBytes 1, twoBytes] := by
  rintro ⟨-, -, unbroken, -⟩
  have behind := unbroken.inOrder
    { caller := .relay, source := 7, fd := 8, data := [4, 5], result := 2 } (by decide) rfl
  exact absurd behind (by decide)

end Portproxy.RelayStream
