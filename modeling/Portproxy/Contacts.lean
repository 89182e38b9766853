import Mathlib.Data.List.Forall2
import Portproxy.SocketRoles
import Portproxy.TurnSemantics

/-! Whom the proxy sends to, and what. Over whole runs it originates nothing: its
sends carry packets that were received, each at most once and in their order. In
classic mode they go to the AFTR, to the address `mcast` or back where a packet
came from. -/
namespace Portproxy.Contacts
open StepMachine SocketRoles TurnSemantics

def receivedIn (history : List Event) : List Pkt :=
  history.filterMap fun event => match event with
    | .received pkt => some pkt
    | _ => none

def sentIn (history : List Event) : List Send :=
  history.filterMap fun event => match event with
    | .sent call => some call
    | _ => none

/-- The bytes sent are those of the packet. The shim puts twelve bytes in front of
them towards the AFTR, and takes as many off towards the client. -/
structure Carries (call : Send) (pkt : Pkt) : Prop where
  source : call.source = pkt.sock
  data : match call.caller with
    | .fromClient => ∃ header, header.length = 12 ∧ call.data = header ++ pkt.data
    | .fromServer => ∃ header, header.length = 12 ∧ pkt.data = header ++ call.data
    | _ => call.data = pkt.data

/-- Where a send of a classic run goes, after this history. -/
inductive Destined (p₀ : Proxy) (history : List Event) (call : Send) : Prop where
  /-- Relayed bytes go to the peer of a connection. -/
  | peer (relay : call.caller = .relay) (dest : call.dest = none)
  /-- The group is the constant of the source, 250.255.255.239. -/
  | group (out : call.fd = p₀.ctx.lanSsdpSock ∨ call.fd = p₀.ctx.sharedUdpSockFd)
      (dest : call.dest = some (mcast, port))
  | server (out : call.fd = p₀.ctx.sharedUdpSockFd) (dest : call.dest = some (p₀.ctx.aftrIPv4, port))
  /-- A reply goes back to where an earlier packet came from, out of the socket that
  it came in on. -/
  | client (asked : .received pkt ∈ history) (udp : pkt.proto = .udp) (back : call.fd = pkt.sock)
      (dest : call.dest = some (pkt.srcIP, uint16 pkt.srcPort))

variable {host : Host} {p p₀ q : Proxy} {t : Turn} {pkt : Pkt} {call : Send} {m : Mapping}
  {history events noted : List Event}

/-! ## What one pass passes on -/

@[simp] theorem received_in_append (first second : List Event) :
    receivedIn (first ++ second) = receivedIn first ++ receivedIn second := List.filterMap_append

@[simp] theorem sent_in_append (first second : List Event) :
    sentIn (first ++ second) = sentIn first ++ sentIn second := List.filterMap_append

/-- A list of complaints alone. -/
theorem complaints_nothing (complaints : ∀ event ∈ events, ∃ line, event = .complaint line) :
    receivedIn events = [] ∧ sentIn events = [] := by
  constructor <;>
  · refine List.filterMap_eq_nil_iff.mpr fun event member => ?_
    obtain ⟨line, rfl⟩ := complaints event member
    rfl

theorem noted_nothing (received : Receives p t sock pkt noted) : receivedIn noted = [] ∧ sentIn noted = [] := by
  refine complaints_nothing fun event member => ?_
  rcases received.noted_complaints with none | one
  · simp [none] at member
  · exact ⟨_, by simpa [one] using member⟩

theorem length_encapsulate (host : Host) (ctx : Context) (pkt : Pkt) :
    ∃ header, header.length = 12 ∧ encapsulate host ctx pkt = header ++ pkt.data :=
  ⟨_, by simp, rfl⟩

/-- What the events of a packet part come to: nothing is sent, or the one packet
received is. -/
def PassesOn (events : List Event) : Prop :=
  sentIn events = [] ∨ ∃ call pkt, sentIn events = [call] ∧ receivedIn events = [pkt] ∧ Carries call pkt

theorem passes_on_packet (received : Receives p t sock pkt noted)
    (handled : (∃ line, events = [.complaint line]) ∨ sentIn events = [] ∨
      ∃ call before, events = before ++ [.sent call] ∧ sentIn before = [] ∧ receivedIn before = [] ∧
        Carries call pkt) :
    PassesOn (noted ++ .received pkt :: events) := by
  obtain ⟨noReceive, noSend⟩ := noted_nothing received
  have shape : noted ++ .received pkt :: events = noted ++ [.received pkt] ++ events := by simp
  rw [PassesOn, shape]
  rcases handled with ⟨line, rfl⟩ | nothing | ⟨call, before, rfl, quiet, unread, carries⟩
  · left
    rw [sent_in_append, sent_in_append, noSend]
    rfl
  · left
    rw [sent_in_append, sent_in_append, noSend, nothing]
    rfl
  · right
    refine ⟨call, pkt, ?_, ?_, carries⟩
    · rw [sent_in_append, sent_in_append, sent_in_append, noSend, quiet]
      rfl
    · rw [received_in_append, received_in_append, received_in_append, noReceive, unread]
      rfl

theorem handle_turn_passes_on (host : Host) (p : Proxy) (t : Turn) : PassesOn (handleTurn host p t).2 := by
  have done := handle_turn_cases host p t
  generalize (handleTurn host p t).1 = next, (handleTurn host p t).2 = events at done ⊢
  cases done with
  | idle quiet => rcases quiet with rfl | rfl <;> exact .inl rfl
  | @accepts sock =>
    left
    rcases tcp_accept_cases t.accept p sock with ⟨-, -, -, -, none⟩ |
      ⟨lan, wan, server, -, -, -, -, -, -, -, -, paired⟩
    · rw [none]
      rfl
    · rw [paired]
      rfl
  | @relays sock pkt noted received =>
    refine passes_on_packet received ?_
    rcases tcp_packet_cases t.sent p pkt with ⟨line, refused⟩ | ⟨s, peer, -, -, relayed⟩
    · rw [refused]
      exact .inl ⟨line, rfl⟩
    · rw [relayed]
      exact .inr (.inr ⟨_, [], rfl, rfl, rfl, ⟨rfl, rfl⟩⟩)
  | @closes sock pkt noted received =>
    exact passes_on_packet received (.inr (.inl (complaints_nothing (tcp_close_complains p pkt)).2))
  | @fromServer sock pkt noted received =>
    refine passes_on_packet received ?_
    rcases from_server_cases host t.sent p pkt with ⟨line, -, refused⟩ | ⟨long, -, -, passed⟩
    · rw [refused]
      exact .inl ⟨line, rfl⟩
    · rw [passed]
      refine .inr (.inr ⟨_, [], rfl, rfl, rfl, rfl, pkt.data.take 12, ?_, (List.take_append_drop 12 _).symm⟩)
      rw [List.length_take]
      unfold Pkt.datalen at long
      omega
  | @fromClient sock pkt noted received =>
    refine passes_on_packet received ?_
    rcases from_client_cases host t.sent p pkt with ⟨-, refused⟩ | ⟨-, passed⟩
    · rw [refused]
      exact .inl ⟨.overrun, rfl⟩
    · rw [passed]
      exact .inr (.inr ⟨_, [], rfl, rfl, rfl, rfl, length_encapsulate host p.ctx pkt⟩)
  | multicasts received | responds received =>
    exact passes_on_packet received (.inr (.inr ⟨_, [], rfl, rfl, rfl, rfl, rfl⟩))
  | @queries sock pkt noted m received =>
    exact passes_on_packet received (.inr (.inr ⟨_, [.added m], rfl, rfl, rfl, rfl, rfl⟩))

theorem sweep_nothing (t : Turn) (p : Proxy) : receivedIn (sweep t p).2 = [] ∧ sentIn (sweep t p).2 = [] := by
  constructor <;>
  · refine List.filterMap_eq_nil_iff.mpr fun event member => ?_
    rcases sweep_events member with rfl | ⟨m, rfl⟩ <;> rfl

theorem run_turn_passes_on (host : Host) (p : Proxy) (t : Turn) : PassesOn (runTurn host p t).2 := by
  have handled := handle_turn_passes_on host p t
  obtain ⟨noReceive, noSend⟩ := sweep_nothing t (handleTurn host p t).1
  have events : (runTurn host p t).2 = (handleTurn host p t).2 ++ (sweep t (handleTurn host p t).1).2 := rfl
  rw [PassesOn, events, sent_in_append, received_in_append, noReceive, noSend, List.append_nil, List.append_nil]
  exact handled

/-! ## What runs pass on -/

/-- The sends of a run carry packets it received: each at most once, in the order
they came in. So no more is sent than was received. -/
theorem sends_carry_receives (host : Host) (p : Proxy) (turns : List Turn) :
    List.SublistForall₂ Carries (sentIn ((run host).trace p turns)) (receivedIn ((run host).trace p turns)) := by
  induction turns generalizing p with
  | nil => exact .nil
  | cons t rest ih =>
    have here := run_turn_passes_on host p t
    have later := ih ((run host).step p t).1
    have trace : (run host).trace p (t :: rest) =
        (runTurn host p t).2 ++ (run host).trace ((run host).step p t).1 rest := rfl
    rw [trace, sent_in_append, received_in_append]
    rcases here with silent | ⟨call, pkt, sent, received, carries⟩
    · rw [silent, List.nil_append]
      obtain ⟨carried, matched, among⟩ := List.sublistForall₂_iff.mp later
      exact List.sublistForall₂_iff.mpr ⟨carried, matched, among.trans (List.sublist_append_right _ _)⟩
    · rw [sent, received]
      exact .cons carries later

/-! ## Where runs send -/

/-- What holds of a classic process with this history. -/
structure Acquainted (p₀ p : Proxy) (history : List Event) : Prop where
  settings : p.ctx.settings = p₀.ctx.settings
  nodes : Nodes p
  asked : ∀ m ∈ p.ctx.mappings, ∃ pkt, .received pkt ∈ history ∧ pkt.proto = .udp ∧ m.lanSock = pkt.sock ∧
    m.clientIP = pkt.srcIP ∧ m.clientPort = pkt.srcPort

theorem run_turn_received (host : Host) (received : Receives p t sock pkt noted) :
    .received pkt ∈ (runTurn host p t).2 := by
  have handled := congrArg Prod.snd (receives_turn host received)
  refine List.mem_append_left _ ?_
  rw [handled]
  simp

theorem acquainted_turn (host : Host) (t : Turn) (acquainted : Acquainted p₀ p history) :
    Acquainted p₀ (runTurn host p t).1 (history ++ (runTurn host p t).2) where
  settings := (run_turn_settings host p t).trans acquainted.settings
  nodes := run_turn_nodes host t acquainted.nodes
  asked m member := by
    obtain ⟨-, old | ⟨sock, pkt, noted, received, udp, -, -, rfl⟩⟩ :=
      run_turn_origin host t acquainted.nodes member
    · obtain ⟨pkt, asked, rest⟩ := acquainted.asked m old
      exact ⟨pkt, List.mem_append_left _ asked, rest⟩
    · exact ⟨pkt, List.mem_append_right _ (run_turn_received host received), udp, rfl, rfl, rfl⟩

/-- A query goes to the AFTR, or to the group if it came to the group. -/
theorem created_destination (p : Proxy) (pkt : Pkt) (fd addTime : Int) :
    ((mappingCreate p.ctx p.kernel pkt fd).stamped p.ctx addTime).aftrIPv4 = mcast ∨
      ((mappingCreate p.ctx p.kernel pkt fd).stamped p.ctx addTime).aftrIPv4 = p.ctx.aftrIPv4 := by
  by_cases group : pkt.dstIP = mcast
  · exact .inl (by simp [Mapping.stamped, mappingCreate, group])
  · exact .inr (by simp [Mapping.stamped, mappingCreate, addrCmp, group])

theorem forwards_destined (acquainted : Acquainted p₀ p history) (classic : p₀.ctx.enableNatPmpExt = 0)
    (forwards : Forwards host sent addTime p pkt call) : Destined p₀ history call := by
  obtain ⟨config, shared, -, lanSsdp, -⟩ := Context.of_settings acquainted.settings
  have stillClassic : p.ctx.enableNatPmpExt = 0 := by
    rw [config]
    exact classic
  cases forwards with
  | relays => exact .peer rfl rfl
  | multicasts => exact .group (.inl lanSsdp) rfl
  | fromServer _ _ extended => exact absurd stillClassic extended
  | fromClient _ _ extended => exact absurd stillClassic extended
  | @responds m _ _ _ found =>
    obtain ⟨asking, asked, udp, back, addr, port⟩ := acquainted.asked m (mapping_find_some found).1
    exact .client asked udp back (by rw [addr, port])
  | queries _ _ _ _ created =>
    subst created
    rcases created_destination p pkt p.ctx.sharedUdpSockFd addTime with group | server
    · exact .group (.inr shared) (by rw [group])
    · exact .server shared (by rw [server, config])

theorem paired_server (host : Host) (paired : .paired lan wan server ∈ (runTurn host p t).2) :
    server.1 = p.ctx.aftrIPv4 := by
  have handled : .paired lan wan server ∈ (handleTurn host p t).2 := by simpa using run_turn_events paired
  have done := handle_turn_cases host p t
  generalize (handleTurn host p t).1 = next, (handleTurn host p t).2 = events at done handled
  have unpaired : ∀ {sock pkt noted} {events : List Event}, Receives p t sock pkt noted →
      (.paired lan wan server ∈ noted ++ .received pkt :: events) → .paired lan wan server ∈ events := by
    intro sock pkt noted events received member
    simp only [List.mem_append, List.mem_cons, reduceCtorEq, false_or] at member
    rcases received.noted_complaints with none | one
    · simpa [none] using member
    · simpa [one] using member
  cases done with
  | idle quiet => rcases quiet with rfl | rfl <;> simp at handled
  | @accepts sock =>
    unfold sockTcpAccept at handled
    split at handled
    · simp at handled
    · dsimp only at handled
      split at handled
      · simp at handled
      · split at handled
        · simp at handled
        · simp only [List.mem_singleton, Event.paired.injEq] at handled
          exact congrArg Prod.fst handled.2.2
  | @relays _ pkt _ received =>
    rcases tcp_packet_cases t.sent p pkt with ⟨line, refused⟩ | ⟨_, _, -, -, relayed⟩
    · simpa [refused] using unpaired received handled
    · simpa [relayed] using unpaired received handled
  | closes received =>
    obtain ⟨line, complaint⟩ := tcp_close_complains _ _ _ (unpaired received handled)
    cases complaint
  | @fromServer _ pkt _ received =>
    rcases from_server_cases host t.sent p pkt with ⟨line, -, refused⟩ | ⟨-, -, -, passed⟩
    · simpa [refused] using unpaired received handled
    · simpa [passed] using unpaired received handled
  | @fromClient _ pkt _ received =>
    rcases from_client_cases host t.sent p pkt with ⟨-, refused⟩ | ⟨-, passed⟩
    · simpa [refused] using unpaired received handled
    · simpa [passed] using unpaired received handled
  | multicasts received | responds received | queries received => simpa using unpaired received handled

/-- In classic mode, whatever is received, a run sends to the AFTR and to `mcast` out
of the sockets for that, to the peers of its connections, and back to where a
packet came from; and it connects to the AFTR only. -/
theorem contacts_known (host : Host) (p₀ : Proxy) (empty : p₀.ctx.mappings = [])
    (classic : p₀.ctx.enableNatPmpExt = 0) (turns : List Turn) :
    (run host).recorded.Along
      (fun record t =>
        (∀ call, .sent call ∈ (runTurn host record.1 t).2 → Destined p₀ record.2 call) ∧
          ∀ lan wan server, .paired lan wan server ∈ (runTurn host record.1 t).2 →
            server.1 = p₀.ctx.aftrIPv4)
      (p₀, []) turns := by
  refine (run host).recorded.along_of_invariant_any (fun record => Acquainted p₀ record.1 record.2)
    (fun _ t acquainted => acquainted_turn host t acquainted) (fun record t acquainted => ⟨?_, ?_⟩)
    ⟨rfl, no_nodes empty, by simp [empty]⟩ turns
  · intro call sent
    obtain ⟨_, _, _, -, emitted⟩ := run_turn_sends sent
    exact forwards_destined acquainted classic (handle_packet_forwards emitted)
  · intro lan wan server paired
    obtain ⟨config, -⟩ := Context.of_settings acquainted.settings
    rw [paired_server host paired, config]

/-- A query is asked and answered. -/
theorem household_contacts_known :
    let turns : List Turn := [
      { ready := [3]
        recv := some { src := ⟨192, 168, 1, 7⟩, srcPort := 6000, dst := ⟨192, 168, 1, 1⟩, payload := [0, 0] } },
      { ready := [6]
        recv := some { src := ⟨192, 0, 0, 1⟩, srcPort := 5351, dst := ⟨10, 0, 0, 2⟩, payload := [0, 128] } }]
    (run littleHost).recorded.Along
      (fun record t =>
        (∀ call, .sent call ∈ (runTurn littleHost record.1 t).2 → Destined household record.2 call) ∧
          ∀ lan wan server, .paired lan wan server ∈ (runTurn littleHost record.1 t).2 →
            server.1 = household.ctx.aftrIPv4)
      (household, []) turns :=
  contacts_known littleHost household rfl rfl _

end Portproxy.Contacts
