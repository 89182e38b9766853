import Portproxy.Conservation
import Portproxy.RelayPairing

/-! The lists of the process, told from what it did. The mapping list holds the queries
that wait for a reply and have time left, and the socket list both ends of each
connection that has not ended. -/
namespace Portproxy.Replay
open StepMachine Accounts SocketRoles TurnSemantics Conservation RelayPairing

/-! ## Mappings -/

/-- The mappings added and not used whose deadline is ahead, the newest first. -/
def waiting (now : Int) (history : List Event) : List Mapping :=
  (ledger history).outstanding.filter (now < ·.timeout)

/-- The clock of a sweep is not behind that of the sweep before it. -/
def Forward (p : Proxy) (t : Turn) : Prop := p.kernel.clock ≤ t.sweepTime

instance (p : Proxy) (t : Turn) : Decidable (Forward p t) := inferInstanceAs (Decidable (_ ≤ _))

variable {host : Host} {p p₀ : Proxy} {t : Turn} {history events : List Event} {mappings : List Mapping} {heap : Nat}

/-- The account of one pass: nothing, one mapping used, or one added. -/
theorem mapping_turn_ledger (turn : MappingTurn p t mappings heap events) :
    (ledger events = {} ∧ mappings = p.ctx.mappings) ∨
      (∃ m ∈ p.ctx.mappings, ledger events = { settled := [m] } ∧
        mappings = p.ctx.mappings.eraseP (·.node = m.node)) ∨
      ∃ m, ledger events = { entered := [m] } ∧ mappings = m :: p.ctx.mappings ∧ m.node = p.kernel.heap := by
  cases turn with
  | kept quiet => exact .inl ⟨quiet_ledger quiet, rfl⟩
  | used received udp quiet found =>
    refine .inr (.inl ⟨_, (mapping_find_some found).1, ?_, rfl⟩)
    rw [ledger_append, quiet_ledger quiet]
    rfl
  | queried received udp quiet notWan unmatched created =>
    refine .inr (.inr ⟨_, ?_, rfl, by simp [created, Mapping.stamped, mappingCreate]⟩)
    rw [ledger_append, quiet_ledger quiet]
    rfl

/-- A sweep at a later time makes no difference to one made before. -/
theorem filter_later (forward : earlier ≤ later) (mappings : List Mapping) :
    (mappings.filter (earlier < ·.timeout)).filter (later < ·.timeout) = mappings.filter (later < ·.timeout) := by
  rw [List.filter_filter]
  apply List.filter_congr
  intro m _
  have sooner : later < m.timeout → earlier < m.timeout := fun ahead => lt_of_le_of_lt forward ahead
  simpa using sooner

theorem handle_turn_waiting (host : Host) (t : Turn) (accounted : Accounted p history)
    (told : p.ctx.mappings = waiting p.kernel.clock history) (forward : p.kernel.clock ≤ now) :
    (handleTurn host p t).1.ctx.mappings.filter (now < ·.timeout) =
      waiting now (history ++ (handleTurn host p t).2) := by
  have before : p.ctx.mappings.filter (now < ·.timeout) = waiting now history := by
    rw [told]
    exact filter_later forward _
  rw [waiting, ledger_append]
  rcases mapping_turn_ledger (handle_turn_mappings host p t) with
    ⟨entry, kept⟩ | ⟨m, member, entry, used⟩ | ⟨m, entry, added, fresh⟩
  · rw [entry, kept, Ledger.append_nothing]
    exact before
  · have distinct := accounted.nodes.distinct
    rw [entry, used, Ledger.outstanding_settle, distinct.eraseP_erases member, distinct.nodup.erase_eq_filter,
      List.filter_comm, before, waiting, List.filter_comm]
  · have unused : m ∉ (ledger history).settled := by
      intro settled
      have entered := accounted.balanced.subset (List.mem_append_left _ settled)
      exact absurd (accounted.allocated m entered) (by omega)
    rw [entry, added, Ledger.outstanding_enter unused, List.filter_cons, List.filter_cons, before, waiting]

theorem run_turn_waiting (host : Host) (accounted : Accounted p history)
    (told : p.ctx.mappings = waiting p.kernel.clock history) (forward : Forward p t) :
    (runTurn host p t).1.ctx.mappings = waiting t.sweepTime (history ++ (runTurn host p t).2) := by
  obtain ⟨kept, events⟩ := run_turn_sweeps host t accounted.nodes
  have handled := handle_turn_waiting host t accounted told forward
  have swept (gone : List Mapping) (before : List Event) :
      waiting t.sweepTime (before ++ gone.map .expired) = waiting t.sweepTime before := by
    have entry : ledger (gone.map .expired) = { lapsed := gone } := by
      simp [ledger, List.filterMap_map, Function.comp_def, addedBy, usedBy, expiredBy]
    rw [waiting, waiting, ledger_append, entry, Ledger.outstanding_lapse]
  rw [kept, handled, events, ← List.append_assoc, swept]

/-! ## Connections -/

/-- Take note of a connection, or of the end of a stream. -/
def track (live : List (Int × Int)) : Event → List (Int × Int)
  | .paired lan wan _ => (lan, wan) :: live
  | .received pkt =>
    if pkt.proto = .tcp ∧ pkt.data = [] then live.filter fun c => c.1 ≠ pkt.sock ∧ c.2 ≠ pkt.sock else live
  | _ => live

/-- The connections that were made and have not ended, the newest first. -/
def openConnections (history : List Event) : List (Int × Int) := history.foldl track []

/-- The two sockets of a connection, as they stand on the list. -/
def ends (c : Int × Int) : List Socket :=
  [{ fd := c.2, ipproto := .tcp, state := .tcpConnected, peer := c.1 },
    { fd := c.1, ipproto := .tcp, state := .tcpConnected, peer := c.2 }]

theorem track_inert (inert : ∀ event ∈ events, Inert event) (live : List (Int × Int)) :
    events.foldl track live = live := by
  induction events with
  | nil => rfl
  | cons event rest ih =>
    have here : track live event = live := by
      have still := inert event List.mem_cons_self
      cases event with
      | paired lan wan server => exact absurd still (by simp [Inert])
      | received pkt =>
        have udp : pkt.proto = .udp := still
        simp [track, udp]
      | _ => rfl
    rw [List.foldl_cons, here]
    exact ih fun other member => inert other (List.mem_cons_of_mem _ member)

/-- Among paired sockets a connection goes as a whole. -/
theorem end_removes_connection (paired : PairedSockets sockets) (member : s ∈ sockets) (connected : Connected s)
    (live : List (Int × Int)) (listed : ∀ c ∈ live, ∀ x ∈ ends c, x ∈ sockets) :
    ((live.flatMap ends).filter (·.fd ≠ s.fd)).filter (·.fd ≠ s.peer) =
      (live.filter fun c => c.1 ≠ s.fd ∧ c.2 ≠ s.fd).flatMap ends := by
  obtain ⟨other, held, linked, named, back, apart⟩ := paired.mated s member connected
  induction live with
  | nil => rfl
  | cons c rest ih =>
    obtain ⟨here, behind⟩ := List.forall_mem_cons.mp listed
    have near : (⟨c.2, .tcp, .tcpConnected, c.1⟩ : Socket) ∈ sockets := here _ (by simp [ends])
    have far : (⟨c.1, .tcp, .tcpConnected, c.2⟩ : Socket) ∈ sockets := here _ (by simp [ends])
    -- an end with the descriptor of `s` is `s`, and one with that of its peer is the peer
    have self (x : Socket) (among : x ∈ sockets) (same : x.fd = s.fd) : x.peer = s.peer := by
      rw [paired.distinct.same among member same]
    have mate (x : Socket) (among : x ∈ sockets) (same : x.fd = s.peer) : x.peer = s.fd := by
      rw [paired.distinct.same among held (same.trans named.symm), back]
    have rest' := ih behind
    rw [List.flatMap_cons, List.filter_append, List.filter_append, rest', List.filter_cons]
    by_cases lan : c.1 = s.fd
    · have wan : c.2 = s.peer := self _ far lan
      simp [ends, lan, wan]
    · by_cases wan : c.2 = s.fd
      · have lan' : c.1 = s.peer := self _ near wan
        simp [ends, lan', wan]
      · have lan' : c.1 ≠ s.peer := fun same => wan (mate _ far same)
        have wan' : c.2 ≠ s.peer := fun same => lan (mate _ near same)
        simp [ends, lan, wan, lan', wan']

/-- The sockets of the start are none of a connection. -/
theorem start_stays (relaying : Relaying p₀ p history) (member : s ∈ p.ctx.sockets) (connected : Connected s) :
    (p₀.ctx.sockets.filter (·.fd ≠ s.fd)).filter (·.fd ≠ s.peer) = p₀.ctx.sockets := by
  obtain ⟨other, held, linked, named, -⟩ := relaying.paired.mated s member connected
  have distinct := relaying.paired.distinct
  rw [List.filter_filter, List.filter_eq_self]
  intro first among
  obtain ⟨listed, unconnected⟩ := (relaying.first_sockets first).mp among
  have notSelf : first.fd ≠ s.fd := by
    intro same
    rw [distinct.same listed member same] at unconnected
    exact unconnected connected
  have notPeer : first.fd ≠ s.peer := by
    intro same
    rw [distinct.same listed held (same.trans named.symm)] at unconnected
    exact unconnected linked
  simp [notSelf, notPeer]

/-- The sockets behind the connections are those of the start. -/
theorem handle_turn_tracks (host : Host) (t : Turn) (relaying : Relaying p₀ p history)
    (told : p.ctx.sockets = (openConnections history).flatMap ends ++ p₀.ctx.sockets) :
    (handleTurn host p t).1.ctx.sockets =
      (openConnections (history ++ (handleTurn host p t).2)).flatMap ends ++ p₀.ctx.sockets := by
  have turn := handle_turn_relays host (t := t) relaying.paired relaying.typed
  generalize (handleTurn host p t).1 = q, (handleTurn host p t).2 = events at turn ⊢
  rw [openConnections, List.foldl_append]
  change _ = (events.foldl track (openConnections history)).flatMap ends ++ _
  cases turn with
  | apart sockets fds bound inert => rw [sockets, told, track_inert inert]
  | accepts freshLan freshWan apart answered sockets kernel =>
    rw [sockets, told]
    rfl
  | relays received connected proto some same =>
    subst same
    simp [track, some, told]
  | @closes s pkt received connected proto ended sockets kernel =>
    have listed : ∀ c ∈ openConnections history, ∀ x ∈ ends c, x ∈ p.ctx.sockets := by
      intro c member x among
      rw [told]
      exact List.mem_append_left _ (List.mem_flatMap.mpr ⟨c, member, among⟩)
    have gone := end_removes_connection relaying.paired received.member connected _ listed
    rw [sockets, told, List.filter_append, List.filter_append, gone,
      start_stays relaying received.member connected]
    simp [track, proto, ended, received.sock_eq]

/-! ## Runs -/

/-- What is told of a process `p` that ran with this history since it was `p₀`. -/
structure Told (p₀ p : Proxy) (history : List Event) : Prop where
  accounted : Accounted p history
  relaying : Relaying p₀ p history
  mappings : p.ctx.mappings = waiting p.kernel.clock history
  sockets : p.ctx.sockets = (openConnections history).flatMap ends ++ p₀.ctx.sockets

theorem Told.run_turn (host : Host) (told : Told p₀ p history) (forward : Forward p t) :
    Told p₀ (runTurn host p t).1 (history ++ (runTurn host p t).2) where
  accounted := run_turn_accounted host t told.accounted
  relaying := told.relaying.run_turn
  mappings := run_turn_waiting host told.accounted told.mappings forward
  sockets := by
    have handled := handle_turn_tracks host t told.relaying told.sockets
    have events : (runTurn host p t).2 = (handleTurn host p t).2 ++ (sweep t (handleTurn host p t).1).2 := rfl
    rw [events, ← List.append_assoc, openConnections, List.foldl_append,
      track_inert (sweep_inert t (handleTurn host p t).1)]
    exact handled

/-- At any time of a run, the lists of the process are what its history says: the
mappings that were added and not used and have time left, the newest first, and both
ends of each connection that was made and has not ended, in front of the sockets of
the start. The rest of the context stays as it was. -/
theorem context_of_history (host : Host) (p₀ : Proxy) (fresh : Fresh p₀) (turns : List Turn)
    (forward : (run host).Along Forward p₀ turns) :
    ((run host).after p₀ turns).ctx =
      { p₀.ctx with
        mappings := waiting ((run host).after p₀ turns).kernel.clock ((run host).trace p₀ turns)
        sockets := (openConnections ((run host).trace p₀ turns)).flatMap ends ++ p₀.ctx.sockets } := by
  have accounted : Accounted p₀ [] := by
    refine ⟨no_nodes fresh.mappings, ?_, by simp [ledger], by simp [ledger], by simp [Addressed]⟩
    rw [fresh.mappings]
    exact Ledger.balanced_empty
  have started : Told p₀ p₀ [] := ⟨accounted, fresh_relaying fresh, fresh.mappings, rfl⟩
  have told := (run host).recorded.invariant_after (fun record => Told p₀ record.1 record.2)
    (fun _ _ told forward => told.run_turn host forward) started (((run host).recorded_along []).mpr forward)
  rw [Machine.recorded_after, List.nil_append] at told
  generalize (run host).after p₀ turns = p at told ⊢
  calc p.ctx
    _ = { p.ctx.settings with mappings := p.ctx.mappings, sockets := p.ctx.sockets } := rfl
    _ = _ := by rw [told.relaying.settings, told.mappings, told.sockets]; rfl

/-- Two clients ask, a third connects, and a reply comes, which the later query takes. -/
def askConnectReply : List Turn := [
  { ready := [3], sent := 2, addTime := 100, sweepTime := 100
    recv := some { src := ⟨192, 168, 1, 7⟩, srcPort := 4000, dst := ⟨192, 168, 1, 1⟩, payload := [0, 0] } },
  { ready := [3], sent := 2, addTime := 101, sweepTime := 101
    recv := some { src := ⟨192, 168, 1, 8⟩, srcPort := 4000, dst := ⟨192, 168, 1, 1⟩, payload := [0, 1] } },
  { ready := [4], accept := { accept := some 7, socket := some 8 }, sweepTime := 102 },
  { ready := [6], sent := 12, sweepTime := 103
    recv := some { src := ⟨192, 0, 0, 1⟩, srcPort := 5351, dst := ⟨10, 0, 0, 2⟩, payload := [0, 128] } }]

theorem household_of_history :
    ((run littleHost).after household askConnectReply).ctx =
      { household.ctx with
        mappings := waiting ((run littleHost).after household askConnectReply).kernel.clock
          ((run littleHost).trace household askConnectReply)
        sockets := (openConnections ((run littleHost).trace household askConnectReply)).flatMap ends ++
          household.ctx.sockets } :=
  context_of_history littleHost household (booted_fresh household_booted) askConnectReply (by decide)

example : openConnections ((run littleHost).trace household askConnectReply) = [(7, 8)] ∧
    (waiting 103 ((run littleHost).trace household askConnectReply)).map Mapping.clientIP = [⟨192, 168, 1, 7⟩] := by
  decide

end Portproxy.Replay
