import Portproxy.Accounts
import Portproxy.SocketRoles
import Portproxy.TurnSemantics

/-! Conservation of queries and replies. Every mapping a query puts on the list
leaves it once: used by a reply, or expired. -/
namespace Portproxy.Conservation
open StepMachine Accounts SocketRoles TurnSemantics

/-- Where a query comes from and its reply has to go. -/
structure Endpoint where
  clientIP : InAddr
  clientPort : Nat
  lanSock : Int
  deriving DecidableEq, Repr

def endpoint (m : Mapping) : Endpoint := ⟨m.clientIP, uint16 m.clientPort, m.lanSock⟩

/-! ## What a history says -/

def addedBy : Event → Option Mapping
  | .added m => some m
  | _ => none

def usedBy : Event → Option Mapping
  | .sent call => match call.caller with
    | .response m => some m
    | _ => none
  | _ => none

def expiredBy : Event → Option Mapping
  | .expired m => some m
  | _ => none

/-- The account of mappings: added, used for a reply, expired. -/
def ledger (history : List Event) : Ledger Mapping where
  entered := history.filterMap addedBy
  settled := history.filterMap usedBy
  lapsed := history.filterMap expiredBy

/-- The queries accepted from an endpoint: those `mapping_add` ran for. -/
def accepted (e : Endpoint) (history : List Event) : Nat :=
  history.countP fun
    | .added m => endpoint m = e
    | _ => false

/-- Whether this is a datagram `response_send` tries to send to the endpoint. -/
def repliesTo (e : Endpoint) : Event → Bool
  | .sent call => (usedBy (.sent call)).isSome && call.fd == e.lanSock &&
      call.dest == some (e.clientIP, e.clientPort)
  | _ => false

def replied (e : Endpoint) (history : List Event) : Nat := history.countP (repliesTo e)

/-- The mappings of an endpoint that `ctx_mappings_remove_expired` removed. -/
def lapsed (e : Endpoint) (history : List Event) : Nat :=
  history.countP fun
    | .expired m => endpoint m = e
    | _ => false

def live (e : Endpoint) (p : Proxy) : Nat := p.ctx.mappings.countP (endpoint · = e)

/-- Where a packet came from, and the socket that it came in on. -/
def sender (pkt : Pkt) : Endpoint := ⟨pkt.srcIP, uint16 pkt.srcPort, pkt.sock⟩

/-- The UDP packets that were received from an endpoint. -/
def asked (e : Endpoint) (history : List Event) : Nat :=
  history.countP fun
    | .received pkt => pkt.proto = .udp ∧ sender pkt = e
    | _ => false

/-- The mapping that is added is for the packet received right before it. -/
def AddedFor (cause event : Event) : Prop :=
  ∃ pkt m, cause = .received pkt ∧ event = .added m ∧ pkt.proto = .udp ∧ endpoint m = sender pkt

/-- Mappings are only added for packets, one for each. -/
abbrev AddedForPackets (history : List Event) : Prop :=
  Follows (fun event => (addedBy event).isSome) AddedFor history

private theorem accepted_eq (e : Endpoint) (history : List Event) :
    accepted e history = (ledger history).entered.countP (endpoint · = e) := by
  rw [accepted, ledger, List.countP_filterMap]
  apply List.countP_congr
  intro event _
  cases event <;> simp [addedBy]

private theorem lapsed_eq (e : Endpoint) (history : List Event) :
    lapsed e history = (ledger history).lapsed.countP (endpoint · = e) := by
  rw [lapsed, ledger, List.countP_filterMap]
  apply List.countP_congr
  intro event _
  cases event <;> simp [expiredBy]

/-- A reply goes to the endpoint of the mapping it uses. -/
def Addressed (history : List Event) : Prop :=
  ∀ call m, .sent call ∈ history → call.caller = .response m →
    call.fd = m.lanSock ∧ call.dest = some (m.clientIP, uint16 m.clientPort)

private theorem replied_eq (e : Endpoint) (addressed : Addressed history) :
    replied e history = (ledger history).settled.countP (endpoint · = e) := by
  rw [replied, ledger, List.countP_filterMap]
  apply List.countP_congr
  intro event member
  cases event with
  | sent call =>
    cases caller : call.caller with
    | response m =>
      obtain ⟨fd, dest⟩ := addressed call m member caller
      obtain ⟨ip, port, sock⟩ := e
      simp [repliesTo, usedBy, caller, fd, dest, endpoint]
      tauto
    | _ => simp [repliesTo, usedBy, caller]
  | _ => simp [repliesTo, usedBy]

/-! ## One pass -/

variable {host : Host} {p : Proxy} {t : Turn} {history events : List Event}

theorem quiet_ledger (quiet : ∀ event ∈ events, Quiet event) :
    ledger events = {} := by
  have none (f : Event → Option Mapping) (silent : ∀ event, Quiet event → f event = Option.none) :
      events.filterMap f = [] :=
    List.filterMap_eq_nil_iff.mpr fun event member => silent event (quiet event member)
  simp only [ledger]
  rw [none addedBy, none usedBy, none expiredBy]
  · intro event still
    cases event <;> simp_all [expiredBy, Quiet]
  · intro event still
    cases event with
    | sent call =>
      cases caller : call.caller with
      | response m => exact absurd caller (still m)
      | _ => simp [usedBy, caller]
    | _ => rfl
  · intro event still
    cases event <;> simp_all [addedBy, Quiet]

theorem ledger_append (first second : List Event) :
    ledger (first ++ second) = ledger first ++ ledger second := by
  change _ = Ledger.mk _ _ _
  simp [ledger]

/-- What has to hold between the list and the history: the account balances,
no mapping was added twice, and every reply went to its own mapping's client. -/
structure Accounted (p : Proxy) (history : List Event) : Prop where
  nodes : Nodes p
  balanced : (ledger history).Balanced p.ctx.mappings
  once : ((ledger history).entered.map Mapping.node).Nodup
  allocated : ∀ m ∈ (ledger history).entered, m.node < p.kernel.heap
  addressed : Addressed history

theorem quiet_addressed (quiet : ∀ event ∈ events, Quiet event) : Addressed events :=
  fun call m member caller => absurd caller (quiet (.sent call) member m)

theorem addressed_append : Addressed (history ++ events) ↔ Addressed history ∧ Addressed events := by
  unfold Addressed
  simp only [List.mem_append]
  constructor
  · intro all
    exact ⟨fun call m member => all call m (.inl member), fun call m member => all call m (.inr member)⟩
  · rintro ⟨first, second⟩ call m (member | member)
    · exact first call m member
    · exact second call m member

theorem handle_turn_accounted (host : Host) (t : Turn) (accounted : Accounted p history) :
    Accounted (handleTurn host p t).1 (history ++ (handleTurn host p t).2) := by
  have nodes := handle_turn_nodes host t accounted.nodes
  have turn := handle_turn_mappings host p t
  generalize handleTurn host p t = handled at nodes turn ⊢
  obtain ⟨next, events⟩ := handled
  dsimp only at nodes turn ⊢
  suffices moved : (ledger (history ++ events)).Balanced next.ctx.mappings ∧
      ((ledger (history ++ events)).entered.map Mapping.node).Nodup ∧
      (∀ m ∈ (ledger (history ++ events)).entered, m.node < next.kernel.heap) ∧
      Addressed (history ++ events) from
    ⟨nodes, moved.1, moved.2.1, moved.2.2.1, moved.2.2.2⟩
  clear nodes
  rw [ledger_append, addressed_append]
  generalize next.ctx.mappings = after, next.kernel.heap = heap at turn ⊢
  cases turn with
  | kept quiet =>
    rw [quiet_ledger quiet, Ledger.append_nothing]
    exact ⟨accounted.balanced, accounted.once, accounted.allocated, accounted.addressed,
      quiet_addressed quiet⟩
  | used received udp quiet found =>
    rename_i sock pkt noted m
    have entry : ledger (noted ++ [.received pkt, .sent ⟨.response m, pkt.sock, m.lanSock,
        some (m.clientIP, uint16 m.clientPort), pkt.data, t.sent⟩]) = { settled := [m] } := by
      rw [ledger_append, quiet_ledger quiet]
      rfl
    have member := (mapping_find_some found).1
    rw [entry, accounted.nodes.distinct.eraseP_erases member]
    refine ⟨accounted.balanced.settle member, ?_, ?_, accounted.addressed, ?_⟩
    · simpa using accounted.once
    · simpa using accounted.allocated
    · refine addressed_append.mpr ⟨quiet_addressed quiet, ?_⟩
      intro call m member caller
      simp only [List.mem_cons, List.not_mem_nil, or_false, reduceCtorEq, false_or,
        Event.sent.injEq] at member
      subst member
      cases caller
      exact ⟨rfl, rfl⟩
  | queried received udp quiet notWan unmatched created =>
    rename_i sock pkt noted m
    have entry : ledger (noted ++ [.received pkt, .added m, .sent ⟨.query m, pkt.sock, m.wanSock,
        some (m.aftrIPv4, uint16 m.routerPort), pkt.data, t.sent⟩]) = { entered := [m] } := by
      rw [ledger_append, quiet_ledger quiet]
      rfl
    have fresh : m.node = p.kernel.heap := by simp [created, Mapping.stamped, mappingCreate]
    rw [entry, Ledger.entered_append]
    refine ⟨accounted.balanced.enter, ?_, ?_, accounted.addressed, ?_⟩
    · have apart : ∀ old ∈ (ledger history).entered, old.node ≠ m.node := by
        intro old member
        have older := accounted.allocated old member
        omega
      simpa [List.nodup_append, accounted.once] using apart
    · intro old member
      rcases List.mem_append.mp member with before | new
      · exact Nat.lt_succ_of_lt (accounted.allocated old before)
      · simp only [List.mem_singleton] at new
        simp [new, fresh]
    · refine addressed_append.mpr ⟨quiet_addressed quiet, ?_⟩
      intro call m member caller
      simp only [List.mem_cons, List.not_mem_nil, or_false, reduceCtorEq, false_or,
        Event.sent.injEq] at member
      subst member
      cases caller

theorem run_turn_accounted (host : Host) (t : Turn) (accounted : Accounted p history) :
    Accounted (runTurn host p t).1 (history ++ (runTurn host p t).2) := by
  have handled := handle_turn_accounted host t accounted
  obtain ⟨kept, events⟩ := run_turn_sweeps host t accounted.nodes
  generalize middle : handleTurn host p t = turned at handled kept events
  have entry : ledger ((turned.1.ctx.mappings.filter (·.timeout ≤ t.sweepTime)).map .expired) =
      { lapsed := turned.1.ctx.mappings.filter fun m => !decide (t.sweepTime < m.timeout) } := by
    have late : ∀ m : Mapping, (!decide (t.sweepTime < m.timeout)) = decide (m.timeout ≤ t.sweepTime) := by
      intro m
      rw [← decide_not, decide_eq_decide, not_lt]
    simp only [late]
    generalize turned.1.ctx.mappings.filter (·.timeout ≤ t.sweepTime) = gone
    have expired : (gone.map Event.expired).filterMap expiredBy = gone := by
      simp [List.filterMap_map, Function.comp_def, expiredBy]
    have added : (gone.map Event.expired).filterMap addedBy = [] := by simp [addedBy]
    have used : (gone.map Event.expired).filterMap usedBy = [] := by simp [usedBy]
    simp only [ledger, expired, added, used]
  rw [events, ← List.append_assoc]
  refine ⟨run_turn_nodes host t accounted.nodes, ?_, ?_, ?_, ?_⟩
  · rw [kept, ledger_append, entry]
    exact handled.balanced.lapse _
  · rw [ledger_append, entry, Ledger.entered_append]
    simpa using handled.once
  · rw [ledger_append, entry, Ledger.entered_append]
    have heap : (runTurn host p t).1.kernel.heap = turned.1.kernel.heap := by rw [← middle]; rfl
    simpa [heap] using handled.allocated
  · refine addressed_append.mpr ⟨handled.addressed, ?_⟩
    intro call m member
    simp at member

/-! ## Where the mappings come from -/

theorem quiet_added (quiet : ∀ event ∈ events, Quiet event) : AddedForPackets events := by
  refine Follows.none fun event member added => ?_
  cases event with
  | added m => exact quiet _ member
  | _ => cases added

theorem handle_turn_added (host : Host) (p : Proxy) (t : Turn) : AddedForPackets (handleTurn host p t).2 := by
  have turn := handle_turn_mappings host p t
  generalize (handleTurn host p t).1.ctx.mappings = after, (handleTurn host p t).1.kernel.heap = heap,
    (handleTurn host p t).2 = events at turn
  cases turn with
  | kept quiet => exact quiet_added quiet
  | used _ _ quiet =>
    refine (quiet_added quiet).append (Follows.none ?_)
    simp [addedBy]
  | queried received udp quiet notWan unmatched created =>
    rename_i sock pkt noted m
    have same : endpoint m = sender pkt := by
      simp [endpoint, sender, created, Mapping.stamped, mappingCreate]
    have added : AddedForPackets [.received pkt, .added m] :=
      .pair (by simp [addedBy]) ⟨pkt, m, rfl, rfl, udp, same⟩
    exact (quiet_added quiet).append (added.append (.none (by simp [addedBy])))

theorem run_turn_added (host : Host) (t : Turn) (added : AddedForPackets history) :
    AddedForPackets (history ++ (runTurn host p t).2) := by
  refine added.append ((handle_turn_added host p t).append (Follows.none fun event member here => ?_))
  rcases sweep_events member with rfl | ⟨m, rfl⟩
  · cases here
  · cases here

/-- An endpoint has asked for every mapping that it was given. -/
theorem accepted_le_asked (added : AddedForPackets history) (e : Endpoint) :
    accepted e history ≤ asked e history := by
  refine added.count_le (fun event counted => ?_) fun cause event caused counted => ?_
  · cases event with
    | added m => rfl
    | _ => cases counted
  · obtain ⟨pkt, m, rfl, rfl, udp, same⟩ := caused
    have here : endpoint m = e := of_decide_eq_true counted
    exact decide_eq_true ⟨udp, same.symm.trans here⟩

/-- In every run, every query of an endpoint is answered once, still waits for
its reply or has expired; the mappings added are, each once, those used, those
on the list and those expired. Each is added for the UDP packet received right
before it, with its source and its socket, so an endpoint is never sent more
replies than it sent packets. -/
theorem queries_and_replies_balance (host : Host) (p : Proxy) (empty : p.ctx.mappings = [])
    (turns : List Turn) (e : Endpoint) :
    accepted e ((run host).trace p turns) =
        replied e ((run host).trace p turns) + live e ((run host).after p turns) +
          lapsed e ((run host).trace p turns) ∧
      (ledger ((run host).trace p turns)).Balanced ((run host).after p turns).ctx.mappings ∧
      ((ledger ((run host).trace p turns)).entered.map Mapping.node).Nodup ∧
      AddedForPackets ((run host).trace p turns) ∧
      replied e ((run host).trace p turns) ≤ asked e ((run host).trace p turns) := by
  have started : Accounted p [] := by
    refine ⟨no_nodes empty, ?_, by simp [ledger], by simp [ledger], by simp [Addressed]⟩
    rw [empty]
    exact Ledger.balanced_empty
  have accounted := (run host).recorded.invariant_after_any
    (fun record => Accounted record.1 record.2) (p, [])
    (fun _ _ accounted => run_turn_accounted host _ accounted) started turns
  have added := (run host).recorded.invariant_after_any
    (fun record => AddedForPackets record.2) (p, [])
    (fun _ _ added => run_turn_added host _ added) (Follows.none (by simp)) turns
  rw [Machine.recorded_after, List.nil_append] at accounted added
  have balance : accepted e ((run host).trace p turns) =
      replied e ((run host).trace p turns) + live e ((run host).after p turns) +
        lapsed e ((run host).trace p turns) := by
    rw [accepted_eq, lapsed_eq, replied_eq e accounted.addressed, live]
    exact accounted.balanced.count _
  have paid : accepted e ((run host).trace p turns) ≤ asked e ((run host).trace p turns) :=
    accepted_le_asked added e
  exact ⟨balance, accounted.balanced, accounted.once, added, by omega⟩

/-- A client asks, the AFTR answers, and the account of the client is closed. -/
theorem household_query_balances :
    let turns : List Turn := [
      { ready := [3], sent := 2, addTime := 100, sweepTime := 100
        recv := some { src := ⟨192, 168, 1, 7⟩, srcPort := 4000, dst := ⟨192, 168, 1, 1⟩, payload := [0, 0] } },
      { ready := [6], sent := 4, addTime := 101, sweepTime := 101
        recv := some { src := ⟨192, 0, 0, 1⟩, srcPort := 5351,
                       dst := ⟨10, 0, 0, 2⟩, payload := [0, 128, 0, 0] } }]
    let client : Endpoint := ⟨⟨192, 168, 1, 7⟩, 4000, 3⟩
    replied client ((run littleHost).trace household turns) = 1 ∧
      (accepted client ((run littleHost).trace household turns) =
          replied client ((run littleHost).trace household turns) +
            live client ((run littleHost).after household turns) +
            lapsed client ((run littleHost).trace household turns) ∧
        (ledger ((run littleHost).trace household turns)).Balanced
          ((run littleHost).after household turns).ctx.mappings ∧
        ((ledger ((run littleHost).trace household turns)).entered.map Mapping.node).Nodup ∧
        AddedForPackets ((run littleHost).trace household turns) ∧
        replied client ((run littleHost).trace household turns) ≤
          asked client ((run littleHost).trace household turns)) :=
  ⟨by decide, queries_and_replies_balance littleHost household rfl _ _⟩

end Portproxy.Conservation
