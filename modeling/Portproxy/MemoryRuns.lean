import Portproxy.MemoryRefinement
import Portproxy.SocketRoles

/-! The main loop in memory does what the main loop over lists does. So no input
makes it read through a null pointer or in a freed block, free a block twice, or
stay in a loop. -/
namespace Portproxy.ProcessMemory
open Allocation Filter LinkedCells SocketRoles TurnSemantics

variable {host : Host} {m : Process} {p : Proxy} {lost : Lost} {t : Turn} {pkt : Pkt}
  {memory : MappingMemory.Memory}

/-! ## Passes -/

def handleTurnLost (p : Proxy) (t : Turn) (lost : Lost) : Lost :=
  let waited := Portproxy.waitForTraffic p t
  match waited.2.1 with
  | none => waitLost p t lost
  | some pkt => handleLost waited.1 pkt (waitLost p t lost)

/-- A sweep leaves behind what it takes off the front of the list. -/
def sweepLost (now : Int) (mappings : List Mapping) (lost : Lost) : Lost :=
  { lost with mappings := lost.mappings + (mappings.takeWhile (·.timeout ≤ now)).length }

/-- What is lost in a run. -/
def runLost (host : Host) : Proxy → List Turn → Lost → Lost
  | _, [], lost => lost
  | p, t :: rest, lost =>
    runLost host (Portproxy.runTurn host p t).1 rest
      (sweepLost t.sweepTime (Portproxy.handleTurn host p t).1.ctx.mappings (handleTurnLost p t lost))

theorem handle_turn_settles (rep : Represents m p lost) (host : Host) (t : Turn) :
    ∃ after, Represents after (Portproxy.handleTurn host p t).1 (handleTurnLost p t lost) ∧
      Settles (handleTurn host m t) (after, (Portproxy.handleTurn host p t).2) := by
  obtain ⟨w, rep', held, events, waits⟩ := wait_settles rep t
  unfold Portproxy.handleTurn handleTurnLost
  generalize Portproxy.waitForTraffic p t = received at rep' held events ⊢
  obtain ⟨next, arrived, noted⟩ := received
  obtain ⟨process, pkt, events'⟩ := w
  simp only at rep' held events waits ⊢
  subst events
  cases held with
  | none =>
    refine ⟨process, rep', ?_⟩
    filter_upwards [waits] with steps ran
    rw [handleTurn, ran]
    rfl
  | some stored =>
    obtain ⟨after, rep'', handles⟩ := handle_packet_settles rep' stored host t.sent t.addTime
    refine ⟨after, rep'', ?_⟩
    filter_upwards [waits, handles] with steps ran handled
    rw [handleTurn, ran]
    simp only [Option.bind_some, stored, handled, Option.map_some]

/-- A sweep stops leaving mappings behind at the first one that stays. -/
theorem unexpired_front {now : Int} {kept rest : List Mapping} (unexpired : ∀ m ∈ kept, ¬ m.timeout ≤ now)
    (nonempty : kept ≠ []) :
    ((kept ++ rest).dropWhile (·.timeout ≤ now)).countP (·.timeout ≤ now) = rest.countP (·.timeout ≤ now) := by
  obtain ⟨first, others, rfl⟩ := List.exists_cons_of_ne_nil nonempty
  have stays : ¬ first.timeout ≤ now := unexpired first List.mem_cons_self
  have none : (first :: others).countP (·.timeout ≤ now) = 0 :=
    List.countP_eq_zero.mpr fun m member => by simpa using unexpired m member
  rw [List.cons_append, List.dropWhile_cons_of_neg (by simpa using stays), ← List.cons_append, List.countP_append,
    none, Nat.zero_add]

/-- A sweep frees the expired mappings, apart from those in front of the first one
that stays. -/
theorem sweep_blocks {kept rest : List Mapping} {start : Option Nat}
    (reached : Path memory.heap memory.mappings (kept.map MappingMemory.cell) start)
    (behind : Chain memory.heap start (rest.map MappingMemory.cell))
    (unexpired : ∀ m ∈ kept, ¬ m.timeout ≤ now) (far : (kept ++ rest).length ≤ reach)
    (ran : MappingMemory.removeExpiredLoop now reach steps memory start = some (after, codes))
    (blocks : Allocated memory.heap next
      (((kept ++ rest).dropWhile (·.timeout ≤ now)).countP (·.timeout ≤ now) + count)) :
    Allocated after.heap next count := by
  induction steps generalizing memory kept rest start codes with
  | zero => cases ran
  | succ steps ih =>
    have lists : MappingMemory.Lists memory (kept ++ rest) :=
      MappingMemory.lists_append.mpr ⟨start, reached, behind⟩
    cases rest with
    | nil =>
      cases behind
      cases ran
      have none : (kept.dropWhile (·.timeout ≤ now)).countP (·.timeout ≤ now) = 0 :=
        List.countP_eq_zero.mpr fun m member => by simpa using unexpired m (List.dropWhile_subset _ member)
      rwa [List.append_nil, none, Nat.zero_add] at blocks
    | cons m rest =>
      cases behind with
      | @cons _ _ later _ _ stored behind' =>
        rw [MappingMemory.removeExpiredLoop, stored, Option.bind_some] at ran
        by_cases expired : m.timeout ≤ now
        · rw [if_pos expired] at ran
          obtain ⟨left, lists', deleted⟩ := MappingMemory.delete_unlinks lists
          have unlinked := deleted reach (le_trans (by simp) far)
          rw [unlinked, Option.bind_some] at ran
          obtain ⟨swept, again, same⟩ := Option.map_eq_some_iff.mp ran
          cases same
          have fewer := mapping_delete_blocks unlinked blocks
          have front : Path left.heap left.mappings (([] : List Mapping).map MappingMemory.cell) left.mappings := .nil
          refine ih front lists' (by simp) (le_trans (by simp) far) again ?_
          rw [lists_head lists] at fewer
          rcases List.eq_nil_or_concat' kept with rfl | ⟨_, _, shape⟩
          · -- the walk stands at the front, and the mapping is not freed
            rwa [List.nil_append, List.head?_cons, Option.map_some, if_pos rfl,
              List.dropWhile_cons_of_pos (by simpa using expired)] at fewer
          · have nonempty : kept ≠ [] := by simp [shape]
            obtain ⟨first, others, rfl⟩ := List.exists_cons_of_ne_nil nonempty
            have apart : first.node ≠ m.node := lists.distinct.apart (by simp)
            rw [if_neg (by simpa using apart), unexpired_front unexpired nonempty,
              List.countP_cons_of_pos (by simpa using expired), Nat.add_right_comm, Nat.add_sub_cancel] at fewer
            rwa [List.nil_append, unexpired_front unexpired nonempty]
        · rw [if_neg expired] at ran
          have reached' : Path memory.heap memory.mappings ((kept ++ [m]).map MappingMemory.cell) later := by
            rw [List.map_append]
            exact path_append.mpr ⟨some m.node, reached, .cons stored .nil⟩
          refine ih reached' behind' ?_ (by simpa using far) ran (by simpa using blocks)
          intro other member
          rcases List.mem_append.mp member with earlier | here
          · exact unexpired other earlier
          · rwa [List.mem_singleton.mp here]

/-- The mappings of a list before a sweep: freed, kept, and left behind. -/
theorem sweep_counts (now : Int) (mappings : List Mapping) :
    (mappings.dropWhile (·.timeout ≤ now)).countP (·.timeout ≤ now) +
      ((mappings.filter (now < ·.timeout)).length + (mappings.takeWhile (·.timeout ≤ now)).length) =
        mappings.length := by
  induction mappings with
  | nil => rfl
  | cons m rest ih =>
    by_cases expired : m.timeout ≤ now
    · rw [List.dropWhile_cons_of_pos (by simpa using expired), List.takeWhile_cons_of_pos (by simpa using expired),
        List.filter_cons_of_neg (by simpa using expired), List.length_cons, List.length_cons]
      omega
    · have stays : (m :: rest).filter (now < ·.timeout) =
          (m :: rest).filter fun m => ¬ decide (m.timeout ≤ now) = true := List.filter_congr fun m _ => by simp
      rw [List.dropWhile_cons_of_neg (by simpa using expired), List.takeWhile_cons_of_neg (by simpa using expired),
        stays, ← List.countP_eq_length_filter, List.length_nil, Nat.add_zero,
        ← List.length_eq_countP_add_countP fun m : Mapping => decide (m.timeout ≤ now)]

theorem sweep_settles (rep : Represents m p lost) (now : Int) :
    ∃ after codes,
      MappingMemory.Lists after (Portproxy.ctxMappingsRemoveExpired now p.ctx.mappings).1 ∧
        Allocated after.heap m.kernel.heap ((Portproxy.ctxMappingsRemoveExpired now p.ctx.mappings).1.length +
          (sweepLost now p.ctx.mappings lost).mappings) ∧
          Settles (fun steps => MappingMemory.ctxMappingsRemoveExpired now steps m.mappings) (after, codes) := by
  have filters := remove_expired_filters rep.mappings.distinct now
  have clean : .fault ∉ (Portproxy.ctxMappingsRemoveExpired now p.ctx.mappings).2 := by simp [filters]
  obtain ⟨after, remaining, swept⟩ := MappingMemory.remove_expired_refines now [] .nil rep.mappings
    ((p.ctx.mappings.length + 1) * (p.ctx.mappings.length + 1)) clean
  have ends := fun steps (enough : steps ≥ (p.ctx.mappings.length + 1) * (p.ctx.mappings.length + 1)) =>
    swept steps (le_trans (by simp only [List.nil_append]; nlinarith) enough) steps enough
  refine ⟨after, _, remaining, ?_, (eventually_ge_atTop _).mono ends⟩
  have front : Path m.mappings.heap m.mappings.mappings (([] : List Mapping).map MappingMemory.cell)
      m.mappings.mappings := .nil
  refine sweep_blocks front rep.mappings (by simp) ?_ (ends _ (Nat.le_refl _)) ?_
  · simp only [List.nil_append]
    nlinarith
  · have blocks := rep.mappingBlocks
    rw [← sweep_counts now p.ctx.mappings] at blocks
    rw [List.nil_append, filters]
    simp only [sweepLost]
    rwa [Nat.add_assoc, Nat.add_assoc, Nat.add_comm _ lost.mappings] at blocks

theorem run_turn_settles (rep : Represents m p lost) (host : Host) (t : Turn) :
    ∃ after,
      Represents after (Portproxy.runTurn host p t).1
          (sweepLost t.sweepTime (Portproxy.handleTurn host p t).1.ctx.mappings (handleTurnLost p t lost)) ∧
        Settles (runTurn host m t) (after, (Portproxy.handleTurn host p t).2) := by
  obtain ⟨handled, rep', handles⟩ := handle_turn_settles rep host t
  obtain ⟨left, codes, lists, blocks, sweeps⟩ := sweep_settles rep' t.sweepTime
  refine ⟨{ handled with mappings := left, kernel := { handled.kernel with clock := t.sweepTime } }, ?_, ?_⟩
  · exact {
      ctx := rep'.ctx
      kernel := by
        rw [rep'.kernel]
        rfl
      sockets := rep'.sockets
      mappings := lists
      pktBlocks := rep'.pktBlocks
      socketBlocks := rep'.socketBlocks
      mappingBlocks := blocks }
  · filter_upwards [handles, sweeps] with steps ran swept
    rw [runTurn, ran, Option.bind_some, swept]
    rfl

/-! ## Closing -/

theorem sockets_front (rep : Represents m p lost) :
    (p.ctx.sockets = [] ∧ m.sockets = none) ∨
      ∃ s rest addr next, p.ctx.sockets = s :: rest ∧ m.sockets = some addr ∧
        m.socketHeap addr = some ⟨s, next⟩ := by
  obtain ⟨cells, chain, listed⟩ := rep.sockets
  generalize m.sockets = head at chain
  cases chain with
  | nil => exact .inl ⟨listed.symm, rfl⟩
  | cons stored behind => exact .inr ⟨_, _, _, _, listed.symm, rfl, stored⟩

theorem close_loop_settles (rep : Represents m p lost) (enough : p.ctx.sockets.length ≤ fuel) :
    ∃ after, Represents after (socketsCloseLoop fuel p) lost ∧ Settles (socketsClose m) after := by
  induction fuel generalizing m p with
  | zero =>
    rcases sockets_front rep with ⟨-, none⟩ | ⟨s, rest, addr, next, listed, -, -⟩
    · exact ⟨m, rep, .of_succ (Eventually.of_forall fun steps => by simp [socketsClose, none])⟩
    · simp [listed] at enough
  | succ fuel ih =>
    rcases sockets_front rep with ⟨empty, none⟩ | ⟨s, rest, addr, next, listed, head, stored⟩
    · refine ⟨m, ?_, .of_succ (Eventually.of_forall fun steps => by simp [socketsClose, none])⟩
      rwa [socketsCloseLoop, empty]
    · obtain ⟨shorter, rep', deleted⟩ := socket_del_settles rep s.fd
      have split : p.ctx.sockets = [] ++ s :: rest := listed
      have gone : (Portproxy.socketDel p s.fd).proxy.ctx.sockets = rest :=
        congrArg (fun left => left.proxy.ctx.sockets) (socket_del_found split (by simp))
      obtain ⟨after, rep'', closed⟩ := ih rep' (by rw [gone]; simpa [listed] using enough)
      refine ⟨after, by rwa [socketsCloseLoop, listed], .of_succ ?_⟩
      rw [Settles, ← map_add_atTop_eq_nat 1] at deleted
      filter_upwards [closed, eventually_map.mp deleted] with steps ends ran
      simp [socketsClose, head, stored, ran, ends]

/-- `sockets_close` ends, and frees every socket of the list. -/
theorem close_settles (rep : Represents m p lost) :
    ∃ after, Represents after (Portproxy.socketsClose p) lost ∧ Settles (socketsClose m) after :=
  close_loop_settles rep (Nat.le_refl _)

/-! ## Runs -/

/-- What the passes of a run do, apart from the mappings that their sweeps take off. -/
def handledTrace (host : Host) : Proxy → List Turn → List Event
  | _, [] => []
  | p, t :: rest => (Portproxy.handleTurn host p t).2 ++ handledTrace host (Portproxy.runTurn host p t).1 rest

theorem run_settles (host : Host) (rep : Represents m p lost) (turns : List Turn) :
    ∃ after, Represents after ((Portproxy.run host).after p turns) (runLost host p turns lost) ∧
      Settles (fun steps => run host steps m turns) (after, handledTrace host p turns) := by
  induction turns generalizing m p lost with
  | nil => exact ⟨m, rep, Eventually.of_forall fun _ => rfl⟩
  | cons t rest ih =>
    obtain ⟨middle, rep', turned⟩ := run_turn_settles rep host t
    obtain ⟨after, rep'', later⟩ := ih rep'
    refine ⟨after, rep'', ?_⟩
    filter_upwards [turned, later] with steps ran ends
    rw [run, ran, Option.bind_some, ends]
    rfl

/-! ## A process in memory -/

/-- The sockets of the list, put in memory the way `socket_add2` does it. -/
def storeSocket (s : Socket) (m : Process) : Process :=
  { m with socketHeap := alloc m.socketHeap m.socketNext ⟨s, m.sockets⟩, sockets := some m.socketNext
           socketNext := m.socketNext + 1 }

/-- A process without mappings in memory. -/
def stored (p : Proxy) : Process :=
  p.ctx.sockets.foldr storeSocket
    { ctx := p.ctx.settings, kernel := p.kernel, sockets := none, socketHeap := fun _ => none, socketNext := 0
      mappings := ⟨fun _ => none, none⟩, pktHeap := fun _ => none, pktNext := 0 }

theorem stored_represents (p : Proxy) (empty : p.ctx.mappings = []) : Represents (stored p) p {} := by
  suffices build : ∀ sockets, Represents
      (sockets.foldr storeSocket
        { ctx := p.ctx.settings, kernel := p.kernel, sockets := none, socketHeap := fun _ => none, socketNext := 0
          mappings := ⟨fun _ => none, none⟩, pktHeap := fun _ => none, pktNext := 0 })
      { p with ctx := { p.ctx with sockets } } {} from build p.ctx.sockets
  intro sockets
  induction sockets with
  | nil =>
    exact {
      ctx := rfl
      kernel := rfl
      sockets := ⟨[], .nil, rfl⟩
      mappings := by
        rw [empty]
        exact .nil
      pktBlocks := .none
      socketBlocks := .none
      mappingBlocks := by
        rw [empty]
        exact .none }
  | cons s rest ih => exact ih.push s

/-! ## What a whole run comes to -/

/-- Whatever the turns are, the run in memory ends and so does the clean-up behind it,
and both do what they do over lists. So nothing is read through a null pointer or in a
freed block, nothing is freed twice, and what stays allocated is exactly what is on the
lists or counted as lost. -/
theorem run_in_memory (host : Host) (rep : Represents m p lost) (turns : List Turn) :
    ∃ after closed,
      Represents after ((Portproxy.run host).after p turns) (runLost host p turns lost) ∧
        Settles (fun steps => run host steps m turns) (after, handledTrace host p turns) ∧
          Represents closed (Portproxy.socketsClose ((Portproxy.run host).after p turns))
              (runLost host p turns lost) ∧
            Settles (socketsClose after) closed := by
  obtain ⟨after, rep', ran⟩ := run_settles host rep turns
  obtain ⟨closed, rep'', closes⟩ := close_settles rep'
  exact ⟨after, closed, rep', ran, rep'', closes⟩

/-- A client of the household connects, sends two bytes and hangs up. -/
def connectSendClose : List Turn :=
  [{ ready := [4], accept := { accept := some 7, socket := some 8 } },
    { ready := [7], recv := some { payload := [1, 2] }, sent := 2 }, { ready := [7], recv := some { payload := [] } }]

theorem household_in_memory :
    ∃ after closed,
      Represents after ((Portproxy.run littleHost).after household connectSendClose)
          (runLost littleHost household connectSendClose {}) ∧
        Settles (fun steps => run littleHost steps (stored household) connectSendClose)
            (after, handledTrace littleHost household connectSendClose) ∧
          Represents closed (Portproxy.socketsClose ((Portproxy.run littleHost).after household connectSendClose))
              (runLost littleHost household connectSendClose {}) ∧
            Settles (socketsClose after) closed :=
  run_in_memory littleHost (stored_represents household rfl) connectSendClose

/-- Of its two packets the one that ends the connection stays allocated. -/
example : runLost littleHost household connectSendClose {} = { packets := 1 } := by decide +kernel

/-! ## Packets -/

def Relayed : Event → Bool
  | .sent call => call.caller = .relay
  | _ => false

/-- Whether the pass calls one of the functions that allocate a packet. -/
def reads (p : Proxy) (t : Turn) : Bool := (picked p t).any fun sock => sock.state ≠ .tcpListening

/-- How many packets a run allocates. -/
def packetsRead (host : Host) : Proxy → List Turn → Nat
  | _, [] => 0
  | p, t :: rest => (reads p t).toNat + packetsRead host (Portproxy.runTurn host p t).1 rest

theorem wait_lost_packets (p : Proxy) (t : Turn) (lost : Lost) :
    (waitLost p t lost).packets = lost.packets + (reads p t).toNat := by
  unfold waitLost reads
  cases picked p t with
  | none => rfl
  | some sock =>
    cases state : sock.state <;> simp [state, acceptLost]
    split <;> rfl

theorem wait_relays_nothing (p : Proxy) (t : Turn) : (Portproxy.waitForTraffic p t).2.2.countP Relayed = 0 := by
  unfold Portproxy.waitForTraffic
  split
  · rfl
  · split
    · rfl
    · split
      · rfl
      · rfl
      · next sock _ _ _ =>
        rcases tcp_accept_cases t.accept p sock with
          ⟨-, -, -, -, none⟩ | ⟨_, _, _, -, -, -, -, -, -, -, -, paired⟩
        · simp only [none]
          rfl
        · simp only [paired]
          rfl
      · split
        · rfl
        · unfold Portproxy.sockTcpReceive
          simp only
          split <;> rfl

/-- Only a relayed packet is freed. -/
theorem handle_lost_packets (host : Host) (sent addTime : Int) (p : Proxy) (pkt : Pkt) (held : 0 < lost.packets) :
    (handleLost p pkt lost).packets +
      (Portproxy.handlePacket host sent addTime p pkt).events.countP Relayed = lost.packets := by
  unfold handleLost
  by_cases tcp : pkt.proto = .tcp
  · rw [if_pos tcp, Portproxy.handlePacket, if_pos tcp]
    by_cases some : pkt.datalen ≠ 0
    · rw [if_pos some, if_pos some]
      unfold tcpPacketLost Portproxy.handleTcpPacket
      cases Portproxy.socketFind p.ctx pkt.sock with
      | none => rfl
      | some sock =>
        simp only
        cases Portproxy.socketFind p.ctx sock.peer with
        | none => rfl
        | some peer => exact Nat.sub_add_cancel held
    · have none : (Portproxy.handleTcpClose p pkt).events.countP Relayed = 0 :=
        List.countP_eq_zero.mpr fun event member => by
          obtain ⟨line, rfl⟩ := tcp_close_complains p pkt event member
          simp [Relayed]
      rw [if_neg some, if_neg some, none, Nat.add_zero]
  · have none : (Portproxy.handlePacket host sent addTime p pkt).events.countP Relayed = 0 :=
      List.countP_eq_zero.mpr fun event member relayed => by
        cases event with
        | sent call =>
          cases handle_packet_forwards member with
          | relays proto => exact tcp proto
          | _ => cases relayed
        | _ => cases relayed
    rw [if_neg tcp, none, Nat.add_zero]
    split
    · rfl
    · split
      · rfl
      · split
        · rfl
        · unfold deleteLost
          split <;> rfl

theorem wait_reads (arrived : (Portproxy.waitForTraffic p t).2.1 = some pkt) : reads p t = true := by
  unfold Portproxy.waitForTraffic at arrived
  unfold reads picked
  by_cases silent : t.ready = []
  · simp [silent] at arrived
  · rw [if_neg silent] at arrived
    cases found : p.ctx.sockets.find? (·.fd ∈ t.ready) with
    | none => simp [found] at arrived
    | some sock =>
      rw [found] at arrived
      cases state : sock.state with
      | tcpListening => simp [state] at arrived
      | udp | udp6 | tcpConnected => simp [state]

theorem handle_turn_packets (host : Host) (p : Proxy) (t : Turn) (lost : Lost) :
    (handleTurnLost p t lost).packets + (Portproxy.handleTurn host p t).2.countP Relayed =
      lost.packets + (reads p t).toNat := by
  have waited := wait_lost_packets p t lost
  have silent := wait_relays_nothing p t
  have read (pkt : Pkt) : (Portproxy.waitForTraffic p t).2.1 = some pkt → reads p t = true := wait_reads
  unfold handleTurnLost Portproxy.handleTurn
  generalize Portproxy.waitForTraffic p t = received at silent read ⊢
  obtain ⟨next, arrived, noted⟩ := received
  simp only at silent read ⊢
  cases arrived with
  | none => rw [waited, silent, Nat.add_zero]
  | some pkt =>
    have held : 0 < (waitLost p t lost).packets := by
      rw [waited, read pkt rfl]
      exact Nat.succ_pos _
    have handled := handle_lost_packets host t.sent t.addTime next pkt held
    have received : Relayed (.received pkt) = false := rfl
    simp only [List.countP_append, silent, Nat.zero_add, List.countP_cons, received, Bool.false_eq_true, ↓reduceIte,
      Nat.add_zero]
    rw [handled, waited]

theorem run_lost_packets (host : Host) (p : Proxy) (turns : List Turn) (lost : Lost) :
    (runLost host p turns lost).packets + (handledTrace host p turns).countP Relayed =
      lost.packets + packetsRead host p turns := by
  induction turns generalizing p lost with
  | nil => rfl
  | cons t rest ih =>
    have first := handle_turn_packets host p t lost
    have later := ih (Portproxy.runTurn host p t).1
      (sweepLost t.sweepTime (Portproxy.handleTurn host p t).1.ctx.mappings (handleTurnLost p t lost))
    rw [runLost, handledTrace, packetsRead, List.countP_append]
    simp only [sweepLost] at later ⊢
    omega

/-- Every packet that was ever allocated still is, apart from one for each piece of a
stream that was sent on: a proxy that relays datagrams grows with every one of them. -/
theorem packets_accumulate (host : Host) (rep : Represents m p lost) (turns : List Turn) :
    ∃ after count,
      Settles (fun steps => run host steps m turns) (after, handledTrace host p turns) ∧
        Allocated after.pktHeap after.pktNext count ∧
          count + (handledTrace host p turns).countP Relayed = lost.packets + packetsRead host p turns := by
  obtain ⟨after, rep', ran⟩ := run_settles host rep turns
  exact ⟨after, _, ran, rep'.pktBlocks, run_lost_packets host p turns lost⟩

theorem household_packets_accumulate :
    ∃ after count,
      Settles (fun steps => run littleHost steps (stored household) connectSendClose)
          (after, handledTrace littleHost household connectSendClose) ∧
        Allocated after.pktHeap after.pktNext count ∧
          count + (handledTrace littleHost household connectSendClose).countP Relayed =
            0 + packetsRead littleHost household connectSendClose :=
  packets_accumulate littleHost (stored_represents household rfl) connectSendClose

end Portproxy.ProcessMemory
