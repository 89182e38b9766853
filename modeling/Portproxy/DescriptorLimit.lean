import Portproxy.LowestFree
import Portproxy.RelayPairing

/-! The `fd_set` of `wait_for_traffic` has room for `FD_SETSIZE` descriptors, and
nothing checks that a descriptor is one of them. Where the system hands out the
lowest one that is free, the number of connections decides whether all are. -/
namespace Portproxy.DescriptorLimit
open LowestFree StepMachine SocketRoles TurnSemantics RelayPairing

/-- `FD_SETSIZE`. -/
def fdSetsize : Nat := 1024

/-- `fd_set`. -/
abbrev FdSet := Vector Bool fdSetsize

/-- `FD_ZERO`. -/
def fdZero : FdSet := Vector.replicate fdSetsize false

/-- `FD_SET`, as far as it writes inside the set. -/
def fdSet (fds : FdSet) (fd : Int) : Option FdSet :=
  if inside : 0 ≤ fd ∧ fd < fdSetsize then some (fds.set fd.toNat true (by omega)) else none

/-- The loop of `wait_for_traffic` that fills the set `select` gets. -/
def watched (sockets : List Socket) : Option FdSet := sockets.foldlM (fun fds sock => fdSet fds sock.fd) fdZero

/-- What `accept` and `socket` hand out is the lowest descriptor that is free. -/
def HandsOutLowest (p : Proxy) (t : Turn) : Prop :=
  ∀ choice, t.accept.accept = some choice → Lowest p.kernel.fds choice ∧
    ∀ choice', t.accept.socket = some choice' → Lowest (insert (choice : Int) p.kernel.fds) choice'

/-- The set is filled without a write outside it, and holds the sockets of the list. -/
def WatchesAll (p : Proxy) : Prop :=
  ∃ fds, watched p.ctx.sockets = some fds ∧
    ∀ n, ∀ small : n < fdSetsize, fds[n] = true ↔ (n : Int) ∈ p.ctx.fds

/-- The sockets of relayed connections, two for each. -/
def connected (p : Proxy) : Nat := p.ctx.sockets.countP fun s => Connected s

variable {host : Host} {p p₀ : Proxy} {t : Turn} {history : List Event}

/-! ## Filling the set -/

theorem fd_set_some (fds after : FdSet) (fd : Int) :
    fdSet fds fd = some after ↔ (0 ≤ fd ∧ fd < fdSetsize) ∧
      ∀ n, ∀ small : n < fdSetsize, after[n] = true ↔ fds[n] = true ∨ (n : Int) = fd := by
  unfold fdSet
  split
  · rename_i inside
    have cast : (fd.toNat : Int) = fd := Int.toNat_of_nonneg inside.1
    have holds : ∀ n, ∀ small : n < fdSetsize,
        (fds.set fd.toNat true (by omega))[n] = true ↔ fds[n] = true ∨ (n : Int) = fd := by
      intro n small
      rw [Vector.getElem_set]
      split <;> simp <;> omega
    constructor
    · rintro ⟨⟩
      exact ⟨inside, holds⟩
    · rintro ⟨-, same⟩
      refine congrArg some (Vector.ext fun n small => ?_)
      exact Bool.eq_iff_iff.mpr ((holds n small).trans (same n small).symm)
  · simp_all

theorem watched_from (sockets : List Socket) (fds : FdSet) :
    (∃ after, sockets.foldlM (fun fds sock => fdSet fds sock.fd) fds = some after ∧
        ∀ n, ∀ small : n < fdSetsize, after[n] = true ↔
          fds[n] = true ∨ (n : Int) ∈ sockets.map Socket.fd) ↔
      ∀ s ∈ sockets, 0 ≤ s.fd ∧ s.fd < fdSetsize := by
  induction sockets generalizing fds with
  | nil => simp
  | cons s rest ih =>
    rw [List.foldlM_cons]
    cases set : fdSet fds s.fd with
    | none =>
      have outside : ¬ (0 ≤ s.fd ∧ s.fd < fdSetsize) := by
        intro inside
        simp [fdSet, inside] at set
      simp [outside]
    | some next =>
      obtain ⟨inside, holds⟩ := (fd_set_some fds next s.fd).mp set
      rw [List.forall_mem_cons, and_iff_right inside, ← ih next]
      simp only [Option.bind_eq_bind, Option.bind_some, List.map_cons, List.mem_cons, holds, or_assoc]

theorem watches_all_iff (p : Proxy) :
    WatchesAll p ↔ ∀ s ∈ p.ctx.sockets, 0 ≤ s.fd ∧ s.fd < fdSetsize := by
  rw [← watched_from p.ctx.sockets fdZero]
  simp [WatchesAll, watched, fdZero, Context.fds]

/-! ## Counting descriptors -/

/-- The descriptors of the process are those of the start and the connected sockets'. -/
theorem relaying_card (relaying : Relaying p₀ p history) :
    p.kernel.fds.card = p₀.kernel.fds.card + connected p := by
  let linked := (p.ctx.sockets.filter fun s => Connected s).map Socket.fd
  have distinct : linked.Nodup :=
    relaying.paired.distinct.sublist List.filter_sublist
  have opened : p.kernel.fds = p₀.kernel.fds ∪ linked.toFinset := by
    ext fd
    rw [relaying.opened, Finset.mem_union, List.mem_toFinset, List.mem_map]
    simp only [List.mem_filter, decide_eq_true_eq, and_assoc]
  have apart : Disjoint p₀.kernel.fds linked.toFinset := by
    refine Finset.disjoint_right.mpr fun fd member => ?_
    obtain ⟨s, listed, rfl⟩ := List.mem_map.mp (List.mem_toFinset.mp member)
    obtain ⟨listed, is⟩ := List.mem_filter.mp listed
    exact relaying.apart s listed (of_decide_eq_true is)
  rw [opened, Finset.card_union_of_disjoint apart, List.toFinset_card_of_nodup distinct, List.length_map,
    connected, List.countP_eq_length_filter]

/-! ## What a pass opens -/

/-- An accept opens nothing, or the two lowest descriptors that are free. -/
theorem accept_opens_lowest (lowest : HandsOutLowest p t) (sock : Socket) :
    (sockTcpAccept t.accept p sock).1.kernel.fds = p.kernel.fds ∨
      ∃ lan wan, Lowest p.kernel.fds lan ∧ Lowest (insert (lan : Int) p.kernel.fds) wan ∧
        (sockTcpAccept t.accept p sock).1.kernel.fds = insert (wan : Int) (insert (lan : Int) p.kernel.fds) := by
  rcases tcp_accept_cases t.accept p sock with ⟨-, same, -⟩ |
    ⟨_, _, _, -, -, -, accepted, opened, connects, -, -, -⟩
  · exact .inl same
  · obtain ⟨lan, accepted⟩ := Option.isSome_iff_exists.mp accepted
    obtain ⟨wan, opened⟩ := Option.isSome_iff_exists.mp opened
    obtain ⟨first, second⟩ := lowest lan accepted
    have second := second wan opened
    have lan_eq : p.kernel.descriptor lan = lan := if_neg first.free
    have wan_eq : (p.kernel.opens lan).descriptor wan = wan := if_neg second.free
    refine .inr ⟨lan, wan, first, second, ?_⟩
    simp [sockTcpAccept, accepted, opened, lan_eq, wan_eq, not_lt.mpr connects]

private theorem socket_del_fds (p : Proxy) (fd : Int) : (socketDel p fd).proxy.kernel.fds ⊆ p.kernel.fds := by
  rcases socket_del_cases p fd with ⟨left, deleted⟩ | complained
  · rw [deleted]
    exact Finset.erase_subset _ _
  · rw [complained]

theorem handle_turn_opens (host : Host) (lowest : HandsOutLowest p t) :
    (handleTurn host p t).1.kernel.fds ⊆ p.kernel.fds ∨
      ∃ lan wan, Lowest p.kernel.fds lan ∧ Lowest (insert (lan : Int) p.kernel.fds) wan ∧
        (handleTurn host p t).1.kernel.fds = insert (wan : Int) (insert (lan : Int) p.kernel.fds) := by
  have done := handle_turn_cases host p t
  generalize (handleTurn host p t).1 = next, (handleTurn host p t).2 = events at done ⊢
  cases done with
  | @accepts sock _ _ => exact (accept_opens_lowest lowest sock).imp (fun same => same.le) id
  | @closes _ pkt =>
    refine .inl ?_
    rcases tcp_close_cases p pkt with ⟨line, refused⟩ | ⟨peer, closed⟩
    · rw [refused]
    · rw [closed]
      exact (socket_del_fds _ _).trans (socket_del_fds _ _)
  | _ => exact .inl (Finset.Subset.refl _)

/-- While no more descriptors are open than the set has room for, all are in it. -/
def Fits (p : Proxy) : Prop := p.kernel.fds.card ≤ fdSetsize → Within fdSetsize p.kernel.fds

theorem run_turn_fits (host : Host) (lowest : HandsOutLowest p t) (fits : Fits p)
    (room : p.kernel.fds.card ≤ fdSetsize) : Fits (runTurn host p t).1 := by
  have within := fits room
  have swept : (runTurn host p t).1.kernel.fds = (handleTurn host p t).1.kernel.fds := rfl
  intro enough
  rw [swept] at enough ⊢
  rcases handle_turn_opens host lowest with fewer | ⟨lan, wan, first, second, opened⟩
  · exact fun fd held => within fd (fewer held)
  · rw [opened] at enough ⊢
    rw [card_insert_lowest second, card_insert_lowest first] at enough
    have withLan := within_insert within first (by omega)
    exact within_insert withLan second (by rw [card_insert_lowest first]; omega)

/-- Over a run from any successful start within the set, no pass writes outside
its `fd_set`, and each waits for all its sockets, exactly if there are never more
descriptors of the start and of connections than the set has room for. -/
theorem watches_all_iff_few_connected (host : Host) (p₀ : Proxy) (booted : Booted host p₀)
    (within : Within fdSetsize p₀.kernel.fds) (turns : List Turn)
    (lowest : (run host).Along HandsOutLowest p₀ turns) :
    (run host).Along (fun p _ => WatchesAll p) p₀ turns ↔
      (run host).Along (fun p _ => p₀.kernel.fds.card + connected p ≤ fdSetsize) p₀ turns := by
  refine (run host).along_iff_of_admitted
    (fun p => (∃ history, Relaying p₀ p history) ∧ Fits p) (fun p _ inv _ => ?_)
    (fun p t inv lowest room => ?_) ⟨⟨[], fresh_relaying (booted_fresh booted)⟩, fun _ => within⟩ lowest
  · obtain ⟨⟨history, relaying⟩, fits⟩ := inv
    rw [watches_all_iff, ← relaying_card relaying]
    constructor
    · intro watched
      refine within_card fun fd open_ => ?_
      rcases (relaying.opened fd).mp open_ with first | ⟨s, member, -, rfl⟩
      · exact within fd first
      · exact watched s member
    · intro room s member
      exact fits room s.fd (relaying.held s member)
  · obtain ⟨⟨history, relaying⟩, fits⟩ := inv
    rw [← relaying_card relaying] at room
    exact ⟨⟨_, relaying.run_turn⟩, run_turn_fits host lowest fits room⟩

/-- A household accepts a connection, whose ends get the descriptors 7 and 8. -/
theorem household_watches_all :
    let turns : List Turn := [{ ready := [4], accept := { accept := some 7, socket := some 8 } }, {}]
    (run littleHost).Along (fun p _ => WatchesAll p) household turns ↔
      (run littleHost).Along (fun p _ => household.kernel.fds.card + connected p ≤ fdSetsize) household turns := by
  refine watches_all_iff_few_connected littleHost household household_booted (by decide +kernel) _
    ⟨fun choice accepted => ?_, nofun, trivial⟩
  cases accepted
  refine ⟨⟨by decide +kernel, by decide +kernel⟩, fun choice' opened => ?_⟩
  cases opened
  exact ⟨by decide +kernel, by decide +kernel⟩

end Portproxy.DescriptorLimit
