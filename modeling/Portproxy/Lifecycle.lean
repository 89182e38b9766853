import Portproxy.CommandLine
import Portproxy.RelayPairing

/-! The whole of `main`: what it returns, and which descriptors are open then. The
sockets of the list are closed at the end, and those of every connection by then,
but nothing closes what start-up has abandoned. -/
namespace Portproxy.Lifecycle
open StepMachine Fallible StartupDescriptors RelayPairing SocketRoles

/-- What the system does while `main` runs. -/
structure Life where
  /-- The netlink socket of `if_list_get`; without one its dump never ends. -/
  netlink : Option Nat
  /-- The answers to the first `sockets_bind`. -/
  first : BindAnswers
  /-- The answers to the later ones, up to a success or until a signal comes. -/
  retries : List BindAnswers := []
  /-- The passes of `run` until a signal comes. -/
  turns : List Turn := []

inductive Ending where
  | returned (status : Int) (p : Proxy)
  /-- The process exits, or a call never comes back. -/
  | stopped

/-- The end of `main`, from `run` on. -/
def serve (host : Host) (p : Proxy) (turns : List Turn) : Ending :=
  .returned 0 (socketsClose ((run host).after p turns))

/-- The part of `main` behind `sanity_check`. -/
def bindAndServe (host : Host) (p : Proxy) (life : Life) : Ending :=
  if p.ctx.persistent = 0 then
    match socketsBind host life.first p with
    | .done _ p' => serve host p' life.turns
    | .failed _ p' => .returned (-1) p'
    | .stopped => .stopped
  else
    match (start host).after (.trying p) (life.first :: life.retries) with
    | .running p' => serve host p' life.turns
    -- the signal came while the loop slept, and `run` makes no pass
    | .trying p' => serve host p' []
    | .stopped => .stopped

/-- `main` on the arguments behind the program's name. Nothing closes the netlink
socket of `if_list_get`. -/
def main (env : Surroundings) (args : List CString) (k : Kernel) (life : Life) : Ending :=
  match life.netlink with
  | none => .stopped
  | some choice =>
    let k := k.opens (k.descriptor choice)
    match cmdLineParse env args with
    | .stopped => .stopped
    | .failed => .returned (-1) { kernel := k }
    | .done line =>
      let p : Proxy := { ctx := { toConfig := line.toConfig }, kernel := k }
      if sanityCheck line.toConfig = 0 then .returned (-1) p else bindAndServe env.host p life

/-! ## What is abandoned -/

/-- How many descriptors an attempt abandons. -/
def abandonedBy (host : Host) (cfg : Config) (a : BindAnswers) : Nat :=
  (made (Call.succeeds host) (plan a cfg)).countP (·.abandons host)

/-- How many the attempts up to the first that succeeds abandon. -/
def abandonedIn (host : Host) (cfg : Config) : List BindAnswers → Nat
  | [] => 0
  | a :: rest =>
    abandonedBy host cfg a + if (plan a cfg).all (Call.succeeds host) then 0 else abandonedIn host cfg rest

variable {host : Host} {p q : Proxy} {k : Kernel} {life : Life}

/-- These are the descriptors open in `k`, and so many more. -/
structure Beyond (k : Kernel) (fds : Finset Int) (count : Nat) : Prop where
  kept : k.fds ⊆ fds
  card : (fds \ k.fds).card = count

theorem Beyond.refl (k : Kernel) : Beyond k k.fds 0 := ⟨Finset.Subset.refl _, by simp⟩

/-- So many more descriptors that were not open. -/
theorem Beyond.more (beyond : Beyond k fds count) (lost : List Int) (distinct : lost.Nodup)
    (fresh : ∀ fd ∈ lost, fd ∉ fds) (opened : ∀ fd, fd ∈ after ↔ fd ∈ lost ∨ fd ∈ fds) :
    Beyond k after (count + lost.length) where
  kept fd held := (opened fd).mpr (.inr (beyond.kept held))
  card := by
    have split : after \ k.fds = (fds \ k.fds) ∪ lost.toFinset := by
      ext fd
      have apart : fd ∈ lost → fd ∉ k.fds := fun member held => fresh fd member (beyond.kept held)
      rw [Finset.mem_sdiff, opened, Finset.mem_union, Finset.mem_sdiff, List.mem_toFinset]
      tauto
    have disjoint : Disjoint (fds \ k.fds) lost.toFinset := by
      refine Finset.disjoint_right.mpr fun fd member held => ?_
      exact fresh fd (List.mem_toFinset.mp member) (Finset.mem_sdiff.mp held).1
    rw [split, Finset.card_union_of_disjoint disjoint, beyond.card, List.toFinset_card_of_nodup distinct]

/-- What an attempt leaves open beyond what it records. -/
theorem Grown.beyond (grown : Grown new lost p q) (empty : p.ctx.sockets = []) (beyond : Beyond k p.kernel.fds count) :
    Beyond k (q.kernel.fds \ q.ctx.fds.toFinset) (count + lost.length) := by
  have recorded : q.ctx.fds = new := by simpa [Context.fds, empty] using grown.recorded
  have apart := (List.nodup_append.mp grown.distinct).2.2
  refine beyond.more _ (List.nodup_append.mp grown.distinct).2.1 (fun fd member => ?_) fun fd => ?_
  · exact grown.fresh fd (List.mem_append_right _ member)
  · have fresh := grown.fresh fd
    rw [Finset.mem_sdiff, grown.opened, recorded, List.mem_toFinset]
    simp only [List.mem_append] at fresh ⊢
    constructor
    · rintro ⟨(new | lost) | held, unrecorded⟩
      · exact absurd new unrecorded
      · exact .inl lost
      · exact .inr held
    · rintro (lost | held)
      · exact ⟨.inl (.inr lost), fun new => apart fd new fd lost rfl⟩
      · exact ⟨.inr held, fun new => fresh (.inl new) held⟩

theorem close_leaves (p : Proxy) :
    (socketsClose p).ctx.sockets = [] ∧ (socketsClose p).kernel.fds = p.kernel.fds \ p.ctx.fds.toFinset := by
  obtain ⟨empty, -, -, closed⟩ := sockets_close_closes p
  refine ⟨empty, ?_⟩
  ext fd
  rw [closed, Finset.mem_sdiff, List.mem_toFinset]

/-! ## Starting -/

theorem done_beyond (ran : socketsBind host a p = .done () q) (empty : p.ctx.sockets = [])
    (beyond : Beyond k p.kernel.fds count) :
    (∀ call ∈ plan a p.ctx.toConfig, call.succeeds host = true) ∧
      Beyond k (q.kernel.fds \ q.ctx.fds.toFinset) (count + abandonedBy host p.ctx.toConfig a) := by
  obtain ⟨all, new, lost, grown, count⟩ := sockets_bind_makes.done ran
  refine ⟨all, ?_⟩
  rw [abandonedBy, made_of_all all, ← count]
  exact Grown.beyond grown empty beyond

theorem failed_beyond (ran : socketsBind host a p = .failed code q) (empty : p.ctx.sockets = [])
    (beyond : Beyond k p.kernel.fds count) :
    (¬ ∀ call ∈ plan a p.ctx.toConfig, call.succeeds host = true) ∧ q.ctx.toConfig = p.ctx.toConfig ∧
      Beyond k (q.kernel.fds \ q.ctx.fds.toFinset) (count + abandonedBy host p.ctx.toConfig a) := by
  obtain ⟨fails, -, new, lost, grown, count⟩ := sockets_bind_makes.failed ran
  refine ⟨by simpa using fails, grown.config, ?_⟩
  rw [abandonedBy, ← count]
  exact Grown.beyond grown empty beyond

theorem running_stays (attempts : List BindAnswers) : (start host).after (.running p) attempts = .running p := by
  induction attempts with
  | nil => rfl
  | cons a rest ih => exact ih

theorem stopped_stays (attempts : List BindAnswers) : (start host).after .stopped attempts = .stopped := by
  induction attempts with
  | nil => rfl
  | cons a rest ih => exact ih

/-- What is open after the attempts of a persistent start. -/
def Leaves (k : Kernel) (count : Nat) : Start → Prop
  | .running q => Beyond k (q.kernel.fds \ q.ctx.fds.toFinset) count
  | .trying q => q.ctx.sockets = [] ∧ Beyond k q.kernel.fds count
  | .stopped => True

theorem attempts_beyond (host : Host) (attempts : List BindAnswers) (persistent : p.ctx.persistent ≠ 0)
    (empty : p.ctx.sockets = []) (beyond : Beyond k p.kernel.fds count) :
    Leaves k (count + abandonedIn host p.ctx.toConfig attempts)
      ((start host).after (.trying p) attempts) := by
  induction attempts generalizing p count with
  | nil => exact ⟨empty, beyond⟩
  | cons a rest ih =>
    change Leaves k _ ((start host).after (startAttempt host (.trying p) a) rest)
    cases ran : socketsBind host a p with
    | done value q =>
      obtain ⟨all, left⟩ := done_beyond ran empty beyond
      rw [attempt_done ran, running_stays, abandonedIn, if_pos (by simpa using all), Nat.add_zero]
      exact left
    | failed code q =>
      obtain ⟨fails, config, left⟩ := failed_beyond ran empty beyond
      obtain ⟨closed, leaves⟩ := close_leaves q
      obtain ⟨-, -, settings, -⟩ := sockets_close_closes q
      have same : (socketsClose q).ctx.toConfig = p.ctx.toConfig := (Context.of_settings settings).1.trans config
      have later := ih (p := socketsClose q) (by rwa [same]) closed (by rwa [leaves])
      rw [attempt_failed persistent ran, abandonedIn, if_neg (by simpa using fails), ← Nat.add_assoc]
      rwa [same] at later
    | stopped =>
      rw [attempt_stopped ran, stopped_stays]
      trivial

/-! ## Running -/

/-- A run opens and closes recorded descriptors only. -/
theorem relaying_unrecorded (relaying : Relaying p q history) :
    q.kernel.fds \ q.ctx.fds.toFinset = p.kernel.fds \ p.ctx.fds.toFinset := by
  ext fd
  simp only [Finset.mem_sdiff, relaying.opened, List.mem_toFinset, Context.fds, List.mem_map]
  constructor
  · rintro ⟨held | ⟨s, member, -, rfl⟩, unrecorded⟩
    · refine ⟨held, ?_⟩
      rintro ⟨s, first, rfl⟩
      exact unrecorded ⟨s, ((relaying.first_sockets s).mp first).1, rfl⟩
    · exact absurd ⟨s, member, rfl⟩ unrecorded
  · rintro ⟨held, unrecorded⟩
    refine ⟨.inl held, ?_⟩
    rintro ⟨s, member, rfl⟩
    by_cases connected : Connected s
    · exact relaying.apart s member connected held
    · exact unrecorded ⟨s, (relaying.first_sockets s).mpr ⟨member, connected⟩, rfl⟩

theorem serve_beyond (turns : List Turn)
    (unrecorded : ((run host).after p turns).kernel.fds \ ((run host).after p turns).ctx.fds.toFinset =
      p.kernel.fds \ p.ctx.fds.toFinset)
    (beyond : Beyond k (p.kernel.fds \ p.ctx.fds.toFinset) count)
    (returned : serve host p turns = .returned status q) : q.ctx.sockets = [] ∧ Beyond k q.kernel.fds count := by
  cases returned
  obtain ⟨empty, leaves⟩ := close_leaves ((run host).after p turns)
  exact ⟨empty, by rwa [leaves, unrecorded]⟩

theorem bind_and_serve_beyond (cfg : Config) (opened : Kernel) (beyond : Beyond k opened.fds count)
    (returned : bindAndServe host { ctx := { toConfig := cfg }, kernel := opened } life = .returned 0 q) :
    q.ctx.sockets = [] ∧ Beyond k q.kernel.fds (count + abandonedIn host cfg (life.first :: life.retries)) := by
  unfold bindAndServe at returned
  by_cases persistent : cfg.persistent = 0
  · rw [if_pos persistent] at returned
    cases ran : socketsBind host life.first { ctx := { toConfig := cfg }, kernel := opened } with
    | done value bound =>
      rw [ran] at returned
      obtain ⟨all, left⟩ := done_beyond ran rfl beyond
      have booted : Booted host bound := ⟨cfg, opened, [life.first], attempt_done ran⟩
      rw [abandonedIn, if_pos (by simpa using all), Nat.add_zero]
      exact serve_beyond life.turns (relaying_unrecorded (booted_relaying booted life.turns)) left returned
    | failed code left =>
      rw [ran] at returned
      cases returned
    | stopped =>
      rw [ran] at returned
      cases returned
  · rw [if_neg persistent] at returned
    have leaves := attempts_beyond host (life.first :: life.retries)
      (p := { ctx := { toConfig := cfg }, kernel := opened }) persistent rfl beyond
    cases reached : (start host).after (.trying { ctx := { toConfig := cfg }, kernel := opened })
        (life.first :: life.retries) with
    | running bound =>
      rw [reached] at returned leaves
      have booted : Booted host bound := ⟨cfg, opened, _, reached⟩
      exact serve_beyond life.turns (relaying_unrecorded (booted_relaying booted life.turns)) leaves returned
    | trying closed =>
      rw [reached] at returned leaves
      refine serve_beyond [] rfl ?_ returned
      rw [Context.fds, leaves.1]
      simpa using leaves.2
    | stopped =>
      rw [reached] at returned
      cases returned

/-- Whatever fails how often, and whatever is received: when `main` returns 0, the
descriptors that are open beyond those of the beginning are the netlink socket of
`if_list_get` and as many as the attempts to bind have abandoned. -/
theorem descriptors_at_exit (env : Surroundings) (args : List CString) (k : Kernel) (life : Life)
    (returned : main env args k life = .returned 0 q) :
    ∃ line choice, cmdLineParse env args = .done line ∧ life.netlink = some choice ∧ q.ctx.sockets = [] ∧
      k.descriptor choice ∈ q.kernel.fds \ k.fds ∧
      Beyond k q.kernel.fds (1 + abandonedIn env.host line.toConfig (life.first :: life.retries)) := by
  unfold main at returned
  cases opened : life.netlink with
  | none =>
    rw [opened] at returned
    cases returned
  | some choice =>
    rw [opened] at returned
    cases parsed : cmdLineParse env args with
    | failed | stopped =>
      rw [parsed] at returned
      cases returned
    | done line =>
      rw [parsed] at returned
      simp only at returned
      have netlink : Beyond k (k.opens (k.descriptor choice)).fds 1 :=
        (Beyond.refl k).more [k.descriptor choice] (List.nodup_singleton _)
          (by simp [Kernel.descriptor_fresh]) (by simp)
      by_cases off : sanityCheck line.toConfig = 0
      · rw [if_pos off] at returned
        cases returned
      · rw [if_neg off] at returned
        obtain ⟨empty, beyond⟩ := bind_and_serve_beyond line.toConfig _ netlink returned
        obtain ⟨-, behind⟩ := bind_and_serve_beyond line.toConfig _ (Beyond.refl _) returned
        have stays : k.descriptor choice ∈ q.kernel.fds := behind.kept (by simp)
        exact ⟨line, choice, rfl, rfl, empty,
          Finset.mem_sdiff.mpr ⟨stays, k.descriptor_fresh choice⟩, beyond⟩

/-- Persistent NAT-PMP on a host whose LAN address comes late: the first `bind`
fails, the second attempt succeeds, and a client asks before the end. -/
def lateArgs : List CString := [cstr "--persistent", cstr "--nat-pmp-ext", cstr "0", cstr "--nat-pmp", cstr "1"]

def lateLife : Life where
  netlink := some 3
  first := { natPmp := { socket := some 4, bind := -1 } }
  retries := [{ natPmp := { socket := some 5 }, shared := { socket := some 6, ephemeral := 40000 } }]
  turns := [{ ready := [5], recv := some { src := ⟨192, 168, 1, 7⟩, srcPort := 6000, payload := [0, 0] } }]

def lateEnd : Proxy :=
  match main {} lateArgs {} lateLife with
  | .returned _ p => p
  | .stopped => {}

theorem late_descriptors_at_exit :
    ∃ line choice, cmdLineParse {} lateArgs = .done line ∧ lateLife.netlink = some choice ∧
      lateEnd.ctx.sockets = [] ∧ ({} : Kernel).descriptor choice ∈ lateEnd.kernel.fds \ ({} : Kernel).fds ∧
      Beyond {} lateEnd.kernel.fds
        (1 + abandonedIn littleHost line.toConfig (lateLife.first :: lateLife.retries)) :=
  descriptors_at_exit {} lateArgs {} lateLife rfl

/-- The netlink socket and the socket of the failed `bind` are never closed. -/
example : lateEnd.kernel.fds = {0, 1, 2, 3, 4} := by decide +kernel

end Portproxy.Lifecycle
