import Portproxy.Startup

/-! What start-up does to the descriptors of the process. An attempt makes the
calls of its plan until one fails; what it opens and what it abandons on the
way is read off the calls made. -/
namespace Portproxy.StartupDescriptors
open Fallible StepMachine

/-! ## The calls of one attempt -/

/-- A call of `sockets_bind` to a function that may open a descriptor or fail,
with the answers it gets. -/
inductive Call where
  | sockAdd (addr : InAddr) (proto : IpProto) (thisifaceonly reuse : Int) (a : SockAnswers)
  | mcastJoin (a : JoinAnswers)
  | ip6Get (wan : CString) (a : NetlinkAnswers)
  | sock6Add (a : Sock6Answers)

namespace Call

/-- `sock_add` passes every check up to `bind`. -/
def binds (thisifaceonly reuse : Int) (a : SockAnswers) : Prop :=
  a.getaddrinfo = 0 ∧ a.socket.isSome ∧ 0 ≤ a.pktinfo ∧ (thisifaceonly ≠ 0 → 0 ≤ a.bindToDevice) ∧
    (reuse ≠ 0 → 0 ≤ a.reuseAddr) ∧ 0 ≤ a.bind

instance : Decidable (binds thisifaceonly reuse a) := inferInstanceAs (Decidable (_ ∧ _))

def succeeds (host : Host) : Call → Bool
  | sockAdd addr proto thisifaceonly reuse a =>
    binds thisifaceonly reuse a ∧ (proto = .tcp → 0 ≤ a.fcntl) ∧
      (looksMulticast host addr → a.groupInfo = 0 ∧ a.membership = 0)
  | mcastJoin a => 0 ≤ a.membership ∧ 0 ≤ a.reuseAddr
  | ip6Get wan a =>
    a.socket.isSome && a.dump.any fun dump => (ifaceIp6Loop host wan dump.2 dump.1 none).isSome
  | sock6Add a => a.socket.isSome ∧ 0 ≤ a.bind ∧ 0 ≤ a.connect

/-- The call exits the process or never comes back. -/
def stops : Call → Bool
  | sockAdd _ proto thisifaceonly reuse a => binds thisifaceonly reuse a ∧ proto = .tcp ∧ a.fcntl < 0
  | ip6Get _ a => a.socket.isNone || a.dump.isNone
  | mcastJoin _ | sock6Add _ => false

/-- The call opens a descriptor that it neither closes nor hands over:
`sock_add` by failing once it has its socket, `iface_ip6_get` whenever it
comes back. -/
def abandons (host : Host) : Call → Bool
  | call@(sockAdd _ _ _ _ a) => a.getaddrinfo = 0 ∧ a.socket.isSome ∧ call.succeeds host = false
  | ip6Get _ _ => true
  | mcastJoin _ | sock6Add _ => false

theorem stops_fails {call : Call} (stopped : call.stops = true) : call.succeeds host = false := by
  cases call with
  | sockAdd =>
    simp only [stops, decide_eq_true_eq] at stopped
    simp only [succeeds, decide_eq_false_iff_not, not_and]
    intro _ passed
    exact absurd (passed stopped.2.1) (by omega)
  | mcastJoin => cases stopped
  | ip6Get wan a =>
    simp only [stops, Bool.or_eq_true, Option.isNone_iff_eq_none] at stopped
    rcases stopped with none | none <;> simp [succeeds, none]
  | sock6Add => cases stopped

end Call

def upnpUdpCalls (a : BindAnswers) : List Call :=
  [.sockAdd anyaddr .udp 1 1 a.ssdpLan, .mcastJoin a.ssdpLanJoin,
    .sockAdd anyaddr .udp 1 1 a.ssdpWan, .mcastJoin a.ssdpWanJoin]

def natPmpExtCalls (a : BindAnswers) (cfg : Config) : List Call :=
  [.sockAdd cfg.lanIP .udp 0 0 a.extLan] ++
    ((if cfg.wanIPv6 = in6addrAny then [.ip6Get cfg.wan a.netlink] else []) ++ [.sock6Add a.ext6])

def natPmpCalls (a : BindAnswers) (cfg : Config) : List Call :=
  [.sockAdd cfg.lanIP .udp 0 0 a.natPmp]

def upnpTcpCalls (a : BindAnswers) (cfg : Config) : List Call :=
  [.sockAdd cfg.lanIP .tcp 0 0 a.upnpTcp1, .sockAdd cfg.lanIP .tcp 0 0 a.upnpTcp2]

def sharedCalls (a : BindAnswers) (cfg : Config) : List Call :=
  [.sockAdd cfg.wanIP .udp 0 0 a.shared]

/-- The calls of `sockets_bind`, in order, as long as each succeeds. -/
def plan (a : BindAnswers) (cfg : Config) : List Call :=
  (if cfg.enableUpnpUdp ≠ 0 then upnpUdpCalls a else []) ++
    ((if cfg.enableNatPmpExt ≠ 0 then natPmpExtCalls a cfg else []) ++
      ((if cfg.enableNatPmp ≠ 0 then natPmpCalls a cfg else []) ++
        ((if cfg.enableUpnpTcp ≠ 0 then upnpTcpCalls a cfg else []) ++
          (if cfg.sharesSocket then sharedCalls a cfg else []))))

/-! ## What calls do to the descriptors -/

/-- `q` came from `p` by recording the descriptors `new` and abandoning `lost`;
all of them are new to the process and differ. -/
structure Grown (new lost : List Int) (p q : Proxy) : Prop where
  config : q.ctx.toConfig = p.ctx.toConfig
  mappings : q.ctx.mappings = p.ctx.mappings
  recorded : q.ctx.fds = new ++ p.ctx.fds
  distinct : (new ++ lost).Nodup
  fresh : ∀ fd ∈ new ++ lost, fd ∉ p.kernel.fds
  opened : ∀ fd, fd ∈ q.kernel.fds ↔ fd ∈ new ++ lost ∨ fd ∈ p.kernel.fds

theorem Grown.refl (p : Proxy) : Grown [] [] p p := by
  constructor <;> simp

theorem Grown.trans (first : Grown new lost p q) (second : Grown newer lostLater q r) :
    Grown (newer ++ new) (lostLater ++ lost) p r where
  config := second.config.trans first.config
  mappings := second.mappings.trans first.mappings
  recorded := by rw [second.recorded, first.recorded, List.append_assoc]
  distinct := by
    have apart : ∀ fd ∈ newer ++ lostLater, fd ∉ new ++ lost := fun fd later earlier =>
      second.fresh fd later ((first.opened fd).mpr (.inl earlier))
    have both : ((newer ++ lostLater) ++ (new ++ lost)).Nodup :=
      List.nodup_append.mpr ⟨second.distinct, first.distinct, fun a later b earlier same =>
        apart a later (same ▸ earlier)⟩
    refine (List.Perm.nodup_iff ?_).mp both
    simp only [List.append_assoc]
    exact List.Perm.append_left _ (by
      rw [← List.append_assoc, ← List.append_assoc]
      exact List.Perm.append_right _ List.perm_append_comm)
  fresh := by
    intro fd member
    have either : fd ∈ newer ++ lostLater ∨ fd ∈ new ++ lost := by
      simp only [List.mem_append] at member ⊢
      tauto
    rcases either with later | earlier
    · exact fun held => second.fresh fd later ((first.opened fd).mpr (.inr held))
    · exact first.fresh fd earlier
  opened := by
    intro fd
    rw [second.opened, first.opened]
    simp only [List.mem_append]
    tauto

/-- What a list of calls leaves: all they opened, as many of it abandoned as
there are calls that abandon. -/
def descriptors (host : Host) : Effects Proxy Call where
  Effect calls p q := ∃ new lost, Grown new lost p q ∧ lost.length = calls.countP (·.abandons host)
  none p := ⟨[], [], .refl p, rfl⟩
  append := by
    rintro first second p q r ⟨new, lost, grown, count⟩ ⟨newer, lostLater, grownOn, countOn⟩
    refine ⟨_, _, grown.trans grownOn, ?_⟩
    rw [List.length_append, List.countP_append, count, countOn, Nat.add_comm]

/-! ## Each call -/

variable {host : Host} {p q : Proxy} {k k' : Kernel}

/-- All that `sock_add` can do, by what its call counts as. -/
inductive SockAdds (host : Host) (addr : InAddr) (port : Int) (proto : IpProto) (only reuse : Int)
    (a : SockAnswers) (k : Kernel) : Result Kernel Int → Prop where
  | refused (fails : (Call.sockAdd addr proto only reuse a).succeeds host = false)
      (alive : (Call.sockAdd addr proto only reuse a).stops = false)
      (unopened : (Call.sockAdd addr proto only reuse a).abandons host = false) :
      SockAdds host addr port proto only reuse a k (.failed code k)
  | abandoned (fails : (Call.sockAdd addr proto only reuse a).succeeds host = false)
      (alive : (Call.sockAdd addr proto only reuse a).stops = false)
      (lost : (Call.sockAdd addr proto only reuse a).abandons host = true)
      (fresh : fd ∉ k.fds) (opened : after.fds = insert fd k.fds) :
      SockAdds host addr port proto only reuse a k (.failed code after)
  | exited (stops : (Call.sockAdd addr proto only reuse a).stops = true) :
      SockAdds host addr port proto only reuse a k .stopped
  | added (succeeds : (Call.sockAdd addr proto only reuse a).succeeds host = true) (fresh : fd ∉ k.fds)
      (device : Option CString) :
      SockAdds host addr port proto only reuse a k (.done fd
        ((k.opens fd).binds fd { addr, port := boundPort port a.ephemeral, device }))

section SockAdd
variable {addr : InAddr} {proto : IpProto} {only reuse : Int} {a : SockAnswers}

private theorem sock_add_unopened (shut : ¬ (a.getaddrinfo = 0 ∧ a.socket.isSome)) :
    ∃ code, sockAdd host ifname addr port proto only reuse a k = .failed code k := by
  by_cases resolved : a.getaddrinfo = 0
  · have none : a.socket = none := Option.not_isSome_iff_eq_none.mp fun opened => shut ⟨resolved, opened⟩
    rw [sockAdd, if_neg (not_not.mpr resolved), none]
    exact ⟨_, rfl⟩
  · rw [sockAdd, if_pos resolved]
    exact ⟨_, rfl⟩

private theorem sock_add_unbound (resolved : a.getaddrinfo = 0) (opened : a.socket = some choice)
    (unbound : ¬ Call.binds only reuse a) :
    ∃ code, sockAdd host ifname addr port proto only reuse a k =
      .failed code (k.opens (k.descriptor choice)) := by
  rw [sockAdd, if_neg (not_not.mpr resolved), opened]
  dsimp only
  by_cases pktinfo : a.pktinfo < 0
  · exact ⟨_, if_pos pktinfo⟩
  rw [if_neg pktinfo]
  by_cases device : only ≠ 0 ∧ a.bindToDevice < 0
  · exact ⟨_, if_pos device⟩
  rw [if_neg device]
  by_cases reused : reuse ≠ 0 ∧ a.reuseAddr < 0
  · exact ⟨_, if_pos reused⟩
  rw [if_neg reused]
  by_cases bound : a.bind < 0
  · exact ⟨_, if_pos bound⟩
  refine absurd ⟨resolved, Option.isSome_of_eq_some opened, ?_⟩ unbound
  omega

private theorem sock_add_bound (opened : a.socket = some choice) (bound : Call.binds only reuse a) :
    SockAdds host addr port proto only reuse a k
      (sockAdd host ifname addr port proto only reuse a k) := by
  have fresh := k.descriptor_fresh choice
  have counts : (Call.sockAdd addr proto only reuse a).abandons host =
      !(Call.sockAdd addr proto only reuse a).succeeds host := by
    simp [Call.abandons, bound.1, opened]
  obtain ⟨resolved, -, pktinfo, device, reused, bind⟩ := id bound
  rw [sockAdd, if_neg (not_not.mpr resolved), opened]
  dsimp only
  rw [if_neg (by omega), if_neg (by omega), if_neg (by omega), if_neg (by omega)]
  generalize (if only ≠ 0 then some ifname else none : Option CString) = name
  split_ifs with exits info membership
  · exact .exited (by simp [Call.stops, bound, exits])
  · have fails : (Call.sockAdd addr proto only reuse a).succeeds host = false := by
      simp [Call.succeeds, info.1, info.2]
    exact .abandoned fails (by simp [Call.stops, exits]) (by simp [counts, fails]) fresh rfl
  · have fails : (Call.sockAdd addr proto only reuse a).succeeds host = false := by
      simp [Call.succeeds, membership.1, membership.2]
    exact .abandoned fails (by simp [Call.stops, exits]) (by simp [counts, fails]) fresh rfl
  · refine .added ?_ fresh _
    simp only [Call.succeeds, decide_eq_true_eq]
    refine ⟨bound, ?_, ?_⟩
    · exact fun tcp => not_lt.mp fun failed => exits ⟨tcp, failed⟩
    · intro multicast
      exact ⟨not_not.mp fun bad => info ⟨multicast, bad⟩,
        not_not.mp fun bad => membership ⟨multicast, bad⟩⟩

theorem sock_add_outcome (host : Host) (ifname : CString) (addr : InAddr) (port : Int) (proto : IpProto)
    (only reuse : Int) (a : SockAnswers) (k : Kernel) :
    SockAdds host addr port proto only reuse a k
      (sockAdd host ifname addr port proto only reuse a k) := by
  by_cases opens : a.getaddrinfo = 0 ∧ a.socket.isSome
  · obtain ⟨choice, opened⟩ := Option.isSome_iff_exists.mp opens.2
    by_cases bound : Call.binds only reuse a
    · exact sock_add_bound opened bound
    · obtain ⟨code, failed⟩ := sock_add_unbound opens.1 opened bound
      rw [failed]
      refine .abandoned ?_ ?_ ?_ (k.descriptor_fresh choice) rfl
      · simp [Call.succeeds, bound]
      · simp [Call.stops, bound]
      · simp [Call.abandons, Call.succeeds, bound, opens]
  · have unbound : ¬ Call.binds only reuse a := fun bound => opens ⟨bound.1, bound.2.1⟩
    obtain ⟨code, failed⟩ := sock_add_unopened opens
    rw [failed]
    refine .refused ?_ ?_ ?_
    · simp [Call.succeeds, unbound]
    · simp [Call.stops, unbound]
    · rw [Call.abandons, decide_eq_false_iff_not]
      exact fun counts => opens ⟨counts.1, counts.2.1⟩

end SockAdd

theorem sock_add_done (ran : sockAdd host ifname addr port proto only reuse a k = .done fd k') :
    (Call.sockAdd addr proto only reuse a).succeeds host = true ∧ fd ∉ k.fds ∧
      ∃ device, k' = (k.opens fd).binds fd { addr, port := boundPort port a.ephemeral, device } := by
  have outcome := sock_add_outcome host ifname addr port proto only reuse a k
  rw [ran] at outcome
  cases outcome with
  | added succeeds fresh device => exact ⟨succeeds, fresh, device, rfl⟩

/-- The program follows a plan of calls that only the configuration decides. -/
abbrev Makes (host : Host) (program : Program Proxy α) (plan : Config → List Call) : Prop :=
  Follows (descriptors host) (Call.succeeds host) Call.stops program fun p => plan p.ctx.toConfig

theorem socket_add_makes :
    Makes host (socketAdd host ifname addr port proto only reuse a)
      fun _ => [.sockAdd addr proto only reuse a] where
  done {p fd q} ran := by
    obtain ⟨k, added, rfl⟩ := socket_add_done ran
    obtain ⟨succeeded, fresh, device, rfl⟩ := sock_add_done added
    refine ⟨by simpa using succeeded, [fd], [], ?_, by simp [Call.abandons, succeeded]⟩
    constructor <;> simp [Context.fds, socketAdd2, fresh]
  failed {p code q} ran := by
    obtain ⟨reason, k, failed, rfl⟩ := socket_add_failed ran
    have outcome := sock_add_outcome host ifname addr port proto only reuse a p.kernel
    rw [failed] at outcome
    cases outcome with
    | refused fails alive unopened =>
      exact ⟨by simp [fails], by simp [made, fails, alive],
        [], [], .refl p, by simp [made, fails, unopened]⟩
    | @abandoned fd _ _ fails alive lost fresh opened =>
      refine ⟨by simp [fails], by simp [made, fails, alive], [], [fd], ?_, by simp [made, fails, lost]⟩
      constructor <;> simp [Context.fds, fresh, opened]
  stopped {p} ran := by
    have outcome := sock_add_outcome host ifname addr port proto only reuse a p.kernel
    rw [socket_add_stopped ran] at outcome
    cases outcome with
    | exited stops => exact ⟨_, by simp [made], stops, Call.stops_fails stops⟩

theorem mcast_join_makes : Makes host (socketMcastJoin a) fun _ => [.mcastJoin a] where
  done ran := by
    obtain ⟨membership, reuse, rfl⟩ := mcast_join_done ran
    exact ⟨by simp [Call.succeeds, membership, reuse], [], [], .refl _, by simp [Call.abandons]⟩
  failed {p code q} ran := by
    obtain ⟨refused, rfl⟩ := mcast_join_failed ran
    have failed : (Call.mcastJoin a).succeeds host = false := by
      simp only [Call.succeeds, decide_eq_false_iff_not]
      omega
    exact ⟨by simp [failed], by simp [made, failed, Call.stops],
      [], [], .refl _, by simp [made, failed, Call.abandons]⟩
  stopped ran := absurd ran mcast_join_returns

theorem ip6_get_makes : Makes host (ifaceIp6Get host a) fun cfg => [.ip6Get cfg.wan a] where
  done {p addr q} ran := by
    obtain ⟨choice, linfo, ainfo, opened, dumped, found, rfl⟩ := ip6_get_done ran
    refine ⟨by simp [Call.succeeds, opened, dumped, found], [], [p.kernel.descriptor choice], ?_,
      by simp [Call.abandons]⟩
    constructor <;> simp [Context.fds, Kernel.descriptor_fresh]
  failed {p code q} ran := by
    obtain ⟨choice, linfo, ainfo, opened, dumped, missing, rfl⟩ := ip6_get_failed ran
    have failed : (Call.ip6Get p.ctx.wan a).succeeds host = false := by
      simp [Call.succeeds, opened, dumped, missing]
    refine ⟨by simp [failed], by simp [made, failed, Call.stops, opened, dumped], ?_⟩
    simp only [made, failed, Bool.false_eq_true, ↓reduceIte]
    refine ⟨[], [p.kernel.descriptor choice], ?_, by simp [Call.abandons]⟩
    constructor <;> simp [Context.fds, Kernel.descriptor_fresh]
  stopped {p} ran := by
    have stopped : (Call.ip6Get p.ctx.wan a).stops = true := by
      rcases ip6_get_stopped ran with none | none <;> simp [Call.stops, none]
    exact ⟨_, by simp [made], stopped, Call.stops_fails stopped⟩

theorem sock6_add_makes : Makes host (socket6Add addr a) fun _ => [.sock6Add a] where
  done {p fd q} ran := by
    obtain ⟨opened, bound, connected, fresh, rfl⟩ := socket6_add_done ran
    refine ⟨by simp [Call.succeeds, opened, bound, connected], [fd], [], ?_, by simp [Call.abandons]⟩
    constructor <;> simp [Context.fds, socketAdd2, fresh]
  failed {p code q} ran := by
    rcases socket6_add_failed ran with ⟨none, rfl⟩ | ⟨refused, fd, k, fresh, opened, rfl⟩
    · have failed : (Call.sock6Add a).succeeds host = false := by simp [Call.succeeds, none]
      exact ⟨by simp [failed], by simp [made, failed, Call.stops],
        [], [], .refl q, by simp [made, failed, Call.abandons]⟩
    · have failed : (Call.sock6Add a).succeeds host = false := by
        simp only [Call.succeeds, decide_eq_false_iff_not]
        omega
      -- the socket is on the list before `bind` and `connect`, so it is not lost
      refine ⟨by simp [failed], by simp [made, failed, Call.stops],
        [fd], [], ?_, by simp [made, failed, Call.abandons]⟩
      constructor <;> simp [Context.fds, socketAdd2, fresh, opened]
  stopped ran := absurd ran socket6_add_returns

/-! ## One attempt follows its plan -/

theorem configured_makes {add : Config → Program Proxy Int} {calls : Config → List Call}
    (makes : ∀ cfg, Makes host (add cfg) fun _ => calls cfg) :
    Makes host (configured add) calls where
  done {p _ _} ran := (makes p.ctx.toConfig).done ran
  failed {p _ _} ran := (makes p.ctx.toConfig).failed ran
  stopped {p} ran := (makes p.ctx.toConfig).stopped ran

private theorem effect_config {calls : List Call} (effect : (descriptors host).Effect calls p q) :
    q.ctx.toConfig = p.ctx.toConfig := by
  obtain ⟨_, _, grown, _⟩ := effect
  exact grown.config

/-- Setting other fields of the context moves no descriptor. -/
private theorem update_silent {change : Context → Context}
    (config : ∀ ctx, (change ctx).toConfig = ctx.toConfig)
    (mappings : ∀ ctx, (change ctx).mappings = ctx.mappings)
    (sockets : ∀ ctx, (change ctx).fds = ctx.fds) (p : Proxy) :
    (descriptors host).Effect [] p (updateCtx change p) := by
  refine ⟨[], [], ?_, rfl⟩
  constructor <;> simp [updateCtx, config, mappings, sockets]

theorem set_peer_fds (fd peer : Int) (sockets : List Socket) :
    (setPeer fd peer sockets).map Socket.fd = sockets.map Socket.fd := by
  induction sockets with
  | nil => rfl
  | cons s rest ih =>
    by_cases here : s.fd = fd <;> simp [setPeer, here, ih]

private theorem then_makes {first : Program Proxy α} {next : α → Program Proxy β}
    (plan later : Config → List Call) (begins : Makes host first plan)
    (ends : ∀ value, Makes host (next value) later) :
    Makes host (first >>= next) fun cfg => plan cfg ++ later cfg :=
  begins.bind ends (fun effect => by rw [effect_config effect]) fun _ => Call.stops_fails

theorem upnp_udp_makes : Makes host (bindUpnpUdp host a) fun _ => upnpUdpCalls a := by
  unfold bindUpnpUdp upnpUdpCalls
  refine then_makes (fun _ => [_]) (fun _ => [_, _, _])
    (configured_makes fun cfg => socket_add_makes) fun lanSock => ?_
  refine then_makes (fun _ => [_]) (fun _ => [_, _]) mcast_join_makes fun _ => ?_
  refine then_makes (fun _ => []) (fun _ => [_, _])
    (.modify (update_silent (fun _ => rfl) (fun _ => rfl) fun _ => rfl)) fun _ => ?_
  refine then_makes (fun _ => [_]) (fun _ => [_])
    (configured_makes fun cfg => socket_add_makes) fun wanSock => ?_
  refine then_makes (fun _ => [_]) (fun _ => []) mcast_join_makes fun _ => ?_
  exact .modify (update_silent (fun _ => rfl) (fun _ => rfl) fun ctx => by
    simp [Context.fds, set_peer_fds])

theorem nat_pmp_ext_makes : Makes host (bindNatPmpExt host a) (natPmpExtCalls a) := by
  unfold bindNatPmpExt natPmpExtCalls
  refine then_makes _ _ (configured_makes fun cfg => socket_add_makes) fun lanSock => ?_
  refine then_makes (fun _ => []) _
    (.modify (update_silent (fun _ => rfl) (fun _ => rfl) fun _ => rfl)) fun _ => ?_
  refine then_makes _ _ ?_ fun bindme => ?_
  · exact .cond ip6_get_makes (then_makes (fun _ => []) (fun _ => []) .get fun p => .ret _)
  · refine then_makes (fun _ => [_]) (fun _ => []) (sock6_add_makes.keeping fun _ => ?_) fun _ => .ret _
    exact update_silent (fun _ => rfl) (fun _ => rfl) fun _ => rfl

theorem nat_pmp_makes : Makes host (bindNatPmp host a) (natPmpCalls a) := by
  unfold bindNatPmp
  exact then_makes (natPmpCalls a) (fun _ => [])
    (configured_makes fun cfg => socket_add_makes) fun _ => .ret _

theorem upnp_tcp_makes : Makes host (bindUpnpTcp host a) (upnpTcpCalls a) := by
  unfold bindUpnpTcp upnpTcpCalls
  refine then_makes (fun cfg => [_]) (fun cfg => [_])
    (configured_makes fun cfg => socket_add_makes) fun _ => ?_
  exact then_makes _ (fun _ => []) (configured_makes fun cfg => socket_add_makes) fun _ => .ret _

theorem shared_makes : Makes host (bindShared host a) (sharedCalls a) := by
  unfold bindShared
  refine then_makes (sharedCalls a) (fun _ => [])
    ((configured_makes fun cfg => socket_add_makes).keeping fun _ => ?_) fun _ => .ret _
  exact update_silent (fun _ => rfl) (fun _ => rfl) fun _ => rfl

/-- An attempt makes the calls of its plan until one fails. -/
theorem sockets_bind_makes : Makes host (socketsBind host a) (plan a) := by
  unfold socketsBind plan
  refine then_makes _ _ (.when upnp_udp_makes) fun _ => ?_
  refine then_makes _ _ (.when nat_pmp_ext_makes) fun _ => ?_
  refine then_makes _ _ (.when nat_pmp_makes) fun _ => ?_
  refine then_makes _ _ (.when upnp_tcp_makes) fun _ => ?_
  exact .when shared_makes

/-! ## Cleaning up -/

private theorem sockets_close_loop (enough : p.ctx.sockets.length ≤ fuel) :
    (socketsCloseLoop fuel p).ctx.sockets = [] ∧
      (socketsCloseLoop fuel p).ctx.mappings = p.ctx.mappings ∧
      (socketsCloseLoop fuel p).ctx.settings = p.ctx.settings ∧
      ∀ fd, fd ∈ (socketsCloseLoop fuel p).kernel.fds ↔ fd ∈ p.kernel.fds ∧ fd ∉ p.ctx.fds := by
  induction fuel generalizing p with
  | zero =>
    have none : p.ctx.sockets = [] := List.length_eq_zero_iff.mp (Nat.le_zero.mp enough)
    simp [socketsCloseLoop, none, Context.fds]
  | succ fuel ih =>
    unfold socketsCloseLoop
    cases listed : p.ctx.sockets with
    | nil => simp [listed, Context.fds]
    | cons s rest =>
      have deleted : (socketDel p s.fd).proxy =
          { ctx := { p.ctx with sockets := rest }, kernel := p.kernel.sockDel s.fd } := by
        simp [socketDel, unlinkSocket, listed]
      have shorter : rest.length ≤ fuel := by simpa [listed] using enough
      obtain ⟨empty, mappings, settings, opened⟩ := ih (p := (socketDel p s.fd).proxy)
        (by rwa [deleted])
      refine ⟨empty, mappings.trans (by rw [deleted]), settings.trans (by rw [deleted]; rfl), ?_⟩
      intro fd
      rw [opened, deleted]
      simp only [Context.fds, listed, Kernel.sockDel_fds, Finset.mem_erase, List.map_cons, List.mem_cons]
      tauto

/-- `sockets_close` closes exactly what `ctx->sockets` records. -/
theorem sockets_close_closes (p : Proxy) :
    (socketsClose p).ctx.sockets = [] ∧ (socketsClose p).ctx.mappings = p.ctx.mappings ∧
      (socketsClose p).ctx.settings = p.ctx.settings ∧
      ∀ fd, fd ∈ (socketsClose p).kernel.fds ↔ fd ∈ p.kernel.fds ∧ fd ∉ p.ctx.fds :=
  sockets_close_loop (Nat.le_refl _)

/-! ## Retries -/

/-- What an attempt of the retry loop has to leave: nothing recorded and the
same descriptors open after a failure, and after a success every new
descriptor recorded, once. -/
def Clean : Start → Start → Prop
  | .trying p, .trying q => q.ctx.sockets = [] ∧ q.kernel.fds = p.kernel.fds
  | .trying p, .running q =>
    q.ctx.fds.Nodup ∧ p.kernel.fds ⊆ q.kernel.fds ∧ q.kernel.fds \ p.kernel.fds = q.ctx.fds.toFinset
  | _, _ => True

/-- No call that the attempt makes abandons a descriptor, unless the attempt
stops the process. -/
def NothingAbandoned (host : Host) : Start → BindAnswers → Prop
  | .trying p, a =>
    (∃ call ∈ made (Call.succeeds host) (plan a p.ctx.toConfig), call.stops = true) ∨
      ∀ call ∈ made (Call.succeeds host) (plan a p.ctx.toConfig), call.abandons host = false
  | _, _ => True

/-- Before every attempt of a persistent start the socket list is empty. -/
def Retrying : Start → Prop
  | .trying p => p.ctx.sockets = [] ∧ p.ctx.persistent ≠ 0
  | _ => True

theorem attempt_done (ran : socketsBind host a p = .done () q) :
    startAttempt host (.trying p) a = .running q := by
  simp [startAttempt, ran]

theorem attempt_failed (persistent : p.ctx.persistent ≠ 0) (ran : socketsBind host a p = .failed code q) :
    startAttempt host (.trying p) a = .trying (socketsClose q) := by
  simp [startAttempt, ran, persistent]

theorem attempt_stopped (ran : socketsBind host a p = .stopped) :
    startAttempt host (.trying p) a = .stopped := by
  simp [startAttempt, ran]

theorem attempt_retrying (retrying : Retrying s) : Retrying (startAttempt host s a) := by
  cases s with
  | trying p =>
    cases ran : socketsBind host a p with
    | done value q => rw [attempt_done ran]; trivial
    | failed code q =>
      obtain ⟨-, -, _, _, grown, -⟩ := sockets_bind_makes.failed ran
      obtain ⟨empty, -, settings, -⟩ := sockets_close_closes q
      obtain ⟨config, -⟩ := Context.of_settings settings
      rw [attempt_failed retrying.2 ran]
      exact ⟨empty, by rw [config, grown.config]; exact retrying.2⟩
    | stopped => rw [attempt_stopped ran]; trivial
  | running | stopped => trivial

private theorem none_lost {calls : List Call} (count : lost.length = calls.countP (·.abandons host)) :
    lost = ([] : List Int) ↔ ∀ call ∈ calls, call.abandons host = false := by
  rw [← List.length_eq_zero_iff, count, List.countP_eq_zero]
  simp

/-- A lost descriptor is new to the process and not recorded. -/
theorem Grown.lost_unrecorded (grown : Grown new lost p q) (member : fd ∈ lost) :
    fd ∈ q.kernel.fds ∧ fd ∉ p.kernel.fds ∧ fd ∉ new := by
  have either : fd ∈ new ++ lost := List.mem_append_right _ member
  exact ⟨(grown.opened fd).mpr (.inl either), grown.fresh fd either,
    fun listed => (List.nodup_append.mp grown.distinct).2.2 fd listed fd member rfl⟩

/-- The new descriptors are the recorded ones exactly if none is lost. -/
theorem Grown.recorded_iff (grown : Grown new lost p q) (recorded : q.ctx.fds = new) :
    (q.ctx.fds.Nodup ∧ p.kernel.fds ⊆ q.kernel.fds ∧ q.kernel.fds \ p.kernel.fds = q.ctx.fds.toFinset) ↔
      lost = [] := by
  constructor
  · rintro ⟨-, -, same⟩
    refine List.eq_nil_iff_forall_not_mem.mpr fun fd member => ?_
    obtain ⟨opened, fresh, unrecorded⟩ := grown.lost_unrecorded member
    have listed : fd ∈ q.kernel.fds \ p.kernel.fds := Finset.mem_sdiff.mpr ⟨opened, fresh⟩
    rw [same, recorded, List.mem_toFinset] at listed
    exact unrecorded listed
  · rintro rfl
    have fresh := grown.fresh
    have opened := grown.opened
    simp only [List.append_nil] at fresh opened
    refine ⟨by rw [recorded]; simpa using grown.distinct, ?_, ?_⟩
    · exact fun fd held => (opened fd).mpr (.inr held)
    · ext fd
      rw [Finset.mem_sdiff, opened, recorded, List.mem_toFinset]
      constructor
      · rintro ⟨either | held, notHeld⟩
        · exact either
        · exact absurd held notHeld
      · exact fun member => ⟨.inl member, fresh fd member⟩

/-- Closing the recorded descriptors closes all new ones exactly if none is lost. -/
theorem Grown.closed_iff (grown : Grown new lost p q) (recorded : q.ctx.fds = new) :
    (socketsClose q).kernel.fds = p.kernel.fds ↔ lost = [] := by
  obtain ⟨-, -, -, closed⟩ := sockets_close_closes q
  constructor
  · intro same
    refine List.eq_nil_iff_forall_not_mem.mpr fun fd member => ?_
    obtain ⟨opened, fresh, unrecorded⟩ := grown.lost_unrecorded member
    have kept : fd ∈ (socketsClose q).kernel.fds := (closed fd).mpr ⟨opened, recorded ▸ unrecorded⟩
    rw [same] at kept
    exact fresh kept
  · rintro rfl
    ext fd
    have fresh := grown.fresh fd
    simp only [List.append_nil] at fresh
    rw [closed, grown.opened, recorded, List.append_nil]
    constructor
    · rintro ⟨either | held, notNew⟩
      · exact absurd either notNew
      · exact held
    · exact fun held => ⟨.inr held, fun listed => fresh listed held⟩

theorem attempt_clean_iff (retrying : Retrying s) :
    Clean s (startAttempt host s a) ↔ NothingAbandoned host s a := by
  cases s with
  | trying p =>
    change _ ↔ (∃ call ∈ made (Call.succeeds host) (plan a p.ctx.toConfig), call.stops = true) ∨
      ∀ call ∈ made (Call.succeeds host) (plan a p.ctx.toConfig), call.abandons host = false
    cases ran : socketsBind host a p with
    | done value q =>
      obtain ⟨all, new, lost, grown, count⟩ := sockets_bind_makes.done ran
      have alive : ¬ ∃ call ∈ plan a p.ctx.toConfig, call.stops = true := by
        rintro ⟨call, member, stopped⟩
        simpa [Call.stops_fails stopped] using all call member
      have recorded : q.ctx.fds = new := by
        simpa [Context.fds, retrying.1] using grown.recorded
      rw [attempt_done ran, made_of_all all, or_iff_right alive, ← none_lost count]
      exact grown.recorded_iff recorded
    | failed code q =>
      obtain ⟨-, alive, new, lost, grown, count⟩ := sockets_bind_makes.failed ran
      have notStopped : ¬ ∃ call ∈ made (Call.succeeds host) (plan a p.ctx.toConfig),
          call.stops = true := by
        rintro ⟨call, member, stopped⟩
        simp [alive call member] at stopped
      have recorded : q.ctx.fds = new := by
        simpa [Context.fds, retrying.1] using grown.recorded
      obtain ⟨empty, -⟩ := sockets_close_closes q
      rw [attempt_failed retrying.2 ran, or_iff_right notStopped, ← none_lost count]
      exact (and_iff_right empty).trans (grown.closed_iff recorded)
    | stopped =>
      obtain ⟨call, member, stopped, -⟩ := sockets_bind_makes.stopped ran
      rw [attempt_stopped ran]
      exact iff_of_true trivial (.inl ⟨call, member, stopped⟩)
  | running | stopped => exact Iff.rfl

/-- A persistent start leaks no descriptor, whatever fails how often, exactly
when no call of any attempt abandons one. -/
theorem startup_clean_iff_nothing_abandoned (host : Host) (p : Proxy)
    (persistent : p.ctx.persistent ≠ 0) (empty : p.ctx.sockets = []) (attempts : List BindAnswers) :
    (start host).Along (fun s a => Clean s (startAttempt host s a)) (.trying p) attempts ↔
      (start host).Along (NothingAbandoned host) (.trying p) attempts := by
  have retrying : Retrying (.trying p) := ⟨empty, persistent⟩
  exact (start host).along_iff_of_invariant Retrying (fun _ _ retrying => attempt_clean_iff retrying)
    (fun _ _ retrying _ => attempt_retrying retrying) retrying attempts

/-! ## A start before the LAN address is there -/

/-- Persistent NAT-PMP on a host that waits for its LAN address. -/
def waitingForAddress : Proxy :=
  { ctx := { persistent := 1, lanIP := ⟨192, 168, 1, 1⟩, wanIP := ⟨10, 0, 0, 2⟩
             natpmpUdpPort := 5351, sharedUdpSock := 1, enableNatPmp := 1 } }

/-- `bind` fails for want of the address. -/
def addressMissing : BindAnswers := { natPmp := { socket := some 3, bind := -1 } }

def addressThere : BindAnswers :=
  { natPmp := { socket := some 3 }, shared := { socket := some 4, ephemeral := 40000 } }

theorem startup_clean_once_address_is_there :
    (start littleHost).Along (fun s a => Clean s (startAttempt littleHost s a))
      (.trying waitingForAddress) [{ natPmp := { getaddrinfo := -2 } }, addressThere] :=
  (startup_clean_iff_nothing_abandoned littleHost waitingForAddress (by decide) rfl _).mpr
    ⟨.inr (by decide), .inr (by decide), trivial⟩

/-- A failed `bind` leaves its socket open, attempt after attempt. -/
theorem failed_bind_leaks :
    ¬ (start littleHost).Along (fun s a => Clean s (startAttempt littleHost s a))
      (.trying waitingForAddress) [addressMissing] := by
  rintro ⟨⟨-, same⟩, -⟩
  have leaked : 3 ∈ waitingForAddress.kernel.fds := by
    rw [← same]
    decide
  revert leaked
  decide

end Portproxy.StartupDescriptors
