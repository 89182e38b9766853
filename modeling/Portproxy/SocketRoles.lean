import Portproxy.StartupDescriptors

/-! The sockets a successful start leaves, by what they are for: each role the
configuration asks for has one socket, of its kind, on a descriptor of its own
that is bound to the port of the role. -/
namespace Portproxy.SocketRoles
open Fallible StepMachine StartupDescriptors

/-- What `sockets_bind` opens sockets for. -/
inductive Role where
  | ssdpLan
  | ssdpWan
  | extLan
  | extAftr
  | natPmp
  | upnpTcp1
  | upnpTcp2
  | shared
  deriving DecidableEq, Repr

namespace Role

def proto : Role → IpProto
  | upnpTcp1 | upnpTcp2 => .tcp
  | _ => .udp

def kind : Role → SocketType
  | upnpTcp1 | upnpTcp2 => .tcpListening
  | extAftr => .udp6
  | _ => .udp

/-- The port the role asks for; 0 lets the system pick one. -/
def port (cfg : Config) : Role → Int
  | ssdpLan | ssdpWan => cfg.upnpUdpPort
  | extLan | natPmp => cfg.natpmpUdpPort
  | extAftr => if cfg.bindExtNatPmpToNatpmpPort ≠ 0 then cfg.natpmpUdpPort else 0
  | upnpTcp1 => cfg.upnpTcpPort1
  | upnpTcp2 => cfg.upnpTcpPort2
  | shared => 0

end Role

/-- The sockets of `p` are the opened ones, newest first, and nothing has been
added to the mapping list. -/
structure Laid (opened : List (Role × Int)) (p : Proxy) : Prop where
  mappings : p.ctx.mappings = []
  sockets : p.ctx.sockets.map (fun s => (s.fd, s.ipproto, s.state)) =
    opened.map fun entry => (entry.2, entry.1.proto, entry.1.kind)
  distinct : (opened.map Prod.snd).Nodup
  held : ∀ entry ∈ opened, entry.2 ∈ p.kernel.fds
  bound : ∀ entry ∈ opened, ∃ place ephemeral, p.kernel.bound entry.2 = some place ∧
    place.port = boundPort (entry.1.port p.ctx.toConfig) ephemeral

namespace Laid

variable {opened : List (Role × Int)} {p q : Proxy}

theorem fds (laid : Laid opened p) : p.ctx.fds = opened.map Prod.snd := by
  have names := congrArg (List.map Prod.fst) laid.sockets
  simpa [Context.fds, Function.comp_def] using names

theorem role_of (laid : Laid opened p) (member : s ∈ p.ctx.sockets) :
    ∃ role, (role, s.fd) ∈ opened ∧ s.ipproto = role.proto ∧ s.state = role.kind := by
  have listed : (s.fd, s.ipproto, s.state) ∈ opened.map fun entry => (entry.2, entry.1.proto, entry.1.kind) := by
    rw [← laid.sockets]
    exact List.mem_map_of_mem (f := fun s : Socket => (s.fd, s.ipproto, s.state)) member
  obtain ⟨⟨role, fd⟩, held, same⟩ := List.mem_map.mp listed
  simp only [Prod.mk.injEq] at same
  obtain ⟨rfl, proto, kind⟩ := same
  exact ⟨role, held, proto.symm, kind.symm⟩

/-- A descriptor has one role. -/
theorem same_role (laid : Laid opened p) (left : (role, fd) ∈ opened) (right : (other, fd) ∈ opened) :
    role = other :=
  congrArg Prod.fst (List.inj_on_of_nodup_map laid.distinct left right rfl)

/-- A role that asks for a port is bound to it. -/
theorem local_port (laid : Laid opened p) (listed : (role, fd) ∈ opened)
    (asked : uint16 (role.port p.ctx.toConfig) ≠ 0) :
    p.kernel.sockGetPort fd = uint16 (role.port p.ctx.toConfig) := by
  obtain ⟨place, ephemeral, bound, port⟩ := laid.bound (role, fd) listed
  simp only [Kernel.sockGetPort, bound, port, boundPort, asked, ↓reduceIte]

theorem add (laid : Laid opened p) (fresh : fd ∉ p.kernel.fds)
    (port : place.port = boundPort (role.port p.ctx.toConfig) ephemeral) :
    Laid ((role, fd) :: opened)
      { ctx := socketAdd2 p.ctx { fd, ipproto := role.proto, state := role.kind }
        kernel := (p.kernel.opens fd).binds fd place } where
  mappings := laid.mappings
  sockets := by simp [socketAdd2, laid.sockets]
  distinct := by
    refine List.nodup_cons.mpr ⟨?_, laid.distinct⟩
    intro member
    obtain ⟨entry, held, rfl⟩ := List.mem_map.mp member
    exact fresh (laid.held entry held)
  held := by
    intro entry member
    rcases List.mem_cons.mp member with rfl | old
    · simp
    · simp [laid.held entry old]
  bound := by
    intro entry member
    rcases List.mem_cons.mp member with rfl | old
    · exact ⟨place, ephemeral, Kernel.binds_bound_self _, port⟩
    · have other : entry.2 ≠ fd := fun same => fresh (same ▸ laid.held entry old)
      rw [Kernel.binds_bound _ other, Kernel.opens_bound _ other]
      exact laid.bound entry old

/-- The layout does not depend on the other fields of the context. -/
theorem update (laid : Laid opened p) (change : Context → Context)
    (config : (change p.ctx).toConfig = p.ctx.toConfig)
    (mappings : (change p.ctx).mappings = p.ctx.mappings)
    (sockets : (change p.ctx).sockets.map (fun s => (s.fd, s.ipproto, s.state)) =
      p.ctx.sockets.map fun s => (s.fd, s.ipproto, s.state)) :
    Laid opened (updateCtx change p) where
  mappings := mappings.trans laid.mappings
  sockets := sockets.trans laid.sockets
  distinct := laid.distinct
  held := laid.held
  bound := by
    simp only [updateCtx, config]
    exact laid.bound

/-- Nor does it depend on a descriptor that is not recorded. -/
theorem open_other (laid : Laid opened p) (fresh : fd ∉ p.kernel.fds) :
    Laid opened { p with kernel := p.kernel.opens fd } where
  mappings := laid.mappings
  sockets := laid.sockets
  distinct := laid.distinct
  held entry member := by simp [laid.held entry member]
  bound entry member := by
    have other : entry.2 ≠ fd := fun same => fresh (same ▸ laid.held entry member)
    rw [Kernel.opens_bound _ other]
    exact laid.bound entry member

end Laid

/-! ## Each stage of `sockets_bind` -/

variable {host : Host} {opened : List (Role × Int)} {p q : Proxy} {a : BindAnswers}

private theorem socket_add_laid (role : Role) (laid : Laid opened p)
    (kind : listeningType role.proto = role.kind)
    (ran : socketAdd host ifname addr (role.port p.ctx.toConfig) role.proto only reuse answers p = .done fd q) :
    Laid ((role, fd) :: opened) q ∧ q.ctx.settings = p.ctx.settings := by
  obtain ⟨k, added, rfl⟩ := socket_add_done ran
  obtain ⟨-, fresh, device, rfl⟩ := sock_add_done added
  rw [kind]
  exact ⟨laid.add fresh rfl, rfl⟩

private theorem set_peer_kinds (fd peer : Int) (sockets : List Socket) :
    (setPeer fd peer sockets).map (fun s => (s.fd, s.ipproto, s.state)) =
      sockets.map fun s => (s.fd, s.ipproto, s.state) := by
  induction sockets with
  | nil => rfl
  | cons s rest ih => by_cases here : s.fd = fd <;> simp [setPeer, here, ih]

private theorem upnp_udp_laid (laid : Laid opened p) (ran : bindUpnpUdp host a p = .done () q) :
    Laid ((.ssdpWan, q.ctx.wanSsdpSock) :: (.ssdpLan, q.ctx.lanSsdpSock) :: opened) q ∧
      q.ctx.settings = { p.ctx.settings with lanSsdpSock := q.ctx.lanSsdpSock
                                             wanSsdpSock := q.ctx.wanSsdpSock } := by
  obtain ⟨lan, p₁, lanAdded, ran⟩ := Program.bind_done.mp ran
  obtain ⟨_, p₂, lanJoined, ran⟩ := Program.bind_done.mp ran
  obtain ⟨_, p₃, lanSet, ran⟩ := Program.bind_done.mp ran
  obtain ⟨wan, p₄, wanAdded, ran⟩ := Program.bind_done.mp ran
  obtain ⟨_, p₅, wanJoined, wanSet⟩ := Program.bind_done.mp ran
  obtain ⟨laid₁, kept₁⟩ := socket_add_laid .ssdpLan laid rfl lanAdded
  obtain ⟨-, -, rfl⟩ := mcast_join_done lanJoined
  cases lanSet
  have laid₃ := laid₁.update (fun ctx => { ctx with lanSsdpSock := lan }) rfl rfl rfl
  obtain ⟨laid₄, kept₄⟩ := socket_add_laid .ssdpWan laid₃ rfl wanAdded
  obtain ⟨-, -, rfl⟩ := mcast_join_done wanJoined
  cases wanSet
  have fields : p₅.ctx.lanSsdpSock = lan := congrArg Context.lanSsdpSock kept₄
  refine ⟨?_, ?_⟩
  · change Laid ((.ssdpWan, wan) :: (.ssdpLan, p₅.ctx.lanSsdpSock) :: opened) _
    rw [fields]
    exact laid₄.update (fun ctx =>
      { ctx with wanSsdpSock := wan, sockets := setPeer wan lan (setPeer lan wan ctx.sockets) })
      rfl rfl (by simp only [set_peer_kinds])
  · calc { p₅.ctx.settings with wanSsdpSock := wan }
      _ = { p₂.ctx.settings with lanSsdpSock := lan, wanSsdpSock := wan } := by rw [kept₄]; rfl
      _ = { p.ctx.settings with lanSsdpSock := p₅.ctx.lanSsdpSock, wanSsdpSock := wan } := by
        rw [kept₁, fields]

private theorem ip6_get_laid (laid : Laid opened p) (ran : ifaceIp6Get host answers p = .done addr q) :
    Laid opened q ∧ q.ctx = p.ctx := by
  obtain ⟨choice, -, -, -, -, -, rfl⟩ := ip6_get_done ran
  exact ⟨laid.open_other (Kernel.descriptor_fresh _ _), rfl⟩

private theorem socket6_add_laid (laid : Laid opened p) (ran : socket6Add addr answers p = .done fd q) :
    Laid ((.extAftr, fd) :: opened) q ∧ q.ctx.settings = p.ctx.settings := by
  obtain ⟨-, -, -, fresh, rfl⟩ := socket6_add_done ran
  have port : boundPort (if p.ctx.bindExtNatPmpToNatpmpPort ≠ 0 then p.ctx.natpmpUdpPort else 0 : Nat)
        answers.ephemeral = boundPort (Role.extAftr.port p.ctx.toConfig) answers.ephemeral := by
    simp [Role.port]
  exact ⟨laid.add fresh port, rfl⟩

private theorem nat_pmp_ext_laid (laid : Laid opened p) (ran : bindNatPmpExt host a p = .done () q) :
    Laid ((.extAftr, q.ctx.natPmpExtSock) :: (.extLan, q.ctx.natPmpLanSock) :: opened) q ∧
      q.ctx.settings = { p.ctx.settings with natPmpExtSock := q.ctx.natPmpExtSock
                                             natPmpLanSock := q.ctx.natPmpLanSock } := by
  obtain ⟨lan, p₁, lanAdded, ran⟩ := Program.bind_done.mp ran
  obtain ⟨_, p₂, lanSet, ran⟩ := Program.bind_done.mp ran
  obtain ⟨bindme, p₃, addressed, ran⟩ := Program.bind_done.mp ran
  obtain ⟨ext, p₄, extAdded, finished⟩ := Program.bind_done.mp ran
  obtain ⟨laid₁, kept₁⟩ := socket_add_laid .extLan laid rfl lanAdded
  cases lanSet
  have laid₂ := laid₁.update (fun ctx => { ctx with natPmpLanSock := lan }) rfl rfl rfl
  have addressed : Laid ((.extLan, lan) :: opened) p₃ ∧ p₃.ctx = { p₁.ctx with natPmpLanSock := lan } := by
    unfold Program.cond at addressed
    split at addressed
    · exact ip6_get_laid laid₂ addressed
    · cases addressed
      exact ⟨laid₂, rfl⟩
  obtain ⟨p₅, added, rfl⟩ := Program.keeping_done.mp extAdded
  obtain ⟨laid₅, kept₅⟩ := socket6_add_laid addressed.1 added
  cases finished
  have fields : p₅.ctx.natPmpLanSock = lan :=
    (congrArg Context.natPmpLanSock kept₅).trans (by rw [addressed.2]; rfl)
  refine ⟨?_, ?_⟩
  · change Laid ((.extAftr, ext) :: (.extLan, p₅.ctx.natPmpLanSock) :: opened) _
    rw [fields]
    exact laid₅.update (fun ctx => { ctx with natPmpExtSock := ext }) rfl rfl rfl
  · calc { p₅.ctx.settings with natPmpExtSock := ext }
      _ = { p₁.ctx.settings with natPmpLanSock := lan, natPmpExtSock := ext } := by
        rw [kept₅, addressed.2]; rfl
      _ = { p.ctx.settings with natPmpLanSock := p₅.ctx.natPmpLanSock, natPmpExtSock := ext } := by
        rw [kept₁, fields]

private theorem nat_pmp_laid (laid : Laid opened p) (ran : bindNatPmp host a p = .done () q) :
    ∃ fd, Laid ((.natPmp, fd) :: opened) q ∧ q.ctx.settings = p.ctx.settings := by
  obtain ⟨fd, p₁, added, finished⟩ := Program.bind_done.mp ran
  cases finished
  exact ⟨fd, socket_add_laid .natPmp laid rfl added⟩

private theorem upnp_tcp_laid (laid : Laid opened p) (ran : bindUpnpTcp host a p = .done () q) :
    ∃ fd₁ fd₂, Laid ((.upnpTcp2, fd₂) :: (.upnpTcp1, fd₁) :: opened) q ∧
      q.ctx.settings = p.ctx.settings := by
  obtain ⟨fd₁, p₁, added₁, ran⟩ := Program.bind_done.mp ran
  obtain ⟨fd₂, p₂, added₂, finished⟩ := Program.bind_done.mp ran
  cases finished
  obtain ⟨laid₁, kept₁⟩ := socket_add_laid .upnpTcp1 laid rfl added₁
  obtain ⟨laid₂, kept₂⟩ := socket_add_laid .upnpTcp2 laid₁ rfl added₂
  exact ⟨fd₁, fd₂, laid₂, kept₂.trans kept₁⟩

private theorem shared_laid (laid : Laid opened p) (ran : bindShared host a p = .done () q) :
    Laid ((.shared, q.ctx.sharedUdpSockFd) :: opened) q ∧
      q.ctx.settings = { p.ctx.settings with sharedUdpSockFd := q.ctx.sharedUdpSockFd } := by
  obtain ⟨fd, p₁, kept, finished⟩ := Program.bind_done.mp ran
  cases finished
  obtain ⟨p₂, added, rfl⟩ := Program.keeping_done.mp kept
  obtain ⟨laid₂, kept₂⟩ := socket_add_laid .shared laid rfl added
  refine ⟨laid₂.update (fun ctx => { ctx with sharedUdpSockFd := fd }) rfl rfl rfl, ?_⟩
  change { p₂.ctx.settings with sharedUdpSockFd := fd } = _
  rw [kept₂]
  rfl

/-! ## A successful start -/

/-- The sockets a configuration asks for, newest first. -/
def layout (ctx : Context) (natPmp tcp₁ tcp₂ : Int) : List (Role × Int) :=
  (if ctx.sharesSocket then [(.shared, ctx.sharedUdpSockFd)] else []) ++
    ((if ctx.enableUpnpTcp ≠ 0 then [(.upnpTcp2, tcp₂), (.upnpTcp1, tcp₁)] else []) ++
      ((if ctx.enableNatPmp ≠ 0 then [(.natPmp, natPmp)] else []) ++
        ((if ctx.enableNatPmpExt ≠ 0 then
            [(.extAftr, ctx.natPmpExtSock), (.extLan, ctx.natPmpLanSock)] else []) ++
          (if ctx.enableUpnpUdp ≠ 0 then
            [(.ssdpWan, ctx.wanSsdpSock), (.ssdpLan, ctx.lanSsdpSock)] else []))))

theorem mem_layout : (role, fd) ∈ layout ctx natPmp tcp₁ tcp₂ ↔
    match role with
    | .ssdpLan => ctx.enableUpnpUdp ≠ 0 ∧ fd = ctx.lanSsdpSock
    | .ssdpWan => ctx.enableUpnpUdp ≠ 0 ∧ fd = ctx.wanSsdpSock
    | .extLan => ctx.enableNatPmpExt ≠ 0 ∧ fd = ctx.natPmpLanSock
    | .extAftr => ctx.enableNatPmpExt ≠ 0 ∧ fd = ctx.natPmpExtSock
    | .natPmp => ctx.enableNatPmp ≠ 0 ∧ fd = natPmp
    | .upnpTcp1 => ctx.enableUpnpTcp ≠ 0 ∧ fd = tcp₁
    | .upnpTcp2 => ctx.enableUpnpTcp ≠ 0 ∧ fd = tcp₂
    | .shared => ctx.sharesSocket ∧ fd = ctx.sharedUdpSockFd := by
  have enabled (on : Prop) [Decidable on] (entries : List (Role × Int)) :
      (role, fd) ∈ (if on then entries else []) ↔ on ∧ (role, fd) ∈ entries := by
    by_cases holds : on <;> simp [holds]
  simp only [layout, List.mem_append, enabled, List.mem_cons, List.not_mem_nil, or_false, Prod.mk.injEq]
  cases role <;> simp

/-- A stage runs and lays out its sockets, or it is off and nothing changes. -/
private theorem when_laid {β : Type} [Inhabited β] {body : Program Proxy Unit}
    {condition : Proxy → Prop} [DecidablePred condition] (extra : β → List (Role × Int))
    (kept : Context → Context → Prop) (laid : Laid opened p)
    (ran : Program.when condition body p = .done () q)
    (runs : body p = .done () q → ∃ fds, Laid (extra fds ++ opened) q ∧ kept p.ctx q.ctx)
    (skips : kept p.ctx p.ctx) :
    ∃ fds, Laid ((if condition p then extra fds else []) ++ opened) q ∧ kept p.ctx q.ctx := by
  rw [Program.when_done] at ran
  split at ran
  · rename_i holds
    simpa only [holds, ↓reduceIte] using runs ran
  · rename_i fails
    refine ⟨default, ?_⟩
    rw [if_neg fails, ran]
    exact ⟨laid, skips⟩

theorem sockets_bind_laid (empty : p.ctx.sockets = []) (unmapped : p.ctx.mappings = [])
    (ran : socketsBind host a p = .done () q) :
    ∃ natPmp tcp₁ tcp₂, Laid (layout q.ctx natPmp tcp₁ tcp₂) q := by
  have laid : Laid [] p := ⟨unmapped, by simp [empty], by simp, by simp, by simp⟩
  obtain ⟨_, p₁, ran₁, ran⟩ := Program.bind_done.mp ran
  obtain ⟨_, p₂, ran₂, ran⟩ := Program.bind_done.mp ran
  obtain ⟨_, p₃, ran₃, ran⟩ := Program.bind_done.mp ran
  obtain ⟨_, p₄, ran₄, ran₅⟩ := Program.bind_done.mp ran
  obtain ⟨-, laid₁, kept₁⟩ := when_laid
    (fun _ : Unit => [(.ssdpWan, p₁.ctx.wanSsdpSock), (.ssdpLan, p₁.ctx.lanSsdpSock)])
    (fun ctx ctx' => ctx'.settings =
      { ctx.settings with lanSsdpSock := ctx'.lanSsdpSock, wanSsdpSock := ctx'.wanSsdpSock })
    laid ran₁ (fun ran => ⟨(), upnp_udp_laid laid ran⟩) rfl
  obtain ⟨-, laid₂, kept₂⟩ := when_laid
    (fun _ : Unit => [(.extAftr, p₂.ctx.natPmpExtSock), (.extLan, p₂.ctx.natPmpLanSock)])
    (fun ctx ctx' => ctx'.settings =
      { ctx.settings with natPmpExtSock := ctx'.natPmpExtSock, natPmpLanSock := ctx'.natPmpLanSock })
    laid₁ ran₂ (fun ran => ⟨(), nat_pmp_ext_laid laid₁ ran⟩) rfl
  obtain ⟨natPmp, laid₃, kept₃⟩ := when_laid (fun fd : Int => [(.natPmp, fd)])
    (fun ctx ctx' => ctx'.settings = ctx.settings) laid₂ ran₃ (nat_pmp_laid laid₂) rfl
  obtain ⟨⟨tcp₁, tcp₂⟩, laid₄, kept₄⟩ := when_laid
    (fun fds : Int × Int => [(.upnpTcp2, fds.2), (.upnpTcp1, fds.1)])
    (fun ctx ctx' => ctx'.settings = ctx.settings) laid₃ ran₄
    (fun ran => let ⟨fd₁, fd₂, done⟩ := upnp_tcp_laid laid₃ ran; ⟨(fd₁, fd₂), done⟩) rfl
  obtain ⟨-, laid₅, kept₅⟩ := when_laid (fun _ : Unit => [(.shared, q.ctx.sharedUdpSockFd)])
    (fun ctx ctx' => ctx'.settings = { ctx.settings with sharedUdpSockFd := ctx'.sharedUdpSockFd })
    laid₄ ran₅ (fun ran => ⟨(), shared_laid laid₄ ran⟩) rfl
  -- later stages leave the fields that earlier ones set
  have settings : q.ctx.settings = { p.ctx.settings with
      lanSsdpSock := p₁.ctx.lanSsdpSock, wanSsdpSock := p₁.ctx.wanSsdpSock
      natPmpExtSock := p₂.ctx.natPmpExtSock, natPmpLanSock := p₂.ctx.natPmpLanSock
      sharedUdpSockFd := q.ctx.sharedUdpSockFd } := by
    rw [kept₅, kept₄, kept₃, kept₂, kept₁]
  refine ⟨natPmp, tcp₁, tcp₂, ?_⟩
  have ssdpLan : q.ctx.lanSsdpSock = p₁.ctx.lanSsdpSock := (congrArg Context.lanSsdpSock settings :)
  have ssdpWan : q.ctx.wanSsdpSock = p₁.ctx.wanSsdpSock := (congrArg Context.wanSsdpSock settings :)
  have ext : q.ctx.natPmpExtSock = p₂.ctx.natPmpExtSock := (congrArg Context.natPmpExtSock settings :)
  have extLan : q.ctx.natPmpLanSock = p₂.ctx.natPmpLanSock := (congrArg Context.natPmpLanSock settings :)
  have config : q.ctx.toConfig = p.ctx.toConfig := (congrArg Context.toConfig settings :)
  have config₁ : p₁.ctx.toConfig = p.ctx.toConfig := (congrArg Context.toConfig kept₁ :)
  have config₂ : p₂.ctx.toConfig = p.ctx.toConfig :=
    Eq.trans (congrArg Context.toConfig kept₂ :) config₁
  have config₃ : p₃.ctx.toConfig = p.ctx.toConfig :=
    Eq.trans (congrArg Context.toConfig kept₃ :) config₂
  have config₄ : p₄.ctx.toConfig = p.ctx.toConfig :=
    Eq.trans (congrArg Context.toConfig kept₄ :) config₃
  rw [config₁, config₂, config₃, config₄, List.append_nil] at laid₅
  rw [layout, ssdpLan, ssdpWan, ext, extLan, config]
  exact laid₅

/-! ## Fields that stay unset -/

/-- A relation that opening a socket keeps: it does not look at the lists of the
context or at the kernel. -/
private structure Blind (kept : Proxy → Proxy → Prop) : Prop where
  refl : ∀ p, kept p p
  trans : ∀ {p q r}, kept p q → kept q r → kept p r
  opened : ∀ (p : Proxy) sockets kernel, kept p { ctx := { p.ctx with sockets }, kernel }

private theorem configured_keeps {kept : Proxy → Proxy → Prop} {add : Config → Program Proxy Int}
    (keeps : ∀ cfg, Program.Keeps kept (add cfg)) : Program.Keeps kept (configured add) :=
  ⟨fun {p _ _} ran => (keeps p.ctx.toConfig).1 ran, fun {p _ _} ran => (keeps p.ctx.toConfig).2 ran⟩

section Blind
variable {kept : Proxy → Proxy → Prop} (blind : Blind kept)
include blind

private theorem done_keeps (value : α) : Program.Keeps kept (pure value : Program Proxy α) :=
  Program.keeps_ret blind.refl value

private theorem then_keeps {first : Program Proxy α} {next : α → Program Proxy β}
    (begins : Program.Keeps kept first) (ends : ∀ value, Program.Keeps kept (next value)) :
    Program.Keeps kept (first >>= next) :=
  Program.keeps_bind kept blind.trans begins ends

private theorem run_keeps {body : Program Proxy Unit} {condition : Proxy → Prop} [DecidablePred condition]
    (keeps : Program.Keeps kept body) : Program.Keeps kept (Program.when condition body) :=
  Program.keeps_when blind.refl keeps fun _ same => same

private theorem socket_add_keeps :
    Program.Keeps kept (socketAdd host ifname addr port proto only reuse answers) := by
  refine ⟨fun {p _ _} ran => ?_, fun {p _ _} ran => ?_⟩
  · obtain ⟨k, -, rfl⟩ := socket_add_done ran
    exact blind.opened p _ k
  · obtain ⟨-, k, -, rfl⟩ := socket_add_failed ran
    exact blind.opened p p.ctx.sockets k

private theorem mcast_join_keeps : Program.Keeps kept (socketMcastJoin answers) := by
  refine ⟨fun ran => ?_, fun ran => ?_⟩
  · obtain ⟨-, -, rfl⟩ := mcast_join_done ran
    exact blind.refl _
  · obtain ⟨-, rfl⟩ := mcast_join_failed ran
    exact blind.refl _

private theorem ip6_get_keeps : Program.Keeps kept (ifaceIp6Get host answers) := by
  refine ⟨fun {p _ _} ran => ?_, fun {p _ _} ran => ?_⟩
  · obtain ⟨_, -, -, -, -, -, rfl⟩ := ip6_get_done ran
    exact blind.opened p p.ctx.sockets _
  · obtain ⟨_, -, -, -, -, -, rfl⟩ := ip6_get_failed ran
    exact blind.opened p p.ctx.sockets _

private theorem socket6_add_keeps : Program.Keeps kept (socket6Add addr answers) := by
  refine ⟨fun {p _ _} ran => ?_, fun {p _ _} ran => ?_⟩
  · obtain ⟨-, -, -, -, rfl⟩ := socket6_add_done ran
    exact blind.opened p _ _
  · rcases socket6_add_failed ran with ⟨-, rfl⟩ | ⟨-, _, k, -, -, rfl⟩
    · exact blind.refl _
    · exact blind.opened p _ k

private theorem nat_pmp_keeps : Program.Keeps kept (bindNatPmp host a) :=
  then_keeps blind (configured_keeps fun _ => socket_add_keeps blind) fun _ => done_keeps blind ()

private theorem upnp_tcp_keeps : Program.Keeps kept (bindUpnpTcp host a) :=
  then_keeps blind (configured_keeps fun _ => socket_add_keeps blind) fun _ =>
    then_keeps blind (configured_keeps fun _ => socket_add_keeps blind) fun _ => done_keeps blind ()

private theorem nat_pmp_ext_keeps
    (lan : ∀ p fd, kept p (updateCtx (fun ctx => { ctx with natPmpLanSock := fd }) p))
    (ext : ∀ fd p, kept p (updateCtx (fun ctx => { ctx with natPmpExtSock := fd }) p)) :
    Program.Keeps kept (bindNatPmpExt host a) := by
  refine then_keeps blind (configured_keeps fun _ => socket_add_keeps blind) fun fd => ?_
  refine then_keeps blind (Program.keeps_modify fun p => lan p fd) fun _ => ?_
  refine then_keeps blind (Program.keeps_cond (ip6_get_keeps blind) ?_) fun _ => ?_
  · exact then_keeps blind (Program.keeps_get blind.refl) fun _ => done_keeps blind _
  · exact then_keeps blind (Program.keeps_keeping kept blind.trans (socket6_add_keeps blind) ext) fun _ =>
      done_keeps blind ()

private theorem upnp_udp_keeps
    (lan : ∀ p fd, kept p (updateCtx (fun ctx => { ctx with lanSsdpSock := fd }) p))
    (wan : ∀ p fd (sockets : Context → List Socket),
      kept p (updateCtx (fun ctx => { ctx with wanSsdpSock := fd, sockets := sockets ctx }) p)) :
    Program.Keeps kept (bindUpnpUdp host a) := by
  refine then_keeps blind (configured_keeps fun _ => socket_add_keeps blind) fun fd => ?_
  refine then_keeps blind (mcast_join_keeps blind) fun _ => ?_
  refine then_keeps blind (Program.keeps_modify fun p => lan p fd) fun _ => ?_
  refine then_keeps blind (configured_keeps fun _ => socket_add_keeps blind) fun fd' => ?_
  refine then_keeps blind (mcast_join_keeps blind) fun _ => ?_
  exact Program.keeps_modify fun p => wan p fd' fun ctx => setPeer fd' fd (setPeer fd fd' ctx.sockets)

private theorem shared_keeps
    (field : ∀ fd p, kept p (updateCtx (fun ctx => { ctx with sharedUdpSockFd := fd }) p)) :
    Program.Keeps kept (bindShared host a) := by
  refine then_keeps blind (Program.keeps_keeping kept blind.trans ?_ field) fun _ => done_keeps blind ()
  exact configured_keeps fun _ => socket_add_keeps blind

end Blind

/-- A stage that opens no SSDP socket leaves the two fields for them alone. -/
private def SsdpKept (p q : Proxy) : Prop :=
  q.ctx.lanSsdpSock = p.ctx.lanSsdpSock ∧ q.ctx.wanSsdpSock = p.ctx.wanSsdpSock

private theorem ssdp_blind : Blind SsdpKept where
  refl _ := ⟨rfl, rfl⟩
  trans first second := ⟨second.1.trans first.1, second.2.trans first.2⟩
  opened _ _ _ := ⟨rfl, rfl⟩

/-- What follows the SSDP stage. -/
private def laterStages (host : Host) (a : BindAnswers) : Program Proxy Unit := do
  Program.when (fun p : Proxy => p.ctx.enableNatPmpExt ≠ 0) (bindNatPmpExt host a)
  Program.when (fun p : Proxy => p.ctx.enableNatPmp ≠ 0) (bindNatPmp host a)
  Program.when (fun p : Proxy => p.ctx.enableUpnpTcp ≠ 0) (bindUpnpTcp host a)
  Program.when (fun p : Proxy => p.ctx.sharesSocket) (bindShared host a)

private theorem later_stages_ssdp : Program.Keeps SsdpKept (laterStages host a) := by
  have blind := ssdp_blind
  refine then_keeps blind (run_keeps blind (nat_pmp_ext_keeps blind ?_ ?_)) fun _ => ?_
  · exact fun _ _ => ⟨rfl, rfl⟩
  · exact fun _ _ => ⟨rfl, rfl⟩
  refine then_keeps blind (run_keeps blind (nat_pmp_keeps blind)) fun _ => ?_
  refine then_keeps blind (run_keeps blind (upnp_tcp_keeps blind)) fun _ => ?_
  exact run_keeps blind (shared_keeps blind fun _ _ => ⟨rfl, rfl⟩)

/-- Without uPNP (UDP) the two fields for its sockets stay as they were. -/
private theorem sockets_bind_ssdp (off : p.ctx.enableUpnpUdp = 0) :
    (∀ {value q}, socketsBind host a p = .done value q → SsdpKept p q) ∧
      ∀ {code q}, socketsBind host a p = .failed code q → SsdpKept p q := by
  have skipped : socketsBind host a p = laterStages host a p := by
    have first : Program.when (fun p : Proxy => p.ctx.enableUpnpUdp ≠ 0) (bindUpnpUdp host a) p =
        .done () p := Program.when_done.mpr (by simp [off])
    change Program.bind _ _ p = _
    unfold Program.bind
    rw [first]
    rfl
  rw [skipped]
  exact ⟨later_stages_ssdp.1, later_stages_ssdp.2⟩

/-- Where no socket is shared, the field for it stays as it was. -/
private def SharedKept (p q : Proxy) : Prop :=
  q.ctx.toConfig = p.ctx.toConfig ∧ (¬ p.ctx.sharesSocket → q.ctx.sharedUdpSockFd = p.ctx.sharedUdpSockFd)

private theorem shared_blind : Blind SharedKept where
  refl _ := ⟨rfl, fun _ => rfl⟩
  trans first second :=
    ⟨second.1.trans first.1, fun off => (second.2 (first.1 ▸ off)).trans (first.2 off)⟩
  opened _ _ _ := ⟨rfl, fun _ => rfl⟩

private theorem config_blind : Blind fun p q => q.ctx.toConfig = p.ctx.toConfig where
  refl _ := rfl
  trans first second := second.trans first
  opened _ _ _ := rfl

private theorem sockets_bind_shared : Program.Keeps SharedKept (socketsBind host a) := by
  have blind := shared_blind
  refine then_keeps blind (run_keeps blind (upnp_udp_keeps blind ?_ ?_)) fun _ => ?_
  · exact fun _ _ => ⟨rfl, fun _ => rfl⟩
  · exact fun _ _ _ => ⟨rfl, fun _ => rfl⟩
  refine then_keeps blind (run_keeps blind (nat_pmp_ext_keeps blind ?_ ?_)) fun _ => ?_
  · exact fun _ _ => ⟨rfl, fun _ => rfl⟩
  · exact fun _ _ => ⟨rfl, fun _ => rfl⟩
  refine then_keeps blind (run_keeps blind (nat_pmp_keeps blind)) fun _ => ?_
  refine then_keeps blind (run_keeps blind (upnp_tcp_keeps blind)) fun _ => ?_
  exact Program.keeps_when blind.refl (shared_keeps config_blind fun _ _ => rfl)
    fun shares config => ⟨config, fun off => absurd shares off⟩

/-! ## Booting -/

/-- The process right after a successful `sockets_bind`: a start from the fresh
context of `ctx_create`, and as many attempts as it took. -/
def Booted (host : Host) (p : Proxy) : Prop :=
  ∃ cfg kernel attempts, (start host).after (.trying { ctx := { toConfig := cfg }, kernel }) attempts =
    .running p

/-- What holds before and after the attempts of a start. -/
private def Starting : Start → Prop
  | .trying p => p.ctx.sockets = [] ∧ p.ctx.mappings = [] ∧
      (p.ctx.enableUpnpUdp = 0 → p.ctx.lanSsdpSock = p.ctx.wanSsdpSock)
  | .running p => (∃ natPmp tcp₁ tcp₂, Laid (layout p.ctx natPmp tcp₁ tcp₂) p) ∧
      (p.ctx.enableUpnpUdp = 0 → p.ctx.lanSsdpSock = p.ctx.wanSsdpSock)
  | .stopped => True

private theorem attempt_starting (starting : Starting s) : Starting (startAttempt host s a) := by
  cases s with
  | trying p =>
    obtain ⟨empty, unmapped, unset⟩ := starting
    cases ran : socketsBind host a p with
    | done value q =>
      obtain ⟨-, _, _, grown, -⟩ := sockets_bind_makes.done ran
      rw [attempt_done ran]
      refine ⟨sockets_bind_laid empty unmapped ran, fun off => ?_⟩
      rw [grown.config] at off
      obtain ⟨lan, wan⟩ := (sockets_bind_ssdp off).1 ran
      rw [lan, wan, unset off]
    | failed code q =>
      by_cases persistent : p.ctx.persistent ≠ 0
      · obtain ⟨-, -, _, _, grown, -⟩ := sockets_bind_makes.failed ran
        obtain ⟨closed, mappings, settings, -⟩ := sockets_close_closes q
        rw [attempt_failed persistent ran]
        refine ⟨closed, mappings.trans (grown.mappings.trans unmapped), fun off => ?_⟩
        obtain ⟨config, -, wanKept, lanKept, -⟩ := Context.of_settings settings
        rw [config, grown.config] at off
        obtain ⟨lan, wan⟩ := (sockets_bind_ssdp off).2 ran
        rw [lanKept, wanKept, lan, wan, unset off]
      · simp only [startAttempt, ran, persistent, ↓reduceIte]
        trivial
    | stopped => rw [attempt_stopped ran]; trivial
  | running => exact starting
  | stopped => trivial

private theorem booted_starting (booted : Booted host p) : Starting (.running p) := by
  obtain ⟨cfg, kernel, attempts, running⟩ := booted
  have started : Starting (.trying { ctx := { toConfig := cfg }, kernel }) := ⟨rfl, rfl, fun _ => rfl⟩
  have finished := (start host).invariant_after_any Starting _
    (fun _ _ starting => attempt_starting starting) started attempts
  rwa [running] at finished

/-- The field for the shared socket before and after the attempts of a start. -/
private def SharedUnset : Start → Prop
  | .trying p | .running p => ¬ p.ctx.sharesSocket → p.ctx.sharedUdpSockFd = 0
  | .stopped => True

private theorem attempt_shared_unset (unset : SharedUnset s) : SharedUnset (startAttempt host s a) := by
  cases s with
  | trying p =>
    cases ran : socketsBind host a p with
    | done value q =>
      obtain ⟨config, kept⟩ := sockets_bind_shared.1 ran
      rw [attempt_done ran]
      intro off
      rw [config] at off
      rw [kept off, unset off]
    | failed code q =>
      by_cases persistent : p.ctx.persistent ≠ 0
      · obtain ⟨config, kept⟩ := sockets_bind_shared.2 ran
        obtain ⟨-, -, settings, -⟩ := sockets_close_closes q
        obtain ⟨config', shared, -⟩ := Context.of_settings settings
        rw [attempt_failed persistent ran]
        intro off
        rw [config', config] at off
        rw [shared, kept off, unset off]
      · simp only [startAttempt, ran, persistent, ↓reduceIte]
        trivial
    | stopped => rw [attempt_stopped ran]; trivial
  | running => exact unset
  | stopped => trivial

/-- However many attempts it took, the sockets are those the configuration
asks for. -/
theorem booted_laid (booted : Booted host p) :
    ∃ natPmp tcp₁ tcp₂, Laid (layout p.ctx natPmp tcp₁ tcp₂) p :=
  (booted_starting booted).1

/-- Where uPNP (UDP) is off, neither of its sockets was ever set. -/
theorem booted_ssdp_unset (booted : Booted host p) (off : p.ctx.enableUpnpUdp = 0) :
    p.ctx.lanSsdpSock = p.ctx.wanSsdpSock :=
  (booted_starting booted).2 off

/-- Where no socket is shared, its field is the zero of `ctx_create`. -/
theorem booted_shared_unset (booted : Booted host p) (off : ¬ p.ctx.sharesSocket) :
    p.ctx.sharedUdpSockFd = 0 := by
  obtain ⟨cfg, kernel, attempts, running⟩ := booted
  have started : SharedUnset (.trying { ctx := { toConfig := cfg }, kernel }) := fun _ => rfl
  have finished := (start host).invariant_after_any SharedUnset _
    (fun _ _ unset => attempt_shared_unset unset) started attempts
  rw [running] at finished
  exact finished off

/-! ## A household -/

/-- NAT-PMP and uPNP (TCP) between a LAN and an AFTR. -/
def householdStart : Proxy :=
  { ctx := { lanIP := ⟨192, 168, 1, 1⟩, wanIP := ⟨10, 0, 0, 2⟩, aftrIPv4 := ⟨192, 0, 0, 1⟩
             natpmpUdpPort := 5351, upnpUdpPort := 1900, upnpTcpPort1 := 2869
             upnpTcpPort2 := 5000, sharedUdpSock := 1, enableNatPmp := 1, enableUpnpTcp := 1, timeout := 30 } }

def householdAnswers : BindAnswers :=
  { natPmp := { socket := some 3 }, upnpTcp1 := { socket := some 4 }, upnpTcp2 := { socket := some 5 }
    shared := { socket := some 6, ephemeral := 40000 } }

/-- The household after its start: NAT-PMP on descriptor 3, uPNP (TCP) on 4 and
5, the shared socket on 6. -/
def household : Proxy :=
  match socketsBind littleHost householdAnswers householdStart with
  | .done _ p => p
  | _ => householdStart

theorem household_booted : Booted littleHost household :=
  ⟨householdStart.ctx.toConfig, {}, [householdAnswers], rfl⟩

/-- Both kinds of NAT-PMP at once, on ports of the system's choice. `main` goes
on, because `sanity_check` answers such a configuration with -1. -/
def bothStart : Proxy :=
  { ctx := { lanIP := ⟨192, 168, 1, 1⟩, wanIP := ⟨10, 0, 0, 2⟩, aftrIPv4 := ⟨192, 0, 0, 1⟩
             wanIPv6 := #v[32, 1, 13, 184, 0, 0, 0, 0, 0, 0, 0, 0, 0, 0, 0, 2]
             aftrIPv6 := #v[32, 1, 13, 184, 0, 0, 0, 0, 0, 0, 0, 0, 0, 0, 0, 1]
             sharedUdpSock := 1, enableNatPmp := 1, enableNatPmpExt := 1, timeout := 30 } }

def bothAnswers : BindAnswers :=
  { extLan := { socket := some 3, ephemeral := 40001 }, ext6 := { socket := some 4, ephemeral := 40002 }
    natPmp := { socket := some 5, ephemeral := 40003 }, shared := { socket := some 6, ephemeral := 40000 } }

/-- After its start: extended NAT-PMP on descriptor 3 towards the LAN and 4
towards the AFTR, NAT-PMP on 5, the shared socket on 6. -/
def bothModes : Proxy :=
  match socketsBind littleHost bothAnswers bothStart with
  | .done _ p => p
  | _ => bothStart

theorem both_modes_booted : Booted littleHost bothModes :=
  ⟨bothStart.ctx.toConfig, {}, [bothAnswers], rfl⟩

end Portproxy.SocketRoles
