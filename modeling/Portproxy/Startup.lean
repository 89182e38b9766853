import Portproxy.Machine
import Portproxy.Program
import Portproxy.Interfaces
import Portproxy.Handlers

/-! Start-up: `sockets_bind` with the socket functions under it, and the retry
loop of `main`. The answers of the system to one attempt are its input; an
attempt that exits the process or never comes back is stopped. -/
namespace Portproxy
open HostOrder Fallible StepMachine

/-! ## Answers -/

/-- The answers to the calls of one `sock_add`. -/
structure SockAnswers where
  getaddrinfo : Int := 0
  socket : Option Nat := none
  /-- `setsockopt` of `IP_PKTINFO`, `SO_BINDTODEVICE` and `SO_REUSEADDR`. -/
  pktinfo : Int := 0
  bindToDevice : Int := 0
  reuseAddr : Int := 0
  bind : Int := 0
  /-- The port the system picks for port 0. -/
  ephemeral : Nat := 0
  /-- `fcntl` in `setnonblocking`, where a failure exits. -/
  fcntl : Int := 0
  groupInfo : Int := 0
  membership : Int := 0
  deriving DecidableEq, Repr

/-- The answers to the calls of one `socket_mcast_join`. -/
structure JoinAnswers where
  membership : Int := 0
  reuseAddr : Int := 0
  deriving DecidableEq, Repr

/-- The answers over the netlink socket of `iface_ip6_get`. Without a socket, or
without an end of the dump, `rtnl_dump_filter` reads on forever. -/
structure NetlinkAnswers where
  socket : Option Nat := none
  dump : Option (List LinkMsg × List AddrMsg) := none
  deriving DecidableEq, Repr

/-- The answers to the calls of one `socket6_add`. -/
structure Sock6Answers where
  socket : Option Nat := none
  bind : Int := 0
  ephemeral : Nat := 0
  connect : Int := 0
  deriving DecidableEq, Repr

/-- The answers to one `sockets_bind`. -/
structure BindAnswers where
  ssdpLan : SockAnswers := {}
  ssdpLanJoin : JoinAnswers := {}
  ssdpWan : SockAnswers := {}
  ssdpWanJoin : JoinAnswers := {}
  extLan : SockAnswers := {}
  netlink : NetlinkAnswers := {}
  ext6 : Sock6Answers := {}
  natPmp : SockAnswers := {}
  upnpTcp1 : SockAnswers := {}
  upnpTcp2 : SockAnswers := {}
  shared : SockAnswers := {}
  deriving DecidableEq, Repr

/-! ## Opening one socket -/

def errUnspec : Int := -1
def errBindIface : Int := -2
def errBindFailed : Int := -4
def errMcastMembership : Int := -6
def errGetaddrinfo : Int := -7
def errSockOpts : Int := -8
def errReuseFailed : Int := -9

/-- The test of `sock_add` for a multicast address, on `s_addr` as a number of
the host. -/
def looksMulticast (host : Host) (addr : InAddr) : Prop := addr.sAddr host.order / 2 ^ 24 ≥ 239

instance : Decidable (looksMulticast host addr) := inferInstanceAs (Decidable (_ ≥ _))

/-- The port a socket gets by `bind` to `port`. -/
def boundPort (port : Int) (ephemeral : Nat) : Nat :=
  if uint16 port = 0 then ephemeral else uint16 port

/-- `sock_add`. -/
def sockAdd (host : Host) (ifacename : CString) (addr : InAddr) (port : Int) (proto : IpProto)
    (thisifaceonly reuse : Int) (a : SockAnswers) : Program Kernel Int := fun k =>
  if a.getaddrinfo ≠ 0 then .failed errGetaddrinfo k
  else
    match a.socket with
    | none => .failed errUnspec k
    | some choice =>
      let insock := k.descriptor choice
      let k := k.opens insock
      if a.pktinfo < 0 then .failed errSockOpts k
      else if thisifaceonly ≠ 0 ∧ a.bindToDevice < 0 then .failed errBindIface k
      else if reuse ≠ 0 ∧ a.reuseAddr < 0 then .failed errReuseFailed k
      else if a.bind < 0 then .failed errBindFailed k
      else
        let device := if thisifaceonly ≠ 0 then some ifacename else none
        let k := k.binds insock { addr, port := boundPort port a.ephemeral, device }
        if proto = .tcp ∧ a.fcntl < 0 then .stopped
        else if looksMulticast host addr ∧ a.groupInfo ≠ 0 then .failed errGetaddrinfo k
        else if looksMulticast host addr ∧ a.membership ≠ 0 then .failed errMcastMembership k
        else .done insock k

/-- The state `socket_add` gives a new socket. -/
def listeningType : IpProto → SocketType
  | .udp => .udp
  | .tcp => .tcpListening

/-- `socket_add`. -/
def socketAdd (host : Host) (ifname : CString) (addr : InAddr) (port : Int) (ipproto : IpProto)
    (bindiface reuse : Int) (a : SockAnswers) : Program Proxy Int := fun p =>
  match sockAdd host ifname addr port ipproto bindiface reuse a p.kernel with
  | .done fd k =>
    .done fd { ctx := socketAdd2 p.ctx { fd, ipproto, state := listeningType ipproto }, kernel := k }
  | .failed _ k => .failed (-1) { p with kernel := k }
  | .stopped => .stopped

/-- `socket6_add` for a UDP socket. The socket is on the list before it is bound
and connected. -/
def socket6Add (addr : In6Addr) (a : Sock6Answers) : Program Proxy Int := fun p =>
  match a.socket with
  | none => .failed (-1) p
  | some choice =>
    let fd := p.kernel.descriptor choice
    let k := p.kernel.opens fd
    let ctx := socketAdd2 p.ctx { fd, ipproto := .udp, state := .udp6 }
    if a.bind < 0 then .failed (-1) { ctx, kernel := k }
    else
      let port := if p.ctx.bindExtNatPmpToNatpmpPort ≠ 0 then p.ctx.natpmpUdpPort else 0
      let k := k.binds fd { addr6 := addr, port := boundPort port a.ephemeral }
      if a.connect < 0 then .failed (-1) { ctx, kernel := k }
      else .done fd { ctx, kernel := k }

/-- `socket_mcast_join`. -/
def socketMcastJoin (a : JoinAnswers) : Program Proxy Unit := fun p =>
  if a.membership < 0 then .failed (-1) p
  else if a.reuseAddr < 0 then .failed (-1) p
  else .done () p

/-- `iface_ip6_get` on the WAN interface. Nothing closes the netlink socket. -/
def ifaceIp6Get (host : Host) (a : NetlinkAnswers) : Program Proxy In6Addr := fun p =>
  match a.socket, a.dump with
  | some choice, some (linfo, ainfo) =>
    let p' : Proxy := { p with kernel := p.kernel.opens (p.kernel.descriptor choice) }
    match ifaceIp6Loop host p.ctx.wan ainfo linfo none with
    | some addr => .done addr p'
    | none => .failed (-1) p'
  | _, _ => .stopped

/-! ## What each call can leave -/

section Outcomes
variable {host : Host} {p q : Proxy}

theorem socket_add_done (ran : socketAdd host ifname addr port proto only reuse a p = .done fd q) :
    ∃ k, sockAdd host ifname addr port proto only reuse a p.kernel = .done fd k ∧
      q = { ctx := socketAdd2 p.ctx { fd, ipproto := proto, state := listeningType proto }, kernel := k } := by
  unfold socketAdd at ran
  split at ran <;> cases ran
  exact ⟨_, ‹_›, rfl⟩

theorem socket_add_failed (ran : socketAdd host ifname addr port proto only reuse a p = .failed code q) :
    ∃ reason k, sockAdd host ifname addr port proto only reuse a p.kernel = .failed reason k ∧
      q = { p with kernel := k } := by
  unfold socketAdd at ran
  split at ran <;> cases ran
  exact ⟨_, _, ‹_›, rfl⟩

theorem socket_add_stopped (ran : socketAdd host ifname addr port proto only reuse a p = .stopped) :
    sockAdd host ifname addr port proto only reuse a p.kernel = .stopped := by
  unfold socketAdd at ran
  split at ran <;> cases ran
  assumption

theorem mcast_join_done (ran : socketMcastJoin a p = .done () q) :
    0 ≤ a.membership ∧ 0 ≤ a.reuseAddr ∧ q = p := by
  unfold socketMcastJoin at ran
  split_ifs at ran with membership reuse
  cases ran
  exact ⟨not_lt.mp membership, not_lt.mp reuse, rfl⟩

theorem mcast_join_failed (ran : socketMcastJoin a p = .failed code q) :
    (a.membership < 0 ∨ a.reuseAddr < 0) ∧ q = p := by
  unfold socketMcastJoin at ran
  split_ifs at ran with membership reuse <;> cases ran
  · exact ⟨.inl membership, rfl⟩
  · exact ⟨.inr reuse, rfl⟩

theorem mcast_join_returns : socketMcastJoin a p ≠ .stopped := by
  intro ran
  unfold socketMcastJoin at ran
  split_ifs at ran

/-- Whether it finds an address or not, `iface_ip6_get` opens a descriptor that
nobody records. -/
theorem ip6_get_done (ran : ifaceIp6Get host a p = .done addr q) :
    ∃ choice linfo ainfo, a.socket = some choice ∧ a.dump = some (linfo, ainfo) ∧
      ifaceIp6Loop host p.ctx.wan ainfo linfo none = some addr ∧
      q = { p with kernel := p.kernel.opens (p.kernel.descriptor choice) } := by
  unfold ifaceIp6Get at ran
  split at ran
  · rename_i choice linfo ainfo opened dumped
    dsimp only at ran
    split at ran <;> cases ran
    exact ⟨choice, linfo, ainfo, opened, dumped, ‹_›, rfl⟩
  · cases ran

theorem ip6_get_failed (ran : ifaceIp6Get host a p = .failed code q) :
    ∃ choice linfo ainfo, a.socket = some choice ∧ a.dump = some (linfo, ainfo) ∧
      ifaceIp6Loop host p.ctx.wan ainfo linfo none = none ∧
      q = { p with kernel := p.kernel.opens (p.kernel.descriptor choice) } := by
  unfold ifaceIp6Get at ran
  split at ran
  · rename_i choice linfo ainfo opened dumped
    dsimp only at ran
    split at ran <;> cases ran
    exact ⟨choice, linfo, ainfo, opened, dumped, ‹_›, rfl⟩
  · cases ran

theorem ip6_get_stopped (ran : ifaceIp6Get host a p = .stopped) : a.socket = none ∨ a.dump = none := by
  unfold ifaceIp6Get at ran
  split at ran
  · dsimp only at ran
    split at ran <;> cases ran
  · rename_i apart
    cases opened : a.socket with
    | none => exact .inl rfl
    | some choice =>
      refine .inr (Option.eq_none_iff_forall_ne_some.mpr fun dump dumped => ?_)
      exact apart choice dump.1 dump.2 opened dumped

/-- `socket6_add` binds and connects a socket that is on the list by then. -/
theorem socket6_add_done (ran : socket6Add addr a p = .done fd q) :
    a.socket.isSome ∧ 0 ≤ a.bind ∧ 0 ≤ a.connect ∧ fd ∉ p.kernel.fds ∧
      q = { ctx := socketAdd2 p.ctx { fd, ipproto := .udp, state := .udp6 }
            kernel := (p.kernel.opens fd).binds fd
              { addr6 := addr
                port := boundPort
                  (if p.ctx.bindExtNatPmpToNatpmpPort ≠ 0 then p.ctx.natpmpUdpPort else 0 : Nat)
                  a.ephemeral } } := by
  unfold socket6Add at ran
  cases opened : a.socket with
  | none => rw [opened] at ran; cases ran
  | some choice =>
    rw [opened] at ran
    dsimp only at ran
    by_cases bound : a.bind < 0
    · rw [if_pos bound] at ran; cases ran
    by_cases connected : a.connect < 0
    · rw [if_neg bound, if_pos connected] at ran; cases ran
    rw [if_neg bound, if_neg connected] at ran
    cases ran
    exact ⟨rfl, not_lt.mp bound, not_lt.mp connected, Kernel.descriptor_fresh _ _, rfl⟩

theorem socket6_add_failed (ran : socket6Add addr a p = .failed code q) :
    (a.socket = none ∧ q = p) ∨
      (a.bind < 0 ∨ a.connect < 0) ∧ ∃ fd k, fd ∉ p.kernel.fds ∧ k.fds = insert fd p.kernel.fds ∧
        q = { ctx := socketAdd2 p.ctx { fd, ipproto := .udp, state := .udp6 }, kernel := k } := by
  unfold socket6Add at ran
  cases opened : a.socket with
  | none =>
    rw [opened] at ran
    cases ran
    exact .inl ⟨rfl, rfl⟩
  | some choice =>
    have fresh := p.kernel.descriptor_fresh choice
    rw [opened] at ran
    dsimp only at ran
    by_cases bound : a.bind < 0
    · rw [if_pos bound] at ran
      cases ran
      exact .inr ⟨.inl bound, _, _, fresh, rfl, rfl⟩
    by_cases connected : a.connect < 0
    · rw [if_neg bound, if_pos connected] at ran
      cases ran
      exact .inr ⟨.inr connected, _, _, fresh, rfl, rfl⟩
    rw [if_neg bound, if_neg connected] at ran
    cases ran

theorem socket6_add_returns : socket6Add addr a p ≠ .stopped := by
  intro ran
  unfold socket6Add at ran
  split at ran
  · cases ran
  · dsimp only at ran
    split_ifs at ran

end Outcomes

/-! ## One attempt -/

/-- `socket_find(ctx, fd)->peer = peer`. -/
def setPeer (fd peer : Int) : List Socket → List Socket
  | [] => []
  | s :: rest => if s.fd = fd then { s with peer } :: rest else s :: setPeer fd peer rest

def updateCtx (change : Context → Context) (p : Proxy) : Proxy := { p with ctx := change p.ctx }

/-- Add one of the sockets that all settings come from the configuration. -/
def configured (add : Config → Program Proxy Int) : Program Proxy Int := do
  let p ← Program.get
  add p.ctx.toConfig

/-- The uPNP (UDP) part of `sockets_bind`. -/
def bindUpnpUdp (host : Host) (a : BindAnswers) : Program Proxy Unit := do
  let lanSock ← configured fun cfg =>
    socketAdd host cfg.lan anyaddr cfg.upnpUdpPort .udp 1 1 a.ssdpLan
  socketMcastJoin a.ssdpLanJoin
  Program.modify (updateCtx fun ctx => { ctx with lanSsdpSock := lanSock })
  let wanSock ← configured fun cfg =>
    socketAdd host cfg.wan anyaddr cfg.upnpUdpPort .udp 1 1 a.ssdpWan
  socketMcastJoin a.ssdpWanJoin
  Program.modify (updateCtx fun ctx =>
    { ctx with wanSsdpSock := wanSock
               sockets := setPeer wanSock lanSock (setPeer lanSock wanSock ctx.sockets) })

/-- The extended NAT-PMP part. -/
def bindNatPmpExt (host : Host) (a : BindAnswers) : Program Proxy Unit := do
  let lanSock ← configured fun cfg =>
    socketAdd host cfg.lan cfg.lanIP cfg.natpmpUdpPort .udp 0 0 a.extLan
  Program.modify (updateCtx fun ctx => { ctx with natPmpLanSock := lanSock })
  let bindme ← Program.cond (fun p => p.ctx.wanIPv6 = in6addrAny) (ifaceIp6Get host a.netlink)
    (do let p ← Program.get; pure p.ctx.wanIPv6)
  let _sock ← (socket6Add bindme a.ext6).keeping fun result =>
    updateCtx fun ctx => { ctx with natPmpExtSock := result }
  pure ()

/-- The NAT-PMP part. -/
def bindNatPmp (host : Host) (a : BindAnswers) : Program Proxy Unit := do
  let _sock ← configured fun cfg =>
    socketAdd host cfg.lan cfg.lanIP cfg.natpmpUdpPort .udp 0 0 a.natPmp
  pure ()

/-- The uPNP (TCP) part. -/
def bindUpnpTcp (host : Host) (a : BindAnswers) : Program Proxy Unit := do
  let _sock1 ← configured fun cfg =>
    socketAdd host cfg.lan cfg.lanIP cfg.upnpTcpPort1 .tcp 0 0 a.upnpTcp1
  let _sock2 ← configured fun cfg =>
    socketAdd host cfg.lan cfg.lanIP cfg.upnpTcpPort2 .tcp 0 0 a.upnpTcp2
  pure ()

/-- The socket that all forwarded queries share, at a random port. -/
def bindShared (host : Host) (a : BindAnswers) : Program Proxy Unit := do
  let _sock ← (configured fun cfg => socketAdd host cfg.wan cfg.wanIP 0 .udp 0 0 a.shared).keeping
    fun result => updateCtx fun ctx => { ctx with sharedUdpSockFd := result }
  pure ()

/-- Whether `sockets_bind` opens the shared socket. -/
def Config.sharesSocket (cfg : Config) : Prop :=
  cfg.sharedUdpSock ≠ 0 ∧ (cfg.enableUpnpUdp ≠ 0 ∨ cfg.enableNatPmp ≠ 0)

instance (cfg : Config) : Decidable cfg.sharesSocket := inferInstanceAs (Decidable (_ ∧ _))

/-- `sockets_bind`. -/
def socketsBind (host : Host) (a : BindAnswers) : Program Proxy Unit := do
  Program.when (fun p => p.ctx.enableUpnpUdp ≠ 0) (bindUpnpUdp host a)
  Program.when (fun p => p.ctx.enableNatPmpExt ≠ 0) (bindNatPmpExt host a)
  Program.when (fun p => p.ctx.enableNatPmp ≠ 0) (bindNatPmp host a)
  Program.when (fun p => p.ctx.enableUpnpTcp ≠ 0) (bindUpnpTcp host a)
  Program.when (fun p => p.ctx.sharesSocket) (bindShared host a)

/-- `sanity_check`; `main` goes on unless it is zero. -/
def sanityCheck (cfg : Config) : Int :=
  if cfg.enableNatPmp = 0 ∧ cfg.enableUpnpTcp = 0 ∧ cfg.enableUpnpUdp = 0 ∧ cfg.enableNatPmpExt = 0 then 0
  else if cfg.enableNatPmp ≠ 0 ∧ cfg.enableNatPmpExt ≠ 0 then -1
  else 1

/-! ## Retries -/

/-- The loop of `sockets_close`: each round deletes the first socket. -/
def socketsCloseLoop : Nat → Proxy → Proxy
  | 0, p => p
  | fuel + 1, p =>
    match p.ctx.sockets with
    | [] => p
    | s :: _ => socketsCloseLoop fuel (socketDel p s.fd).proxy

def socketsClose (p : Proxy) : Proxy := socketsCloseLoop p.ctx.sockets.length p

/-- Where `main` is between its start and `run`. -/
inductive Start where
  | trying (p : Proxy)
  | running (p : Proxy)
  | stopped

/-- One attempt of `main` to bind its sockets, with the clean-up after a failed
one in persistent mode. -/
def startAttempt (host : Host) : Start → BindAnswers → Start
  | .trying p, a =>
    match socketsBind host a p with
    | .done _ p' => .running p'
    | .failed _ p' => if p.ctx.persistent ≠ 0 then .trying (socketsClose p') else .stopped
    | .stopped => .stopped
  | done, _ => done

/-- The start of `main` as a machine; each input is one attempt. -/
def start (host : Host) : Machine Start BindAnswers Event := ⟨fun s a => (startAttempt host s a, [])⟩

end Portproxy
