import Mathlib.Data.List.TakeWhile
import Portproxy.CommandLine
import Portproxy.StartupDescriptors

/-! The ports that `sockets_bind` opens sockets at. They come from the command
line, where `atoi` reads them, and nothing asks on the way whether the number is
that of a port. -/
namespace Portproxy.PortArguments
open Fallible OptionVector StartupDescriptors

/-! ## The calls with a port -/

/-- A call that takes a port, with the value of that parameter. -/
inductive PortCall where
  | socketAdd (port : Int)
  | sockAdd (port : Int)
  deriving DecidableEq, Repr

def PortCall.port : PortCall → Int
  | socketAdd port | sockAdd port => port

/-- What `sockets_bind` is made of. -/
structure Calls (m : Type → Type) where
  get : m Proxy
  modify : (Proxy → Proxy) → m Unit
  cond : {α : Type} → (condition : Proxy → Prop) → [DecidablePred condition] → m α → m α → m α
  keeping : (Int → Proxy → Proxy) → m Int → m Int
  socketAdd : Host → CString → InAddr → Int → IpProto → Int → Int → SockAnswers → m Int
  socketMcastJoin : JoinAnswers → m Unit
  ifaceIp6Get : Host → NetlinkAnswers → m In6Addr
  socket6Add : In6Addr → Sock6Answers → m Int

namespace Calls

variable {m : Type → Type} [Monad m] (c : Calls m) (host : Host) (a : BindAnswers)

def configured (add : Config → m Int) : m Int := do
  let p ← c.get
  add p.ctx.toConfig

def bindUpnpUdp : m Unit := do
  let lanSock ← c.configured fun cfg =>
    c.socketAdd host cfg.lan anyaddr cfg.upnpUdpPort .udp 1 1 a.ssdpLan
  c.socketMcastJoin a.ssdpLanJoin
  c.modify (updateCtx fun ctx => { ctx with lanSsdpSock := lanSock })
  let wanSock ← c.configured fun cfg =>
    c.socketAdd host cfg.wan anyaddr cfg.upnpUdpPort .udp 1 1 a.ssdpWan
  c.socketMcastJoin a.ssdpWanJoin
  c.modify (updateCtx fun ctx =>
    { ctx with wanSsdpSock := wanSock
               sockets := setPeer wanSock lanSock (setPeer lanSock wanSock ctx.sockets) })

def bindNatPmpExt : m Unit := do
  let lanSock ← c.configured fun cfg =>
    c.socketAdd host cfg.lan cfg.lanIP cfg.natpmpUdpPort .udp 0 0 a.extLan
  c.modify (updateCtx fun ctx => { ctx with natPmpLanSock := lanSock })
  let bindme ← c.cond (fun p => p.ctx.wanIPv6 = in6addrAny) (c.ifaceIp6Get host a.netlink)
    (do let p ← c.get; pure p.ctx.wanIPv6)
  let _sock ← c.keeping (fun result => updateCtx fun ctx => { ctx with natPmpExtSock := result })
    (c.socket6Add bindme a.ext6)
  pure ()

def bindNatPmp : m Unit := do
  let _sock ← c.configured fun cfg =>
    c.socketAdd host cfg.lan cfg.lanIP cfg.natpmpUdpPort .udp 0 0 a.natPmp
  pure ()

def bindUpnpTcp : m Unit := do
  let _sock1 ← c.configured fun cfg =>
    c.socketAdd host cfg.lan cfg.lanIP cfg.upnpTcpPort1 .tcp 0 0 a.upnpTcp1
  let _sock2 ← c.configured fun cfg =>
    c.socketAdd host cfg.lan cfg.lanIP cfg.upnpTcpPort2 .tcp 0 0 a.upnpTcp2
  pure ()

def bindShared : m Unit := do
  let _sock ← c.keeping (fun result => updateCtx fun ctx => { ctx with sharedUdpSockFd := result })
    (c.configured fun cfg => c.socketAdd host cfg.wan cfg.wanIP 0 .udp 0 0 a.shared)
  pure ()

/-- `sockets_bind` over these calls. -/
def socketsBind : m Unit := do
  c.cond (fun p => p.ctx.enableUpnpUdp ≠ 0) (c.bindUpnpUdp host a) (pure ())
  c.cond (fun p => p.ctx.enableNatPmpExt ≠ 0) (c.bindNatPmpExt host a) (pure ())
  c.cond (fun p => p.ctx.enableNatPmp ≠ 0) (c.bindNatPmp host a) (pure ())
  c.cond (fun p => p.ctx.enableUpnpTcp ≠ 0) (c.bindUpnpTcp host a) (pure ())
  c.cond (fun p => p.ctx.sharesSocket) (c.bindShared host a) (pure ())

end Calls

/-- The calls as they are. -/
def plainCalls : Calls (Program Proxy) where
  get := Program.get
  modify := Program.modify
  cond := Program.cond
  keeping := Program.keeping
  socketAdd := socketAdd
  socketMcastJoin := socketMcastJoin
  ifaceIp6Get := ifaceIp6Get
  socket6Add := socket6Add

theorem plain_sockets_bind (host : Host) (a : BindAnswers) :
    plainCalls.socketsBind host a = Portproxy.socketsBind host a := rfl

/-- The calls with a record of the ports. A port becomes an `int` where it is
handed to `socket_add`, which hands it on to `sock_add`. -/
def recordedCalls : Calls (Recorded Proxy PortCall) where
  get := .asking [] Program.get
  modify change := .asking [] (Program.modify change)
  cond := Recorded.cond
  keeping := Recorded.keeping
  socketAdd host ifname addr port proto bindiface reuse a :=
    .asking [.socketAdd (int32 port), .sockAdd (int32 port)]
      (socketAdd host ifname addr (int32 port) proto bindiface reuse a)
  socketMcastJoin a := .asking [] (socketMcastJoin a)
  ifaceIp6Get host a := .asking [] (ifaceIp6Get host a)
  socket6Add addr a := .asking [] (socket6Add addr a)

/-- The calls with a port that one `sockets_bind` makes, in order. -/
def portCalls (host : Host) (a : BindAnswers) (p : Proxy) : List PortCall :=
  (recordedCalls.socketsBind host a p).1

/-! ## Which ports they are -/

/-- Both calls of one socket. -/
def socketCalls (port : Nat) : List PortCall := [.socketAdd (int32 port), .sockAdd (int32 port)]

def upnpUdpPorts (cfg : Config) : List PortCall := socketCalls cfg.upnpUdpPort ++ socketCalls cfg.upnpUdpPort

def natPmpPorts (cfg : Config) : List PortCall := socketCalls cfg.natpmpUdpPort

def upnpTcpPorts (cfg : Config) : List PortCall := socketCalls cfg.upnpTcpPort1 ++ socketCalls cfg.upnpTcpPort2

/-- The calls with a port of an attempt that succeeds. -/
def configPorts (cfg : Config) : List PortCall :=
  (if cfg.enableUpnpUdp ≠ 0 then upnpUdpPorts cfg else []) ++
    ((if cfg.enableNatPmpExt ≠ 0 then natPmpPorts cfg else []) ++
      ((if cfg.enableNatPmp ≠ 0 then natPmpPorts cfg else []) ++
        ((if cfg.enableUpnpTcp ≠ 0 then upnpTcpPorts cfg else []) ++
          (if cfg.sharesSocket then socketCalls 0 else []))))

/-- The recorded program is the program, and asks for ports that only the
configuration decides. -/
abbrev Opens (recorded : Recorded Proxy PortCall α) (program : Program Proxy α)
    (ports : Config → List PortCall) : Prop :=
  Recorded.Asks (fun p : Proxy => p.ctx.toConfig) recorded program ports

section
variable {host : Host} {p q : Proxy}

private theorem makes_config {program : Program Proxy α} {plan : Config → List Call}
    (makes : Makes host program plan) (ran : program p = .done value q) :
    q.ctx.toConfig = p.ctx.toConfig := by
  obtain ⟨-, _, _, grown, -⟩ := makes.done ran
  exact grown.config

/-- Only the sixteen bits that `htons` takes of a port count. -/
theorem socket_add_int (port : Int) :
    socketAdd host ifname addr (int32 port) proto only reuse a =
      socketAdd host ifname addr port proto only reuse a := by
  have same : uint16 (int32 port) = uint16 port := by
    unfold uint16 int32
    omega
  have bound (ephemeral : Nat) : boundPort (int32 port) ephemeral = boundPort port ephemeral := by
    unfold boundPort
    rw [same]
  funext p
  unfold socketAdd sockAdd
  simp only [bound]

private theorem get_config {value : Proxy} (ran : Program.get p = .done value q) :
    q.ctx.toConfig = p.ctx.toConfig := by
  cases ran
  rfl

private theorem join_config (ran : socketMcastJoin a p = .done () q) : q.ctx.toConfig = p.ctx.toConfig := by
  obtain ⟨-, -, rfl⟩ := mcast_join_done ran
  rfl

private theorem sock6_config (ran : socket6Add addr a p = .done fd q) : q.ctx.toConfig = p.ctx.toConfig := by
  obtain ⟨-, -, -, -, rfl⟩ := socket6_add_done ran
  rfl

theorem update_opens {change : Context → Context} (config : ∀ ctx, (change ctx).toConfig = ctx.toConfig) :
    Opens (recordedCalls.modify (updateCtx change)) (Program.modify (updateCtx change)) fun _ => [] :=
  .asking [] fun {p _ _} ran => by cases ran; exact config p.ctx

private theorem silent_then {first : Recorded Proxy PortCall α} {plainFirst : Program Proxy α}
    {next : α → Recorded Proxy PortCall β} {plainNext : α → Program Proxy β}
    (begins : Opens first plainFirst fun _ => []) (ends : ∀ value, Opens (next value) (plainNext value) ports) :
    Opens (first >>= next) (plainFirst >>= plainNext) ports :=
  begins.bind ends

private theorem then_silent {first : Recorded Proxy PortCall α} {plainFirst : Program Proxy α}
    {next : α → Recorded Proxy PortCall β} {plainNext : α → Program Proxy β}
    (begins : Opens first plainFirst ports) (ends : ∀ value, Opens (next value) (plainNext value) fun _ => []) :
    Opens (first >>= next) (plainFirst >>= plainNext) ports := by
  have both := begins.bind ends
  simp only [List.append_nil] at both
  exact both

private theorem either_silent {yes no : Recorded Proxy PortCall α} {plainYes plainNo : Program Proxy α}
    (decides : Config → Prop) [DecidablePred decides] (ifYes : Opens yes plainYes fun _ => [])
    (ifNo : Opens no plainNo fun _ => []) :
    Opens (recordedCalls.cond (fun p => decides p.ctx.toConfig) yes no)
      (Program.cond (fun p => decides p.ctx.toConfig) plainYes plainNo) fun _ => [] := by
  have both := Recorded.Asks.cond decides (fun _ => Iff.rfl) ifYes ifNo
  simp only [ite_self] at both
  exact both

theorem socket_add_opens (port : Nat) :
    Opens (recordedCalls.socketAdd host ifname addr port proto only reuse a)
      (socketAdd host ifname addr port proto only reuse a) fun _ => socketCalls port := by
  rw [← socket_add_int]
  exact .asking _ (makes_config socket_add_makes)

theorem configured_opens {add : Config → Recorded Proxy PortCall Int} {plainAdd : Config → Program Proxy Int}
    {ports : Config → List PortCall} (opens : ∀ cfg, Opens (add cfg) (plainAdd cfg) fun _ => ports cfg) :
    Opens (recordedCalls.configured add) (configured plainAdd) ports where
  same p := (opens p.ctx.toConfig).same p
  asked p := (opens p.ctx.toConfig).asked p
  done {p _ _} ran := (opens p.ctx.toConfig).done ran

theorem upnp_udp_opens : Opens (recordedCalls.bindUpnpUdp host a) (bindUpnpUdp host a) upnpUdpPorts := by
  refine (configured_opens fun cfg => socket_add_opens cfg.upnpUdpPort).bind fun lanSock => ?_
  refine silent_then (.asking [] join_config) fun _ => ?_
  refine silent_then (update_opens fun _ => rfl) fun _ => ?_
  refine then_silent (configured_opens fun cfg => socket_add_opens cfg.upnpUdpPort) fun wanSock => ?_
  refine silent_then (.asking [] join_config) fun _ => ?_
  exact update_opens fun _ => rfl

theorem nat_pmp_ext_opens : Opens (recordedCalls.bindNatPmpExt host a) (bindNatPmpExt host a) natPmpPorts := by
  refine then_silent (configured_opens fun cfg => socket_add_opens cfg.natpmpUdpPort) fun lanSock => ?_
  refine silent_then (update_opens fun _ => rfl) fun _ => ?_
  refine silent_then (either_silent (fun cfg => cfg.wanIPv6 = in6addrAny) ?_ ?_) fun bindme => ?_
  · exact .asking [] (makes_config ip6_get_makes)
  · exact silent_then (.asking [] get_config) fun p => .ret p.ctx.wanIPv6
  refine then_silent ?_ fun _ => .ret ()
  exact (Recorded.Asks.asking [] sock6_config).keeping fun _ _ => rfl

theorem nat_pmp_opens : Opens (recordedCalls.bindNatPmp host a) (bindNatPmp host a) natPmpPorts :=
  then_silent (configured_opens fun cfg => socket_add_opens cfg.natpmpUdpPort) fun _ => .ret ()

theorem upnp_tcp_opens : Opens (recordedCalls.bindUpnpTcp host a) (bindUpnpTcp host a) upnpTcpPorts := by
  refine (configured_opens fun cfg => socket_add_opens cfg.upnpTcpPort1).bind fun _ => ?_
  exact then_silent (configured_opens fun cfg => socket_add_opens cfg.upnpTcpPort2) fun _ => .ret ()

theorem shared_opens :
    Opens (recordedCalls.bindShared host a) (bindShared host a) fun _ => socketCalls 0 := by
  refine then_silent ?_ fun _ => .ret ()
  exact (configured_opens fun _ => socket_add_opens 0).keeping fun _ _ => rfl

private theorem when_opens {recorded : Recorded Proxy PortCall Unit} {program : Program Proxy Unit}
    (enabled : Config → Prop) [DecidablePred enabled] (opens : Opens recorded program ports) :
    Opens (recordedCalls.cond (fun p => enabled p.ctx.toConfig) recorded (pure ()))
      (Program.when (fun p => enabled p.ctx.toConfig) program) fun cfg => if enabled cfg then ports cfg else [] :=
  .cond enabled (fun _ => Iff.rfl) opens (.ret ())

/-- An attempt opens the ports of its configuration until it gives up. -/
theorem sockets_bind_opens : Opens (recordedCalls.socketsBind host a) (socketsBind host a) configPorts := by
  refine (when_opens (fun cfg => cfg.enableUpnpUdp ≠ 0) upnp_udp_opens).bind fun _ => ?_
  refine (when_opens (fun cfg => cfg.enableNatPmpExt ≠ 0) nat_pmp_ext_opens).bind fun _ => ?_
  refine (when_opens (fun cfg => cfg.enableNatPmp ≠ 0) nat_pmp_opens).bind fun _ => ?_
  refine (when_opens (fun cfg => cfg.enableUpnpTcp ≠ 0) upnp_tcp_opens).bind fun _ => ?_
  exact when_opens Config.sharesSocket shared_opens

end

/-! ## An attempt that succeeds -/

def openSock : SockAnswers := { socket := some 3 }

/-- Every call succeeds; the WAN interface has one global address. -/
def openAnswers (wan : CString) : BindAnswers where
  ssdpLan := openSock
  ssdpWan := openSock
  extLan := openSock
  netlink :=
    { socket := some 3
      dump := some ([{ index := 1, attrs := [⟨iflaIfname, wan⟩] }],
        [{ family := afInet6, index := 1, attrs := [⟨ifaAddress, [0x20]⟩] }]) }
  ext6 := { socket := some 3 }
  natPmp := openSock
  upnpTcp1 := openSock
  upnpTcp2 := openSock
  shared := openSock

section
variable {host : Host} {cfg : Config}

theorem open_sock_succeeds : (Call.sockAdd addr proto only reuse openSock).succeeds host = true := by
  simp [Call.succeeds, Call.binds, openSock]

theorem netlink_succeeds (ends : 0 ∉ wan) : (Call.ip6Get wan (openAnswers wan).netlink).succeeds host = true := by
  have whole : ∀ c ∈ wan, decide (c ≠ 0) = true := fun c member =>
    decide_eq_true fun zero => ends (zero ▸ member)
  have name : (rtattr [⟨iflaIfname, wan⟩] iflaIfname).map (·.takeWhile (· ≠ 0)) = some wan :=
    congrArg some (List.takeWhile_eq_self_iff.mpr whole)
  have taken : skipsAddr host (in6OfBytes [0x20]) = false := by
    obtain ⟨order, charSigned⟩ := host
    cases charSigned <;> rfl
  have found : ipaddr6GlobalGet host 1 [{ family := afInet6, index := 1, attrs := [⟨ifaAddress, [0x20]⟩] }] =
      some (in6OfBytes [0x20]) := by
    simp [ipaddr6GlobalGet, rtattr, taken]
  simp only [Call.succeeds, openAnswers, Option.any_some, ifaceIp6Loop, if_pos name, found]
  rfl

/-- For a WAN interface whose name is a string, all sockets can be opened. -/
theorem plan_succeeds (ends : 0 ∉ cfg.wan) :
    ∀ call ∈ plan (openAnswers cfg.wan) cfg, call.succeeds host = true := by
  have join : (Call.mcastJoin {}).succeeds host = true := by simp [Call.succeeds]
  have sock6 : (Call.sock6Add { socket := some 3 }).succeeds host = true := by simp [Call.succeeds]
  have ext : ∀ call ∈ natPmpExtCalls (openAnswers cfg.wan) cfg, call.succeeds host = true := by
    intro call member
    unfold natPmpExtCalls at member
    split at member
    · simp only [List.mem_append, List.mem_singleton] at member
      rcases member with rfl | rfl | rfl
      · exact open_sock_succeeds
      · exact netlink_succeeds ends
      · exact sock6
    · simp only [List.mem_append, List.mem_singleton, List.not_mem_nil, false_or] at member
      rcases member with rfl | rfl
      · exact open_sock_succeeds
      · exact sock6
  intro call member
  simp only [plan, List.mem_append, List.mem_ite_nil_right, ne_eq] at member
  rcases member with ⟨-, udp⟩ | ⟨-, natPmpExt⟩ | ⟨-, natPmp⟩ | ⟨-, tcp⟩ | ⟨-, shared⟩
  · simp only [upnpUdpCalls, List.mem_cons, List.not_mem_nil, or_false] at udp
    rcases udp with rfl | rfl | rfl | rfl
    · exact open_sock_succeeds
    · exact join
    · exact open_sock_succeeds
    · exact join
  · exact ext call natPmpExt
  · obtain rfl := List.mem_singleton.mp natPmp
    exact open_sock_succeeds
  · simp only [upnpTcpCalls, List.mem_cons, List.not_mem_nil, or_false] at tcp
    rcases tcp with rfl | rfl
    · exact open_sock_succeeds
    · exact open_sock_succeeds
  · obtain rfl := List.mem_singleton.mp shared
    exact open_sock_succeeds

/-- An attempt under this configuration makes the call exactly if it is one of
those of a successful attempt. -/
theorem mem_port_calls (host : Host) (ends : 0 ∉ cfg.wan) (call : PortCall) :
    (∃ a p, p.ctx.toConfig = cfg ∧ call ∈ portCalls host a p) ↔ call ∈ configPorts cfg := by
  constructor
  · rintro ⟨a, p, rfl, made⟩
    exact (sockets_bind_opens.asked p).subset made
  · intro member
    let p : Proxy := { ctx := { toConfig := cfg }, kernel := {} }
    refine ⟨openAnswers cfg.wan, p, rfl, ?_⟩
    have follows : Makes host (socketsBind host (openAnswers cfg.wan)) (plan (openAnswers cfg.wan)) :=
      sockets_bind_makes
    have succeeds : ∀ call ∈ plan (openAnswers cfg.wan) p.ctx.toConfig, call.succeeds host = true :=
      plan_succeeds ends
    cases ran : socketsBind host (openAnswers cfg.wan) p with
    | done value q =>
      obtain ⟨all, -⟩ := sockets_bind_opens.done ran
      unfold portCalls
      rw [all]
      exact member
    | failed code q => exact absurd succeeds (follows.failed ran).1
    | stopped =>
      obtain ⟨call, made, -, fails⟩ := follows.stopped ran
      rw [made_of_all succeeds] at made
      simp [succeeds call made] at fails

end

/-! ## Ports -/

/-- The number is a port, and the two uses `sock_add` makes of it agree: its text
fits `port_char`, and `htons` keeps it. -/
structure IsPort (port : Int) : Prop where
  low : 0 ≤ port
  high : port ≤ 65535
  text : (toString port).length + 1 ≤ 6
  kept : (uint16 port : Int) = port

theorem is_port_iff : IsPort port ↔ 0 ≤ port ∧ port ≤ 65535 := by
  constructor
  · exact fun fits => ⟨fits.low, fits.high⟩
  · rintro ⟨low, high⟩
    refine ⟨low, high, ?_, ?_⟩
    · obtain ⟨n, rfl⟩ := Int.eq_ofNat_of_zero_le low
      have digits : (Nat.repr n).length ≤ 5 := (Nat.length_repr_le_iff (by decide)).mpr (by omega)
      exact Nat.succ_le_succ digits
    · rw [uint16_of_port low (by omega), Int.toNat_of_nonneg low]

theorem socket_calls_ports (port : Nat) :
    (∀ call ∈ socketCalls port, IsPort call.port) ↔ IsPort (int32 port) := by
  simp [socketCalls, PortCall.port]

/-- The options that give a protocol its ports. -/
def portOptions : CmdOption → List CmdOption
  | .natPmp | .natPmpExt => [.natPmpPort]
  | .upnpUdp => [.upnpUdpPort]
  | .upnpTcp => [.upnpTcpPort1, .upnpTcpPort2]
  | _ => []

/-- The port an option sets. -/
def portField : CmdOption → Option (Config → Nat)
  | .natPmpPort => some fun cfg => cfg.natpmpUdpPort
  | .upnpUdpPort => some fun cfg => cfg.upnpUdpPort
  | .upnpTcpPort1 => some fun cfg => cfg.upnpTcpPort1
  | .upnpTcpPort2 => some fun cfg => cfg.upnpTcpPort2
  | _ => none

variable {env : Surroundings} {args : List CString} {line : CommandLine}
  {items : List (Setting CmdOption CString)} {opt other : CmdOption}

/-- A port is the last operand of its option, as an `unsigned int`, or else the
one of the defaults. -/
theorem port_set {port : Config → Nat} (sets : portField opt = some port)
    (applied : (cmdLineOptions env).apply items ctx = some line) :
    port line.toConfig = ((lastOperand opt items).map fun arg => (uint32 (atoi env.longBits arg)).toNat).getD
      (port ctx.toConfig) := by
  refine option_set opt (fun ctx => port ctx.toConfig) (fun arg => (uint32 (atoi env.longBits arg)).toNat)
    ?_ ?_ ?_ applied
  · cases opt <;> cases sets <;> rfl
  · intro arg ctx
    cases opt <;> cases sets <;> rfl
  · intro other differs arg ctx
    cases opt <;> cases sets <;> cases other <;>
      first
      | exact absurd rfl differs
      | rfl

/-- The name of the WAN interface is a string if those of the vector are. -/
theorem wan_ends (strings : ∀ arg ∈ args, 0 ∉ arg) (accepted : cmdLineParse env args = .done line) :
    0 ∉ line.wan := by
  obtain ⟨-, items, split, applied⟩ := cmd_line_parse_done.mp accepted
  have kept : ∀ other ≠ CmdOption.wanIface, ∀ arg (ctx : CommandLine),
      (other.change env arg ctx).wan = ctx.wan := by
    intro other differs arg ctx
    cases other <;>
      first
      | exact absurd rfl differs
      | rfl
  have set := option_set .wanIface (fun ctx => ctx.wan) copyName rfl (fun _ _ => rfl) kept applied
  change line.wan = _ at set
  rw [set]
  cases last : lastOperand CmdOption.wanIface items with
  | none =>
    change 0 ∉ cstr "eth0.1"
    decide
  | some arg =>
    have given : arg ∈ args := Options.operand_mem ((Options.splits_iff _ _ _).mpr split) last
    exact fun zero => strings arg given (List.mem_of_mem_take zero)

/-- On its way through the `unsigned int` a number stays what `atoi` has read. -/
theorem port_of_operand (longBits : Nat) (arg : CString) :
    int32 ((uint32 (atoi longBits arg)).toNat : Nat) = atoi longBits arg := by
  unfold atoi uint32 int32
  omega

/-! ## The ports of a command line -/

private theorem ports_if {enabled : Prop} [Decidable enabled] {calls : List PortCall} :
    (∀ call ∈ if enabled then calls else [], IsPort call.port) ↔
      (enabled → ∀ call ∈ calls, IsPort call.port) := by
  by_cases on : enabled <;> simp [on]

theorem config_ports_iff (cfg : Config) :
    (∀ call ∈ configPorts cfg, IsPort call.port) ↔
      (cfg.enableUpnpUdp ≠ 0 → IsPort (int32 cfg.upnpUdpPort)) ∧
        (cfg.enableNatPmpExt ≠ 0 → IsPort (int32 cfg.natpmpUdpPort)) ∧
        (cfg.enableNatPmp ≠ 0 → IsPort (int32 cfg.natpmpUdpPort)) ∧
        (cfg.enableUpnpTcp ≠ 0 → IsPort (int32 cfg.upnpTcpPort1) ∧ IsPort (int32 cfg.upnpTcpPort2)) := by
  have shared : IsPort (int32 (0 : Nat)) := is_port_iff.mpr (by decide)
  simp only [configPorts, List.forall_mem_append, ports_if, upnpUdpPorts, natPmpPorts, upnpTcpPorts,
    socket_calls_ports, shared, implies_true, and_true, and_self]

/-- An attempt asks for the ports of the protocols that are on. -/
theorem line_ports_iff (line : CommandLine) :
    (∀ call ∈ configPorts line.toConfig, IsPort call.port) ↔
      ∀ opt feature, opt.feature = some feature → feature line ≠ 0 → ∀ portOpt ∈ portOptions opt,
        ∀ port, portField portOpt = some port → IsPort (int32 (port line.toConfig)) := by
  rw [config_ports_iff]
  constructor
  · rintro ⟨upnpUdp, natPmpExt, natPmp, upnpTcp⟩ opt feature switches on portOpt gives port sets
    cases opt <;> cases switches
    · obtain rfl := List.mem_singleton.mp gives
      cases sets
      exact natPmp on
    · obtain rfl := List.mem_singleton.mp gives
      cases sets
      exact natPmpExt on
    · obtain rfl := List.mem_singleton.mp gives
      cases sets
      exact upnpUdp on
    · rcases List.mem_pair.mp gives with rfl | rfl <;> cases sets
      · exact (upnpTcp on).1
      · exact (upnpTcp on).2
  · intro ports
    refine ⟨fun on => ?_, fun on => ?_, fun on => ?_, fun on => ⟨?_, ?_⟩⟩
    · exact ports .upnpUdp _ rfl on .upnpUdpPort List.mem_cons_self _ rfl
    · exact ports .natPmpExt _ rfl on .natPmpPort List.mem_cons_self _ rfl
    · exact ports .natPmp _ rfl on .natPmpPort List.mem_cons_self _ rfl
    · exact ports .upnpTcp _ rfl on .upnpTcpPort1 List.mem_cons_self _ rfl
    · exact ports .upnpTcp _ rfl on .upnpTcpPort2 (List.mem_cons_of_mem _ List.mem_cons_self) _ rfl

theorem default_port (env : Surroundings) {port : Config → Nat} (sets : portField opt = some port) :
    IsPort (int32 (port (ctxDefaults env).toConfig)) := by
  rw [is_port_iff]
  cases opt <;> cases sets <;> simp [ctxDefaults, int32]

/-- A port that is not given is that of the defaults. -/
theorem stored_port_iff {port : Config → Nat} (sets : portField opt = some port)
    (applied : (cmdLineOptions env).apply items (ctxDefaults env) = some line) :
    IsPort (int32 (port line.toConfig)) ↔ ∀ arg, lastOperand opt items = some arg →
      0 ≤ atoi env.longBits arg ∧ atoi env.longBits arg ≤ 65535 := by
  rw [port_set sets applied]
  cases lastOperand opt items with
  | none => simpa using default_port env sets
  | some arg =>
    rw [Option.map_some, Option.getD_some, port_of_operand, is_port_iff]
    simp

/-- Every operand that gives a port to a protocol that is on is a port. A later
operand of the same option takes its place. -/
def PortsInRange (env : Surroundings) (items : List (Setting CmdOption CString)) : Prop :=
  ∀ opt feature, opt.feature = some feature →
    ((lastOperand opt items).map (atoi env.longBits)).getD (feature (ctxDefaults env)) ≠ 0 →
      ∀ portOpt ∈ portOptions opt, ∀ arg, lastOperand portOpt items = some arg →
        0 ≤ atoi env.longBits arg ∧ atoi env.longBits arg ≤ 65535

theorem in_range_iff (applied : (cmdLineOptions env).apply items (ctxDefaults env) = some line) :
    (∀ call ∈ configPorts line.toConfig, IsPort call.port) ↔ PortsInRange env items := by
  rw [line_ports_iff]
  refine forall₃_congr fun opt feature switches => ?_
  rw [feature_set opt switches applied]
  refine forall_congr' fun _ => forall₂_congr fun portOpt gives => ?_
  obtain ⟨port, sets⟩ : ∃ port, portField portOpt = some port := by
    have all : ∀ portOpt ∈ portOptions opt, (portField portOpt).isSome = true := by
      cases opt <;> decide
    exact Option.isSome_iff_exists.mp (all portOpt gives)
  rw [← stored_port_iff sets applied]
  simp [sets]

/-- The ports of every call are ports exactly if those given on the command line
are. -/
theorem ports_valid_iff (env : Surroundings) (args : List CString) (line : CommandLine)
    (items : List (Setting CmdOption CString)) (strings : ∀ arg ∈ args, 0 ∉ arg)
    (accepted : cmdLineParse env args = .done line) (splits : (cmdLineOptions env).Splits args items) :
    (∀ a p, p.ctx.toConfig = line.toConfig → ∀ call ∈ portCalls env.host a p, IsPort call.port) ↔
      PortsInRange env items := by
  have applied : (cmdLineOptions env).apply items (ctxDefaults env) = some line := by
    obtain ⟨-, items', split, applied⟩ := cmd_line_parse_done.mp accepted
    obtain rfl := Option.some.inj (split.symm.trans ((Options.splits_iff _ _ _).mp splits))
    exact applied
  rw [← in_range_iff applied]
  have asked (call : PortCall) := mem_port_calls env.host (wan_ends strings accepted) call
  constructor
  · intro valid call member
    obtain ⟨a, p, config, made⟩ := (asked call).mpr member
    exact valid a p config call made
  · intro valid a p config call made
    exact valid call ((asked call).mp ⟨a, p, config, made⟩)

/-- `portproxy --nat-pmp-port 100000`, with extended NAT-PMP on by default. -/
def highPort : List CString := [cstr "--nat-pmp-port", cstr "100000"]

/-- What it leaves in the context. -/
def highPortLine : CommandLine := { ctxDefaults {} with natpmpUdpPort := 100000 }

theorem high_port_iff :
    (∀ a p, p.ctx.toConfig = highPortLine.toConfig → ∀ call ∈ portCalls littleHost a p, IsPort call.port) ↔
      PortsInRange {} [{ key := .natPmpPort, operand := some (cstr "100000") }] :=
  ports_valid_iff {} highPort highPortLine _ (by decide) (by decide)
    (.operand (by decide) rfl .nil)

/-- The first socket is asked for at port 100000, whose text does not fit its
buffer, and which `htons` makes 34464. -/
theorem high_port_asked :
    (¬ ∀ line, cmdLineParse {} highPort = .done line → ∀ a p, p.ctx.toConfig = line.toConfig →
      ∀ call ∈ portCalls littleHost a p, IsPort call.port) ∧
      (toString (100000 : Int)).length + 1 = 7 ∧ uint16 100000 = 34464 := by
  refine ⟨fun valid => ?_, by decide, by decide⟩
  have accepted : cmdLineParse {} highPort = .done highPortLine := by decide
  have asked : PortCall.sockAdd 100000 ∈
      portCalls littleHost {} { ctx := { toConfig := highPortLine.toConfig }, kernel := {} } := by decide
  have port : IsPort 100000 := valid highPortLine accepted {} _ rfl _ asked
  have high : (100000 : Int) ≤ 65535 := port.high
  omega

end Portproxy.PortArguments
