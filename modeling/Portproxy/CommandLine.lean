import Portproxy.Interfaces
import Portproxy.OptionVector
import Portproxy.RouteTable
import Portproxy.Startup

/-! The command line: the defaults of `ctx_defaults`, the option loop of
`cmd_line_parse`, and what `main` makes of the result before it binds sockets. -/
namespace Portproxy
open OptionVector

/-- What the defaults and the numbers depend on: the host with the width of its
`long`, the interfaces of `if_list_get`, and what `/proc/net/route` holds. -/
structure Surroundings where
  host : Host := littleHost
  longBits : Nat := 64
  ifaces : List Iface := []
  route : Option (List UInt8) := none
  deriving DecidableEq, Repr

/-- What the command line sets: the configuration, and how to run. -/
structure CommandLine extends Config where
  loglevel : Int := 0
  daemon : Int := 0
  deriving DecidableEq, Repr

/-- `default_lan_ip`. -/
def defaultLanIp (env : Surroundings) (lan : CString) : InAddr := ifaceIp env.ifaces lan

/-- `default_wan_ip`. -/
def defaultWanIp (env : Surroundings) (wan : CString) : InAddr := ifaceIp env.ifaces wan

/-- `ctx_defaults`. -/
def ctxDefaults (env : Surroundings) : CommandLine where
  lan := cstr "br-lan"
  wan := cstr "eth0.1"
  lanIP := defaultLanIp env (cstr "br-lan")
  wanIP := defaultWanIp env (cstr "eth0.1")
  aftrIPv4 := defaultRouterIp env.host env.longBits env.route
  natpmpUdpPort := 5351
  upnpUdpPort := 1900
  upnpTcpPort1 := 2869
  upnpTcpPort2 := 2857
  sharedUdpSock := 1
  enableNatPmp := 0
  enableNatPmpExt := 1
  enableUpnpUdp := 0
  enableUpnpTcp := 0
  bindExtNatPmpToNatpmpPort := 0
  timeout := 10

/-! ## The options -/

/-- The options of `cmd_line_parse`, in the order in which it compares them. -/
inductive CmdOption where
  | help
  | persistent
  | lanIface
  | wanIface
  | lanIP
  | aftrIPv4
  | wanIP
  | wanIPv6
  | aftrIPv6
  | natPmp
  | natPmpExt
  | upnpUdp
  | upnpTcp
  | timeout
  | natPmpPort
  | upnpUdpPort
  | upnpTcpPort1
  | upnpTcpPort2
  | sharedUdpSock
  | verbose
  | daemon
  deriving DecidableEq, Repr

namespace CmdOption

def all : List CmdOption :=
  [help, persistent, lanIface, wanIface, lanIP, aftrIPv4, wanIP, wanIPv6, aftrIPv6, natPmp, natPmpExt,
    upnpUdp, upnpTcp, timeout, natPmpPort, upnpUdpPort, upnpTcpPort1, upnpTcpPort2, sharedUdpSock,
    verbose, daemon]

/-- The string the option is compared with. -/
def name : CmdOption → CString
  | help => cstr "-h"
  | persistent => cstr "--persistent"
  | lanIface => cstr "--lan-iface"
  | wanIface => cstr "--wan-iface"
  | lanIP => cstr "-l"
  | aftrIPv4 => cstr "-a"
  | wanIP => cstr "-w"
  | wanIPv6 => cstr "-b"
  | aftrIPv6 => cstr "-s"
  | natPmp => cstr "--nat-pmp"
  | natPmpExt => cstr "--nat-pmp-ext"
  | upnpUdp => cstr "--upnp-udp"
  | upnpTcp => cstr "--upnp-tcp"
  | timeout => cstr "--timeout"
  | natPmpPort => cstr "--nat-pmp-port"
  | upnpUdpPort => cstr "--upnp-udp-port"
  | upnpTcpPort1 => cstr "--upnp-tcp-port1"
  | upnpTcpPort2 => cstr "--upnp-tcp-port2"
  | sharedUdpSock => cstr "--shared-udp-sock"
  | verbose => cstr "-v"
  | daemon => cstr "-g"

/-- The first option whose name the word is, in any case of letters. -/
def ofWord (word : CString) : Option CmdOption := all.find? fun opt => strcasecmpEq word opt.name

end CmdOption

/-- An operand that is stored as the number `atoi` reads. -/
def numberOperand (env : Surroundings) (store : Int → CommandLine → CommandLine) :
    Action CommandLine CString :=
  .operand fun arg => some (store (atoi env.longBits arg))

/-- An operand that `inet_pton` reads; the result of the call is not looked at,
and nothing is stored if it fails. -/
def uncheckedAddress (read : CString → Option α) (store : α → CommandLine → CommandLine) :
    Action CommandLine CString :=
  .operand fun arg => some fun ctx =>
    match read arg with
    | some addr => store addr ctx
    | none => ctx

/-- An operand that `inet_pton` reads and that must be an address. -/
def checkedAddress (read : CString → Option α) (store : α → CommandLine → CommandLine) :
    Action CommandLine CString :=
  .operand fun arg => (read arg).map store

/-- `strncpy` of an interface name. 255 bytes or more leave no room for the
terminating zero; no interface has such a name. -/
def copyName (name : CString) : CString := name.take 255

/-- What an option does. -/
def CmdOption.action (env : Surroundings) : CmdOption → Action CommandLine CString
  | help => .stop
  | persistent => .flag fun ctx => { ctx with persistent := 1 }
  | lanIface => .operand fun arg => some fun ctx =>
      { ctx with lan := copyName arg, lanIP := defaultLanIp env (copyName arg) }
  | wanIface => .operand fun arg => some fun ctx =>
      { ctx with wan := copyName arg, wanIP := defaultWanIp env (copyName arg) }
  | lanIP => uncheckedAddress inetPton4 fun addr ctx => { ctx with lanIP := addr }
  | aftrIPv4 => uncheckedAddress inetPton4 fun addr ctx => { ctx with aftrIPv4 := addr }
  | wanIP => uncheckedAddress inetPton4 fun addr ctx => { ctx with wanIP := addr }
  | wanIPv6 => checkedAddress inetPton6 fun addr ctx => { ctx with wanIPv6 := addr }
  | aftrIPv6 => checkedAddress inetPton6 fun addr ctx => { ctx with aftrIPv6 := addr }
  | natPmp => numberOperand env fun n ctx => { ctx with enableNatPmp := n }
  | natPmpExt => numberOperand env fun n ctx => { ctx with enableNatPmpExt := n }
  | upnpUdp => numberOperand env fun n ctx => { ctx with enableUpnpUdp := n }
  | upnpTcp => numberOperand env fun n ctx => { ctx with enableUpnpTcp := n }
  | timeout => numberOperand env fun n ctx => { ctx with timeout := n }
  | natPmpPort => numberOperand env fun n ctx => { ctx with natpmpUdpPort := (uint32 n).toNat }
  | upnpUdpPort => numberOperand env fun n ctx => { ctx with upnpUdpPort := (uint32 n).toNat }
  | upnpTcpPort1 => numberOperand env fun n ctx => { ctx with upnpTcpPort1 := (uint32 n).toNat }
  | upnpTcpPort2 => numberOperand env fun n ctx => { ctx with upnpTcpPort2 := (uint32 n).toNat }
  | sharedUdpSock => numberOperand env fun n ctx => { ctx with sharedUdpSock := (uint32 n).toNat }
  | verbose => .flag fun ctx => { ctx with loglevel := ctx.loglevel + 1 }
  | daemon => .flag fun ctx => { ctx with daemon := 1 }

def cmdLineOptions (env : Surroundings) : Options CmdOption CommandLine CString where
  key := CmdOption.ofWord
  action := CmdOption.action env

/-- `cmd_line_parse` on the arguments behind the program's name. Without any, as
for `-h`, the process exits. -/
def cmdLineParse (env : Surroundings) (args : List CString) : Result CommandLine :=
  if args = [] then .stopped else (cmdLineOptions env).parse args (ctxDefaults env)

/-- The configuration with which `main` calls `sockets_bind`, if it does. -/
def mainBinds (env : Surroundings) (args : List CString) : Option CommandLine :=
  match cmdLineParse env args with
  | .done line => if sanityCheck line.toConfig ≠ 0 then some line else none
  | _ => none

/-! ## What an accepted command line says -/

variable {env : Surroundings} {args : List CString} {line : CommandLine}
  {items : List (Setting CmdOption CString)}

@[simp] theorem of_word_name (opt : CmdOption) : CmdOption.ofWord opt.name = some opt := by
  cases opt <;> decide

/-- A command line is accepted exactly if it consists of accepted settings, at
least one, which then change the defaults one after the other. -/
theorem cmd_line_parse_done :
    cmdLineParse env args = .done line ↔ args ≠ [] ∧ ∃ items,
      (cmdLineOptions env).settings args = some items ∧
        (cmdLineOptions env).apply items (ctxDefaults env) = some line := by
  unfold cmdLineParse
  split
  · next none => simp [none]
  · next some => simp [some, Options.parse_done_iff]

/-! ## The options as updates -/

/-- What an accepted option does with its operand, as one update. -/
def CmdOption.change (env : Surroundings) : CmdOption → CString → CommandLine → CommandLine
  | help, _, ctx => ctx
  | persistent, _, ctx => { ctx with persistent := 1 }
  | lanIface, arg, ctx => { ctx with lan := copyName arg, lanIP := defaultLanIp env (copyName arg) }
  | wanIface, arg, ctx => { ctx with wan := copyName arg, wanIP := defaultWanIp env (copyName arg) }
  | lanIP, arg, ctx => { ctx with lanIP := (inetPton4 arg).getD ctx.lanIP }
  | aftrIPv4, arg, ctx => { ctx with aftrIPv4 := (inetPton4 arg).getD ctx.aftrIPv4 }
  | wanIP, arg, ctx => { ctx with wanIP := (inetPton4 arg).getD ctx.wanIP }
  | wanIPv6, arg, ctx => { ctx with wanIPv6 := (inetPton6 arg).getD ctx.wanIPv6 }
  | aftrIPv6, arg, ctx => { ctx with aftrIPv6 := (inetPton6 arg).getD ctx.aftrIPv6 }
  | natPmp, arg, ctx => { ctx with enableNatPmp := atoi env.longBits arg }
  | natPmpExt, arg, ctx => { ctx with enableNatPmpExt := atoi env.longBits arg }
  | upnpUdp, arg, ctx => { ctx with enableUpnpUdp := atoi env.longBits arg }
  | upnpTcp, arg, ctx => { ctx with enableUpnpTcp := atoi env.longBits arg }
  | timeout, arg, ctx => { ctx with timeout := atoi env.longBits arg }
  | natPmpPort, arg, ctx => { ctx with natpmpUdpPort := (uint32 (atoi env.longBits arg)).toNat }
  | upnpUdpPort, arg, ctx => { ctx with upnpUdpPort := (uint32 (atoi env.longBits arg)).toNat }
  | upnpTcpPort1, arg, ctx => { ctx with upnpTcpPort1 := (uint32 (atoi env.longBits arg)).toNat }
  | upnpTcpPort2, arg, ctx => { ctx with upnpTcpPort2 := (uint32 (atoi env.longBits arg)).toNat }
  | sharedUdpSock, arg, ctx => { ctx with sharedUdpSock := (uint32 (atoi env.longBits arg)).toNat }
  | verbose, _, ctx => { ctx with loglevel := ctx.loglevel + 1 }
  | daemon, _, ctx => { ctx with daemon := 1 }

theorem effect_change (accepted : (cmdLineOptions env).effect item = some change) :
    change = item.key.change env (item.operand.getD []) := by
  obtain ⟨key, operand⟩ := item
  cases key with
  | help => cases accepted
  | persistent | verbose | daemon => cases operand <;> cases accepted; rfl
  | lanIP | aftrIPv4 | wanIP =>
    cases operand with
    | none => cases accepted
    | some arg =>
      obtain rfl := Option.some.inj accepted
      funext ctx
      simp only [CmdOption.change, Option.getD_some]
      cases inetPton4 arg <;> rfl
  | wanIPv6 | aftrIPv6 =>
    cases operand with
    | none => cases accepted
    | some arg =>
      obtain ⟨addr, literal, rfl⟩ := Option.map_eq_some_iff.mp accepted
      funext ctx
      simp only [CmdOption.change, Option.getD_some, literal]
  | _ =>
    cases operand with
    | none => cases accepted
    | some arg => exact (Option.some.inj accepted).symm

/-- What the update of an option leaves alone, the option does. -/
theorem action_keeps (opt : CmdOption) {part : CommandLine → β}
    (keeps : ∀ arg ctx, part (opt.change env arg ctx) = part ctx) : (opt.action env).Keeps part := by
  have change_keeps (operand : Option CString) {change}
      (accepted : (cmdLineOptions env).effect { key := opt, operand } = some change) (ctx : CommandLine) :
      part (change ctx) = part ctx := by
    rw [effect_change accepted]
    exact keeps _ ctx
  cases action : opt.action env with
  | stop => trivial
  | flag change =>
    refine change_keeps none ?_
    simp [Options.effect, cmdLineOptions, action]
  | operand read =>
    intro arg change accepted
    refine change_keeps (some arg) ?_
    simp [Options.effect, cmdLineOptions, action, accepted]

/-- Where one option stores what it reads in its operand and no other touches it,
the last operand counts. -/
theorem option_set (opt : CmdOption) (part : CommandLine → β) (read : CString → β)
    (takes : (cmdLineOptions env).effect { key := opt } = none)
    (sets : ∀ arg ctx, part (opt.change env arg ctx) = read arg)
    (keeps : ∀ other ≠ opt, ∀ arg ctx, part (other.change env arg ctx) = part ctx)
    (applied : (cmdLineOptions env).apply items ctx = some line) :
    part line = ((lastOperand opt items).map read).getD (part ctx) := by
  refine Options.apply_last opt part read takes ?_ ?_ applied
  · intro arg change accepted state
    rw [effect_change accepted]
    exact sets arg state
  · exact fun other differs => action_keeps other (keeps other differs)

/-! ## The features -/

/-- The feature that an option switches. -/
def CmdOption.feature : CmdOption → Option (CommandLine → Int)
  | natPmp => some fun ctx => ctx.enableNatPmp
  | natPmpExt => some fun ctx => ctx.enableNatPmpExt
  | upnpUdp => some fun ctx => ctx.enableUpnpUdp
  | upnpTcp => some fun ctx => ctx.enableUpnpTcp
  | _ => none

/-- A feature is as the last operand of its option says, or else as in the
defaults. -/
theorem feature_set (opt : CmdOption) {feature : CommandLine → Int} (switches : opt.feature = some feature)
    (applied : (cmdLineOptions env).apply items ctx = some line) :
    feature line = ((lastOperand opt items).map (atoi env.longBits)).getD (feature ctx) := by
  refine option_set opt feature (atoi env.longBits) ?_ ?_ ?_ applied
  · cases opt <;> cases switches <;> rfl
  · intro arg ctx
    cases opt <;> cases switches <;> rfl
  · intro other differs arg ctx
    cases opt <;> cases switches <;> cases other <;>
      first
      | exact absurd rfl differs
      | rfl

end Portproxy
