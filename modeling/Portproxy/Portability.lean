import Portproxy.SocketRoles

/-! How a start depends on the host. Without extended NAT-PMP it comes to the same on
two hosts if `sock_add` takes the same of the addresses it binds for multicast
addresses: it looks at the last octet on a little-endian host, and at the first one
on the other. -/
namespace Portproxy.Portability
open StepMachine Fallible StartupDescriptors SocketRoles

variable {host host' : Host} {p q : Proxy} {cfg : Config} {a : BindAnswers}

/-- The octet that `s_addr >> 24` leaves. -/
def leadingOctet (host : Host) (addr : InAddr) : UInt8 :=
  match host.order with
  | .little => addr.fourth
  | .big => addr.first

theorem looks_multicast_iff (host : Host) (addr : InAddr) :
    looksMulticast host addr ↔ 239 ≤ (leadingOctet host addr).toNat := by
  have first := addr.first.toNat_lt
  have second := addr.second.toNat_lt
  have third := addr.third.toNat_lt
  have fourth := addr.fourth.toNat_lt
  unfold looksMulticast leadingOctet InAddr.sAddr InAddr.bytes
  cases host.order with
  | little =>
    simp only [HostOrder.ByteOrder.load, HostOrder.value]
    omega
  | big =>
    simp only [HostOrder.ByteOrder.load, HostOrder.value, List.reverse_cons, List.reverse_nil, List.nil_append,
      List.cons_append]
    omega

/-! ## Starts -/

/-- Both hosts take the address for a multicast address, or neither does. -/
def LooksAlike (host host' : Host) (addr : InAddr) : Prop := looksMulticast host addr ↔ looksMulticast host' addr

/-- The addresses of the configuration that `sockets_bind` binds without extended
NAT-PMP. -/
def boundAddresses (cfg : Config) : List InAddr :=
  (if cfg.enableNatPmp ≠ 0 ∨ cfg.enableUpnpTcp ≠ 0 then [cfg.lanIP] else []) ++
    if cfg.sharesSocket then [cfg.wanIP] else []

structure Alike (host host' : Host) (cfg : Config) : Prop where
  classic : cfg.enableNatPmpExt = 0
  looks : ∀ addr ∈ boundAddresses cfg, LooksAlike host host' addr

namespace Alike

theorem lan (alike : Alike host host' cfg) (used : cfg.enableNatPmp ≠ 0 ∨ cfg.enableUpnpTcp ≠ 0) :
    LooksAlike host host' cfg.lanIP := alike.looks _ (by simp [boundAddresses, used])

theorem wan (alike : Alike host host' cfg) (shared : cfg.sharesSocket) : LooksAlike host host' cfg.wanIP :=
  alike.looks _ (by simp [boundAddresses, shared])

end Alike

theorem any_looks_plain (host : Host) : ¬ looksMulticast host anyaddr := by
  rw [looks_multicast_iff, leadingOctet]
  cases host.order <;> decide

theorem socket_add_same (looks : LooksAlike host host' addr) :
    socketAdd host ifname addr port proto only reuse answers =
      socketAdd host' ifname addr port proto only reuse answers := by
  funext p
  unfold LooksAlike at looks
  simp only [socketAdd, sockAdd, looks]

theorem configured_agrees {holds : Proxy → Prop} {add add' : Config → Program Proxy Int}
    (same : ∀ p, holds p → add p.ctx.toConfig = add' p.ctx.toConfig) :
    Program.Agree holds (configured add) (configured add') := by
  intro p here
  change add p.ctx.toConfig p = add' p.ctx.toConfig p
  rw [same p here]

/-- Programs that agree under a condition on the configuration, one after the other. -/
theorem then_agrees (holds : Config → Prop) {first first' : Program Proxy α} {next next' : α → Program Proxy β}
    {plan : Proxy → List Call} (makes : Follows (descriptors host) (Call.succeeds host) Call.stops first plan)
    (begins : Program.Agree (fun p => holds p.ctx.toConfig) first first')
    (ends : ∀ value, Program.Agree (fun p => holds p.ctx.toConfig) (next value) (next' value)) :
    Program.Agree (fun p => holds p.ctx.toConfig) (first >>= next) (first' >>= next') := by
  refine Program.agree_bind (fun {p value q} ran here => ?_) begins ends
  obtain ⟨-, new, lost, grown, -⟩ := makes.done ran
  rwa [grown.config]

theorem upnp_udp_same (host host' : Host) (a : BindAnswers) : bindUpnpUdp host a = bindUpnpUdp host' a := by
  simp only [bindUpnpUdp, socket_add_same (iff_of_false (any_looks_plain host) (any_looks_plain host'))]

theorem nat_pmp_agrees (host host' : Host) (a : BindAnswers) :
    Program.Agree (fun p => Alike host host' p.ctx.toConfig ∧ p.ctx.enableNatPmp ≠ 0) (bindNatPmp host a)
      (bindNatPmp host' a) := by
  refine Program.agree_begin (configured_agrees fun p here => ?_) _
  exact socket_add_same (here.1.lan (.inl here.2))

theorem upnp_tcp_agrees (host host' : Host) (a : BindAnswers) :
    Program.Agree (fun p => Alike host host' p.ctx.toConfig ∧ p.ctx.enableUpnpTcp ≠ 0) (bindUpnpTcp host a)
      (bindUpnpTcp host' a) := by
  refine then_agrees (fun cfg => Alike host host' cfg ∧ cfg.enableUpnpTcp ≠ 0)
    (configured_makes fun cfg => socket_add_makes) (configured_agrees fun p here => ?_) fun _ => ?_
  · exact socket_add_same (here.1.lan (.inr here.2))
  refine Program.agree_begin (configured_agrees fun p here => ?_) _
  exact socket_add_same (here.1.lan (.inr here.2))

theorem shared_agrees (host host' : Host) (a : BindAnswers) :
    Program.Agree (fun p => Alike host host' p.ctx.toConfig ∧ p.ctx.sharesSocket) (bindShared host a)
      (bindShared host' a) := by
  refine Program.agree_begin (Program.agree_keeping _ (configured_agrees fun p here => ?_)) _
  exact socket_add_same (here.1.wan here.2)

theorem sockets_bind_agrees (host host' : Host) (a : BindAnswers) :
    Program.Agree (fun p => Alike host host' p.ctx.toConfig) (socketsBind host a) (socketsBind host' a) := by
  unfold socketsBind
  refine then_agrees (Alike host host') (.when upnp_udp_makes) (Program.agree_when ?_) fun _ => ?_
  · exact fun p _ => congrFun (upnp_udp_same host host' a) p
  refine then_agrees (Alike host host') (.when nat_pmp_ext_makes) (Program.agree_when ?_) fun _ => ?_
  · exact fun p here => absurd here.1.classic here.2
  refine then_agrees (Alike host host') (.when nat_pmp_makes)
    (Program.agree_when (nat_pmp_agrees host host' a)) fun _ => ?_
  refine then_agrees (Alike host host') (.when upnp_tcp_makes)
    (Program.agree_when (upnp_tcp_agrees host host' a)) fun _ => ?_
  exact Program.agree_when (shared_agrees host host' a)

/-- Where an attempt leaves a start from this configuration. -/
def Trying (cfg : Config) : Start → Prop
  | .trying p => p.ctx.toConfig = cfg
  | .running _ | .stopped => True

theorem attempt_trying (trying : Trying cfg s) : Trying cfg (startAttempt host s a) := by
  cases s with
  | trying p =>
    cases ran : socketsBind host a p with
    | done value q => rw [attempt_done ran]; trivial
    | failed code q =>
      by_cases persistent : p.ctx.persistent ≠ 0
      · obtain ⟨-, -, new, lost, grown, -⟩ := sockets_bind_makes.failed ran
        obtain ⟨-, -, settings, -⟩ := sockets_close_closes q
        obtain ⟨config, -⟩ := Context.of_settings settings
        rw [attempt_failed persistent ran]
        exact config.trans (grown.config.trans trying)
      · simp only [startAttempt, ran, persistent, ↓reduceIte]
        trivial
    | stopped => rw [attempt_stopped ran]; trivial
  | running | stopped => trivial

theorem attempt_same (alike : Alike host host' cfg) (trying : Trying cfg s) :
    startAttempt host s a = startAttempt host' s a := by
  cases s with
  | trying p =>
    have config : p.ctx.toConfig = cfg := trying
    have here : Alike host host' p.ctx.toConfig := by rwa [config]
    have same := sockets_bind_agrees host host' a p here
    simp only [startAttempt, same]
  | running | stopped => rfl

/-! ## Addresses that look different -/

/-- Everything succeeds, but to join a group with an address. -/
def refusing (lan wan : Int) : BindAnswers :=
  let joins (membership : Int) : SockAnswers := { socket := some 0, membership }
  { ssdpLan := joins 0, ssdpWan := joins 0, natPmp := joins lan, upnpTcp1 := joins lan, upnpTcp2 := joins lan
    shared := joins wan }

/-- An attempt succeeds exactly if every call of its plan does. -/
theorem attempt_runs_iff (host : Host) (p : Proxy) (a : BindAnswers) :
    (∃ q, startAttempt host (.trying p) a = .running q) ↔
      ∀ call ∈ plan a p.ctx.toConfig, call.succeeds host = true := by
  cases ran : socketsBind host a p with
  | done value q =>
    obtain ⟨all, -⟩ := sockets_bind_makes.done ran
    exact iff_of_true ⟨q, attempt_done ran⟩ all
  | failed code q =>
    obtain ⟨notAll, -⟩ := sockets_bind_makes.failed ran
    refine iff_of_false ?_ notAll
    rintro ⟨running, reached⟩
    simp only [startAttempt, ran] at reached
    split at reached <;> cases reached
  | stopped =>
    obtain ⟨call, member, -, fails⟩ := sockets_bind_makes.stopped ran
    refine iff_of_false ?_ fun all => ?_
    · rintro ⟨running, reached⟩
      rw [attempt_stopped ran] at reached
      cases reached
    · rw [made_of_all all] at member
      rw [all call member] at fails
      cases fails

theorem forall_mem_when {condition : Prop} [Decidable condition] {calls : List Call} {holds : Call → Prop} :
    (∀ call ∈ if condition then calls else [], holds call) ↔ (condition → ∀ call ∈ calls, holds call) := by
  by_cases here : condition <;> simp [here]

theorem refusing_runs_iff (host : Host) (p : Proxy) (classic : p.ctx.enableNatPmpExt = 0) (lan wan : Int) :
    (∃ q, startAttempt host (.trying p) (refusing lan wan) = .running q) ↔
      ((p.ctx.enableNatPmp ≠ 0 ∨ p.ctx.enableUpnpTcp ≠ 0) → looksMulticast host p.ctx.lanIP → lan = 0) ∧
        (p.ctx.sharesSocket → looksMulticast host p.ctx.wanIP → wan = 0) := by
  have ssdp : ¬ looksMulticast host anyaddr := any_looks_plain host
  rw [attempt_runs_iff]
  simp only [plan, List.forall_mem_append, forall_mem_when, upnpUdpCalls, natPmpCalls, upnpTcpCalls, sharedCalls,
    refusing, List.forall_mem_cons, Call.succeeds, Call.binds, classic]
  simp [ssdp]
  tauto

/-- From a configuration without extended NAT-PMP, a start comes to the same on both
hosts, whatever fails how often, exactly if each address that is bound looks like a
multicast address on both or on neither. -/
theorem starts_alike_iff (host host' : Host) (cfg : Config) (kernel : Kernel) (classic : cfg.enableNatPmpExt = 0) :
    (∀ attempts, (start host).after (.trying { ctx := { toConfig := cfg }, kernel }) attempts =
        (start host').after (.trying { ctx := { toConfig := cfg }, kernel }) attempts) ↔
      ∀ addr ∈ boundAddresses cfg, LooksAlike host host' addr := by
  let p : Proxy := { ctx := { toConfig := cfg }, kernel }
  constructor
  · intro same addr bound
    have runs (lan wan : Int) := refusing_runs_iff host p classic lan wan
    have runs' (lan wan : Int) := refusing_runs_iff host' p classic lan wan
    have attempt (a : BindAnswers) : startAttempt host (.trying p) a = startAttempt host' (.trying p) a := same [a]
    rcases List.mem_append.mp bound with lan | wan
    · have used : cfg.enableNatPmp ≠ 0 ∨ cfg.enableUpnpTcp ≠ 0 := by
        by_contra unused
        rw [if_neg unused] at lan
        cases lan
      rw [if_pos used, List.mem_singleton] at lan
      subst lan
      have only := runs (-1) 0
      rw [attempt, runs' (-1) 0] at only
      simpa [used, p, LooksAlike, not_iff_not, iff_comm] using only
    · have shared : cfg.sharesSocket := by
        by_contra own
        rw [if_neg own] at wan
        cases wan
      rw [if_pos shared, List.mem_singleton] at wan
      subst wan
      have only := runs 0 (-1)
      rw [attempt, runs' 0 (-1)] at only
      simpa [shared, p, LooksAlike, not_iff_not, iff_comm] using only
  · intro looks attempts
    have alike : Alike host host' cfg := ⟨classic, looks⟩
    have initially : Trying cfg (.trying p) := rfl
    refine (start host).same_after (start host') (Trying cfg) ?_ ?_ initially attempts
    · exact fun s a trying => attempt_same alike trying
    · exact fun s a trying => attempt_trying trying

/-- The household with a LAN address whose last octet is high. -/
def highLan : Config := { householdStart.ctx.toConfig with lanIP := ⟨192, 168, 1, 254⟩ }

def bigHost : Host := { littleHost with order := .big }

theorem high_lan_starts_alike_iff :
    (∀ attempts, (start littleHost).after (.trying { ctx := { toConfig := highLan }, kernel := {} }) attempts =
        (start bigHost).after (.trying { ctx := { toConfig := highLan }, kernel := {} }) attempts) ↔
      ∀ addr ∈ boundAddresses highLan, LooksAlike littleHost bigHost addr :=
  starts_alike_iff littleHost bigHost highLan {} rfl

/-- It looks like a multicast address on the one host and not on the other. -/
example : ¬ LooksAlike littleHost bigHost highLan.lanIP := by
  rw [LooksAlike, looks_multicast_iff, looks_multicast_iff]
  decide

end Portproxy.Portability
