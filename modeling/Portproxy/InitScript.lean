import Portproxy.CommandLine
import Portproxy.Fields

/-! The init script `rc.d/portproxy` in front of the daemon. It writes the
section of the configuration as command line arguments: the addresses, but not
which protocols are on. -/
namespace Portproxy.InitScript
open OptionVector Fields

/-- A `portproxy` section; an option that is not set is empty. -/
structure Section where
  natpmp : CString := []
  natpmpext : CString := []
  upnpudp : CString := []
  upnptcp : CString := []
  aftripv6 : CString := []
  wanipv6 : CString := []
  persistent : CString := []
  lanipv4 : CString := []
  wanipv4 : CString := []
  aftripv4 : CString := []
  laniface : CString := []
  waniface : CString := []
  deriving DecidableEq, Repr

/-- An option is switched on. -/
abbrev On (value : CString) : Prop := value = cstr "1"

/-- One of the protocols that use the IPv4 addresses is on. -/
abbrev Section.Classic (s : Section) : Prop := On s.natpmp ∨ On s.upnpudp ∨ On s.upnptcp

/-- `params="${params} opt ${value}"`. -/
def addOption (opt value params : CString) : CString := params ++ cstr " " ++ opt ++ cstr " " ++ value

/-- The same if the value is not empty. -/
def addNonempty (opt value params : CString) : CString :=
  if value ≠ [] then addOption opt value params else params

/-- The block for extended NAT-PMP. -/
def addExt (s : Section) (params : CString) : CString :=
  if On s.natpmpext then
    let params := addOption (cstr "-s") s.aftripv6 (addOption (cstr "-b") s.wanipv6 params)
    if On s.persistent then params ++ cstr " --persistent" else params
  else params

/-- The block for NAT-PMP and uPNP. -/
def addClassic (s : Section) (params : CString) : CString :=
  if s.Classic then
    let params := addNonempty (cstr "--lan-iface") s.laniface params
    let params := addNonempty (cstr "--wan-iface") s.waniface params
    let params := addNonempty (cstr "-l") s.lanipv4 params
    let params := addNonempty (cstr "-w") s.wanipv4 params
    addNonempty (cstr "-a") s.aftripv4 params
  else params

/-- The variable `params` of the script. -/
def params (s : Section) : CString := addClassic s (addExt s (cstr "-g "))

/-- The characters between which an unquoted variable is split. -/
def isBlank (c : UInt8) : Bool := c = 32 ∨ c = 9 ∨ c = 10

/-- The arguments that the script starts the daemon with, unless it exits. -/
def arguments (s : Section) : Option (List CString) :=
  if On s.natpmp ∧ On s.natpmpext then none else some (fields isBlank (params s))

/-! ## The script as an encoder -/

/-- A value that the shell passes on as one word: it neither splits it nor
expands it to file names. -/
structure ShellWord (value : CString) : Prop where
  word : IsWord isBlank value
  plain : ∀ c ∈ value, c ≠ 42 ∧ c ≠ 63 ∧ c ≠ 91

instance (value : CString) : Decidable (ShellWord value) :=
  decidable_of_iff
    (value ≠ [] ∧ value.all (fun c => !isBlank c) = true ∧
      value.all (fun c => c ≠ 42 ∧ c ≠ 63 ∧ c ≠ 91) = true) <| by
    simp only [List.all_eq_true, Bool.not_eq_true', decide_eq_true_eq]
    exact ⟨fun ⟨nonempty, solid, plain⟩ => ⟨⟨nonempty, solid⟩, plain⟩,
      fun value => ⟨value.word.nonempty, value.word.solid, value.plain⟩⟩

/-- Every address of the section is an address, and every name a word. -/
structure WellFormed (s : Section) : Prop where
  words : ∀ value ∈ [s.aftripv6, s.wanipv6, s.lanipv4, s.wanipv4, s.aftripv4, s.laniface, s.waniface],
    ShellWord value
  ipv6 : ∀ value ∈ [s.aftripv6, s.wanipv6], (inetPton6 value).isSome
  ipv4 : ∀ value ∈ [s.lanipv4, s.wanipv4, s.aftripv4], (inetPton4 value).isSome

/-- The daemon uses the addresses of the section for the protocols that are on. -/
structure SameAddresses (s : Section) (line : CommandLine) : Prop where
  classic : s.Classic → inetPton4 s.lanipv4 = some line.lanIP ∧ inetPton4 s.wanipv4 = some line.wanIP ∧
    inetPton4 s.aftripv4 = some line.aftrIPv4
  extended : On s.natpmpext →
    inetPton6 s.wanipv6 = some line.wanIPv6 ∧ inetPton6 s.aftripv6 = some line.aftrIPv6

/-- The daemon was told what the section says: which protocols are on, and the
addresses of those that are. -/
structure Agrees (s : Section) (line : CommandLine) : Prop where
  natPmp : line.enableNatPmp ≠ 0 ↔ On s.natpmp
  natPmpExt : line.enableNatPmpExt ≠ 0 ↔ On s.natpmpext
  upnpUdp : line.enableUpnpUdp ≠ 0 ↔ On s.upnpudp
  upnpTcp : line.enableUpnpTcp ≠ 0 ↔ On s.upnptcp
  addresses : SameAddresses s line

/-- What the daemon is told for any section: its addresses, and nothing about
the protocols, which are those of the defaults. -/
structure Told (s : Section) (line : CommandLine) : Prop where
  natPmp : line.enableNatPmp = 0
  natPmpExt : line.enableNatPmpExt = 1
  upnpUdp : line.enableUpnpUdp = 0
  upnpTcp : line.enableUpnpTcp = 0
  addresses : SameAddresses s line

/-- The settings that the script writes for the IPv6 addresses. -/
def extSettings (s : Section) : List (Setting CmdOption CString) :=
  if On s.natpmpext then
    [⟨.wanIPv6, some s.wanipv6⟩, ⟨.aftrIPv6, some s.aftripv6⟩] ++
      if On s.persistent then [⟨.persistent, none⟩] else []
  else []

/-- The settings that the script writes for the IPv4 addresses. -/
def classicSettings (s : Section) : List (Setting CmdOption CString) :=
  if s.Classic then
    [⟨.lanIface, some s.laniface⟩, ⟨.wanIface, some s.waniface⟩, ⟨.lanIP, some s.lanipv4⟩,
      ⟨.wanIP, some s.wanipv4⟩, ⟨.aftrIPv4, some s.aftripv4⟩]
  else []

def settings (s : Section) : List (Setting CmdOption CString) :=
  ⟨.daemon, none⟩ :: (extSettings s ++ classicSettings s)

variable {env : Surroundings} {s : Section} {args : List CString} {line : CommandLine}

private theorem name_is_word (opt : CmdOption) : IsWord isBlank opt.name := by
  cases opt <;> exact .of_all rfl rfl

/-- An option with its value adds two arguments. -/
private theorem add_option_fields (text : CString) (opt : CmdOption) (spelled : opt.name = text)
    (word : ShellWord value) (params : CString) :
    fields isBlank (addOption text value params) =
      fields isBlank params ++ Setting.words CmdOption.name ⟨opt, some value⟩ := by
  subst spelled
  have blank : isBlank 32 = true := by decide
  have space : cstr " " = [32] := rfl
  have pair : addOption opt.name value params = params ++ 32 :: (opt.name ++ [32]) ++ value := by
    simp [addOption, space]
  rw [pair, fields_append_pair blank (name_is_word opt) word.word]
  rfl

private theorem add_nonempty_fields (text : CString) (opt : CmdOption) (spelled : opt.name = text)
    (word : ShellWord value) (params : CString) :
    fields isBlank (addNonempty text value params) =
      fields isBlank params ++ Setting.words CmdOption.name ⟨opt, some value⟩ := by
  rw [addNonempty, if_pos word.word.nonempty, add_option_fields text opt spelled word]

private theorem add_ext_fields (wellFormed : WellFormed s) (params : CString) :
    fields isBlank (addExt s params) =
      fields isBlank params ++ (extSettings s).flatMap (Setting.words CmdOption.name) := by
  have aftripv6 := wellFormed.words s.aftripv6 (by simp)
  have wanipv6 := wellFormed.words s.wanipv6 (by simp)
  have persistent (text : CString) : fields isBlank (text ++ cstr " --persistent") =
      fields isBlank text ++ [CmdOption.persistent.name] :=
    fields_append_word (by decide) (name_is_word .persistent)
  have both := add_option_fields (cstr "-s") .aftrIPv6 rfl aftripv6 (addOption (cstr "-b") s.wanipv6 params)
  rw [add_option_fields (cstr "-b") .wanIPv6 rfl wanipv6 params] at both
  by_cases ext : On s.natpmpext
  · by_cases persists : On s.persistent
    · simp [addExt, extSettings, ext, persists, persistent, both, Setting.words]
    · simp [addExt, extSettings, ext, persists, both]
  · simp [addExt, extSettings, ext]

private theorem add_classic_fields (wellFormed : WellFormed s) (params : CString) :
    fields isBlank (addClassic s params) =
      fields isBlank params ++ (classicSettings s).flatMap (Setting.words CmdOption.name) := by
  have word {value : CString} := wellFormed.words value
  by_cases classic : s.Classic
  · simp only [addClassic, classicSettings, classic, ↓reduceIte]
    rw [add_nonempty_fields (cstr "-a") .aftrIPv4 rfl (word (by simp)),
      add_nonempty_fields (cstr "-w") .wanIP rfl (word (by simp)),
      add_nonempty_fields (cstr "-l") .lanIP rfl (word (by simp)),
      add_nonempty_fields (cstr "--wan-iface") .wanIface rfl (word (by simp)),
      add_nonempty_fields (cstr "--lan-iface") .lanIface rfl (word (by simp))]
    simp
  · simp [addClassic, classicSettings, classic]

/-- The arguments of a well-formed section are those of its settings. -/
theorem params_fields (wellFormed : WellFormed s) :
    fields isBlank (params s) = (settings s).flatMap (Setting.words CmdOption.name) := by
  have daemon : fields isBlank (cstr "-g ") = [CmdOption.daemon.name] := by decide
  rw [params, add_classic_fields wellFormed, add_ext_fields wellFormed, daemon, settings, List.flatMap_cons,
    List.flatMap_append, List.append_assoc]
  rfl

/-- All that the script can ask for. -/
private theorem settings_listed (s : Section) :
    settings s ⊆ [⟨.daemon, none⟩, ⟨.wanIPv6, some s.wanipv6⟩, ⟨.aftrIPv6, some s.aftripv6⟩,
      ⟨.persistent, none⟩, ⟨.lanIface, some s.laniface⟩, ⟨.wanIface, some s.waniface⟩,
      ⟨.lanIP, some s.lanipv4⟩, ⟨.wanIP, some s.wanipv4⟩, ⟨.aftrIPv4, some s.aftripv4⟩] := by
  unfold settings extSettings classicSettings
  split_ifs <;> simp

/-- The daemon reads those settings back. -/
theorem arguments_settings (env : Surroundings) (wellFormed : WellFormed s)
    (started : arguments s = some args) :
    args ≠ [] ∧ (cmdLineOptions env).settings args = some (settings s) := by
  unfold arguments at started
  split at started
  · cases started
  obtain rfl := Option.some.inj started
  rw [params_fields wellFormed]
  have spelled (opt : CmdOption) : (cmdLineOptions env).key opt.name = some opt := of_word_name opt
  refine ⟨by simp [settings, Setting.words], Options.settings_words spelled ?_⟩
  intro item member
  have listed := settings_listed s member
  simp only [List.mem_cons, List.not_mem_nil, or_false] at listed
  rcases listed with rfl | rfl | rfl | rfl | rfl | rfl | rfl | rfl | rfl <;>
    simp [Options.Fits, cmdLineOptions, CmdOption.action, uncheckedAddress, checkedAddress]

/-- No argument of the script switches a feature. -/
theorem features_untouched (s : Section) {opt : CmdOption} (isFeature : opt.feature = some feature) :
    lastOperand opt (settings s) = none := by
  cases opt <;> cases isFeature
  all_goals
    unfold settings extSettings classicSettings
    split_ifs <;> rfl

private theorem checked_effect (env : Surroundings) (opt : CmdOption) {read : CString → Option α}
    {store : α → CommandLine → CommandLine} (action : opt.action env = checkedAddress read store)
    (parsed : read value = some addr) :
    (cmdLineOptions env).effect ⟨opt, some value⟩ = some (store addr) := by
  simp [Options.effect, cmdLineOptions, action, checkedAddress, parsed]

private theorem unchecked_effect (env : Surroundings) (opt : CmdOption) {read : CString → Option α}
    {store : α → CommandLine → CommandLine} (action : opt.action env = uncheckedAddress read store)
    (parsed : read value = some addr) :
    (cmdLineOptions env).effect ⟨opt, some value⟩ = some (store addr) := by
  simp [Options.effect, cmdLineOptions, action, uncheckedAddress, parsed]

private theorem ext_arrives (env : Surroundings) (wellFormed : WellFormed s) (ctx : CommandLine) :
    ∃ line, (cmdLineOptions env).apply (extSettings s) ctx = some line ∧
      (On s.natpmpext →
        inetPton6 s.wanipv6 = some line.wanIPv6 ∧ inetPton6 s.aftripv6 = some line.aftrIPv6) := by
  obtain ⟨aftrIPv6, aftripv6⟩ := Option.isSome_iff_exists.mp (wellFormed.ipv6 s.aftripv6 (by simp))
  obtain ⟨wanIPv6, wanipv6⟩ := Option.isSome_iff_exists.mp (wellFormed.ipv6 s.wanipv6 (by simp))
  have b := checked_effect env .wanIPv6 rfl wanipv6
  have s := checked_effect env .aftrIPv6 rfl aftripv6
  unfold extSettings
  split_ifs with ext persists
  · rw [List.cons_append, List.cons_append, Options.apply_cons b, Options.apply_cons s]
    exact ⟨_, rfl, fun _ => ⟨wanipv6, aftripv6⟩⟩
  · rw [List.cons_append, List.cons_append, Options.apply_cons b, Options.apply_cons s]
    exact ⟨_, rfl, fun _ => ⟨wanipv6, aftripv6⟩⟩
  · exact ⟨ctx, rfl, fun on => absurd on ext⟩

private theorem classic_arrives (env : Surroundings) (wellFormed : WellFormed s) (ctx : CommandLine) :
    ∃ line, (cmdLineOptions env).apply (classicSettings s) ctx = some line ∧
      line.wanIPv6 = ctx.wanIPv6 ∧ line.aftrIPv6 = ctx.aftrIPv6 ∧
      (s.Classic → inetPton4 s.lanipv4 = some line.lanIP ∧ inetPton4 s.wanipv4 = some line.wanIP ∧
        inetPton4 s.aftripv4 = some line.aftrIPv4) := by
  obtain ⟨lanIP, lanipv4⟩ := Option.isSome_iff_exists.mp (wellFormed.ipv4 s.lanipv4 (by simp))
  obtain ⟨wanIP, wanipv4⟩ := Option.isSome_iff_exists.mp (wellFormed.ipv4 s.wanipv4 (by simp))
  obtain ⟨aftrIPv4, aftripv4⟩ := Option.isSome_iff_exists.mp (wellFormed.ipv4 s.aftripv4 (by simp))
  have lan : (cmdLineOptions env).effect ⟨.lanIface, some s.laniface⟩ = some fun ctx =>
      { ctx with lan := copyName s.laniface, lanIP := defaultLanIp env (copyName s.laniface) } := rfl
  have wan : (cmdLineOptions env).effect ⟨.wanIface, some s.waniface⟩ = some fun ctx =>
      { ctx with wan := copyName s.waniface, wanIP := defaultWanIp env (copyName s.waniface) } := rfl
  have l := unchecked_effect env .lanIP rfl lanipv4
  have w := unchecked_effect env .wanIP rfl wanipv4
  have a := unchecked_effect env .aftrIPv4 rfl aftripv4
  unfold classicSettings
  split_ifs with classic
  · -- the addresses stand behind the interfaces, whose own addresses they replace
    rw [Options.apply_cons lan, Options.apply_cons wan, Options.apply_cons l, Options.apply_cons w,
      Options.apply_cons a]
    exact ⟨_, rfl, rfl, rfl, fun _ => ⟨lanipv4, wanipv4, aftripv4⟩⟩
  · exact ⟨ctx, rfl, rfl, rfl, fun on => absurd on classic⟩

/-- The daemon accepts the arguments of a well-formed section and takes over
its addresses. -/
theorem addresses_arrive (env : Surroundings) (wellFormed : WellFormed s) :
    ∃ line, (cmdLineOptions env).apply (settings s) (ctxDefaults env) = some line ∧
      SameAddresses s line := by
  have daemon : (cmdLineOptions env).effect ⟨.daemon, none⟩ = some fun ctx => { ctx with daemon := 1 } := rfl
  obtain ⟨middle, ext, extended⟩ := ext_arrives env wellFormed { ctxDefaults env with daemon := 1 }
  obtain ⟨line, last, wanIPv6, aftrIPv6, classic⟩ := classic_arrives env wellFormed middle
  refine ⟨line, ?_, classic, ?_⟩
  · rw [settings, Options.apply_cons daemon, Options.apply_append, ext]
    exact last
  · rw [wanIPv6, aftrIPv6]
    exact extended

/-- The daemon accepts what the script writes, and keeps its default features. -/
theorem script_tells (env : Surroundings) (wellFormed : WellFormed s) (started : arguments s = some args) :
    ∃ line, cmdLineParse env args = .done line ∧ Told s line := by
  obtain ⟨some, split⟩ := arguments_settings env wellFormed started
  obtain ⟨line, applied, addresses⟩ := addresses_arrive env wellFormed
  have feature (opt : CmdOption) {feature : CommandLine → Int} (isFeature : opt.feature = Option.some feature) :
      feature line = feature (ctxDefaults env) := by
    rw [feature_set opt isFeature applied, features_untouched s isFeature]
    rfl
  refine ⟨line, cmd_line_parse_done.mpr ⟨some, _, split, applied⟩, ?_⟩
  exact ⟨feature .natPmp rfl, feature .natPmpExt rfl, feature .upnpUdp rfl,
    feature .upnpTcp rfl, addresses⟩

/-- For every well-formed section that the script accepts, the daemon is told
what the section says exactly if that is extended NAT-PMP and nothing else. -/
theorem script_agrees_iff (env : Surroundings) (s : Section) (wellFormed : WellFormed s)
    (started : arguments s = some args) :
    (∃ line, cmdLineParse env args = .done line ∧ Agrees s line) ↔ On s.natpmpext ∧ ¬ s.Classic := by
  obtain ⟨line, parsed, told⟩ := script_tells env wellFormed started
  constructor
  · rintro ⟨line', parsed', agrees⟩
    rw [parsed] at parsed'
    cases parsed'
    refine ⟨agrees.natPmpExt.mp (by rw [told.natPmpExt]; decide), ?_⟩
    rintro (on | on | on)
    · exact agrees.natPmp.mpr on told.natPmp
    · exact agrees.upnpUdp.mpr on told.upnpUdp
    · exact agrees.upnpTcp.mpr on told.upnpTcp
  · rintro ⟨ext, notClassic⟩
    simp only [not_or] at notClassic
    obtain ⟨noNatPmp, noUdp, noTcp⟩ := notClassic
    exact ⟨line, parsed, by simp [told.natPmp, noNatPmp], by simp [told.natPmpExt, ext],
      by simp [told.upnpUdp, noUdp], by simp [told.upnpTcp, noTcp], told.addresses⟩

/-- The section of the configuration file that comes with the script. -/
def shipped : Section where
  natpmpext := cstr "1"
  aftripv6 := cstr "2000::1"
  wanipv6 := cstr "2000::2"
  upnpudp := cstr "0"
  upnptcp := cstr "0"
  natpmp := cstr "0"
  lanipv4 := cstr "192.168.1.1"
  wanipv4 := cstr "192.0.0.2"
  aftripv4 := cstr "192.0.0.1"
  laniface := cstr "br-lan"
  waniface := cstr "eth0.1"
  persistent := cstr "0"

theorem shipped_well_formed : WellFormed shipped where
  words := by decide +kernel
  ipv6 := by decide
  ipv4 := by decide

theorem shipped_section_agrees :
    (∃ line, cmdLineParse {} [cstr "-g", cstr "-b", cstr "2000::2", cstr "-s", cstr "2000::1"] = .done line ∧
        Agrees shipped line) ↔ On shipped.natpmpext ∧ ¬ shipped.Classic :=
  script_agrees_iff {} shipped shipped_well_formed (by decide)

/-- The same section with NAT-PMP in place of extended NAT-PMP. -/
def natPmpSection : Section := { shipped with natpmp := cstr "1", natpmpext := cstr "0" }

theorem nat_pmp_well_formed : WellFormed natPmpSection :=
  ⟨shipped_well_formed.words, shipped_well_formed.ipv6, shipped_well_formed.ipv4⟩

/-- The daemon is not told to do NAT-PMP. -/
theorem nat_pmp_section_disagrees :
    WellFormed natPmpSection ∧ ∃ args, arguments natPmpSection = some args ∧
      ¬ ∃ line, cmdLineParse {} args = .done line ∧ Agrees natPmpSection line := by
  refine ⟨nat_pmp_well_formed, _, rfl, ?_⟩
  rintro ⟨line, parsed, agrees⟩
  obtain ⟨told, accepted, features⟩ := script_tells {} nat_pmp_well_formed rfl
  rw [parsed] at accepted
  cases accepted
  exact agrees.natPmp.mpr rfl features.natPmp

end Portproxy.InitScript
