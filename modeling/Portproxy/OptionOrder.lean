import Portproxy.AcceptedArguments

/-! Whether the order of the options matters. The options of a command line set
different things, but for the address of an interface: the one that is given and
the one that is looked up for the interface's name replace each other. -/
namespace Portproxy.OptionOrder
open OptionVector AcceptedArguments

variable {env : Surroundings} {args args' : List CString} {line line' : CommandLine}
  {items items' : List (Setting CmdOption CString)} {item first second : Setting CmdOption CString}
  {opt other : CmdOption}

/-- The options set different things. -/
theorem change_comm (env : Surroundings) (arg arg' : CString) (ctx : CommandLine) (differs : opt ≠ other)
    (apart : opt.replacedBy ≠ some other) (apart' : other.replacedBy ≠ some opt) :
    opt.change env arg (other.change env arg' ctx) = other.change env arg' (opt.change env arg ctx) := by
  cases opt <;> cases other <;>
    first
    | exact absurd rfl differs
    | exact absurd rfl apart
    | exact absurd rfl apart'
    | rfl

/-- An address that is given and one that is looked up do not matter to each other
if they are the same. -/
theorem change_comm_replaced (ctx : CommandLine) (replaced : opt.replacedBy = some other)
    (same : ∀ addr, inetPton4 arg = some addr → addr = ifaceIp env.ifaces (copyName name)) :
    opt.change env arg (other.change env name ctx) = other.change env name (opt.change env arg ctx) := by
  have looked : (inetPton4 arg).getD (ifaceIp env.ifaces (copyName name)) = ifaceIp env.ifaces (copyName name) := by
    cases literal : inetPton4 arg with
    | none => rfl
    | some addr => exact same addr literal
  cases opt <;> cases replaced <;> simp only [CmdOption.change, defaultLanIp, defaultWanIp, looked]

/-- The first setting gives an address, and the second one another address in its
place. -/
def Overwrites (env : Surroundings) (address iface : Setting CmdOption CString) : Prop :=
  address.key.replacedBy = some iface.key ∧ ∃ arg name addr, address.operand = some arg ∧
    iface.operand = some name ∧ inetPton4 arg = some addr ∧ addr ≠ ifaceIp env.ifaces (copyName name)

theorem replaced_operands {operand operand' : Option CString} (replaced : opt.replacedBy = some other)
    (accepted : ((cmdLineOptions env).effect { key := opt, operand }).isSome)
    (accepted' : ((cmdLineOptions env).effect { key := other, operand := operand' }).isSome) :
    ∃ arg name, operand = some arg ∧ operand' = some name := by
  cases operand with
  | none => cases opt <;> cases replaced <;> cases accepted
  | some arg =>
    cases operand' with
    | none => cases opt <;> cases replaced <;> cases accepted'
    | some name => exact ⟨arg, name, rfl, rfl⟩

theorem replaced_commute (replaced : first.key.replacedBy = some second.key)
    (calm : ¬ Overwrites env first second) : (cmdLineOptions env).Commutes first second := by
  intro change change' accepted accepted' ctx
  obtain ⟨arg, name, given, named⟩ := replaced_operands replaced
    (Option.isSome_iff_exists.mpr ⟨change, accepted⟩) (Option.isSome_iff_exists.mpr ⟨change', accepted'⟩)
  rw [effect_change accepted, effect_change accepted', given, named]
  refine (change_comm_replaced ctx replaced fun addr literal => ?_).symm
  by_contra apart
  exact calm ⟨replaced, arg, name, addr, given, named, literal, apart⟩

/-- All others may change sides. -/
theorem settings_commute (differs : first.key ≠ second.key) (calm : ¬ Overwrites env first second)
    (calm' : ¬ Overwrites env second first) : (cmdLineOptions env).Commutes first second := by
  by_cases replaced : first.key.replacedBy = some second.key
  · exact replaced_commute replaced calm
  · by_cases replaced' : second.key.replacedBy = some first.key
    · have commutes := replaced_commute replaced' calm'
      exact fun change change' accepted accepted' ctx => (commutes change' change accepted' accepted ctx).symm
    · intro change change' accepted accepted' ctx
      rw [effect_change accepted, effect_change accepted']
      exact (change_comm env _ _ ctx differs replaced replaced').symm

/-! ## What is there in the end -/

/-- Behind the second of two settings there is none of either option. -/
private theorem last_of_two {first second : Setting CmdOption CString} (once : (items.map (·.key)).Nodup)
    (order : [first, second].Sublist items) :
    ∃ before later, items = before ++ second :: later ∧
      ∀ item ∈ later, item.key ≠ second.key ∧ item.key ≠ first.key := by
  obtain ⟨front, behind, rfl, atFront, atBack⟩ := List.cons_sublist_iff.mp order
  obtain ⟨between, later, rfl⟩ := List.append_of_mem (List.singleton_sublist.mp atBack)
  refine ⟨front ++ between, later, by simp, fun item member => ?_⟩
  simp only [List.map_append, List.map_cons, List.nodup_append, List.nodup_cons] at once
  obtain ⟨-, ⟨-, ⟨absent, -⟩, -⟩, apart⟩ := once
  refine ⟨fun same => absent (same ▸ List.mem_map_of_mem member), fun same => ?_⟩
  exact apart first.key (List.mem_map_of_mem atFront) item.key (by simp [List.mem_map_of_mem member]) same.symm

theorem iface_stores {part : CommandLine → InAddr} (gives : opt.address4 = some part)
    (replaced : opt.replacedBy = some other)
    (accepted : (cmdLineOptions env).effect { key := other, operand := some name } = some change)
    (ctx : CommandLine) : part (change ctx) = ifaceIp env.ifaces (copyName name) := by
  cases opt <;> cases gives <;> cases replaced <;> obtain rfl := Option.some.inj accepted <;> rfl

/-- The address looked up for an interface is there in the end if it is given behind. -/
theorem replaced_last {part : CommandLine → InAddr} (replaced : first.key.replacedBy = some second.key)
    (gives : first.key.address4 = some part) (named : second.operand = some name)
    (once : (items.map (·.key)).Nodup) (order : [first, second].Sublist items)
    (applied : (cmdLineOptions env).apply items (ctxDefaults env) = some line) :
    part line = ifaceIp env.ifaces (copyName name) := by
  obtain ⟨before, later, rfl, last⟩ := last_of_two once order
  obtain ⟨other, operand⟩ := second
  obtain rfl : operand = some name := named
  refine Options.apply_stored (fun change accepted => iface_stores gives replaced accepted) ?_ applied
  intro item behind
  obtain ⟨differs, differs'⟩ := last item behind
  exact address4_keeps env gives differs' fun same => differs (Option.some.inj (same.symm.trans replaced))

/-- And the address that is given, if no interface is behind it. -/
theorem given_last {part : CommandLine → InAddr} (gives : first.key.address4 = some part)
    (given : first.operand = some arg) (literal : inetPton4 arg = some addr) (once : (items.map (·.key)).Nodup)
    (member : first ∈ items)
    (front : ∀ other ∈ items, first.key.replacedBy = some other.key → ¬ [first, other].Sublist items)
    (applied : (cmdLineOptions env).apply items (ctxDefaults env) = some line) : part line = addr := by
  obtain ⟨before, later, rfl⟩ := List.append_of_mem member
  obtain ⟨opt, operand⟩ := first
  obtain rfl : operand = some arg := given
  refine Options.apply_stored (fun change accepted => address4_stores gives literal accepted) ?_ applied
  intro other behind
  refine address4_keeps env gives (fun same => ?_) fun replaced => ?_
  · simp only [List.map_append, List.map_cons, List.nodup_append, List.nodup_cons] at once
    exact once.2.1.1 (List.mem_map.mpr ⟨other, behind, same⟩)
  · refine front other (by simp [behind]) replaced ?_
    exact ((List.singleton_sublist.mpr behind).cons_cons _).trans (List.sublist_append_right _ _)

/-- Each address given with `-l` or `-w` is the one that is used. -/
structure UsesGiven (items : List (Setting CmdOption CString)) (line : CommandLine) : Prop where
  lan : ∀ arg addr, { key := .lanIP, operand := some arg } ∈ items → inetPton4 arg = some addr →
    line.lanIP = addr
  wan : ∀ arg addr, { key := .wanIP, operand := some arg } ∈ items → inetPton4 arg = some addr →
    line.wanIP = addr

/-- No given address is overwritten by one that is looked up for an interface behind it. -/
def NoneLost (env : Surroundings) (items : List (Setting CmdOption CString)) : Prop :=
  ∀ address iface, Overwrites env address iface → ¬ [address, iface].Sublist items

/-- A given address that is not overwritten is used. -/
theorem given_used {part : CommandLine → InAddr} (gives : opt.address4 = some part)
    (replaced : opt.replacedBy = some other) (once : (items.map (·.key)).Nodup)
    (applied : (cmdLineOptions env).apply items (ctxDefaults env) = some line) (kept : NoneLost env items)
    (member : { key := opt, operand := some arg } ∈ items) (literal : inetPton4 arg = some addr) :
    part line = addr := by
  by_cases behind : ∃ iface ∈ items, iface.key = other ∧
      [{ key := opt, operand := some arg }, iface].Sublist items
  · obtain ⟨⟨other, operand'⟩, member', rfl, order⟩ := behind
    have accepted := (Options.applies_iff _ _ _).mp ⟨line, applied⟩
    obtain ⟨_, name, -, rfl⟩ := replaced_operands replaced (accepted _ member) (accepted _ member')
    have looked := replaced_last replaced gives rfl once order applied
    rw [looked]
    by_contra apart
    exact kept _ _ ⟨replaced, arg, name, addr, rfl, rfl, literal, Ne.symm apart⟩ order
  · refine given_last gives rfl literal once member (fun iface member' same order => ?_) applied
    exact behind ⟨iface, member', Option.some.inj (same.symm.trans replaced), order⟩

/-- The addresses that are given are used exactly if none is overwritten. -/
theorem uses_given_iff (once : (items.map (·.key)).Nodup)
    (applied : (cmdLineOptions env).apply items (ctxDefaults env) = some line) :
    UsesGiven items line ↔ NoneLost env items := by
  constructor
  · rintro uses ⟨opt, operand⟩ iface ⟨replaced, arg, name, addr, rfl, named, literal, apart⟩ order
    have member : { key := opt, operand := some arg } ∈ items := order.subset List.mem_cons_self
    obtain ⟨part, gives, stored⟩ : ∃ part, opt.address4 = some part ∧ part line = addr := by
      cases opt with
      | lanIP => exact ⟨_, rfl, uses.lan arg addr member literal⟩
      | wanIP => exact ⟨_, rfl, uses.wan arg addr member literal⟩
      | _ => cases replaced
    exact apart (stored.symm.trans (replaced_last replaced gives named once order applied))
  · intro kept
    exact ⟨fun arg addr member literal => given_used rfl rfl once applied kept member literal,
      fun arg addr member literal => given_used rfl rfl once applied kept member literal⟩

/-- Settings in another order give the same context, as long as no given address is
overwritten in either. -/
theorem same_context (same : items.Perm items') (once : (items.map (·.key)).Nodup) (kept : NoneLost env items)
    (kept' : NoneLost env items') (ctx : CommandLine) :
    (cmdLineOptions env).apply items ctx = (cmdLineOptions env).apply items' ctx := by
  refine Options.apply_reorder same ?_ _
  intro first second order order'
  have differs : second.key ≠ first.key := by
    have keys := once.sublist (order.map _)
    simp only [List.map_cons, List.map_nil, List.nodup_cons, List.mem_singleton] at keys
    exact Ne.symm keys.1
  exact settings_commute differs (fun overwrites => kept' _ _ overwrites order')
    fun overwrites => kept _ _ overwrites order

/-- Two accepted command lines of the same settings give the same context, with every
address that is given with `-l` or `-w`, exactly if none of these is overwritten
by one that is looked up behind it. -/
theorem order_irrelevant_iff (env : Surroundings) (args args' : List CString)
    (accepted : cmdLineParse env args = .done line) (accepted' : cmdLineParse env args' = .done line')
    (split : (cmdLineOptions env).Splits args items) (split' : (cmdLineOptions env).Splits args' items')
    (same : items.Perm items') (once : (items.map (·.key)).Nodup) :
    (line = line' ∧ UsesGiven items line ∧ UsesGiven items' line') ↔
      NoneLost env items ∧ NoneLost env items' := by
  obtain ⟨-, items₁, settings, applied⟩ := cmd_line_parse_done.mp accepted
  obtain ⟨-, items₂, settings', applied'⟩ := cmd_line_parse_done.mp accepted'
  obtain rfl := splits_unique split ((Options.splits_iff _ _ _).mpr settings)
  obtain rfl := splits_unique split' ((Options.splits_iff _ _ _).mpr settings')
  have once' : (items₂.map (·.key)).Nodup := (same.map _).nodup_iff.mp once
  rw [uses_given_iff once applied, uses_given_iff once' applied']
  refine and_iff_right_of_imp fun ⟨kept, kept'⟩ => ?_
  exact Option.some.inj (applied.symm.trans ((same_context same once kept kept' _).trans applied'))

/-! ## The two orders of two options -/

def addressSetting : Setting CmdOption CString := { key := .lanIP, operand := some (cstr "192.0.2.1") }

def ifaceSetting : Setting CmdOption CString := { key := .lanIface, operand := some (cstr "lan") }

/-- `portproxy -l 192.0.2.1 --lan-iface lan`, and the other way round. -/
def addressFirst : List CString := [cstr "-l", cstr "192.0.2.1", cstr "--lan-iface", cstr "lan"]

def ifaceFirst : List CString := [cstr "--lan-iface", cstr "lan", cstr "-l", cstr "192.0.2.1"]

theorem address_first_splits : (cmdLineOptions {}).Splits addressFirst [addressSetting, ifaceSetting] :=
  (Options.splits_iff _ _ _).mpr (by decide)

theorem iface_first_splits : (cmdLineOptions {}).Splits ifaceFirst [ifaceSetting, addressSetting] :=
  (Options.splits_iff _ _ _).mpr (by decide)

theorem both_orders_iff :
    (({ ctxDefaults {} with lan := cstr "lan" } : CommandLine) =
          { ctxDefaults {} with lan := cstr "lan", lanIP := ⟨192, 0, 2, 1⟩ } ∧
        UsesGiven [addressSetting, ifaceSetting] { ctxDefaults {} with lan := cstr "lan" } ∧
        UsesGiven [ifaceSetting, addressSetting]
          { ctxDefaults {} with lan := cstr "lan", lanIP := ⟨192, 0, 2, 1⟩ }) ↔
      NoneLost {} [addressSetting, ifaceSetting] ∧ NoneLost {} [ifaceSetting, addressSetting] :=
  order_irrelevant_iff {} addressFirst ifaceFirst (by decide) (by decide) address_first_splits
    iface_first_splits (.swap _ _ _) (by decide)

/-- On a host without an interface of that name, the address that is given is
used only behind the interface. -/
theorem given_address_lost :
    ¬ ∀ args args' items items' line line', cmdLineParse {} args = .done line →
      cmdLineParse {} args' = .done line' → (cmdLineOptions {}).Splits args items →
      (cmdLineOptions {}).Splits args' items' → items.Perm items' → (items.map (·.key)).Nodup →
      line = line' := by
  intro equal
  have lines := equal addressFirst ifaceFirst _ _ { ctxDefaults {} with lan := cstr "lan" }
    { ctxDefaults {} with lan := cstr "lan", lanIP := ⟨192, 0, 2, 1⟩ } (by decide) (by decide)
    address_first_splits iface_first_splits (.swap _ _ _) (by decide)
  revert lines
  decide

end Portproxy.OptionOrder
