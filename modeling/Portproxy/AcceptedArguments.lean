import Portproxy.ModeExclusion

/-! Which command lines are accepted, and which addresses they give. An operand
that is no IPv6 address is refused; one that is no IPv4 address is passed over,
and the address in its place stays as it was. -/
namespace Portproxy

namespace CmdOption

/-- The IPv4 address an option gives. -/
def address4 : CmdOption → Option (CommandLine → InAddr)
  | lanIP => some fun ctx => ctx.lanIP
  | aftrIPv4 => some fun ctx => ctx.aftrIPv4
  | wanIP => some fun ctx => ctx.wanIP
  | _ => none

/-- The IPv6 address an option gives. -/
def address6 : CmdOption → Option (CommandLine → In6Addr)
  | wanIPv6 => some fun ctx => ctx.wanIPv6
  | aftrIPv6 => some fun ctx => ctx.aftrIPv6
  | _ => none

/-- The option that looks up another address in its place. -/
def replacedBy : CmdOption → Option CmdOption
  | lanIP => some lanIface
  | wanIP => some wanIface
  | _ => none

end CmdOption

namespace AcceptedArguments
open OptionVector ModeExclusion

variable {env : Surroundings} {args : List CString} {line : CommandLine}
  {items : List (Setting CmdOption CString)} {item : Setting CmdOption CString} {opt other : CmdOption}

/-! ## The addresses -/

theorem address4_keeps (env : Surroundings) {part : CommandLine → InAddr} (gives : opt.address4 = some part)
    (differs : other ≠ opt) (apart : opt.replacedBy ≠ some other) : (other.action env).Keeps part := by
  refine action_keeps other fun arg ctx => ?_
  cases opt <;> cases gives <;> cases other <;>
    first
    | exact absurd rfl differs
    | exact absurd rfl apart
    | rfl

theorem address6_keeps (env : Surroundings) {part : CommandLine → In6Addr} (gives : opt.address6 = some part)
    (differs : other ≠ opt) : (other.action env).Keeps part := by
  refine action_keeps other fun arg ctx => ?_
  cases opt <;> cases gives <;> cases other <;>
    first
    | exact absurd rfl differs
    | rfl

theorem address4_stores {part : CommandLine → InAddr} (gives : opt.address4 = some part)
    (literal : inetPton4 arg = some addr)
    (accepted : (cmdLineOptions env).effect { key := opt, operand := some arg } = some change)
    (ctx : CommandLine) : part (change ctx) = addr := by
  cases opt <;> cases gives <;> obtain rfl := Option.some.inj accepted <;> simp [literal]

theorem address6_stores {part : CommandLine → In6Addr} (gives : opt.address6 = some part)
    (literal : inetPton6 arg = some addr)
    (accepted : (cmdLineOptions env).effect { key := opt, operand := some arg } = some change)
    (ctx : CommandLine) : part (change ctx) = addr := by
  cases opt <;> cases gives
  all_goals
    obtain ⟨read, given, rfl⟩ := Option.map_eq_some_iff.mp accepted
    obtain rfl := Option.some.inj (literal.symm.trans given)
    rfl

/-- The last occurrence of an option, with none behind it that replaces what it
gives. -/
def LastGiven (opt : CmdOption) (arg : CString) (items : List (Setting CmdOption CString)) : Prop :=
  ∃ before later, items = before ++ { key := opt, operand := some arg } :: later ∧
    ∀ item ∈ later, item.key ≠ opt ∧ opt.replacedBy ≠ some item.key

/-- The addresses given last are the ones in the context. -/
structure Stored (items : List (Setting CmdOption CString)) (line : CommandLine) : Prop where
  ipv4 : ∀ opt part arg addr, opt.address4 = some part → LastGiven opt arg items →
    inetPton4 arg = some addr → part line = addr
  ipv6 : ∀ opt part arg addr, opt.address6 = some part → LastGiven opt arg items →
    inetPton6 arg = some addr → part line = addr

theorem addresses_stored (applied : (cmdLineOptions env).apply items ctx = some line) : Stored items line where
  ipv4 := by
    rintro opt part arg addr gives ⟨before, later, rfl, last⟩ literal
    refine Options.apply_stored (fun change accepted => address4_stores gives literal accepted) ?_ applied
    intro other behind
    exact address4_keeps env gives (last other behind).1 (last other behind).2
  ipv6 := by
    rintro opt part arg addr gives ⟨before, later, rfl, last⟩ literal
    refine Options.apply_stored (fun change accepted => address6_stores gives literal accepted) ?_ applied
    intro other behind
    exact address6_keeps env gives (last other behind).1

/-! ## Acceptance -/

/-- Where the option takes an IPv4 address, the operand is one. -/
def IsLiteral4 (item : Setting CmdOption CString) : Prop :=
  item.key = .lanIP ∨ item.key = .aftrIPv4 ∨ item.key = .wanIP →
    ∀ arg, item.operand = some arg → (inetPton4 arg).isSome

/-- The vector splits into known options with their operands, and every address
among these is one. -/
def WellFormed (env : Surroundings) (args : List CString) : Prop :=
  ∃ items, (cmdLineOptions env).Splits args items ∧ ∀ item ∈ items, IsLiteral4 item ∧ IsLiteral item

/-- A vector is accepted exactly if it splits and its IPv6 addresses are
addresses. -/
theorem accepted_iff (nonempty : args ≠ []) :
    (∃ line, cmdLineParse env args = .done line) ↔
      ∃ items, (cmdLineOptions env).Splits args items ∧ ∀ item ∈ items, IsLiteral item := by
  have literal {items} (split : (cmdLineOptions env).settings args = some items) :
      (∀ item ∈ items, ((cmdLineOptions env).effect item).isSome) ↔ ∀ item ∈ items, IsLiteral item :=
    forall₂_congr fun item member => accepted_iff_literal (Options.settings_fit _ split item member)
  simp only [cmd_line_parse_done, Options.splits_iff]
  constructor
  · rintro ⟨line, -, items, split, applied⟩
    exact ⟨items, split, (literal split).mp ((Options.applies_iff _ items _).mp ⟨line, applied⟩)⟩
  · rintro ⟨items, split, literals⟩
    obtain ⟨line, applied⟩ :=
      (Options.applies_iff _ items (ctxDefaults env)).mpr ((literal split).mpr literals)
    exact ⟨line, nonempty, items, split, applied⟩

theorem splits_unique (split : (cmdLineOptions env).Splits args items)
    (split' : (cmdLineOptions env).Splits args items') : items' = items := by
  rw [Options.splits_iff] at split split'
  exact Option.some.inj (split'.symm.trans split)

/-- Acceptance and what is stored are as they should be exactly if the IPv4
operands are addresses wherever the IPv6 operands are. -/
theorem accepted_well_formed_iff (env : Surroundings) (args : List CString) (nonempty : args ≠ []) :
    (((∃ line, cmdLineParse env args = .done line) ↔ WellFormed env args) ∧
        ∀ line items, cmdLineParse env args = .done line → (cmdLineOptions env).Splits args items →
          Stored items line) ↔
      ∀ items, (cmdLineOptions env).Splits args items → (∀ item ∈ items, IsLiteral item) →
        ∀ item ∈ items, IsLiteral4 item := by
  rw [accepted_iff nonempty]
  constructor
  · rintro ⟨accepts, -⟩ items split literals
    obtain ⟨items', split', formed⟩ := accepts.mp ⟨items, split, literals⟩
    obtain rfl := splits_unique split split'
    exact fun item member => (formed item member).1
  · intro literal4
    refine ⟨⟨?_, ?_⟩, ?_⟩
    · rintro ⟨items, split, literals⟩
      exact ⟨items, split, fun item member => ⟨literal4 items split literals item member, literals item member⟩⟩
    · rintro ⟨items, split, formed⟩
      exact ⟨items, split, fun item member => (formed item member).2⟩
    · intro line items accepted split
      obtain ⟨-, items', split', applied⟩ := cmd_line_parse_done.mp accepted
      obtain rfl := splits_unique split ((Options.splits_iff _ _ _).mpr split')
      exact addresses_stored applied

/-- `portproxy -l 192.0.2`, with an octet missing. -/
def shortAddress : List CString := [cstr "-l", cstr "192.0.2"]

theorem short_address_iff :
    (((∃ line, cmdLineParse {} shortAddress = .done line) ↔ WellFormed {} shortAddress) ∧
        ∀ line items, cmdLineParse {} shortAddress = .done line → (cmdLineOptions {}).Splits shortAddress items →
          Stored items line) ↔
      ∀ items, (cmdLineOptions {}).Splits shortAddress items → (∀ item ∈ items, IsLiteral item) →
        ∀ item ∈ items, IsLiteral4 item :=
  accepted_well_formed_iff {} shortAddress (List.cons_ne_nil _ _)

/-- It is accepted, and the LAN address is the default one. -/
theorem short_address_accepted :
    cmdLineParse {} shortAddress = .done (ctxDefaults {}) ∧
      ¬ ((∃ line, cmdLineParse {} shortAddress = .done line) ↔ WellFormed {} shortAddress) := by
  have accepted : cmdLineParse {} shortAddress = .done (ctxDefaults {}) := by decide
  refine ⟨accepted, fun accepts => ?_⟩
  obtain ⟨items, split, formed⟩ := accepts.mp ⟨_, accepted⟩
  have single : items = [{ key := .lanIP, operand := some (cstr "192.0.2") }] := by
    rw [Options.splits_iff] at split
    exact (Option.some.inj split).symm
  have literal := (formed _ (single ▸ List.mem_cons_self)).1 (.inl rfl) _ rfl
  revert literal
  decide

end AcceptedArguments
end Portproxy
