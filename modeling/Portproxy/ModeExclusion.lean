import Portproxy.CommandLine

/-! NAT-PMP and extended NAT-PMP exclude each other, the help text says, and so
does the message of `sanity_check`. `main` takes the -1 that comes with that
message for success. -/
namespace Portproxy.ModeExclusion
open OptionVector

/-- What `main` may bind sockets for: at least one protocol, and not both kinds
of NAT-PMP. -/
structure Exclusive (line : CommandLine) : Prop where
  enabled : line.enableNatPmp ≠ 0 ∨ line.enableNatPmpExt ≠ 0 ∨ line.enableUpnpUdp ≠ 0 ∨
    line.enableUpnpTcp ≠ 0
  exclusive : ¬ (line.enableNatPmp ≠ 0 ∧ line.enableNatPmpExt ≠ 0)

/-- Where the option takes an IPv6 address, the operand is one. -/
def IsLiteral (item : Setting CmdOption CString) : Prop :=
  item.key = .wanIPv6 ∨ item.key = .aftrIPv6 → ∀ arg, item.operand = some arg → (inetPton6 arg).isSome

/-- The arguments are accepted and ask for both kinds of NAT-PMP, the extended
one because it is not switched off. -/
def AsksForBoth (env : Surroundings) (args : List CString) : Prop :=
  ∃ items, (cmdLineOptions env).settings args = some items ∧ (∀ item ∈ items, IsLiteral item) ∧
    (∃ arg, lastOperand .natPmp items = some arg ∧ atoi env.longBits arg ≠ 0) ∧
    ∀ arg, lastOperand .natPmpExt items = some arg → atoi env.longBits arg ≠ 0

variable {env : Surroundings} {args : List CString} {line : CommandLine}
  {items : List (Setting CmdOption CString)} {item : Setting CmdOption CString}

/-- Only the IPv6 options refuse an operand. -/
theorem accepted_iff_literal (fits : (cmdLineOptions env).Fits item) :
    ((cmdLineOptions env).effect item).isSome ↔ IsLiteral item := by
  obtain ⟨key, operand⟩ := item
  cases key with
  | help => exact fits.elim
  | persistent | verbose | daemon =>
    obtain rfl : operand = none := fits
    exact iff_of_true rfl (by simp [IsLiteral])
  | wanIPv6 | aftrIPv6 =>
    obtain ⟨arg, rfl⟩ := fits
    change ((inetPton6 arg).map _).isSome ↔ _
    simp [IsLiteral]
  | _ =>
    obtain ⟨arg, rfl⟩ := fits
    exact iff_of_true rfl (by simp [IsLiteral])

/-- `main` goes on with every accepted command line that switches on a
protocol. -/
theorem main_binds_iff :
    mainBinds env args = some line ↔ cmdLineParse env args = .done line ∧ sanityCheck line.toConfig ≠ 0 := by
  unfold mainBinds
  cases cmdLineParse env args with
  | done parsed =>
    by_cases sane : sanityCheck parsed.toConfig = 0
    · simp only [sane, ne_eq, not_true_eq_false, ↓reduceIte, reduceCtorEq, OptionVector.Result.done.injEq,
        false_iff]
      rintro ⟨rfl, insane⟩
      exact insane sane
    · simp only [sane, ne_eq, not_false_eq_true, ↓reduceIte, Option.some.injEq, OptionVector.Result.done.injEq,
        iff_self_and]
      rintro rfl
      exact sane
  | failed | stopped => simp

/-- Zero means that everything is off; both kinds of NAT-PMP give -1. -/
theorem sanity_check_zero_iff (cfg : Config) :
    sanityCheck cfg = 0 ↔
      cfg.enableNatPmp = 0 ∧ cfg.enableUpnpTcp = 0 ∧ cfg.enableUpnpUdp = 0 ∧ cfg.enableNatPmpExt = 0 := by
  unfold sanityCheck
  split
  · next off => exact iff_of_true rfl off
  · next on =>
    refine iff_of_false ?_ on
    split <;> decide

/-- A command line is accepted with both kinds of NAT-PMP on exactly if it asks
for both. -/
theorem both_accepted_iff (env : Surroundings) (args : List CString) :
    (∃ line, cmdLineParse env args = .done line ∧ line.enableNatPmp ≠ 0 ∧ line.enableNatPmpExt ≠ 0) ↔
      AsksForBoth env args := by
  constructor
  · rintro ⟨line, accepted, natPmp, natPmpExt⟩
    obtain ⟨-, items, split, applied⟩ := cmd_line_parse_done.mp accepted
    have effects := (Options.applies_iff _ items _).mp ⟨line, applied⟩
    rw [feature_set .natPmp rfl applied] at natPmp
    rw [feature_set .natPmpExt rfl applied] at natPmpExt
    refine ⟨items, split, ?_, ?_, ?_⟩
    · intro item member
      rw [← accepted_iff_literal (Options.settings_fit _ split item member)]
      exact effects item member
    · cases last : lastOperand CmdOption.natPmp items with
      | none => simp [last, ctxDefaults] at natPmp
      | some arg => exact ⟨arg, rfl, by simpa [last] using natPmp⟩
    · intro arg last
      simpa [last] using natPmpExt
  · rintro ⟨items, split, literals, ⟨arg, last, on⟩, notOff⟩
    have effects : ∀ item ∈ items, ((cmdLineOptions env).effect item).isSome := by
      intro item member
      rw [accepted_iff_literal (Options.settings_fit _ split item member)]
      exact literals item member
    obtain ⟨line, applied⟩ := (Options.applies_iff _ items (ctxDefaults env)).mpr effects
    have some : args ≠ [] := by
      rintro rfl
      cases split
      cases last
    refine ⟨line, cmd_line_parse_done.mpr ⟨some, items, split, applied⟩, ?_, ?_⟩
    · have natPmp := feature_set .natPmp rfl applied
      rw [last] at natPmp
      exact natPmp ▸ on
    · have natPmpExt := feature_set .natPmpExt rfl applied
      rw [natPmpExt]
      cases off : lastOperand CmdOption.natPmpExt items with
      | none => exact one_ne_zero
      | some arg => exact notOff arg off

/-- For every argument vector, what `main` binds sockets for is at least one
protocol and not both kinds of NAT-PMP, exactly unless the arguments ask for
both. -/
theorem modes_exclusive_iff (env : Surroundings) (args : List CString) :
    (∀ line, mainBinds env args = some line → Exclusive line) ↔ ¬ AsksForBoth env args := by
  rw [← both_accepted_iff]
  constructor
  · rintro exclusive ⟨line, accepted, both⟩
    have sane : sanityCheck line.toConfig ≠ 0 := fun off => both.1 ((sanity_check_zero_iff _).mp off).1
    exact (exclusive line (main_binds_iff.mpr ⟨accepted, sane⟩)).exclusive both
  · intro notBoth line binds
    obtain ⟨accepted, sane⟩ := main_binds_iff.mp binds
    refine ⟨?_, fun both => notBoth ⟨line, accepted, both⟩⟩
    by_contra off
    simp only [not_or, ne_eq, not_not] at off
    obtain ⟨natPmp, natPmpExt, upnpUdp, upnpTcp⟩ := off
    exact sane ((sanity_check_zero_iff _).mpr ⟨natPmp, upnpTcp, upnpUdp, natPmpExt⟩)

/-- The command line `portproxy --nat-pmp 1`. -/
def natPmpOnly : List CString := [cstr "--nat-pmp", cstr "1"]

/-- It starts NAT-PMP beside the extended kind, which is on by default. -/
theorem nat_pmp_only_starts_both :
    ¬ ∀ line, mainBinds {} natPmpOnly = some line → Exclusive line := by
  intro exclusive
  have binds : mainBinds {} natPmpOnly = some { ctxDefaults {} with enableNatPmp := 1 } := by decide
  exact (exclusive _ binds).exclusive ⟨by decide, by decide⟩

end Portproxy.ModeExclusion
