import Mathlib.Data.List.Basic

/-! Machines that consume one input at a time and emit events, and the rules
for reasoning about their runs. A run is a list of inputs; a property of every
step is stated with the state in which that step is taken. -/
namespace StepMachine

universe u v w

/-- One input moves the state and makes the machine emit some events. -/
structure Machine (State : Type u) (Input : Type v) (Event : Type w) where
  step : State → Input → State × List Event

variable {State : Type u} {Input : Type v} {Event : Type w}

namespace Machine

/-- The state a run ends in. -/
def after (M : Machine State Input Event) : State → List Input → State
  | start, [] => start
  | start, input :: rest => M.after (M.step start input).1 rest

/-- Everything a run emits, in order. -/
def trace (M : Machine State Input Event) : State → List Input → List Event
  | _, [] => []
  | start, input :: rest => (M.step start input).2 ++ M.trace (M.step start input).1 rest

/-- Every step of the run satisfies `P`, which sees the state before the step
and the input it consumes. -/
def Along (M : Machine State Input Event) (P : State → Input → Prop) :
    State → List Input → Prop
  | _, [] => True
  | start, input :: rest => P start input ∧ M.Along P (M.step start input).1 rest

instance (M : Machine State Input Event) (P : State → Input → Prop)
    [∀ state input, Decidable (P state input)] :
    ∀ start inputs, Decidable (M.Along P start inputs)
  | _, [] => inferInstanceAs (Decidable True)
  | start, input :: rest =>
    have := instDecidableAlong M P (M.step start input).1 rest
    inferInstanceAs (Decidable (_ ∧ _))

variable {M : Machine State Input Event} {P Q : State → Input → Prop}

/-- The invariant rule: what every admitted step preserves holds at the end
of every run of admitted steps. -/
theorem invariant_after (M : Machine State Input Event) (Inv : State → Prop)
    {Admits : State → Input → Prop}
    (keeps : ∀ state input, Inv state → Admits state input → Inv (M.step state input).1)
    (initially : Inv start) (admitted : M.Along Admits start inputs) :
    Inv (M.after start inputs) := by
  induction inputs generalizing start with
  | nil => exact initially
  | cons input rest ih => exact ih (keeps _ _ initially admitted.1) admitted.2

/-- What an admitted step satisfies from any invariant state, every step of an
admitted run satisfies. -/
theorem along_of_invariant (M : Machine State Input Event) (Inv : State → Prop)
    {Admits : State → Input → Prop}
    (keeps : ∀ state input, Inv state → Admits state input → Inv (M.step state input).1)
    (each : ∀ state input, Inv state → Admits state input → P state input)
    (initially : Inv start) (admitted : M.Along Admits start inputs) :
    M.Along P start inputs := by
  induction inputs generalizing start with
  | nil => trivial
  | cons input rest ih =>
    exact ⟨each _ _ initially admitted.1, ih (keeps _ _ initially admitted.1) admitted.2⟩

/-- When every step may be taken, an invariant needs no admission. -/
theorem invariant_after_any (M : Machine State Input Event) (Inv : State → Prop) (start : State)
    (keeps : ∀ state input, Inv state → Inv (M.step state input).1)
    (initially : Inv start) (inputs : List Input) : Inv (M.after start inputs) := by
  induction inputs generalizing start with
  | nil => exact initially
  | cons input rest ih => exact ih _ (keeps _ _ initially)

theorem along_of_invariant_any (M : Machine State Input Event) (Inv : State → Prop)
    (keeps : ∀ state input, Inv state → Inv (M.step state input).1)
    (each : ∀ state input, Inv state → P state input)
    (initially : Inv start) (inputs : List Input) : M.Along P start inputs := by
  induction inputs generalizing start with
  | nil => trivial
  | cons input rest ih => exact ⟨each _ _ initially, ih (keeps _ _ initially)⟩

/-- Where a step behaves exactly when its condition holds, and behaving steps
keep the invariant, a whole run behaves exactly when all its steps meet the
condition. -/
theorem along_iff_of_invariant (M : Machine State Input Event) (Inv : State → Prop)
    (exact : ∀ state input, Inv state → (P state input ↔ Q state input))
    (keeps : ∀ state input, Inv state → Q state input → Inv (M.step state input).1)
    (initially : Inv start) (inputs : List Input) :
    M.Along P start inputs ↔ M.Along Q start inputs := by
  induction inputs generalizing start with
  | nil => exact Iff.rfl
  | cons input rest ih =>
    have here := exact start input initially
    constructor
    · rintro ⟨behaves, later⟩
      have meets := here.mp behaves
      exact ⟨meets, (ih (keeps _ _ initially meets)).mp later⟩
    · rintro ⟨meets, later⟩
      exact ⟨here.mpr meets, (ih (keeps _ _ initially meets)).mpr later⟩

/-- The same over runs of admitted steps. -/
theorem along_iff_of_admitted (M : Machine State Input Event) (Inv : State → Prop)
    {Admits : State → Input → Prop}
    (exact : ∀ state input, Inv state → Admits state input → (P state input ↔ Q state input))
    (keeps : ∀ state input, Inv state → Admits state input → Q state input → Inv (M.step state input).1)
    (initially : Inv start) (admitted : M.Along Admits start inputs) :
    M.Along P start inputs ↔ M.Along Q start inputs := by
  induction inputs generalizing start with
  | nil => exact Iff.rfl
  | cons input rest ih =>
    have here := exact start input initially admitted.1
    constructor
    · rintro ⟨behaves, later⟩
      have meets := here.mp behaves
      exact ⟨meets, (ih (keeps _ _ initially admitted.1 meets) admitted.2).mp later⟩
    · rintro ⟨meets, later⟩
      exact ⟨here.mpr meets, (ih (keeps _ _ initially admitted.1 meets) admitted.2).mpr later⟩

/-- Machines whose steps lead to the same states reach the same states. -/
theorem same_after (M M' : Machine State Input Event) (Inv : State → Prop)
    (same : ∀ state input, Inv state → (M.step state input).1 = (M'.step state input).1)
    (keeps : ∀ state input, Inv state → Inv (M.step state input).1) (initially : Inv start) (inputs : List Input) :
    M.after start inputs = M'.after start inputs := by
  induction inputs generalizing start with
  | nil => rfl
  | cons input rest ih =>
    have later := ih (keeps start input initially)
    rw [same start input initially] at later
    rw [after, after, same start input initially, later]

/-- The machine that also keeps everything it has emitted. -/
def recorded (M : Machine State Input Event) : Machine (State × List Event) Input Event where
  step record input :=
    (((M.step record.1 input).1, record.2 ++ (M.step record.1 input).2), (M.step record.1 input).2)

theorem recorded_after (start : State) (history : List Event) (inputs : List Input) :
    M.recorded.after (start, history) inputs =
      (M.after start inputs, history ++ M.trace start inputs) := by
  induction inputs generalizing start history with
  | nil => simp [after, trace]
  | cons input rest ih =>
    simp only [after, trace, recorded] at ih ⊢
    rw [ih, List.append_assoc]

/-- Its steps are those of the machine. -/
theorem recorded_along (M : Machine State Input Event) (history : List Event) :
    M.recorded.Along (fun record input => P record.1 input) (start, history) inputs ↔ M.Along P start inputs := by
  induction inputs generalizing start history with
  | nil => exact Iff.rfl
  | cons input rest ih => exact and_congr_right fun _ => ih _

end Machine
end StepMachine
