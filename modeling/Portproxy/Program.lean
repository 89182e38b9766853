import Mathlib.Data.List.Basic

/-! Programs that may give up, and plans they follow. A program moves a state
and then comes back with a value, comes back with an error code, or does not
come back at all; what it did to the state before it gave up stays done. A plan
lists the calls a program makes as long as each of them succeeds. -/
namespace Fallible

universe u v w x

inductive Result (State : Type u) (α : Type v) where
  | done (value : α) (state : State)
  | failed (code : Int) (state : State)
  | stopped

/-- A program over a state. -/
def Program (State : Type u) (α : Type v) := State → Result State α

variable {State : Type u} {α β : Type v} {Call : Type w}

namespace Program

def bind (first : Program State α) (next : α → Program State β) : Program State β := fun state =>
  match first state with
  | .done value after => next value after
  | .failed code after => .failed code after
  | .stopped => .stopped

instance : Monad (Program State) where
  pure value := fun state => .done value state
  bind := bind

def get : Program State State := fun state => .done state state

def modify (change : State → State) : Program State Unit := fun state => .done () (change state)

def cond (condition : State → Prop) [DecidablePred condition] (yes no : Program State α) :
    Program State α := fun state =>
  if condition state then yes state else no state

/-- Run the body if the condition holds of the state. -/
def when (condition : State → Prop) [DecidablePred condition] (body : Program State Unit) :
    Program State Unit :=
  cond condition body (pure ())

/-- Keep what the program comes back with in the state, be it a value or an
error code. -/
def keeping (store : Int → State → State) (body : Program State Int) : Program State Int :=
  fun state =>
    match body state with
    | .done value after => .done value (store value after)
    | .failed code after => .failed code (store code after)
    | .stopped => .stopped

theorem bind_done {first : Program State α} {next : α → Program State β} :
    (first >>= next) state = .done result final ↔
      ∃ value middle, first state = .done value middle ∧ next value middle = .done result final := by
  change bind first next state = _ ↔ _
  unfold bind
  cases first state <;> simp

theorem keeping_done {store : Int → State → State} {body : Program State Int} :
    body.keeping store state = .done result final ↔
      ∃ middle, body state = .done result middle ∧ final = store result middle := by
  unfold keeping
  cases body state with
  | done value middle =>
    simp only [Result.done.injEq]
    constructor
    · rintro ⟨rfl, rfl⟩
      exact ⟨middle, ⟨rfl, rfl⟩, rfl⟩
    · rintro ⟨_, ⟨rfl, rfl⟩, rfl⟩
      exact ⟨rfl, rfl⟩
  | failed | stopped => simp

theorem when_done {body : Program State Unit} {condition : State → Prop} [DecidablePred condition] :
    when condition body state = .done () final ↔
      if condition state then body state = .done () final else final = state := by
  unfold when cond
  split
  · rfl
  · change Result.done () state = .done () final ↔ _
    simp [eq_comm]

/-- Whether it comes back with a value or an error, the program leaves a state
related to the one it was run in. -/
def Keeps (kept : State → State → Prop) (program : Program State α) : Prop :=
  (∀ {state value final}, program state = .done value final → kept state final) ∧
    ∀ {state code final}, program state = .failed code final → kept state final

variable {kept : State → State → Prop}

theorem keeps_bind (kept : State → State → Prop)
    (trans : ∀ {state middle final}, kept state middle → kept middle final → kept state final)
    {first : Program State α} {next : α → Program State β} (begins : Keeps kept first)
    (ends : ∀ value, Keeps kept (next value)) : Keeps kept (first >>= next) := by
  refine ⟨fun ran => ?_, fun {state code final} ran => ?_⟩
  · obtain ⟨value, middle, firstRan, nextRan⟩ := bind_done.mp ran
    exact trans (begins.1 firstRan) ((ends value).1 nextRan)
  · change bind first next state = _ at ran
    unfold bind at ran
    cases firstRan : first state with
    | done value middle =>
      rw [firstRan] at ran
      exact trans (begins.1 firstRan) ((ends value).2 ran)
    | failed code middle =>
      rw [firstRan] at ran
      cases ran
      exact begins.2 firstRan
    | stopped => rw [firstRan] at ran; cases ran

theorem keeps_ret (refl : ∀ state, kept state state) (value : α) :
    Keeps kept (pure value : Program State α) :=
  ⟨fun ran => by cases ran; exact refl _, fun ran => by cases ran⟩

theorem keeps_get (refl : ∀ state, kept state state) : Keeps kept (get : Program State State) :=
  ⟨fun ran => by cases ran; exact refl _, fun ran => by cases ran⟩

theorem keeps_modify {change : State → State} (changes : ∀ state, kept state (change state)) :
    Keeps kept (modify change) :=
  ⟨fun ran => by cases ran; exact changes _, fun ran => by cases ran⟩

theorem keeps_cond {yes no : Program State α} {condition : State → Prop} [DecidablePred condition]
    (ifYes : Keeps kept yes) (ifNo : Keeps kept no) : Keeps kept (cond condition yes no) := by
  refine ⟨fun ran => ?_, fun ran => ?_⟩
  · unfold cond at ran
    split at ran
    · exact ifYes.1 ran
    · exact ifNo.1 ran
  · unfold cond at ran
    split at ran
    · exact ifYes.2 ran
    · exact ifNo.2 ran

/-- A body that runs under a condition only has to keep things where the
condition holds. -/
theorem keeps_when (refl : ∀ state, kept state state) {weaker : State → State → Prop}
    {condition : State → Prop} [DecidablePred condition] {body : Program State Unit}
    (keeps : Keeps weaker body)
    (enough : ∀ {state final}, condition state → weaker state final → kept state final) :
    Keeps kept (when condition body) := by
  refine ⟨fun {state value final} ran => ?_, fun {state code final} ran => ?_⟩
  · unfold when cond at ran
    split at ran
    · next holds => exact enough holds (keeps.1 ran)
    · cases ran
      exact refl _
  · unfold when cond at ran
    split at ran
    · next holds => exact enough holds (keeps.2 ran)
    · cases ran

theorem keeps_keeping (kept : State → State → Prop)
    (trans : ∀ {state middle final}, kept state middle → kept middle final → kept state final)
    {store : Int → State → State} {body : Program State Int} (keeps : Keeps kept body)
    (stores : ∀ value state, kept state (store value state)) : Keeps kept (body.keeping store) := by
  refine ⟨fun {state _ _} ran => ?_, fun {state _ _} ran => ?_⟩
  · unfold keeping at ran
    cases bodyRan : body state <;> rw [bodyRan] at ran <;> cases ran
    exact trans (keeps.1 bodyRan) (stores _ _)
  · unfold keeping at ran
    cases bodyRan : body state <;> rw [bodyRan] at ran <;> cases ran
    exact trans (keeps.2 bodyRan) (stores _ _)

/-- Two programs do the same in every state with a property. -/
def Agree (holds : State → Prop) (first second : Program State α) : Prop :=
  ∀ state, holds state → first state = second state

theorem agree_bind {holds : State → Prop} {first first' : Program State α} {next next' : α → Program State β}
    (keeps : ∀ {state value final}, first state = .done value final → holds state → holds final)
    (begins : Agree holds first first') (ends : ∀ value, Agree holds (next value) (next' value)) :
    Agree holds (first >>= next) (first' >>= next') := by
  intro state here
  change bind first next state = bind first' next' state
  unfold bind
  rw [← begins state here]
  cases ran : first state with
  | done value middle => exact ends value middle (keeps ran here)
  | failed | stopped => rfl

theorem agree_begin {holds : State → Prop} {first first' : Program State α} (begins : Agree holds first first')
    (next : α → Program State β) : Agree holds (first >>= next) (first' >>= next) := by
  intro state here
  change bind first next state = bind first' next state
  unfold bind
  rw [begins state here]

/-- Bodies that run under a condition only have to agree where it holds. -/
theorem agree_when {holds : State → Prop} {condition : State → Prop} [DecidablePred condition]
    {body body' : Program State Unit} (agree : Agree (fun state => holds state ∧ condition state) body body') :
    Agree holds (when condition body) (when condition body') := by
  intro state here
  unfold when cond
  split
  · next condition => exact agree state ⟨here, condition⟩
  · rfl

theorem agree_keeping {holds : State → Prop} {body body' : Program State Int} (store : Int → State → State)
    (agree : Agree holds body body') : Agree holds (body.keeping store) (body'.keeping store) := by
  intro state here
  unfold keeping
  rw [agree state here]

end Program

/-! ## Records -/

/-- A program that also keeps a record of what it asks for, even if it does not
come back. -/
def Recorded (State : Type u) (Entry : Type w) (α : Type v) := State → List Entry × Result State α

namespace Recorded

variable {Entry : Type w}

def bind (first : Recorded State Entry α) (next : α → Recorded State Entry β) : Recorded State Entry β :=
  fun state =>
    match (first state).2 with
    | .done value after => ((first state).1 ++ (next value after).1, (next value after).2)
    | .failed code after => ((first state).1, .failed code after)
    | .stopped => ((first state).1, .stopped)

instance : Monad (Recorded State Entry) where
  pure value := fun state => ([], .done value state)
  bind := bind

/-- A program that asks for these things. -/
def asking (entries : List Entry) (program : Program State α) : Recorded State Entry α := fun state =>
  (entries, program state)

def cond (condition : State → Prop) [DecidablePred condition] (yes no : Recorded State Entry α) :
    Recorded State Entry α := fun state =>
  if condition state then yes state else no state

def keeping (store : Int → State → State) (body : Recorded State Entry Int) : Recorded State Entry Int :=
  fun state => ((body state).1, Program.keeping store (fun state => (body state).2) state)

/-- The recorded program does what the program does, and asks for these things in
order as far as it gets. They may depend on a part of the state that it keeps. -/
structure Asks {Part : Type x} (part : State → Part) (recorded : Recorded State Entry α)
    (program : Program State α) (entries : Part → List Entry) : Prop where
  same : ∀ state, (recorded state).2 = program state
  asked : ∀ state, (recorded state).1 <+: entries (part state)
  done : ∀ {state value final}, program state = .done value final →
    (recorded state).1 = entries (part state) ∧ part final = part state

namespace Asks

variable {Part : Type x} {part : State → Part} {recorded : Recorded State Entry α} {program : Program State α}
  {entries : Part → List Entry}

theorem asking (entries : List Entry)
    (keeps : ∀ {state value final}, program state = .done value final → part final = part state) :
    Asks part (Recorded.asking entries program) program fun _ => entries where
  same _ := rfl
  asked _ := List.prefix_rfl
  done ran := ⟨rfl, keeps ran⟩

theorem ret (value : α) : Asks part (pure value : Recorded State Entry α) (pure value) fun _ => [] where
  same _ := rfl
  asked _ := List.prefix_rfl
  done ran := by cases ran; exact ⟨rfl, rfl⟩

/-- What is asked for later may not depend on what changes before. -/
theorem bind {first : Recorded State Entry α} {next : α → Recorded State Entry β}
    {plainNext : α → Program State β} {later : Part → List Entry} (begins : Asks part first program entries)
    (ends : ∀ value, Asks part (next value) (plainNext value) later) :
    Asks part (first >>= next) (program >>= plainNext) fun p => entries p ++ later p where
  same state := by
    change (Recorded.bind first next state).2 = Program.bind program plainNext state
    unfold Recorded.bind Program.bind
    rw [begins.same]
    cases program state with
    | done value middle => exact (ends value).same middle
    | failed | stopped => rfl
  asked state := by
    change (Recorded.bind first next state).1 <+: _
    unfold Recorded.bind
    rw [begins.same]
    cases ran : program state with
    | done value middle =>
      obtain ⟨all, kept⟩ := begins.done ran
      rw [all, ← kept]
      exact List.prefix_append_right_inj _ |>.mpr ((ends value).asked middle)
    | failed | stopped => exact (begins.asked state).trans (List.prefix_append _ _)
  done {state value final} ran := by
    obtain ⟨result, middle, firstRan, nextRan⟩ := Program.bind_done.mp ran
    obtain ⟨all, kept⟩ := begins.done firstRan
    obtain ⟨allLater, keptLater⟩ := (ends result).done nextRan
    refine ⟨?_, keptLater.trans kept⟩
    change (Recorded.bind first next state).1 = _
    unfold Recorded.bind
    rw [begins.same, firstRan, all, ← kept]
    exact congrArg _ allLater

theorem cond {yes no : Recorded State Entry α} {plainYes plainNo : Program State α}
    {condition : State → Prop} [DecidablePred condition] {entries other : Part → List Entry}
    (decides : Part → Prop) [DecidablePred decides] (looks : ∀ state, condition state ↔ decides (part state))
    (ifYes : Asks part yes plainYes entries) (ifNo : Asks part no plainNo other) :
    Asks part (Recorded.cond condition yes no) (Program.cond condition plainYes plainNo)
      fun p => if decides p then entries p else other p where
  same state := by
    unfold Recorded.cond Program.cond
    split
    · exact ifYes.same state
    · exact ifNo.same state
  asked state := by
    unfold Recorded.cond
    by_cases holds : condition state
    · rw [if_pos holds, if_pos ((looks state).mp holds)]
      exact ifYes.asked state
    · rw [if_neg holds, if_neg (mt (looks state).mpr holds)]
      exact ifNo.asked state
  done {state value final} ran := by
    unfold Program.cond at ran
    unfold Recorded.cond
    by_cases holds : condition state
    · rw [if_pos holds] at ran
      rw [if_pos holds, if_pos ((looks state).mp holds)]
      exact ifYes.done ran
    · rw [if_neg holds] at ran
      rw [if_neg holds, if_neg (mt (looks state).mpr holds)]
      exact ifNo.done ran

theorem keeping {recorded : Recorded State Entry Int} {program : Program State Int}
    {store : Int → State → State} (asks : Asks part recorded program entries)
    (keeps : ∀ value state, part (store value state) = part state) :
    Asks part (recorded.keeping store) (program.keeping store) entries where
  same state := by
    have plain : (fun state => (recorded state).2) = program := funext asks.same
    change Program.keeping store (fun state => (recorded state).2) state = _
    rw [plain]
  asked := asks.asked
  done {state value final} ran := by
    obtain ⟨middle, bodyRan, rfl⟩ := Program.keeping_done.mp ran
    obtain ⟨all, kept⟩ := asks.done bodyRan
    exact ⟨all, (keeps value middle).trans kept⟩

end Asks
end Recorded

/-! ## Plans -/

/-- The calls actually made: all of them, or those up to the first that does
not succeed. -/
def made (succeeds : Call → Bool) : List Call → List Call
  | [] => []
  | call :: rest => if succeeds call then call :: made succeeds rest else [call]

variable {succeeds stops : Call → Bool}

theorem made_of_all {plan : List Call} (all : ∀ call ∈ plan, succeeds call = true) :
    made succeeds plan = plan := by
  induction plan with
  | nil => rfl
  | cons call rest ih =>
    simp [made, all call (by simp), ih fun other member => all other (List.mem_cons_of_mem _ member)]

theorem made_append_of_all {plan later : List Call} (all : ∀ call ∈ plan, succeeds call = true) :
    made succeeds (plan ++ later) = plan ++ made succeeds later := by
  induction plan with
  | nil => rfl
  | cons call rest ih =>
    simp [made, all call (by simp), ih fun other member => all other (List.mem_cons_of_mem _ member)]

theorem made_append_of_not_all {plan later : List Call}
    (notAll : ¬ ∀ call ∈ plan, succeeds call = true) :
    made succeeds (plan ++ later) = made succeeds plan := by
  induction plan with
  | nil => simp at notAll
  | cons call rest ih =>
    cases succeeded : succeeds call with
    | false => simp [made, succeeded]
    | true =>
      have tail : ¬ ∀ other ∈ rest, succeeds other = true := by
        simpa [succeeded] using notAll
      simp [made, succeeded, ih tail]

/-- What calls do to a state, composed along a list of them. -/
structure Effects (State : Type u) (Call : Type w) where
  Effect : List Call → State → State → Prop
  none : ∀ state, Effect [] state state
  append : ∀ {first second state middle final}, Effect first state middle →
    Effect second middle final → Effect (first ++ second) state final

/-- The program comes back with a value after making every call of its plan;
it gives up at a call that does not succeed; it does not come back from a call
that stops it. The plan may look at the state, not at what the calls change. -/
structure Follows (effects : Effects State Call) (succeeds stops : Call → Bool)
    (program : Program State α) (plan : State → List Call) : Prop where
  done : program state = .done value final →
    (∀ call ∈ plan state, succeeds call = true) ∧ effects.Effect (plan state) state final
  failed : program state = .failed code final →
    (¬ ∀ call ∈ plan state, succeeds call = true) ∧
      (∀ call ∈ made succeeds (plan state), stops call = false) ∧
      effects.Effect (made succeeds (plan state)) state final
  stopped : program state = .stopped →
    ∃ call ∈ made succeeds (plan state), stops call = true ∧ succeeds call = false

namespace Follows

variable {effects : Effects State Call}

theorem ret (value : α) :
    Follows effects succeeds stops (pure value : Program State α) fun _ => [] where
  done ran := by cases ran; exact ⟨by simp, effects.none _⟩
  failed ran := by cases ran
  stopped ran := by cases ran

theorem get : Follows effects succeeds stops (Program.get : Program State State) fun _ => [] where
  done ran := by cases ran; exact ⟨by simp, effects.none _⟩
  failed ran := by cases ran
  stopped ran := by cases ran

/-- A change that no call is needed for. -/
theorem modify {change : State → State} (silent : ∀ state, effects.Effect [] state (change state)) :
    Follows effects succeeds stops (Program.modify change) fun _ => [] where
  done ran := by cases ran; exact ⟨by simp, silent _⟩
  failed ran := by cases ran
  stopped ran := by cases ran

/-- Sequencing. The second plan may depend on nothing the first one's calls
change, and stopping calls do not succeed. -/
theorem bind {first : Program State α} {next : α → Program State β} {later : State → List Call}
    (begins : Follows effects succeeds stops first plan)
    (ends : ∀ value, Follows effects succeeds stops (next value) later)
    (stable : ∀ {calls state final}, effects.Effect calls state final → later final = later state)
    (fatal : ∀ call, stops call = true → succeeds call = false) :
    Follows effects succeeds stops (first >>= next) fun state => plan state ++ later state where
  done ran := by
    obtain ⟨value, middle, firstRan, nextRan⟩ := Program.bind_done.mp ran
    obtain ⟨allFirst, moved⟩ := begins.done firstRan
    obtain ⟨allLater, movedOn⟩ := (ends value).done nextRan
    rw [stable moved] at allLater movedOn
    refine ⟨?_, effects.append moved movedOn⟩
    intro call member
    rcases List.mem_append.mp member with member | member
    · exact allFirst call member
    · exact allLater call member
  failed {state code final} ran := by
    change Program.bind first next state = _ at ran
    unfold Program.bind at ran
    cases firstRan : first state with
    | done value middle =>
      obtain ⟨allFirst, moved⟩ := begins.done firstRan
      rw [firstRan] at ran
      obtain ⟨notAll, alive, movedOn⟩ := (ends value).failed ran
      rw [stable moved] at notAll alive movedOn
      rw [made_append_of_all allFirst]
      refine ⟨?_, ?_, effects.append moved movedOn⟩
      · intro all
        exact notAll fun call member => all call (List.mem_append_right _ member)
      · intro call member
        rcases List.mem_append.mp member with member | member
        · cases stopped : stops call with
          | false => rfl
          | true => simpa [fatal call stopped] using allFirst call member
        · exact alive call member
    | failed code middle =>
      rw [firstRan] at ran
      cases ran
      obtain ⟨notAll, alive, moved⟩ := begins.failed firstRan
      rw [made_append_of_not_all notAll]
      exact ⟨fun all => notAll fun call member => all call (List.mem_append_left _ member), alive, moved⟩
    | stopped => rw [firstRan] at ran; cases ran
  stopped {state} ran := by
    change Program.bind first next state = _ at ran
    unfold Program.bind at ran
    cases firstRan : first state with
    | done value middle =>
      obtain ⟨allFirst, moved⟩ := begins.done firstRan
      rw [firstRan] at ran
      obtain ⟨call, member, stopped⟩ := (ends value).stopped ran
      rw [stable moved] at member
      rw [made_append_of_all allFirst]
      exact ⟨call, List.mem_append_right _ member, stopped⟩
    | failed code middle => rw [firstRan] at ran; cases ran
    | stopped =>
      obtain ⟨call, member, stopped⟩ := begins.stopped firstRan
      have notAll : ¬ ∀ call ∈ plan state, succeeds call = true := by
        intro all
        rw [made_of_all all] at member
        simp [all call member] at stopped
      rw [made_append_of_not_all notAll]
      exact ⟨call, member, stopped⟩

theorem cond {yes no : Program State α} {condition : State → Prop} [DecidablePred condition]
    (ifYes : Follows effects succeeds stops yes plan)
    (ifNo : Follows effects succeeds stops no other) :
    Follows effects succeeds stops (Program.cond condition yes no)
      fun state => if condition state then plan state else other state where
  done {state value final} ran := by
    unfold Program.cond at ran
    split at ran
    · rename_i holds
      simpa only [holds, ↓reduceIte] using ifYes.done ran
    · rename_i fails
      simpa only [fails, ↓reduceIte] using ifNo.done ran
  failed {state code final} ran := by
    unfold Program.cond at ran
    split at ran
    · rename_i holds
      simpa only [holds, ↓reduceIte] using ifYes.failed ran
    · rename_i fails
      simpa only [fails, ↓reduceIte] using ifNo.failed ran
  stopped {state} ran := by
    unfold Program.cond at ran
    split at ran
    · rename_i holds
      simpa only [holds, ↓reduceIte] using ifYes.stopped ran
    · rename_i fails
      simpa only [fails, ↓reduceIte] using ifNo.stopped ran

theorem when {body : Program State Unit} {condition : State → Prop} [DecidablePred condition]
    (follows : Follows effects succeeds stops body plan) :
    Follows effects succeeds stops (Program.when condition body)
      fun state => if condition state then plan state else [] :=
  cond follows (ret ())

/-- Storing what the program comes back with needs no call. -/
theorem keeping {store : Int → State → State} {body : Program State Int}
    (follows : Follows effects succeeds stops body plan)
    (silent : ∀ value state, effects.Effect [] state (store value state)) :
    Follows effects succeeds stops (body.keeping store) plan where
  done {state value final} ran := by
    unfold Program.keeping at ran
    cases bodyRan : body state <;> rw [bodyRan] at ran <;> cases ran
    obtain ⟨all, moved⟩ := follows.done bodyRan
    exact ⟨all, by simpa using effects.append moved (silent _ _)⟩
  failed {state code final} ran := by
    unfold Program.keeping at ran
    cases bodyRan : body state <;> rw [bodyRan] at ran <;> cases ran
    obtain ⟨notAll, alive, moved⟩ := follows.failed bodyRan
    exact ⟨notAll, alive, by simpa using effects.append moved (silent _ _)⟩
  stopped {state} ran := by
    unfold Program.keeping at ran
    cases bodyRan : body state <;> rw [bodyRan] at ran <;> cases ran
    exact follows.stopped bodyRan

end Follows
end Fallible
