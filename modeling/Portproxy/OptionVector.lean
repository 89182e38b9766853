import Mathlib.Data.List.Basic

/-! Argument vectors: options out of a table, each alone or followed by an
operand, that change a state one after the other. A vector is read as a list of
settings, and what it does is the composition of what they do. -/
namespace OptionVector

universe u v w x

/-- What an option asks of the vector and does to the state. -/
inductive Action (State : Type u) (Word : Type v) where
  /-- Reading ends here, without a result. -/
  | stop
  | flag (change : State → State)
  /-- Takes the next word, which it may refuse. -/
  | operand (read : Word → Option (State → State))

/-- Whatever the option does leaves this part of the state alone. -/
def Action.Keeps {State : Type u} {Word : Type v} {β : Type x} (part : State → β) : Action State Word → Prop
  | .stop => True
  | .flag change => ∀ state, part (change state) = part state
  | .operand read => ∀ arg change, read arg = some change → ∀ state, part (change state) = part state

inductive Result (State : Type u) where
  | done (state : State)
  | failed
  | stopped
  deriving DecidableEq, Repr

/-- The options of a program: how they are written and what they do. -/
structure Options (Key : Type w) (State : Type u) (Word : Type v) where
  key : Word → Option Key
  action : Key → Action State Word

/-- An option of a vector, with its operand if it takes one. -/
structure Setting (Key : Type w) (Word : Type v) where
  key : Key
  operand : Option Word := none
  deriving DecidableEq, Repr

variable {State : Type u} {Word : Type v} {Key : Type w} {β : Type x}

/-- The words a setting is written with. -/
def Setting.words (spell : Key → Word) (setting : Setting Key Word) : List Word :=
  spell setting.key :: setting.operand.toList

/-- The operand of the last setting of an option. -/
def lastOperand [DecidableEq Key] (key : Key) : List (Setting Key Word) → Option Word
  | [] => none
  | item :: rest => (lastOperand key rest).or (if item.key = key then item.operand else none)

namespace Options

/-- Read a vector from left to right. -/
def parse (O : Options Key State Word) : List Word → State → Result State
  | [], state => .done state
  | word :: rest, state =>
    match O.key word with
    | none => .failed
    | some key =>
      match O.action key with
      | .stop => .stopped
      | .flag change => O.parse rest (change state)
      | .operand read =>
        match rest with
        | [] => .failed
        | value :: rest =>
          match read value with
          | none => .failed
          | some change => O.parse rest (change state)

/-- The settings a vector consists of, if nothing is missing and nothing stops
the reading. -/
def settings (O : Options Key State Word) : List Word → Option (List (Setting Key Word))
  | [] => some []
  | word :: rest =>
    match O.key word with
    | none => none
    | some key =>
      match O.action key with
      | .stop => none
      | .flag _ => (O.settings rest).map ({ key } :: ·)
      | .operand _ =>
        match rest with
        | [] => none
        | value :: rest => (O.settings rest).map ({ key, operand := some value } :: ·)

/-- A vector is these settings, one behind the other: options of the table, each
with the word behind it if it takes an operand. -/
inductive Splits (O : Options Key State Word) : List Word → List (Setting Key Word) → Prop where
  | nil : Splits O [] []
  | flag {word words key change items} (known : O.key word = some key) (alone : O.action key = .flag change)
      (rest : Splits O words items) : Splits O (word :: words) ({ key } :: items)
  | operand {word value words key read items} (known : O.key word = some key)
      (takes : O.action key = .operand read) (rest : Splits O words items) :
      Splits O (word :: value :: words) ({ key, operand := some value } :: items)

/-- The setting has an operand exactly if its option takes one. -/
def Fits (O : Options Key State Word) (setting : Setting Key Word) : Prop :=
  match O.action setting.key with
  | .stop => False
  | .flag _ => setting.operand = none
  | .operand _ => ∃ value, setting.operand = some value

/-- What a setting does; nothing for one that its option does not accept. -/
def effect (O : Options Key State Word) (setting : Setting Key Word) : Option (State → State) :=
  match O.action setting.key, setting.operand with
  | .flag change, none => some change
  | .operand read, some value => read value
  | _, _ => none

/-- All settings in order. -/
def apply (O : Options Key State Word) : List (Setting Key Word) → State → Option State
  | [], state => some state
  | setting :: rest, state => (O.effect setting).bind fun change => O.apply rest (change state)

variable {O : Options Key State Word} {args : List Word} {state final : State}
  {items : List (Setting Key Word)} {item : Setting Key Word}

/-- A vector is accepted exactly if it consists of settings that are all
accepted, and then it does what they do. -/
theorem parse_done_iff (O : Options Key State Word) (args : List Word) (state final : State) :
    O.parse args state = .done final ↔
      ∃ items, O.settings args = some items ∧ O.apply items state = some final := by
  fun_induction O.parse args state with
  | case1 state => simp [settings, apply]
  | case2 state word rest unknown => simp [settings, unknown]
  | case3 state word rest key known stop => simp [settings, known, stop]
  | case4 state word rest key known change flag ih =>
    simp [settings, known, flag, apply, effect, ih]
  | case5 state word key known read operand => simp [settings, known, operand]
  | case6 state word key known read operand value rest refused =>
    simp [settings, known, operand, apply, effect, refused]
  | case7 state word key known read operand value rest change accepted ih =>
    simp [settings, known, operand, apply, effect, accepted, ih]

/-- A vector splits in the one way in which it is read. -/
theorem splits_iff (O : Options Key State Word) (args : List Word) (items : List (Setting Key Word)) :
    O.Splits args items ↔ O.settings args = some items := by
  constructor
  · intro splits
    induction splits with
    | nil => rfl
    | flag known alone _ ih => simp [settings, known, alone, ih]
    | operand known takes _ ih => simp [settings, known, takes, ih]
  · intro split
    fun_induction O.settings args generalizing items with
    | case1 =>
      obtain rfl := Option.some.inj split
      exact .nil
    | case2 | case3 | case5 => cases split
    | case4 word _ key known change alone ih =>
      obtain ⟨later, rest, rfl⟩ := Option.map_eq_some_iff.mp split
      exact .flag known alone (ih later rest)
    | case6 word key known read takes value _ ih =>
      obtain ⟨later, rest, rfl⟩ := Option.map_eq_some_iff.mp split
      exact .operand known takes (ih later rest)

/-- An operand is a word of the vector. -/
theorem operand_mem [DecidableEq Key] {key : Key} {value : Word} (splits : O.Splits args items)
    (last : lastOperand key items = some value) : value ∈ args := by
  induction splits with
  | nil => cases last
  | flag _ _ _ ih =>
    refine List.mem_cons_of_mem _ (ih ?_)
    simpa [lastOperand] using last
  | operand _ _ _ ih =>
    rw [lastOperand, Option.or_eq_some_iff] at last
    rcases last with behind | ⟨-, here⟩
    · exact List.mem_cons_of_mem _ (List.mem_cons_of_mem _ (ih behind))
    · split at here
      · obtain rfl := Option.some.inj here
        exact List.mem_cons_of_mem _ List.mem_cons_self
      · cases here

/-- What is read out of a vector fits the table. -/
theorem settings_fit (O : Options Key State Word) (split : O.settings args = some items) :
    ∀ item ∈ items, O.Fits item := by
  fun_induction O.settings args generalizing items with
  | case1 => simp [← Option.some.inj split]
  | case2 | case3 | case5 => cases split
  | case4 word _ key known change flag ih =>
    obtain ⟨later, rest, rfl⟩ := Option.map_eq_some_iff.mp split
    simpa [Fits, flag] using ih rest
  | case6 word key known read operand value _ ih =>
    obtain ⟨later, rest, rfl⟩ := Option.map_eq_some_iff.mp split
    simpa [Fits, operand] using ih rest

/-- Settings written one behind the other are read back. -/
theorem settings_words {spell : Key → Word} (spelled : ∀ key, O.key (spell key) = some key)
    (fit : ∀ item ∈ items, O.Fits item) :
    O.settings (items.flatMap (Setting.words spell)) = some items := by
  induction items with
  | nil => rfl
  | cons item rest ih =>
    obtain ⟨key, operand⟩ := item
    have here := fit _ List.mem_cons_self
    have later := ih fun other member => fit other (List.mem_cons_of_mem _ member)
    rw [List.flatMap_cons, Setting.words, List.cons_append, settings]
    simp only [Fits] at here
    split at here
    · exact here.elim
    · next change flag =>
      subst here
      simp [spelled, flag, later]
    · next read takes =>
      obtain ⟨value, rfl⟩ := here
      simp [spelled, takes, later]

theorem apply_cons (accepted : O.effect item = some change) :
    O.apply (item :: items) state = O.apply items (change state) := by
  rw [apply, accepted, Option.bind_some]

theorem apply_append (O : Options Key State Word) (items later : List (Setting Key Word)) (state : State) :
    O.apply (items ++ later) state = (O.apply items state).bind (O.apply later) := by
  induction items generalizing state with
  | nil => rfl
  | cons item rest ih =>
    rw [List.cons_append, apply, apply, Option.bind_assoc]
    exact Option.bind_congr fun change _ => ih (change state)

/-- Settings are refused one by one, whatever the state. -/
theorem applies_iff (O : Options Key State Word) (items : List (Setting Key Word)) (state : State) :
    (∃ final, O.apply items state = some final) ↔ ∀ item ∈ items, (O.effect item).isSome := by
  induction items generalizing state with
  | nil => simp [apply]
  | cons item rest ih =>
    cases accepted : O.effect item with
    | none => simp [apply, accepted]
    | some change => simp [apply_cons accepted, ih, accepted]

theorem effect_keeps {part : State → β} (keeps : (O.action item.key).Keeps part)
    (accepted : O.effect item = some change) (state : State) : part (change state) = part state := by
  unfold effect at accepted
  split at accepted
  · next flag none =>
    rw [flag] at keeps
    cases accepted
    exact keeps state
  · next read value takes given =>
    rw [takes] at keeps
    exact keeps value change accepted state
  · cases accepted

/-- Whichever of two settings comes first, the result is the same. -/
def Commutes (O : Options Key State Word) (first second : Setting Key Word) : Prop :=
  ∀ change change', O.effect first = some change → O.effect second = some change' →
    ∀ state, change' (change state) = change (change' state)

theorem apply_swap {second : Setting Key Word} (commutes : O.Commutes item second) (state : State) :
    O.apply (item :: second :: items) state = O.apply (second :: item :: items) state := by
  cases accepted : O.effect item with
  | none => cases accepted' : O.effect second <;> simp [apply, accepted, accepted']
  | some change =>
    cases accepted' : O.effect second with
    | none => simp [apply, accepted, accepted']
    | some change' => simp [apply, accepted, accepted', commutes change change' accepted accepted']

theorem apply_to_front {before : List (Setting Key Word)}
    (commute : ∀ other ∈ before, O.Commutes other item) (state : State) :
    O.apply (before ++ item :: items) state = O.apply (item :: (before ++ items)) state := by
  induction before generalizing state with
  | nil => rfl
  | cons first before ih =>
    have later (state : State) := ih (fun other member => commute other (List.mem_cons_of_mem _ member)) state
    calc O.apply (first :: (before ++ item :: items)) state
        = O.apply (first :: item :: (before ++ items)) state := by
          rw [apply, apply]
          exact Option.bind_congr fun change _ => later (change state)
      _ = O.apply (item :: first :: (before ++ items)) state :=
          apply_swap (commute first List.mem_cons_self) state

/-- The order matters only through the settings that do not commute: where all
that change sides do, the result is the same. -/
theorem apply_reorder {items' : List (Setting Key Word)} (perm : items.Perm items')
    (commute : ∀ first second, [first, second].Sublist items → [second, first].Sublist items' →
      O.Commutes second first)
    (state : State) : O.apply items state = O.apply items' state := by
  induction items generalizing items' state with
  | nil => rw [List.nil_perm.mp perm]
  | cons item rest ih =>
    obtain ⟨before, later, rfl⟩ := List.append_of_mem (perm.mem_iff.mp List.mem_cons_self)
    have others : rest.Perm (before ++ later) := (perm.trans List.perm_middle).cons_inv
    have front : ∀ other ∈ before, O.Commutes other item := by
      intro other member
      refine commute item other ?_ ?_
      · have behind : other ∈ rest := others.mem_iff.mpr (List.mem_append_left _ member)
        exact (List.singleton_sublist.mpr behind).cons_cons item
      · exact (List.singleton_sublist.mpr member).append (List.singleton_sublist.mpr List.mem_cons_self)
    rw [apply_to_front front, apply, apply]
    refine Option.bind_congr fun change _ => ih others (fun first second sides sides' => ?_) (change state)
    have within : (before ++ later).Sublist (before ++ item :: later) :=
      (List.sublist_cons_self item later).append_left before
    exact commute first second (sides.cons item) (sides'.trans within)

/-- A part of the state that no option of the vector touches stays. -/
theorem apply_keeps {part : State → β} (keeps : ∀ item ∈ items, (O.action item.key).Keeps part)
    (applied : O.apply items state = some final) : part final = part state := by
  induction items generalizing state with
  | nil => rw [Option.some.inj applied]
  | cons item rest ih =>
    rw [apply, Option.bind_eq_some_iff] at applied
    obtain ⟨change, accepted, later⟩ := applied
    rw [ih (fun other member => keeps other (List.mem_cons_of_mem _ member)) later]
    exact effect_keeps (keeps item List.mem_cons_self) accepted state

/-- What a setting stores is in the result unless a later one touches it. -/
theorem apply_stored {part : State → β} {later : List (Setting Key Word)}
    (stores : ∀ change, O.effect item = some change → ∀ state, part (change state) = value)
    (keeps : ∀ other ∈ later, (O.action other.key).Keeps part)
    (applied : O.apply (items ++ item :: later) state = some final) : part final = value := by
  rw [apply_append, Option.bind_eq_some_iff] at applied
  obtain ⟨before, -, rest⟩ := applied
  rw [apply, Option.bind_eq_some_iff] at rest
  obtain ⟨change, accepted, behind⟩ := rest
  rw [apply_keeps keeps behind, stores change accepted]

/-- A part of the state that one option sets and no other touches is what the
last operand of that option says. -/
theorem apply_last [DecidableEq Key] (key : Key) (part : State → β) (read : Word → β)
    (takes : O.effect { key } = none)
    (sets : ∀ value change, O.effect { key, operand := some value } = some change →
      ∀ state, part (change state) = read value)
    (keeps : ∀ other ≠ key, (O.action other).Keeps part)
    (applied : O.apply items state = some final) :
    part final = ((lastOperand key items).map read).getD (part state) := by
  induction items generalizing state with
  | nil =>
    rw [Option.some.inj applied]
    rfl
  | cons item rest ih =>
    rw [apply, Option.bind_eq_some_iff] at applied
    obtain ⟨change, accepted, later⟩ := applied
    rw [ih later, lastOperand]
    by_cases here : item.key = key
    · obtain ⟨key', operand⟩ := item
      obtain rfl : key' = key := here
      cases operand with
      | none => rw [takes] at accepted; cases accepted
      | some value =>
        rw [sets value change accepted]
        cases lastOperand key' rest <;> simp
    · rw [effect_keeps (keeps item.key here) accepted]
      cases lastOperand key rest <;> simp [here]

end Options
end OptionVector
