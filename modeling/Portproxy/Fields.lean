import Mathlib.Data.List.Basic

/-! The fields of a text: its longest pieces without a blank. A shell splits the
words of a command this way, and `scanf` the items of a line. -/
namespace Fields

universe u

variable {α : Type u} {blank : α → Bool} {text before after word name value : List α}

def fields (blank : α → Bool) (text : List α) : List (List α) :=
  (text.splitOnP blank).filter fun field => !field.isEmpty

/-- A field by itself. -/
structure IsWord (blank : α → Bool) (word : List α) : Prop where
  nonempty : word ≠ []
  solid : ∀ c ∈ word, blank c = false

/-- The same, to be computed. -/
theorem IsWord.of_all (nonempty : word.isEmpty = false) (solid : word.all (!blank ·) = true) :
    IsWord blank word where
  nonempty := List.isEmpty_eq_false_iff.mp nonempty
  solid c member := by simpa using List.all_eq_true.mp solid c member

/-- A blank ends a field. -/
theorem fields_append (space : blank b = true) :
    fields blank (before ++ b :: after) = fields blank before ++ fields blank after := by
  rw [fields, List.splitOnP_append_cons _ _ space, List.filter_append, fields, fields]

theorem fields_word (isWord : IsWord blank word) : fields blank word = [word] := by
  rw [fields, List.splitOnP_eq_singleton isWord.solid]
  simp [isWord.nonempty]

theorem fields_append_word (space : blank b = true) (isWord : IsWord blank word) :
    fields blank (text ++ b :: word) = fields blank text ++ [word] := by
  rw [fields_append space, fields_word isWord]

/-- Two words written behind a text, with blanks between. -/
theorem fields_append_pair (space : blank b = true) (first : IsWord blank name)
    (second : IsWord blank value) :
    fields blank (text ++ b :: (name ++ [b]) ++ value) = fields blank text ++ [name, value] := by
  have split : text ++ b :: (name ++ [b]) ++ value = (text ++ b :: name) ++ b :: value := by simp
  rw [split, fields_append_word space second, fields_append_word space first]
  simp

end Fields
