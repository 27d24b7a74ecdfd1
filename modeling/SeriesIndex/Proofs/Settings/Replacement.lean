import Mathlib
import SeriesIndex.Settings.Basic

/-!
# Fields that are replaced one after another

A file and an environment both give numbers to some fields, and both are gone
through field by field.  After that a field is what was given for it, or what it
was before, whatever was given for other fields.
-/

namespace SeriesIndex.Settings

variable {given : Field → Option ℕ}

def replaceField (given : Field → Option ℕ) (settings : Settings)
    (field : Field) : Settings :=
  match given field with
  | some value => settings.set value field
  | none => settings

theorem get_replaceField (settings : Settings) (field other : Field) :
    (replaceField given settings field).get other =
      if other = field then (given field).getD (settings.get other)
      else settings.get other := by
  rw [replaceField]
  split
  · rename_i value hvalue
    rw [hvalue, Option.getD_some]
    split
    · rename_i hfield
      rw [hfield, get_set_self]
    · rename_i hfield
      exact get_set_of_ne settings value hfield
  · rename_i hnone
    rw [hnone, Option.getD_none, ite_self]

theorem get_foldl_replaceField (settings : Settings) (fields : List Field)
    (field : Field) :
    (fields.foldl (replaceField given) settings).get field =
      if field ∈ fields then (given field).getD (settings.get field)
      else settings.get field := by
  induction fields generalizing settings with
  | nil => simp
  | cons first rest ih =>
      rw [List.foldl_cons, ih, get_replaceField]
      by_cases hfirst : field = first
      · subst hfirst
        cases given field <;> simp
      · simp [hfirst]

end SeriesIndex.Settings
