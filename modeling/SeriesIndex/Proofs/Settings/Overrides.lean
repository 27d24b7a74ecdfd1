import Mathlib
import SeriesIndex.Proofs.Settings.Replacement
import SeriesIndex.Proofs.Toml.Integers
import SeriesIndex.Settings.File

/-!
# Overrides act field by field

A field after the overrides is decided by its own variable and its own value
before them: an override changes no other field, and gives its own field a value
that does not depend on what was there.  So neither repetition nor order leaves
a trace.

What a variable has to hold is told apart from how it is read: a number is
written by decimal digits with a plus sign before them or none, and the reader
finds exactly the numbers that fit into a field.
-/

namespace SeriesIndex.Settings

/-! ## Numbers in texts -/

/-- A text writes a number: decimal digits, of which there is at least one,
after a plus sign or without one. -/
def Writes (text : String) (number : ℕ) : Prop :=
  ∃ digits : List Char, digits ≠ [] ∧ (∀ c ∈ digits, c.isDigit = true) ∧
    (text.toList = digits ∨ text.toList = '+' :: digits) ∧
    Nat.ofDigitChars 10 digits 0 = number

theorem digitsValue?_eq_some_iff {digits : List Char} {number : ℕ} :
    digitsValue? digits = some number ↔
      digits ≠ [] ∧ (∀ c ∈ digits, c.isDigit = true) ∧
        Nat.ofDigitChars 10 digits 0 = number ∧ number < 2 ^ 64 := by
  rw [digitsValue?]
  split
  · rename_i hdigits
    rw [Bool.and_eq_true, List.all_eq_true] at hdigits
    have hsome : digits ≠ [] := by simpa using hdigits.1
    have hword : valueBound = 2 ^ 64 := rfl
    have hdecimal := Toml.Scalar.decimal_eq_ofDigitChars digits
    rw [Toml.Scalar.decimal] at hdecimal
    dsimp only
    rw [hdecimal, hword, Option.ite_none_right_eq_some, Option.some_inj]
    constructor
    · rintro ⟨hbound, hnumber⟩
      exact ⟨hsome, hdigits.2, hnumber, hnumber ▸ hbound⟩
    · rintro ⟨-, -, hnumber, hbound⟩
      exact ⟨hnumber ▸ hbound, hnumber⟩
  · rename_i hnone
    refine iff_of_false (by simp) ?_
    rintro ⟨hsome, hdigits, -⟩
    exact hnone (by simpa [hsome] using hdigits)

/-- A text is read as a number exactly if it writes that number, and a field can
hold it. -/
theorem overrideValue?_eq_some_iff {text : String} {number : ℕ} :
    overrideValue? text = some number ↔
      Writes text number ∧ number < 2 ^ 64 := by
  rw [overrideValue?]
  split
  · rename_i digits htext
    rw [digitsValue?_eq_some_iff]
    constructor
    · rintro ⟨hsome, hdigits, hnumber, hbound⟩
      exact ⟨⟨digits, hsome, hdigits, .inr htext, hnumber⟩, hbound⟩
    · rintro ⟨⟨written, hsome, hdigits, hwritten | hwritten, hnumber⟩, hbound⟩
      · -- The plus sign would have to be a digit.
        have hsign := hdigits '+' (by simp [← hwritten, htext])
        exact absurd hsign (by decide)
      · rw [htext] at hwritten
        obtain rfl := (List.cons.inj hwritten).2
        exact ⟨hsome, hdigits, hnumber, hbound⟩
  · rename_i hsign
    rw [digitsValue?_eq_some_iff]
    constructor
    · rintro ⟨hsome, hdigits, hnumber, hbound⟩
      exact ⟨⟨_, hsome, hdigits, .inl rfl, hnumber⟩, hbound⟩
    · rintro ⟨⟨written, hsome, hdigits, rfl | hwritten, hnumber⟩, hbound⟩
      · exact ⟨hsome, hdigits, hnumber, hbound⟩
      · exact absurd hwritten (hsign written)

/-! ## Fields -/

variable {environment : String → Option String}

/-- An environment gives a field a number: its variable writes the number, and
the field can hold it. -/
def Gives (environment : String → Option String) (field : Field)
    (number : ℕ) : Prop :=
  ∃ text, environment field.variableName = some text ∧ Writes text number ∧
    number < 2 ^ 64

def given? (environment : String → Option String) (field : Field) : Option ℕ :=
  (environment field.variableName).bind overrideValue?

theorem given?_eq_some_iff {field : Field} {number : ℕ} :
    given? environment field = some number ↔
      Gives environment field number := by
  rw [given?, Option.bind_eq_some_iff]
  exact exists_congr fun text => and_congr_right fun _ =>
    overrideValue?_eq_some_iff

theorem overrideField_eq :
    overrideField environment = replaceField (given? environment) := rfl

theorem get_override (settings : Settings) (field : Field) :
    (settings.override environment).get field =
      (given? environment field).getD (settings.get field) := by
  rw [override, overrideField_eq, get_foldl_replaceField,
    if_pos (Field.mem_all field)]

theorem override_override (settings : Settings) :
    (settings.override environment).override environment =
      settings.override environment := by
  refine ext_get fun field => ?_
  rw [get_override, get_override]
  cases given? environment field <;> rfl

/-- The overrides can be made in any order. -/
theorem foldl_overrideField_of_perm (settings : Settings) {order : List Field}
    (horder : order.Perm Field.all) :
    order.foldl (overrideField environment) settings =
      settings.override environment := by
  refine ext_get fun field => ?_
  rw [get_override, overrideField_eq, get_foldl_replaceField,
    if_pos (horder.mem_iff.mpr (Field.mem_all field))]

/-- The variable of a field is named for the key of the field. -/
theorem variableName_eq (field : Field) :
    field.variableName = "TAGTREE_" ++ field.key.toUpper := by
  cases field <;> decide +kernel

theorem variableName_injective : Function.Injective Field.variableName := by
  intro left right hname
  revert hname
  cases left <;> cases right <;> decide

/-- Each field is the number that its own variable writes, if a field can hold
that number, and what it was before if there is no such number.  The variables
are named for the fields and are distinct, and a field is the same in all
environments that agree on its variable, whatever the other variables hold.
Hence a second override changes nothing, and the order does not matter.  A file
is read together with an environment exactly if it is read alone, with the same
fault otherwise, and then the overrides come on top of what it holds. -/
theorem override_fieldwise (settings : Settings)
    (environment : String → Option String) :
    (∀ field,
      (∀ number, Gives environment field number →
        (settings.override environment).get field = number) ∧
      ((∀ number, ¬ Gives environment field number) →
        (settings.override environment).get field = settings.get field)) ∧
    (∀ field : Field, field.variableName = "TAGTREE_" ++ field.key.toUpper) ∧
    Function.Injective Field.variableName ∧
    (∀ other field,
      other field.variableName = environment field.variableName →
        (settings.override other).get field =
          (settings.override environment).get field) ∧
    (settings.override environment).override environment =
      settings.override environment ∧
    (∀ order : List Field, order.Perm Field.all →
      order.foldl (overrideField environment) settings =
        settings.override environment) ∧
    ∀ content,
      (∀ fault, ofFileWith content environment = .error fault ↔
        ofFile content = .error fault) ∧
      ∀ loaded, ofFile content = .ok loaded →
        ofFileWith content environment = .ok (loaded.override environment) := by
  refine ⟨fun field => ⟨fun number hgives => ?_, fun hnone => ?_⟩,
    variableName_eq, variableName_injective, fun other field hsame => ?_,
    override_override settings,
    fun order => foldl_overrideField_of_perm settings,
    fun content => ⟨fun fault => ?_, fun loaded hloaded => ?_⟩⟩
  · rw [get_override, given?_eq_some_iff.mpr hgives, Option.getD_some]
  · have hgiven : given? environment field = none :=
      Option.eq_none_iff_forall_ne_some.mpr fun number hnumber =>
        hnone number (given?_eq_some_iff.mp hnumber)
    rw [get_override, hgiven, Option.getD_none]
  · rw [get_override, get_override, given?, given?, hsame]
  · rw [ofFileWith]
    cases ofFile content <;> simp [Except.map]
  · rw [ofFileWith, hloaded]
    rfl

end SeriesIndex.Settings
