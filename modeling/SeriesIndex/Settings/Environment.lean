import SeriesIndex.Event
import SeriesIndex.Settings.Basic

/-!
# Overrides by the environment

Every field of the settings can be overridden by a variable of its own.  A
variable that holds no number is passed over, with a warning.
-/

namespace SeriesIndex.Settings

/-- The greatest value that a field can be given, plus one. -/
def valueBound : Nat := 0x10000000000000000

/-- The number that decimal digits write; there is at least one. -/
def digitsValue? (digits : List Char) : Option Nat :=
  if !digits.isEmpty && digits.all Char.isDigit then
    let value :=
      digits.foldl (fun value c => value * 10 + (c.toNat - '0'.toNat)) 0
    if value < valueBound then some value else none
  else none

/-- The number that the text of a variable stands for: digits, after a plus sign
or without one. -/
def overrideValue? (text : String) : Option Nat :=
  match text.toList with
  | '+' :: digits => digitsValue? digits
  | digits => digitsValue? digits

def overrideField (environment : String → Option String) (settings : Settings)
    (field : Field) : Settings :=
  match (environment field.variableName).bind overrideValue? with
  | some value => settings.set value field
  | none => settings

def override (settings : Settings) (environment : String → Option String) :
    Settings :=
  Field.all.foldl (overrideField environment) settings

/-- What is told of a variable that holds no number. -/
def overrideEvent (environment : String → Option String) (field : Field) :
    Option Event :=
  match environment field.variableName with
  | some text =>
    if (overrideValue? text).isNone then
      some
        { level := .warn, message := "Ignoring invalid override",
          fields := [("var", .text field.variableName), ("value", .text text)] }
    else none
  | none => none

/-- What is told of overrides, in order of the fields. -/
def overrideEvents (environment : String → Option String) : List Event :=
  Field.all.filterMap (overrideEvent environment)

end SeriesIndex.Settings
