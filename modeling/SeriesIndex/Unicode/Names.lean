import SeriesIndex.Unicode.Age
import SeriesIndex.Unicode.Script
import SeriesIndex.Unicode.Segmentation

/-!
# Sets of code points by name

A set of code points is named by a property (`Alphabetic`), a general category
(`Lu`), a script (`Greek`), or a property with a value (`gc=Lu`, `scx=Greek`).
Names are matched loosely: case, blanks, hyphens and low lines do not count, nor
does a leading `is`.
-/

namespace SeriesIndex.Unicode

/-- A name in loose form.  The name `isc`, which would become `c`, is kept. -/
def looseName (name : String) : String :=
  let chars := name.toList
  let (marked, body) :=
    match chars with
    | i :: s :: rest =>
      if i.toLower == 'i' && s.toLower == 's' then (true, rest)
      else (false, chars)
    | _ => (false, chars)
  let body := (body.filter fun c =>
    c.toNat < 0x80 && c != ' ' && c != '_' && c != '-').map Char.toLower
  if marked && body == ['c'] then "isc" else String.ofList body

/-- The entry whose names include `name`. -/
def byName {α : Type} (entries : List (List String × α)) (name : String) :
    Option α :=
  (entries.find? fun entry => entry.1.contains name).map (·.2)

def scriptTable (name : String) : Option Table :=
  (byName Script.named name).map Table.ofText

/-- The code points used in texts of a script: by default those that belong to
it. -/
def scriptExtensionTable (name : String) : Option Table :=
  (Script.named.find? fun entry => entry.1.contains name).map fun entry =>
    .ofText (((Script.extensions.find? fun extension =>
      entry.1.contains extension.1).map (·.2)).getD entry.2)

/-- The code points assigned in a version of the standard, earlier versions
included. -/
def ageTable (name : String) : Option Table :=
  (Age.added.findIdx? fun entry => entry.1.contains name).map fun index =>
    .unions ((Age.added.take (index + 1)).map fun entry => .ofText entry.2)

/-- The set that a single name stands for.  Three names are both a property and
a category; they stand for the category. -/
def tableNamed (name : String) : Option Table :=
  let name := looseName name
  let property :=
    if ["cf", "sc", "lc"].contains name then none
    else byName Property.named name
  property.or ((byName Category.named name).or (scriptTable name))

/-- The set that a property and a value stand for. -/
def tableValued (property value : String) : Option Table :=
  let value := looseName value
  match looseName property with
  | "gc" | "generalcategory" => byName Category.named value
  | "sc" | "script" => scriptTable value
  | "scx" | "scriptextensions" => scriptExtensionTable value
  | "age" => ageTable value
  | "gcb" | "graphemeclusterbreak" => byName Segmentation.grapheme value
  | "wb" | "wordbreak" => byName Segmentation.word value
  | "sb" | "sentencebreak" => byName Segmentation.sentence value
  | _ => none

end SeriesIndex.Unicode
