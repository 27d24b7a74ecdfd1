import SeriesIndex.Fault
import SeriesIndex.Settings.Environment
import SeriesIndex.Toml.Document

/-!
# Settings in files

Settings are written as a TOML document with a line for every field.  When a
document is read, fields that are missing keep their usual values, and what is
no field is passed over.
-/

namespace SeriesIndex.Settings

/-- The value that a document gives a field, if it gives one; it has to be an
integer that is not negative. -/
def fieldOf? (entries : Toml.Entries) (field : Field) :
    Except SettingsFault (Option Nat) :=
  match entries.get? field.key with
  | none => .ok none
  | some (.value (.integer value)) =>
    if 0 ≤ value then .ok (some value.toNat) else .error .fileMalformed
  | some _ => .error .fileMalformed

def readField (entries : Toml.Entries) (settings : Settings) (field : Field) :
    Except SettingsFault Settings := do
  match ← fieldOf? entries field with
  | some value => return settings.set value field
  | none => return settings

def parse (text : String) : Except SettingsFault Settings :=
  match Toml.Document.parse? text with
  | none => .error .fileMalformed
  | some entries => Field.all.foldlM (readField entries) {}

/-- The settings in a file, given by its bytes unless it does not exist. -/
def ofFile (content : Option ByteArray) : Except SettingsFault Settings :=
  match content with
  | none => .error .fileMissing
  | some bytes =>
    match String.fromUTF8? bytes with
    | none => .error .fileNotText
    | some text => parse text

/-- The settings in a file, with the overrides of an environment. -/
def ofFileWith (content : Option ByteArray)
    (environment : String → Option String) : Except SettingsFault Settings :=
  (ofFile content).map fun settings => settings.override environment

def integerMost : Nat := 0x7fffffffffffffff

def line (settings : Settings) (field : Field) : String :=
  s!"{field.key} = {settings.get field}\n"

/-- The text of settings, unless a field is too great for a document. -/
def render (settings : Settings) : Except FormFault String :=
  if Field.all.all fun field => settings.get field ≤ integerMost then
    .ok (String.join (Field.all.map settings.line))
  else .error .numberTooGreat

/-- What is written to a file, in a directory that may be missing.  The text is
made before the file is touched. -/
def save (settings : Settings) (directoryExists : Bool) : Except Fault String :=
  match settings.render with
  | .error cause => .error (.form cause)
  | .ok text =>
    if directoryExists then .ok text else .error (.write .directoryMissing)

/-- A place for a file: whether its directory is there, and what the file holds
if it is there. -/
structure Place where
  directoryExists : Bool
  content : Option ByteArray

/-- Saves settings in the file at a place; what was there is replaced. -/
def saveAt (settings : Settings) (place : Place) : Except Fault Unit × Place :=
  match settings.save place.directoryExists with
  | .ok text => (.ok (), { place with content := some text.toUTF8 })
  | .error fault => (.error fault, place)

end SeriesIndex.Settings
