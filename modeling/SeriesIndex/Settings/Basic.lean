/-!
# Settings

The limits under which an index works.  Every field is a number with a key,
under which it is written in a file, and an environment variable that overrides
it.
-/

namespace SeriesIndex

/-- The limits of an index.  A series limit of zero means that there is none. -/
structure Settings where
  keyStripes : Nat := 16
  nameStripes : Nat := 16
  seriesLimit : Nat := 10000000
  labelLimit : Nat := 64
  nameLimit : Nat := 256
  valueLimit : Nat := 4096
  patternLimit : Nat := 1024
  patternSizeLimit : Nat := 1048576
  deriving DecidableEq, Repr

namespace Settings

/-- The fields, in the order in which they are written. -/
inductive Field where
  | keyStripes
  | nameStripes
  | seriesLimit
  | labelLimit
  | nameLimit
  | valueLimit
  | patternLimit
  | patternSizeLimit
  deriving DecidableEq, Repr

namespace Field

def all : List Field :=
  [keyStripes, nameStripes, seriesLimit, labelLimit, nameLimit, valueLimit,
    patternLimit, patternSizeLimit]

theorem mem_all (field : Field) : field ∈ all := by
  cases field <;> decide

def key : Field → String
  | keyStripes => "registry_stripes"
  | nameStripes => "tag_tree_stripes"
  | seriesLimit => "max_series"
  | labelLimit => "max_labels_per_series"
  | nameLimit => "max_label_name_len"
  | valueLimit => "max_label_value_len"
  | patternLimit => "max_regex_pattern_len"
  | patternSizeLimit => "regex_size_limit"

/-- The environment variable that overrides a field. -/
def variableName : Field → String
  | keyStripes => "TAGTREE_REGISTRY_STRIPES"
  | nameStripes => "TAGTREE_TAG_TREE_STRIPES"
  | seriesLimit => "TAGTREE_MAX_SERIES"
  | labelLimit => "TAGTREE_MAX_LABELS_PER_SERIES"
  | nameLimit => "TAGTREE_MAX_LABEL_NAME_LEN"
  | valueLimit => "TAGTREE_MAX_LABEL_VALUE_LEN"
  | patternLimit => "TAGTREE_MAX_REGEX_PATTERN_LEN"
  | patternSizeLimit => "TAGTREE_REGEX_SIZE_LIMIT"

end Field

def get (settings : Settings) : Field → Nat
  | .keyStripes => settings.keyStripes
  | .nameStripes => settings.nameStripes
  | .seriesLimit => settings.seriesLimit
  | .labelLimit => settings.labelLimit
  | .nameLimit => settings.nameLimit
  | .valueLimit => settings.valueLimit
  | .patternLimit => settings.patternLimit
  | .patternSizeLimit => settings.patternSizeLimit

def set (settings : Settings) (value : Nat) : Field → Settings
  | .keyStripes => { settings with keyStripes := value }
  | .nameStripes => { settings with nameStripes := value }
  | .seriesLimit => { settings with seriesLimit := value }
  | .labelLimit => { settings with labelLimit := value }
  | .nameLimit => { settings with nameLimit := value }
  | .valueLimit => { settings with valueLimit := value }
  | .patternLimit => { settings with patternLimit := value }
  | .patternSizeLimit => { settings with patternSizeLimit := value }

@[simp]
theorem get_set_self (settings : Settings) (value : Nat) (field : Field) :
    (settings.set value field).get field = value := by
  cases field <;> rfl

theorem get_set_of_ne (settings : Settings) (value : Nat) {field other : Field}
    (hne : other ≠ field) :
    (settings.set value field).get other = settings.get other := by
  cases field <;> cases other <;> simp_all [get, set]

/-- Settings are equal if all their fields are. -/
theorem ext_get {a b : Settings} (hget : ∀ field, a.get field = b.get field) :
    a = b := by
  have h₁ := hget .keyStripes
  have h₂ := hget .nameStripes
  have h₃ := hget .seriesLimit
  have h₄ := hget .labelLimit
  have h₅ := hget .nameLimit
  have h₆ := hget .valueLimit
  have h₇ := hget .patternLimit
  have h₈ := hget .patternSizeLimit
  cases a
  cases b
  simp_all [get]

def stripesMost : Nat := 4096

end Settings

inductive SettingsFault where
  | notPowerOfTwo (field : Settings.Field) (value : Nat)
  | tooManyStripes (field : Settings.Field) (value : Nat)
  | noLabels
  | noNames
  | noPatterns
  | fileMissing
  | fileNotText
  | fileMalformed
  | other (reason : String)
  deriving DecidableEq, Repr

/-- The words of a refusal.  The place of the file and the details of what is
wrong in it are left out. -/
def SettingsFault.message : SettingsFault → String
  | notPowerOfTwo field value =>
    s!"{field.key} must be a power of two, got {value}"
  | tooManyStripes field value =>
    s!"{field.key} cannot exceed {Settings.stripesMost}, got {value}"
  | noLabels => s!"{Settings.Field.labelLimit.key} must be > 0"
  | noNames => s!"{Settings.Field.nameLimit.key} must be > 0"
  | noPatterns => "regex limits must be > 0"
  | fileMissing =>
    "Failed to read config file <path>: No such file or directory (os error 2)"
  | fileNotText =>
    "Failed to read config file <path>: stream did not contain valid UTF-8"
  | fileMalformed => "Failed to parse config file <path>: <toml>"
  | other reason => reason

namespace Settings

/-- Refuses a number of stripes that is no power of two, or too great. -/
def checkStripes (settings : Settings) (field : Field) :
    Except SettingsFault Unit :=
  let stripes := settings.get field
  if stripes.nextPowerOfTwo ≠ stripes then .error (.notPowerOfTwo field stripes)
  else if stripesMost < stripes then .error (.tooManyStripes field stripes)
  else .ok ()

/-- Refuses settings under which no index can work. -/
def check (settings : Settings) : Except SettingsFault Unit := do
  settings.checkStripes .keyStripes
  settings.checkStripes .nameStripes
  if settings.labelLimit = 0 then throw .noLabels
  if settings.nameLimit = 0 then throw .noNames
  if settings.patternLimit = 0 ∨ settings.patternSizeLimit = 0 then
    throw .noPatterns

end Settings

end SeriesIndex
