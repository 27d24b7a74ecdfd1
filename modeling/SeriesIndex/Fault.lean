import SeriesIndex.Pattern.Anchored
import SeriesIndex.Series
import SeriesIndex.Settings.Basic

/-!
# Faults

Everything that can go wrong has a cause, and a cause has one wording.  A fault
belongs to one of three kinds: the caller gave something that cannot be
accepted, a series is not there, or the index itself cannot go on.
-/

namespace SeriesIndex

/-- What a caller gave that cannot be accepted. -/
inductive ArgumentFault where
  | invertedWindow (start stop : Timestamp)
  | emptyMatcherName
  | reservedTsid (labels : LabelSet)
  | lastTsid
  | invertedActivity (tsid : Tsid) (activity : Activity)
  | repeatedTsid (tsid : Tsid)
  | repeatedLabels (labels : LabelSet) (first second : Tsid)
  | labelsTaken (labels : LabelSet) (tsid : Tsid)
  | tsidTaken (tsid : Tsid)
  | other (reason : String)
  deriving DecidableEq

def ArgumentFault.message : ArgumentFault → String
  | invertedWindow start stop =>
    s!"invalid time range: mint {start.toInt} > maxt {stop.toInt}"
  | emptyMatcherName => "matcher label name must not be empty"
  | reservedTsid labels => s!"snapshot entry {labels.text} uses reserved tsid 0"
  | lastTsid => "snapshot entry uses tsid u64::MAX, counter would overflow"
  | invertedActivity tsid activity =>
    s!"snapshot entry {tsid.toNat} has inverted interval {activity.text}"
  | repeatedTsid tsid => s!"duplicate tsid {tsid.toNat} in snapshot"
  | repeatedLabels labels first second =>
    s!"label set {labels.text} appears as tsid {first.toNat} and {second.toNat}"
  | labelsTaken labels tsid =>
    s!"label set {labels.text} already registered as tsid {tsid.toNat}"
  | tsidTaken tsid => s!"tsid {tsid.toNat} already registered"
  | other reason => reason

/-- Why the index itself cannot go on. -/
inductive InternalFault where
  | tsidsExhausted
  | keyWithoutSeries (tsid : Tsid)
  | publishedWithoutSeries (tsid : Tsid)
  | other (reason : String)
  deriving DecidableEq, Repr

def InternalFault.message : InternalFault → String
  | tsidsExhausted => "tsid space exhausted"
  | keyWithoutSeries tsid =>
    s!"tsid {tsid.toNat} is keyed but has no series record"
  | publishedWithoutSeries tsid =>
    s!"tsid {tsid.toNat} is published but has no series record"
  | other reason => reason

/-- Why a file cannot be written. -/
inductive WriteFault where
  | directoryMissing
  | other (reason : String)
  deriving DecidableEq, Repr

def WriteFault.message : WriteFault → String
  | directoryMissing => "No such file or directory (os error 2)"
  | other reason => reason

inductive FormFault where
  | numberTooGreat
  | other (reason : String)
  deriving DecidableEq, Repr

/-- The words for a value without a written form; the details are left out. -/
def FormFault.message : FormFault → String
  | numberTooGreat => "Failed to serialize config: <toml>"
  | other reason => reason

/-- Why an operation failed.  For a pattern, the text that is shown of it comes
with the cause. -/
inductive Fault where
  | argument (cause : ArgumentFault)
  | labels (cause : LabelFault)
  | pattern (shown : String) (cause : Pattern.PatternFault)
  | unknownSeries (tsid : Tsid)
  | seriesLimit (limit : Nat)
  | internal (cause : InternalFault)
  | settings (cause : SettingsFault)
  | write (cause : WriteFault)
  | form (cause : FormFault)
  deriving DecidableEq

inductive FaultKind where
  | invalidArgument
  | notFound
  | internal
  deriving DecidableEq, Repr

namespace Fault

def kind : Fault → FaultKind
  | argument _ | labels _ | pattern _ _ | settings _ => .invalidArgument
  | unknownSeries _ => .notFound
  | seriesLimit _ | internal _ | write _ | form _ => .internal

def message : Fault → String
  | argument cause => "Invalid argument: " ++ cause.message
  | labels cause => "Invalid label set: " ++ cause.message
  | pattern shown cause => s!"Invalid regex '{shown}': {cause.message}"
  | unknownSeries tsid => s!"Series not found: tsid {tsid.toNat}"
  | seriesLimit limit => s!"Series limit exceeded: limit is {limit} series"
  | internal cause => "Internal index error: " ++ cause.message
  | settings cause => "Configuration error: " ++ cause.message
  | write cause => "IO error: " ++ cause.message
  | form cause => "Serialization error: " ++ cause.message

def shownMost : Nat := 50

/-- The part of a pattern that is shown: all of it, or its first characters. -/
def shownPattern (pattern : String) : String :=
  if pattern.length ≤ shownMost then pattern
  else String.ofList (pattern.toList.take shownMost) ++ "..."

end Fault

end SeriesIndex
