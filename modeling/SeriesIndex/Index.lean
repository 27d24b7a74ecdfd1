import SeriesIndex.HostMatcher
import SeriesIndex.Query

/-!
# Index

An index is a store that works under settings and counts what it is asked to do.
It checks labels against the limits of the settings before they reach the store,
and refuses windows whose bounds are the wrong way round.  An operation that
changes the index gives its answer together with the index after it, whether it
succeeds or not.
-/

namespace SeriesIndex

def Settings.patternLimits (settings : Settings) : Pattern.Limits where
  length := settings.patternLimit
  size := settings.patternSizeLimit

/-- Refuses a label whose name or value is too long; the name is looked at
first. -/
def Settings.checkLabel (settings : Settings) (label : Label) :
    Except LabelFault Unit :=
  if settings.nameLimit < label.name.utf8ByteSize then
    .error (.nameTooLong label.name label.name.utf8ByteSize settings.nameLimit)
  else if settings.valueLimit < label.value.utf8ByteSize then
    .error
      (.valueTooLong label.name label.value.utf8ByteSize settings.valueLimit)
  else .ok ()

/-- Refuses a label set with too many labels, or with one that is too long. -/
def Settings.checkLabels (settings : Settings) (labels : LabelSet) :
    Except LabelFault Unit :=
  if settings.labelLimit < labels.size then
    .error (.tooManyLabels labels.size settings.labelLimit)
  else labels.labels.forM settings.checkLabel

/-- The window between two bounds; an inverted one is refused. -/
def Window.ofBounds (start stop : Timestamp) : Except Fault Window :=
  match Window.ofBounds? start stop with
  | some window => .ok window
  | none => .error (.argument (.invertedWindow start stop))

/-- How often an index was asked to register, with which outcome, and to
answer. -/
structure Counters where
  registrations : Nat := 0
  rejected : Nat := 0
  resolves : Nat := 0
  deriving DecidableEq, Repr

def Counters.count {α : Type} (counters : Counters) : Except Fault α → Counters
  | .ok _ => { counters with registrations := counters.registrations + 1 }
  | .error _ => { counters with rejected := counters.rejected + 1 }

/-- What can be said of an index at one moment. -/
structure Stats where
  seriesCount : Nat
  nameCount : Nat
  pairCount : Nat
  counters : Counters
  seriesLimit : Nat
  deriving DecidableEq, Repr

/-- The part of the series limit that is taken up; zero if there is no limit. -/
def Stats.utilization (stats : Stats) : Float :=
  if stats.seriesLimit = 0 then 0
  else stats.seriesCount.toFloat / stats.seriesLimit.toFloat

structure Index where
  settings : Settings
  store : Store
  counters : Counters := {}

namespace Index

def empty (settings : Settings) : Index where
  settings := settings
  store := .empty settings.keyStripes settings.nameStripes settings.seriesLimit

def inMemory : Index := empty {}

/-- An index without series, if the settings pass their check. -/
def ofSettings (settings : Settings) : Except Fault Index :=
  match settings.check with
  | .ok () => .ok (empty settings)
  | .error cause => .error (.settings cause)

def checkEntries (settings : Settings) (entries : List Series) :
    Except Fault Unit :=
  entries.forM fun entry => (settings.checkLabels entry.labels).mapError .labels

/-- An index that holds the given series.  The settings are checked first, then
the label sets, then the entries as a batch. -/
def restore (settings : Settings) (entries : List Series) :
    Except Fault Index := do
  let index ← ofSettings settings
  checkEntries settings entries
  let (outcome, store) := index.store.importBatch entries
  outcome
  return { index with store }

def register (index : Index) (timestamp : Timestamp) (labels : LabelSet) :
    Except Fault Store.Registration × Index :=
  match index.settings.checkLabels labels with
  | .error cause =>
    let outcome := .error (.labels cause)
    (outcome, { index with counters := index.counters.count outcome })
  | .ok () =>
    let (outcome, store) := index.store.register timestamp labels
    (outcome, { index with store, counters := index.counters.count outcome })

/-- Registers pairs of names and values; pairs that make no label set are
counted as rejected. -/
def registerPairs (index : Index) (timestamp : Timestamp)
    (pairs : List (String × String)) :
    Except Fault Store.Registration × Index :=
  match LabelSet.ofPairs pairs with
  | .ok labels => index.register timestamp labels
  | .error cause =>
    let outcome := .error (.labels cause)
    (outcome, { index with counters := index.counters.count outcome })

/-- Registers the labels of a host; pairs that make no label set do not reach
the index. -/
def registerHost (index : Index) (timestamp : Timestamp)
    (pairs : List (String × String)) :
    Except Fault Store.Registration × Index :=
  match LabelSet.ofPairs pairs with
  | .ok labels => index.register timestamp labels
  | .error cause => (.error (.labels cause), index)

def labels (index : Index) (tsid : Tsid) : Except Fault LabelSet :=
  (index.store.catalog.publishedSeries tsid).map Series.labels

def hostLabels (index : Index) (tsid : Tsid) :
    Except Fault (List (String × String)) :=
  (index.labels tsid).map LabelSet.toPairs

def lookup? (index : Index) (labels : LabelSet) : Option Tsid :=
  index.store.catalog.lookup? labels

def activity (index : Index) (tsid : Tsid) : Except Fault Activity :=
  (index.store.catalog.publishedSeries tsid).map Series.activity

def labelValues (index : Index) (name : String) : List String :=
  index.store.inverted.values name

def labelNames (index : Index) : List String :=
  index.store.inverted.labelNames

def seriesCount (index : Index) : Nat :=
  index.store.catalog.seriesCount

def matcher (index : Index) (op : MatchOp) (name value : String) :
    Except Fault Matcher :=
  Matcher.build index.settings.patternLimits op name value

def countResolve (index : Index) : Index :=
  { index with counters := { index.counters with
    resolves := index.counters.resolves + 1 } }

/-- The series that answer a query over a window, taken as it is. -/
def resolveWindow (index : Index) (matchers : List Matcher) (window : Window) :
    Except Fault (List Tsid) × Index :=
  (index.store.resolve matchers window, index.countResolve)

/-- The series that answer a query between two timestamps. -/
def resolve (index : Index) (matchers : List Matcher) (start stop : Timestamp) :
    Except Fault (List Tsid) × Index :=
  match Window.ofBounds start stop with
  | .error fault => (.error fault, index)
  | .ok window => index.resolveWindow matchers window

/-- The series that answer a query between two timestamps, with their labels. -/
def resolveWithLabels (index : Index) (matchers : List Matcher)
    (start stop : Timestamp) : Except Fault (List (Tsid × LabelSet)) × Index :=
  match Window.ofBounds start stop with
  | .error fault => (.error fault, index)
  | .ok window =>
    ((index.store.resolveSeries matchers window).map fun answers =>
      answers.map fun series => (series.tsid, series.labels),
      index.countResolve)

/-- The series that answer a query of a host.  Its matchers are built first,
under the limits that the host works with. -/
def resolveHost (index : Index) (limits : Pattern.Limits)
    (hosts : List HostMatcher)
    (start stop : Timestamp) : Except Fault (List Tsid) × Index :=
  match HostMatcher.toMatchers limits hosts with
  | .error fault => (.error fault, index)
  | .ok matchers => index.resolve matchers start stop

def snapshot (index : Index) : List Series :=
  index.store.catalog.snapshot

def stats (index : Index) : Stats where
  seriesCount := index.store.catalog.seriesCount
  nameCount := index.store.inverted.nameCount
  pairCount := index.store.inverted.pairCount
  counters := index.counters
  seriesLimit := index.settings.seriesLimit

/-- What is told of a registration, from the index after it. -/
def registerEvents (index : Index) (timestamp : Timestamp)
    (pairs : List (String × String))
    (outcome : Except Fault Store.Registration) : List Event :=
  match LabelSet.ofPairs pairs with
  | .ok labels => index.store.registerEvents timestamp labels outcome
  | .error _ => []

def createdEvent (settings : Settings) : Event where
  level := .info
  message := "Created tag index"
  fields :=
    [("registry_stripes", .number settings.keyStripes),
      ("tag_tree_stripes", .number settings.nameStripes),
      ("max_series", .number settings.seriesLimit)]

/-- What is told of an index that was built under settings. -/
def ofSettingsEvents (settings : Settings) : List Event :=
  match settings.check with
  | .ok () => [createdEvent settings]
  | .error _ => []

/-- What is told of an index that was to be built from entries. -/
def restoreEvents (settings : Settings) (entries : List Series) :
    Except Fault Index → List Event
  | .ok index =>
    createdEvent settings :: Store.importEvents entries.length (.ok ()) ++
      [{ level := .info, message := "Restored tag index",
         fields :=
          [("series", .number entries.length),
            ("next_tsid", .number index.store.catalog.nextTsid.toNat)] }]
  | .error _ => ofSettingsEvents settings

/-- What is told of a query between two timestamps. -/
def resolveEvents (index : Index) (matchers : List Matcher)
    (start stop : Timestamp) : List Event :=
  match Window.ofBounds start stop with
  | .error _ => []
  | .ok window =>
    index.store.resolveEvents matchers window
      (index.store.resolveSeries matchers window)

end Index

end SeriesIndex
