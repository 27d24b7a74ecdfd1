import Std.Data.ExtTreeMap
import SeriesIndex.Fault
import SeriesIndex.Postings
import SeriesIndex.Striped

/-!
# Catalog

The catalog knows which label set goes by which number, and what each series is.
A series is stored before it is published, and its label set becomes a key last
of all, so that whatever can be found by its labels is complete.

The definitions here are the single writes and reads of which registrations and
imports are made; each touches one part of the catalog.
-/

namespace SeriesIndex

structure Catalog where
  keys : Striped (Std.ExtTreeMap LabelSet Tsid)
  series : Std.ExtTreeMap Tsid Series := ∅
  published : Postings := ∅
  nextTsid : Tsid := Tsid.first
  seriesCount : Nat := 0
  limit : Nat := 0

namespace Catalog

/-- A catalog without series, cut into at least `stripes` stripes.  A limit of
zero means that there is none. -/
def empty (stripes limit : Nat) : Catalog where
  keys := .replicate stripes ∅
  limit := limit

def usualStripes : Nat := 16

def lookup? (catalog : Catalog) (labels : LabelSet) : Option Tsid :=
  (catalog.keys.get labels.fingerprint)[labels]?

def series? (catalog : Catalog) (tsid : Tsid) : Option Series :=
  catalog.series[tsid]?

def isPublished (catalog : Catalog) (tsid : Tsid) : Bool :=
  catalog.published.contains tsid

def publishedSeries (catalog : Catalog) (tsid : Tsid) : Except Fault Series :=
  if tsid = Tsid.reserved ∨ !catalog.isPublished tsid then
    .error (.unknownSeries tsid)
  else
    match catalog.series? tsid with
    | some series => .ok series
    | none => .error (.unknownSeries tsid)

/-- The published series, in ascending order of their numbers. -/
def snapshot (catalog : Catalog) : List Series :=
  catalog.published.toList.filterMap catalog.series?

/-- Whether `count` more series stay within the limit. -/
def hasRoom (catalog : Catalog) (count : Nat) : Bool :=
  catalog.limit == 0 || catalog.seriesCount + count ≤ catalog.limit

/-- Counts one more series, if there is room for it. -/
def reserve? (catalog : Catalog) : Option Catalog :=
  if catalog.hasRoom 1 then
    some { catalog with seriesCount := catalog.seriesCount + 1 }
  else none

def release (catalog : Catalog) : Catalog :=
  { catalog with seriesCount := catalog.seriesCount - 1 }

/-- Takes the next number, unless it has no successor. -/
def allocate? (catalog : Catalog) : Option (Tsid × Catalog) :=
  catalog.nextTsid.next?.map fun next =>
    (catalog.nextTsid, { catalog with nextTsid := next })

def store (catalog : Catalog) (series : Series) : Catalog :=
  { catalog with series := catalog.series.insert series.tsid series }

def publish (catalog : Catalog) (tsid : Tsid) : Catalog :=
  { catalog with published := catalog.published.insert tsid }

def addKey (catalog : Catalog) (labels : LabelSet) (tsid : Tsid) : Catalog :=
  { catalog with
    keys := catalog.keys.modify labels.fingerprint fun keys =>
      keys.insert labels tsid }

theorem series?_store (catalog : Catalog) (series : Series) (tsid : Tsid) :
    (catalog.store series).series? tsid =
      if series.tsid = tsid then some series else catalog.series? tsid := by
  simp [store, series?, Std.ExtTreeMap.getElem?_insert]

theorem mem_published_publish (catalog : Catalog) (tsid other : Tsid) :
    other ∈ (catalog.publish tsid).published ↔ tsid = other ∨
      other ∈ catalog.published := by
  simp [publish, Std.ExtTreeSet.mem_insert]

/-- A key is found under its own label set, whatever stripes there are. -/
theorem lookup?_addKey (catalog : Catalog) (labels other : LabelSet)
    (tsid : Tsid) :
    (catalog.addKey labels tsid).lookup? other =
      if labels = other then some tsid else catalog.lookup? other := by
  simp only [addKey, lookup?, Striped.get_modify]
  by_cases h : labels = other
  · subst h
    simp
  · split <;> simp [Std.ExtTreeMap.getElem?_insert, h]

def modifyActivity (catalog : Catalog) (tsid : Tsid)
    (change : Activity → Activity) : Catalog :=
  { catalog with
    series := catalog.series.modify tsid fun series =>
      { series with activity := change series.activity } }

def widen (catalog : Catalog) (tsid : Tsid) (timestamp : Timestamp) : Catalog :=
  catalog.modifyActivity tsid fun activity => activity.widen timestamp

/-- The greatest number in a batch; the reserved one if the batch is empty. -/
def greatestTsid (entries : List Series) : Tsid :=
  (entries.map Series.tsid).foldl max Tsid.reserved

/-- Moves the next number above all numbers of a batch. -/
def raiseNext (catalog : Catalog) (entries : List Series) : Catalog :=
  { catalog with nextTsid := max catalog.nextTsid (greatestTsid entries + 1) }

def raiseCount (catalog : Catalog) (entries : List Series) : Catalog :=
  { catalog with seriesCount := catalog.seriesCount + entries.length }

def checkEntry (entry : Series) : Except Fault Unit :=
  if entry.tsid = Tsid.reserved then
    .error (.argument (.reservedTsid entry.labels))
  else if entry.tsid = Tsid.last then .error (.argument .lastTsid)
  else if entry.activity.latest < entry.activity.earliest then
    .error (.argument (.invertedActivity entry.tsid entry.activity))
  else .ok ()

/-- Refuses a batch in which an entry is wrong by itself or repeats the number
or the label set of an earlier one.  The numbers and label sets of the earlier
entries are given. -/
def checkEntries (tsids : Postings) (keys : Std.ExtTreeMap LabelSet Tsid) :
    List Series → Except Fault Unit
  | [] => .ok ()
  | entry :: rest => do
    checkEntry entry
    if tsids.contains entry.tsid then
      throw (.argument (.repeatedTsid entry.tsid))
    match keys[entry.labels]? with
    | some other =>
      throw (.argument (.repeatedLabels entry.labels other entry.tsid))
    | none =>
      checkEntries (tsids.insert entry.tsid)
        (keys.insert entry.labels entry.tsid) rest

/-- Refuses an entry whose label set or number is taken. -/
def checkFree (catalog : Catalog) (entry : Series) : Except Fault Unit :=
  match catalog.lookup? entry.labels with
  | some tsid => .error (.argument (.labelsTaken entry.labels tsid))
  | none =>
    if (catalog.series? entry.tsid).isSome then
      .error (.argument (.tsidTaken entry.tsid))
    else .ok ()

/-- Refuses a batch that cannot be loaded: first for what is wrong within it,
then for what is taken, then for lack of room. -/
def checkBatch (catalog : Catalog) (entries : List Series) :
    Except Fault Unit := do
  checkEntries ∅ ∅ entries
  entries.forM catalog.checkFree
  if !catalog.hasRoom entries.length then throw (.seriesLimit catalog.limit)

end Catalog

end SeriesIndex
