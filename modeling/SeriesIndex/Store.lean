import SeriesIndex.Catalog
import SeriesIndex.Event
import SeriesIndex.InvertedIndex

/-!
# Store

A store is a catalog together with the inverted index of its series.  Series
enter it one by one, by registration, or as a batch that is loaded as a whole or
not at all.
-/

namespace SeriesIndex

structure Store where
  catalog : Catalog
  inverted : InvertedIndex

namespace Store

def empty (keyStripes nameStripes limit : Nat) : Store where
  catalog := .empty keyStripes limit
  inverted := .empty nameStripes

/-- Writes a series whose number is settled: it is stored, put under its labels,
published, and made findable by its label set, in this order. -/
def enroll (store : Store) (series : Series) : Store where
  catalog :=
    ((store.catalog.store series).publish series.tsid).addKey series.labels
      series.tsid
  inverted := store.inverted.insertSeries series.tsid series.labels

/-- Widens the interval of a series that was found by its label set. -/
def extend (store : Store) (tsid : Tsid) (timestamp : Timestamp) :
    Except Fault Store :=
  if (store.catalog.series? tsid).isSome then
    .ok { store with catalog := store.catalog.widen tsid timestamp }
  else .error (.internal (.keyWithoutSeries tsid))

structure Registration where
  tsid : Tsid
  isNew : Bool
  deriving DecidableEq, Repr

/-- Registers a label set that was seen at a timestamp.  A known one has its
interval widened.  A new one takes a place under the limit and the next number;
if there is no number left, the place is given back. -/
def register (store : Store) (timestamp : Timestamp) (labels : LabelSet) :
    Except Fault Registration × Store :=
  match store.catalog.lookup? labels with
  | some tsid =>
    match store.extend tsid timestamp with
    | .ok extended => (.ok ⟨tsid, false⟩, extended)
    | .error fault => (.error fault, store)
  | none =>
    match store.catalog.reserve? with
    | none => (.error (.seriesLimit store.catalog.limit), store)
    | some reserved =>
      match reserved.allocate? with
      | none =>
        (.error (.internal .tsidsExhausted),
          { store with catalog := reserved.release })
      | some (tsid, allocated) =>
        (.ok ⟨tsid, true⟩,
          { store with catalog := allocated }.enroll
            ⟨tsid, labels, .single timestamp⟩)

/-- Loads a batch.  A batch that is refused changes nothing. -/
def importBatch (store : Store) (entries : List Series) :
    Except Fault Unit × Store :=
  match store.catalog.checkBatch entries with
  | .error fault => (.error fault, store)
  | .ok () =>
    let raised := (store.catalog.raiseNext entries).raiseCount entries
    (.ok (), entries.foldl enroll { store with catalog := raised })

/-- What is told of a registration, from the store after it. -/
def registerEvents (store : Store) (timestamp : Timestamp) (labels : LabelSet) :
    Except Fault Registration → List Event
  | .ok ⟨tsid, true⟩ =>
    [{ level := .debug, message := "Registered new series",
       fields :=
         [("tsid", .number tsid.toNat), ("labels", .number labels.size),
           ("timestamp", .number timestamp.toInt)] }]
  | .error (.seriesLimit limit) =>
    [{ level := .warn,
       message := "Series limit reached, rejecting registration",
       fields :=
         [("series", .number store.catalog.seriesCount),
           ("limit", .number limit)] }]
  | .error (.internal .tsidsExhausted) =>
    [{ level := .warn,
       message := "TSID space exhausted, rejecting registration",
       fields := [("next_tsid", .number store.catalog.nextTsid.toNat)] }]
  | _ => []

/-- The number of loaded series after which progress is told. -/
def progressStep : Nat := 10000

/-- What is told of the progress of a load. -/
def importEvents (count : Nat) : Except Fault Unit → List Event
  | .ok () =>
    (List.range (count / progressStep)).map fun i =>
      { level := .debug, message := "Restored series batch",
        fields :=
          [("loaded", .number ((i + 1) * progressStep : Nat)),
            ("total", .number count)] }
  | .error _ => []

end Store

end SeriesIndex
