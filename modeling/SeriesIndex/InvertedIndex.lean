import Std.Data.ExtTreeMap
import SeriesIndex.Hash.Sip
import SeriesIndex.Hash.Stream
import SeriesIndex.Postings
import SeriesIndex.Striped

/-!
# Inverted index

The inverted index leads from labels back to series.  Under every label name it
keeps the postings of every value, in order of the values, and the union of them
all.  Counters say how many names, how many pairs of name and value, and how
many triples of name, value and series were put in.
-/

namespace SeriesIndex

structure NameEntry where
  values : Std.ExtTreeMap String Postings := ∅
  union : Postings := ∅

namespace NameEntry

def insert (entry : NameEntry) (value : String) (tsid : Tsid) : NameEntry where
  values := entry.values.alter value fun postings =>
    some ((postings.getD ∅).insert tsid)
  union := entry.union.insert tsid

theorem getElem?_values_insert (entry : NameEntry) (value other : String)
    (tsid : Tsid) :
    (entry.insert value tsid).values[other]? =
      if value = other then some ((entry.values[value]?.getD ∅).insert tsid)
      else entry.values[other]? := by
  simp [insert, Std.ExtTreeMap.getElem?_alter]

def unionWhere (entry : NameEntry) (select : String → Bool) : Postings :=
  entry.values.foldl
    (fun union value postings =>
      if select value then union ∪ postings else union) ∅

/-- The size of an entry in bytes, without what maps take for themselves. -/
def storedBytes (entry : NameEntry) : Nat :=
  entry.values.toList.foldr
    (fun (value, postings) bytes =>
      value.utf8ByteSize + postings.storedBytes + bytes)
    entry.union.storedBytes

end NameEntry

structure InvertedIndex where
  names : Striped (Std.ExtTreeMap String NameEntry)
  nameCount : Nat := 0
  pairCount : Nat := 0
  insertionCount : Nat := 0

namespace InvertedIndex

/-- An index without labels, cut into at least `stripes` stripes. -/
def empty (stripes : Nat) : InvertedIndex where
  names := .replicate stripes ∅

def usualStripes : Nat := 16

def nameHash (name : String) : UInt64 :=
  Hash.Sip.digest (Hash.textBytes name)

def named? (index : InvertedIndex) (name : String) : Option NameEntry :=
  (index.names.get (nameHash name))[name]?

/-- The postings of a label that was put in. -/
def postings? (index : InvertedIndex) (name value : String) : Option Postings :=
  (index.named? name).bind fun entry => entry.values[value]?

/-- The postings of a label; none if it was never put in. -/
def postings (index : InvertedIndex) (name value : String) : Postings :=
  (index.postings? name value).getD ∅

def insert (index : InvertedIndex) (name value : String) (tsid : Tsid) :
    Bool × InvertedIndex :=
  let newName := (index.named? name).isNone
  let newPair := (index.postings? name value).isNone
  let newTsid := !(index.postings name value).contains tsid
  (newTsid,
    { names := index.names.modify (nameHash name) fun entries =>
        entries.alter name fun entry => some ((entry.getD {}).insert value tsid)
      nameCount := index.nameCount + newName.toNat
      pairCount := index.pairCount + newPair.toNat
      insertionCount := index.insertionCount + newTsid.toNat })

theorem named?_insert (index : InvertedIndex) (name value other : String)
    (tsid : Tsid) :
    (index.insert name value tsid).2.named? other =
      if name = other then
        some (((index.named? name).getD {}).insert value tsid)
      else index.named? other := by
  simp only [insert, named?, Striped.get_modify]
  by_cases h : name = other
  · subst h
    simp
  · split <;> simp [Std.ExtTreeMap.getElem?_alter, h]

/-- An insertion is seen under its own label, and under no other. -/
theorem postings_insert (index : InvertedIndex)
    (name value other otherValue : String) (tsid : Tsid) :
    (index.insert name value tsid).2.postings other otherValue =
      if name = other ∧ value = otherValue then
        (index.postings name value).insert tsid
      else index.postings other otherValue := by
  simp only [postings, postings?, named?_insert]
  by_cases h : name = other
  · subst h
    by_cases hv : value = otherValue
    · subst hv
      cases he : index.named? name <;> simp [NameEntry.getElem?_values_insert]
    · cases he : index.named? name <;>
        simp [NameEntry.getElem?_values_insert, hv]
  · simp [h]

def insertLabel (index : InvertedIndex) (tsid : Tsid) (label : Label) :
    InvertedIndex :=
  (index.insert label.name label.value tsid).2

/-- Puts a series under all its labels, in order of their names. -/
def insertSeries (index : InvertedIndex) (tsid : Tsid) (labels : LabelSet) :
    InvertedIndex :=
  labels.labels.foldl (fun index label => index.insertLabel tsid label) index

def values (index : InvertedIndex) (name : String) : List String :=
  ((index.named? name).map fun entry => entry.values.keys).getD []

def union (index : InvertedIndex) (name : String) : Postings :=
  ((index.named? name).map NameEntry.union).getD ∅

def unionWhere (index : InvertedIndex) (name : String)
    (select : String → Bool) : Postings :=
  ((index.named? name).map fun entry => entry.unionWhere select).getD ∅

/-- The series with a label of this name, without those under the values that a
condition selects. -/
def unionExcluding (index : InvertedIndex) (name : String)
    (select : String → Bool) : Postings :=
  ((index.named? name).map fun entry =>
    entry.union \ entry.unionWhere select).getD ∅

/-- The series with a label of this name, without those under one value. -/
def unionWithout (index : InvertedIndex) (name value : String) : Postings :=
  ((index.named? name).map fun entry =>
    match entry.values[value]? with
    | some postings => entry.union \ postings
    | none => entry.union).getD ∅

def labelNames (index : InvertedIndex) : List String :=
  (index.names.toList.flatMap fun entries => entries.keys).mergeSort fun a b =>
    a ≤ b

/-- The size of the index in bytes, without what maps take for themselves. -/
def storedBytes (index : InvertedIndex) : Nat :=
  (index.names.toList.flatMap fun entries => entries.toList).foldr
    (fun (name, entry) bytes => name.utf8ByteSize + entry.storedBytes + bytes) 0

end InvertedIndex

end SeriesIndex
