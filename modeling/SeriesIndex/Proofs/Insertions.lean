import SeriesIndex.Proofs.Text.Bytes
import SeriesIndex.Proofs.Triples

/-!
# The inverted index after any insertions

Insertions come one label at a time, or all labels of a series at once.  Either
way they add triples, so a sequence of insertions leads to the set of all its
triples, and the stripes, the order of the insertions and their repetition
leave no trace.  `Shows` says of every reader, of the answer of the next
insertion and of the counters what they make of such a set.
-/

namespace SeriesIndex.InvertedIndex

inductive Insertion where
  | label (name value : String) (tsid : Tsid)
  | series (tsid : Tsid) (labels : LabelSet)

def Insertion.triples : Insertion → List Triple
  | label name value tsid => [(name, value, tsid)]
  | series tsid labels =>
      labels.labels.map fun label => (label.name, label.value, tsid)

def put (index : InvertedIndex) : Insertion → InvertedIndex
  | .label name value tsid => (index.insert name value tsid).2
  | .series tsid labels => index.insertSeries tsid labels

def putAll (index : InvertedIndex) (insertions : List Insertion) :
    InvertedIndex :=
  insertions.foldl put index

def inserted (insertions : List Insertion) : Finset Triple :=
  (insertions.flatMap Insertion.triples).toFinset

/-! ## Triple by triple -/

def add (index : InvertedIndex) (triple : Triple) : InvertedIndex :=
  (index.insert triple.1 triple.2.1 triple.2.2).2

theorem put_eq (index : InvertedIndex) (insertion : Insertion) :
    index.put insertion = insertion.triples.foldl add index := by
  cases insertion with
  | label name value tsid => rfl
  | series tsid labels =>
      rw [Insertion.triples, List.foldl_map]
      rfl

theorem putAll_eq (index : InvertedIndex) (insertions : List Insertion) :
    index.putAll insertions =
      (insertions.flatMap Insertion.triples).foldl add index := by
  rw [putAll, List.foldl_flatMap]
  exact List.foldl_ext _ _ index fun index insertion _ => put_eq index insertion

theorem Represents.foldl_add {index : InvertedIndex} {triples : Finset Triple}
    (hrep : index.Represents triples) (added : List Triple) :
    (added.foldl add index).Represents (triples ∪ added.toFinset) := by
  induction added generalizing index triples with
  | nil => simpa using hrep
  | cons triple rest ih =>
      have hunion : triples ∪ (triple :: rest).toFinset =
          Insert.insert triple triples ∪ rest.toFinset := by
        rw [List.toFinset_cons, Finset.union_insert, Finset.insert_union]
      rw [List.foldl_cons, hunion]
      exact ih (hrep.insert triple.1 triple.2.1 triple.2.2)

theorem size_foldl_add (index : InvertedIndex) (added : List Triple) :
    (added.foldl add index).names.size = index.names.size := by
  induction added generalizing index with
  | nil => rfl
  | cons triple rest ih =>
      rw [List.foldl_cons, ih, add, size_names_insert]

/-- Insertions into an empty index leave exactly their triples. -/
theorem represents_putAll (stripes : Nat) (insertions : List Insertion) :
    ((empty stripes).putAll insertions).Represents (inserted insertions) := by
  have hrep := (represents_empty stripes).foldl_add
    (insertions.flatMap Insertion.triples)
  rwa [← putAll_eq, Finset.empty_union] at hrep

/-! ## What is seen -/

/-- Everything that can be seen of an index is what the triples say.  Texts are
listed in the order of their bytes. -/
structure Shows (index : InvertedIndex) (triples : Finset Triple) : Prop where
  insert_fst : ∀ name value tsid,
    (index.insert name value tsid).1 = true ↔ (name, value, tsid) ∉ triples
  mem_postings : ∀ name value tsid,
    tsid ∈ index.postings name value ↔ (name, value, tsid) ∈ triples
  isSome_postings? : ∀ name value,
    (index.postings? name value).isSome ↔ ∃ tsid, (name, value, tsid) ∈ triples
  mem_of_postings? : ∀ name value found,
    index.postings? name value = some found →
      ∀ tsid, tsid ∈ found ↔ (name, value, tsid) ∈ triples
  mem_values : ∀ name value,
    value ∈ index.values name ↔ ∃ tsid, (name, value, tsid) ∈ triples
  values_ascending : ∀ name,
    ((index.values name).map fun value => value.toUTF8.toList).Pairwise (· < ·)
  mem_union : ∀ name tsid,
    tsid ∈ index.union name ↔ ∃ value, (name, value, tsid) ∈ triples
  mem_unionWhere : ∀ name select tsid,
    tsid ∈ index.unionWhere name select ↔
      ∃ value, select value = true ∧ (name, value, tsid) ∈ triples
  unionExcluding : ∀ name select,
    index.unionExcluding name select =
      index.union name \ index.unionWhere name select
  unionWithout : ∀ name value,
    index.unionWithout name value = index.union name \ index.postings name value
  mem_labelNames : ∀ name,
    name ∈ index.labelNames ↔ ∃ value tsid, (name, value, tsid) ∈ triples
  labelNames_ascending :
    (index.labelNames.map fun name => name.toUTF8.toList).Pairwise (· < ·)
  nameCount : index.nameCount = (triples.image fun triple => triple.1).card
  pairCount :
    index.pairCount = (triples.image fun triple => (triple.1, triple.2.1)).card
  insertionCount : index.insertionCount = triples.card

/-- All that an inverted index shows follows from its triples. -/
theorem Represents.shows {index : InvertedIndex} {triples : Finset Triple}
    (hrep : index.Represents triples) : index.Shows triples where
  insert_fst name value tsid := by
    rw [← hrep.mem_postings, InvertedIndex.insert, Bool.not_eq_true',
      ← Bool.not_eq_true]
    rfl
  mem_postings := hrep.mem_postings
  isSome_postings? := hrep.isSome_postings?
  mem_of_postings? name value found hfound tsid := by
    rw [← hrep.mem_postings, postings, hfound, Option.getD_some]
  mem_values name value := InvertedIndex.mem_values hrep
  values_ascending name :=
    Text.pairwise_bytes (index.values_ascending name)
  mem_union := hrep.mem_union
  mem_unionWhere name select tsid := InvertedIndex.mem_unionWhere hrep
  unionExcluding := index.unionExcluding_eq
  unionWithout name value := by
    apply Std.ExtTreeSet.ext_mem
    intro tsid
    rw [mem_unionWithout hrep, Std.ExtTreeSet.mem_diff_iff, hrep.mem_union,
      hrep.mem_postings]
  mem_labelNames name := InvertedIndex.mem_labelNames hrep
  labelNames_ascending :=
    Text.pairwise_bytes (InvertedIndex.labelNames_ascending hrep)
  nameCount := hrep.nameCount
  pairCount := hrep.pairCount
  insertionCount := hrep.insertionCount

/-- Whatever is put into an index of any number of stripes, what is seen of it
is its set of triples; insertions with the same triples, in any order and
however often repeated, lead to the same index. -/
theorem putAll_shows_inserted (stripes : Nat) (insertions : List Insertion) :
    ((empty stripes).putAll insertions).Shows (inserted insertions) ∧
      ∀ others, inserted others = inserted insertions →
        (empty stripes).putAll others = (empty stripes).putAll insertions := by
  refine ⟨(represents_putAll stripes insertions).shows, fun others hsame => ?_⟩
  have hothers := represents_putAll stripes others
  rw [hsame] at hothers
  apply hothers.eq (represents_putAll stripes insertions)
  rw [putAll_eq, putAll_eq, size_foldl_add, size_foldl_add]

end SeriesIndex.InvertedIndex
