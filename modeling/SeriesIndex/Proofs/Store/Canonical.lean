import Mathlib
import SeriesIndex.Proofs.Restriped
import SeriesIndex.Proofs.Store.Faithful

/-!
# Stores determined by their series

How a store came about leaves no trace in it.  Keys, published set, inverted
index and counters of a settled store follow from its stored series, up to the
numbers of stripes and the limit, which no registration and no batch changes.
Two settled stores with the same series in the same frame are therefore equal,
and whatever is asked of them later is answered alike.
-/

namespace SeriesIndex

theorem InvertedIndex.size_names_insertSeries (index : InvertedIndex)
    (tsid : Tsid) (labels : LabelSet) :
    (index.insertSeries tsid labels).names.size = index.names.size := by
  rw [insertSeries]
  generalize labels.labels = list
  induction list generalizing index with
  | nil => rfl
  | cons label rest ih =>
      rw [List.foldl_cons, ih, insertLabel, size_names_insert]

/-- Equal parts make equal catalogs. -/
theorem Catalog.ext {left right : Catalog} (hkeys : left.keys = right.keys)
    (hseries : left.series = right.series)
    (hpublished : left.published = right.published)
    (hnext : left.nextTsid = right.nextTsid)
    (hcount : left.seriesCount = right.seriesCount)
    (hlimit : left.limit = right.limit) : left = right := by
  cases left
  cases right
  rw [mk.injEq]
  exact ⟨hkeys, hseries, hpublished, hnext, hcount, hlimit⟩

namespace Store

/-! ## Frames -/

/-- What no call changes in a store: the numbers of its stripes and its
limit. -/
structure Frame where
  keyStripes : Nat
  nameStripes : Nat
  limit : Nat

def frame (store : Store) : Frame where
  keyStripes := store.catalog.keys.size
  nameStripes := store.inverted.names.size
  limit := store.catalog.limit

theorem frame_enroll (store : Store) (series : Series) :
    (store.enroll series).frame = store.frame := by
  have hkeys : (store.enroll series).catalog.keys.size =
      store.catalog.keys.size := by
    rw [enroll, Catalog.addKey]
    exact Striped.size_modify _ _ _
  have hnames : (store.enroll series).inverted.names.size =
      store.inverted.names.size :=
    InvertedIndex.size_names_insertSeries _ _ _
  rw [frame, frame, hkeys, hnames, limit_enroll]

theorem frame_foldl_enroll (store : Store) (entries : List Series) :
    (entries.foldl enroll store).frame = store.frame := by
  induction entries generalizing store with
  | nil => rfl
  | cons series rest ih => rw [List.foldl_cons, ih, frame_enroll]

variable {store : Store}

theorem Settled.frame_register (hsettled : store.Settled)
    (timestamp : Timestamp) (labels : LabelSet) :
    (store.register timestamp labels).2.frame = store.frame := by
  have hcases := hsettled.registering timestamp labels
  generalize store.register timestamp labels = result at hcases ⊢
  cases hcases with
  | known _ _ => rfl
  | full _ _ => rfl
  | exhausted _ _ _ => rfl
  | new _ _ _ =>
      rw [frame_enroll]
      rfl

theorem frame_importBatch (store : Store) (entries : List Series) :
    (store.importBatch entries).2.frame = store.frame := by
  cases hcheck : store.catalog.checkBatch entries with
  | error fault => rw [importBatch_of_error hcheck]
  | ok value =>
      rw [importBatch_of_ok hcheck, frame_foldl_enroll]
      rfl

/-! ## Equality -/

section Equality

variable {left right : Store}

/-- Where the same series are stored, label sets are found under the same
numbers. -/
theorem Settled.lookup?_eq (hleft : left.Settled) (hright : right.Settled)
    (hsame : ∀ tsid, left.catalog.series? tsid = right.catalog.series? tsid)
    (labels : LabelSet) :
    left.catalog.lookup? labels = right.catalog.lookup? labels := by
  apply Option.ext
  intro tsid
  rw [hleft.lookup?_eq_some_iff, hright.lookup?_eq_some_iff, hsame]

theorem Settled.published_eq (hleft : left.Settled) (hright : right.Settled)
    (hsame : ∀ tsid, left.catalog.series? tsid = right.catalog.series? tsid) :
    left.catalog.published = right.catalog.published := by
  apply Std.ExtTreeSet.ext_mem
  intro tsid
  rw [hleft.mem_published_iff, hright.mem_published_iff, hsame]

theorem Settled.nextTsid_eq_nextTsid (hleft : left.Settled)
    (hright : right.Settled)
    (hsame : ∀ tsid, left.catalog.series? tsid = right.catalog.series? tsid) :
    left.catalog.nextTsid = right.catalog.nextTsid := by
  apply UInt64.toNat_inj.mp
  rw [hleft.nextTsid_eq, hright.nextTsid_eq, hleft.published_eq hright hsame]

theorem Settled.seriesCount_eq (hleft : left.Settled) (hright : right.Settled)
    (hsame : ∀ tsid, left.catalog.series? tsid = right.catalog.series? tsid) :
    left.catalog.seriesCount = right.catalog.seriesCount := by
  have hseries : left.catalog.series = right.catalog.series :=
    Std.ExtTreeMap.ext_getElem? hsame
  rw [hleft.count, hright.count, hseries]

/-- All of a catalog follows from the stored series and the frame. -/
theorem Settled.catalog_eq (hleft : left.Settled) (hright : right.Settled)
    (hframe : left.frame = right.frame)
    (hsame : ∀ tsid, left.catalog.series? tsid = right.catalog.series? tsid) :
    left.catalog = right.catalog := by
  have hkeys : left.catalog.keys = right.catalog.keys :=
    hleft.placed.ext hright.placed (congrArg Frame.keyStripes hframe)
      (hleft.lookup?_eq hright hsame)
  exact Catalog.ext hkeys (Std.ExtTreeMap.ext_getElem? hsame)
    (hleft.published_eq hright hsame) (hleft.nextTsid_eq_nextTsid hright hsame)
    (hleft.seriesCount_eq hright hsame) (congrArg Frame.limit hframe)

/-- So do the triples of the inverted index. -/
theorem Settled.sameTriples (hleft : left.Settled) (hright : right.Settled)
    (hsame : ∀ tsid, left.catalog.series? tsid = right.catalog.series? tsid) :
    left.inverted.SameTriples right.inverted := by
  obtain ⟨triples, hrep⟩ := hleft.represented
  obtain ⟨others, hotherRep⟩ := hright.represented
  have htriples : triples = others := by
    ext ⟨name, value, tsid⟩
    have hholds : left.inverted.Holds ⟨name, value⟩ tsid ↔
        (name, value, tsid) ∈ triples := hrep.holds_iff
    have hotherHolds : right.inverted.Holds ⟨name, value⟩ tsid ↔
        (name, value, tsid) ∈ others := hotherRep.holds_iff
    rw [← hholds, ← hotherHolds, hleft.holds_iff, hright.holds_iff, hsame]
  exact ⟨others, htriples ▸ hrep, hotherRep⟩

/-- And so does all of it. -/
theorem Settled.inverted_eq (hleft : left.Settled) (hright : right.Settled)
    (hframe : left.frame = right.frame)
    (hsame : ∀ tsid, left.catalog.series? tsid = right.catalog.series? tsid) :
    left.inverted = right.inverted := by
  obtain ⟨triples, hrep, hotherRep⟩ := hleft.sameTriples hright hsame
  exact hrep.eq hotherRep (congrArg Frame.nameStripes hframe)

/-- A settled store is determined by its frame and its stored series. -/
theorem Settled.eq_of_series? (hleft : left.Settled) (hright : right.Settled)
    (hframe : left.frame = right.frame)
    (hsame : ∀ tsid, left.catalog.series? tsid = right.catalog.series? tsid) :
    left = right := by
  have hcatalog := hleft.catalog_eq hright hframe hsame
  have hinverted := hleft.inverted_eq hright hframe hsame
  cases left
  cases right
  rw [mk.injEq]
  exact ⟨hcatalog, hinverted⟩

end Equality

end Store

end SeriesIndex
