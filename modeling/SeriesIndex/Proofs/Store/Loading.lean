import Mathlib
import SeriesIndex.Proofs.Store.Complete

/-!
# Stores that are being loaded

A registration and a batch enter a store in the same way: the next number and
the count are moved first, and then the series are enrolled one by one.
`Loading` describes a store in the midst of that, with the series that are
still to come.  A store in which none is to come is settled: its keys and its
stored series are inverse to one another, its count is right, and its next
number is the one after the greatest.
-/

namespace SeriesIndex

namespace Catalog

/-- Series that can enter a catalog: none is wrong by itself, and neither their
numbers nor their label sets are taken or repeated. -/
structure Admits (catalog : Catalog) (entries : List Series) : Prop where
  tsid_ne : ∀ entry ∈ entries, entry.tsid ≠ Tsid.reserved
  ordered : ∀ entry ∈ entries, entry.activity.Ordered
  unstored : ∀ entry ∈ entries, catalog.series? entry.tsid = none
  free : ∀ entry ∈ entries, catalog.Free entry.labels
  distinct : entries.Pairwise fun a b => a.tsid ≠ b.tsid ∧ a.labels ≠ b.labels

theorem admits_nil (catalog : Catalog) : catalog.Admits [] where
  tsid_ne := by simp
  ordered := by simp
  unstored := by simp
  free := by simp
  distinct := .nil

theorem Free.store {catalog : Catalog} {labels : LabelSet} {series : Series}
    (hfree : catalog.Free labels) (hne : series.labels ≠ labels) :
    (catalog.store series).Free labels := by
  intro tsid found hfound
  rw [series?_store] at hfound
  split at hfound
  · cases hfound
    exact hne
  · exact hfree tsid found hfound

theorem Free.modifyActivity {catalog : Catalog} {labels : LabelSet}
    (hfree : catalog.Free labels) (tsid : Tsid) (change : Activity → Activity) :
    (catalog.modifyActivity tsid change).Free labels := by
  intro other found hfound
  obtain ⟨old, hold, -, hlabels, -⟩ := exists_of_series?_modifyActivity hfound
  rw [hlabels]
  exact hfree other old hold

/-- What is admitted after the first series is admitted once it is stored. -/
theorem Admits.tail {catalog : Catalog} {series : Series}
    {rest : List Series} (hadmits : catalog.Admits (series :: rest)) :
    (catalog.store series).Admits rest := by
  have hdistinct := List.pairwise_cons.mp hadmits.distinct
  constructor
  · intro entry hentry
    exact hadmits.tsid_ne entry (List.mem_cons_of_mem _ hentry)
  · intro entry hentry
    exact hadmits.ordered entry (List.mem_cons_of_mem _ hentry)
  · intro entry hentry
    rw [series?_store, if_neg (hdistinct.1 entry hentry).1]
    exact hadmits.unstored entry (List.mem_cons_of_mem _ hentry)
  · intro entry hentry
    exact (hadmits.free entry (List.mem_cons_of_mem _ hentry)).store
      (hdistinct.1 entry hentry).2
  · exact hdistinct.2

end Catalog

namespace InvertedIndex

/-- To insert labels one by one puts the number under all of them. -/
theorem holds_foldl_insertLabel {index : InvertedIndex} {labels : List Label}
    {label : Label} {tsid other : Tsid} :
    (labels.foldl (fun index label => index.insertLabel tsid label)
        index).Holds label other ↔
      (label ∈ labels ∧ tsid = other) ∨ index.Holds label other := by
  induction labels generalizing index with
  | nil => simp
  | cons first rest ih =>
      rw [List.foldl_cons, ih, holds_insertLabel, List.mem_cons]
      constructor
      · rintro (⟨hmem, htsid⟩ | ⟨hlabel, htsid⟩ | hheld)
        · exact .inl ⟨.inr hmem, htsid⟩
        · exact .inl ⟨.inl hlabel.symm, htsid⟩
        · exact .inr hheld
      · rintro (⟨hlabel | hmem, htsid⟩ | hheld)
        · exact .inr (.inl ⟨hlabel.symm, htsid⟩)
        · exact .inl ⟨hmem, htsid⟩
        · exact .inr (.inr hheld)

end InvertedIndex

namespace Store

variable {store : Store}

/-- A store stays consistent while a stored series is put under its labels. -/
theorem Consistent.insertLabels (hcons : store.Consistent) {series : Series}
    {tsid : Tsid} (hseries : store.catalog.series? tsid = some series)
    (labels : List Label)
    (hlabels : ∀ label ∈ labels, label ∈ series.labels.labels) :
    Consistent
      { store with
        inverted := labels.foldl
          (fun index label => index.insertLabel tsid label)
          store.inverted } := by
  induction labels generalizing store with
  | nil => exact hcons
  | cons first rest ih =>
      rw [List.foldl_cons]
      exact ih (hcons.insertLabel hseries (hlabels first (by simp))) hseries
        fun label hlabel => hlabels label (List.mem_cons_of_mem _ hlabel)

/-! ## Enrolling a series -/

section Enroll

variable (store : Store) (series : Series)

@[simp]
theorem series?_enroll (tsid : Tsid) :
    (store.enroll series).catalog.series? tsid =
      if series.tsid = tsid then some series
      else store.catalog.series? tsid := by
  rw [enroll, Catalog.series?_addKey, ← Catalog.series?_store]
  rfl

@[simp]
theorem lookup?_enroll (labels : LabelSet) :
    (store.enroll series).catalog.lookup? labels =
      if series.labels = labels then some series.tsid
      else store.catalog.lookup? labels := by
  rw [enroll, Catalog.lookup?_addKey]
  rfl

@[simp]
theorem nextTsid_enroll :
    (store.enroll series).catalog.nextTsid = store.catalog.nextTsid := by
  rw [enroll, Catalog.nextTsid_addKey]
  rfl

@[simp]
theorem seriesCount_enroll :
    (store.enroll series).catalog.seriesCount = store.catalog.seriesCount := by
  rw [enroll, Catalog.seriesCount_addKey]
  rfl

@[simp]
theorem limit_enroll :
    (store.enroll series).catalog.limit = store.catalog.limit := by
  rw [enroll, Catalog.limit_addKey]
  rfl

theorem size_series_enroll (hnew : store.catalog.series? series.tsid = none) :
    (store.enroll series).catalog.series.size =
      store.catalog.series.size + 1 := by
  rw [enroll, Catalog.series_addKey]
  exact Catalog.size_series_store hnew

end Enroll

/-- A series that a store admits under a number that was given out can be
enrolled. -/
theorem Consistent.enroll (hcons : store.Consistent) {series : Series}
    (hne : series.tsid ≠ Tsid.reserved)
    (hlt : series.tsid < store.catalog.nextTsid)
    (hordered : series.activity.Ordered)
    (hnew : store.catalog.series? series.tsid = none)
    (hfree : store.catalog.Free series.labels) :
    (store.enroll series).Consistent := by
  have hstored := hcons.store_series hne hlt hordered hnew hfree
  have hseries :
      (store.catalog.store series).series? series.tsid = some series := by
    rw [Catalog.series?_store, if_pos rfl]
  have hlisted := hstored.insertLabels hseries series.labels.labels fun _ => id
  have hpublished := hlisted.publish hseries fun label hlabel =>
    InvertedIndex.holds_foldl_insertLabel.mpr (.inl ⟨hlabel, rfl⟩)
  exact hpublished.addKey hseries
    ((Catalog.mem_published_publish _ _ _).mpr (.inl rfl))

/-! ## Loading -/

/-- A store in which some series are still to be enrolled: they are counted
already, and their numbers lie below the next one. -/
structure Loading (store : Store) (rest : List Series) : Prop
    extends store.Complete where
  count : store.catalog.seriesCount = store.catalog.series.size + rest.length
  within : store.catalog.limit = 0 ∨
    store.catalog.seriesCount ≤ store.catalog.limit
  admits : store.catalog.Admits rest
  below : ∀ entry ∈ rest, entry.tsid < store.catalog.nextTsid
  top : store.catalog.nextTsid = Tsid.first ∨
    ∃ tsid, ((store.catalog.series? tsid).isSome ∨
      tsid ∈ rest.map Series.tsid) ∧
      tsid.toNat + 1 = store.catalog.nextTsid.toNat

/-- A store in which no series is still to come. -/
abbrev Settled (store : Store) : Prop := store.Loading []

theorem settled_empty (keyStripes nameStripes limit : Nat) :
    (Store.empty keyStripes nameStripes limit).Settled where
  toConsistent := Consistent.empty keyStripes nameStripes limit
  keyed := by simp [Store.empty]
  count := by simp [Store.empty, Catalog.empty]
  within := .inr (Nat.zero_le _)
  admits := Catalog.admits_nil _
  below := by simp
  top := .inl rfl

/-- Enrolling the first of the series that are to come leaves the others. -/
theorem Loading.enroll {series : Series} {rest : List Series}
    (hload : store.Loading (series :: rest)) :
    (store.enroll series).Loading rest where
  toConsistent :=
    hload.toConsistent.enroll (hload.admits.tsid_ne series (by simp))
      (hload.below series (by simp)) (hload.admits.ordered series (by simp))
      (hload.admits.unstored series (by simp))
      (hload.admits.free series (by simp))
  keyed tsid found hfound := by
    rw [series?_enroll] at hfound
    rw [lookup?_enroll]
    split at hfound
    · rename_i hsame
      cases hfound
      rw [if_pos rfl, hsame]
    · have hfree := hload.admits.free series (by simp) tsid found hfound
      rw [if_neg hfree.symm]
      exact hload.keyed tsid found hfound
  count := by
    have hnew := hload.admits.unstored series List.mem_cons_self
    rw [size_series_enroll store series hnew, seriesCount_enroll,
      hload.count, List.length_cons]
    omega
  within := by
    rw [limit_enroll, seriesCount_enroll]
    exact hload.within
  admits := by
    have htail := hload.admits.tail
    constructor
    · exact htail.tsid_ne
    · exact htail.ordered
    · intro entry hentry
      rw [series?_enroll, ← Catalog.series?_store]
      exact htail.unstored entry hentry
    · intro entry hentry tsid found hfound
      rw [series?_enroll, ← Catalog.series?_store] at hfound
      exact htail.free entry hentry tsid found hfound
    · exact htail.distinct
  below entry hentry := by
    rw [nextTsid_enroll]
    exact hload.below entry (List.mem_cons_of_mem _ hentry)
  top := by
    rw [nextTsid_enroll]
    apply hload.top.imp_right
    rintro ⟨tsid, htsid, hnext⟩
    refine ⟨tsid, ?_, hnext⟩
    rw [series?_enroll]
    by_cases hsame : series.tsid = tsid
    · simp [hsame]
    · rw [if_neg hsame]
      simpa [Ne.symm hsame] using htsid

/-- Once all entries are enrolled, the store is settled again. -/
theorem Loading.foldl_enroll {entries : List Series}
    (hload : store.Loading entries) :
    (entries.foldl Store.enroll store).Settled := by
  induction entries generalizing store with
  | nil => exact hload
  | cons series rest ih =>
      rw [List.foldl_cons]
      exact ih hload.enroll

/-- Widening an interval is not seen by a load. -/
theorem Loading.modifyActivity {rest : List Series} (hload : store.Loading rest)
    (tsid : Tsid) {change : Activity → Activity}
    (hwiden : ∀ activity : Activity, activity.Within (change activity)) :
    Loading { store with catalog := store.catalog.modifyActivity tsid change }
      rest where
  toConsistent := hload.toConsistent.modifyActivity tsid hwiden
  keyed other found hfound := by
    obtain ⟨old, hold, -, hlabels, -⟩ :=
      Catalog.exists_of_series?_modifyActivity hfound
    rw [hlabels]
    exact hload.keyed other old hold
  count := by
    rw [Catalog.size_series_modifyActivity]
    exact hload.count
  within := hload.within
  admits := by
    constructor
    · exact hload.admits.tsid_ne
    · exact hload.admits.ordered
    · intro entry hentry
      rw [Catalog.series?_modifyActivity_eq_none]
      exact hload.admits.unstored entry hentry
    · intro entry hentry
      exact (hload.admits.free entry hentry).modifyActivity tsid change
    · exact hload.admits.distinct
  below := hload.below
  top := by
    apply hload.top.imp_right
    rintro ⟨other, hother, hnext⟩
    refine ⟨other, ?_, hnext⟩
    rw [Catalog.isSome_series?_modifyActivity]
    exact hother

end Store

end SeriesIndex
