import Mathlib
import SeriesIndex.Proofs.LabelSet
import SeriesIndex.Proofs.Order
import SeriesIndex.Proofs.Triples

/-!
# Consistent stores

Five structures describe the series of a store: the keys, the stored series,
the published set, the inverted index and the next number.  They are written
one after another, so between two writes they need not agree.  `Consistent`
says what they agree on at every moment: whatever can be found is complete.
Each single write keeps it, under the condition that the write before it has
been made.
-/

namespace SeriesIndex

namespace InvertedIndex

/-- A series is listed under a label. -/
def Holds (index : InvertedIndex) (label : Label) (tsid : Tsid) : Prop :=
  tsid ∈ index.postings label.name label.value

theorem Represents.holds_iff {index : InvertedIndex} {triples : Finset Triple}
    (hrep : index.Represents triples) {label : Label} {tsid : Tsid} :
    index.Holds label tsid ↔ (label.name, label.value, tsid) ∈ triples :=
  hrep.mem_postings label.name label.value tsid

/-- An insertion puts one number under one label. -/
theorem holds_insertLabel {index : InvertedIndex} {label other : Label}
    {tsid otherTsid : Tsid} :
    (index.insertLabel tsid label).Holds other otherTsid ↔
      (label = other ∧ tsid = otherTsid) ∨ index.Holds other otherTsid := by
  rw [Holds, Holds, insertLabel, postings_insert]
  by_cases hsame : label.name = other.name ∧ label.value = other.value
  · have hlabel : label = other := by
      cases label
      cases other
      simpa using hsame
    subst hlabel
    rw [if_pos hsame, Std.ExtTreeSet.mem_insert,
      Std.LawfulEqCmp.compare_eq_iff_eq]
    simp
  · have hlabel : label ≠ other := by
      rintro rfl
      exact hsame ⟨rfl, rfl⟩
    rw [if_neg hsame]
    simp [hlabel]

theorem represented_insertLabel {index : InvertedIndex} (label : Label)
    (tsid : Tsid) (hrep : ∃ triples, index.Represents triples) :
    ∃ triples, (index.insertLabel tsid label).Represents triples := by
  obtain ⟨triples, hrep⟩ := hrep
  exact ⟨_, hrep.insert label.name label.value tsid⟩

end InvertedIndex

namespace Catalog

def Free (catalog : Catalog) (labels : LabelSet) : Prop :=
  ∀ tsid series, catalog.series? tsid = some series → series.labels ≠ labels

@[simp]
theorem series?_empty (stripes limit : Nat) (tsid : Tsid) :
    (empty stripes limit).series? tsid = none := by
  simp [empty, series?]

@[simp]
theorem lookup?_empty (stripes limit : Nat) (labels : LabelSet) :
    (empty stripes limit).lookup? labels = none := by
  simp [empty, lookup?]

@[simp]
theorem published_empty (stripes limit : Nat) :
    (empty stripes limit).published = ∅ := rfl

/-- A series changes its interval only. -/
theorem series?_modifyActivity (catalog : Catalog) (tsid other : Tsid)
    (change : Activity → Activity) :
    (catalog.modifyActivity tsid change).series? other =
      if tsid = other then
        (catalog.series? other).map fun series =>
          { series with activity := change series.activity }
      else catalog.series? other := by
  simp only [modifyActivity, series?, Std.ExtTreeMap.getElem?_modify,
    Std.LawfulEqCmp.compare_eq_iff_eq]
  split
  · rename_i hsame
    rw [hsame]
  · rfl

section AddKey

variable (catalog : Catalog) (labels : LabelSet) (tsid : Tsid)

-- These are stated for rewriting: comparing a catalog with the one after a new
-- key by unfolding would try to compute the fingerprint of the key.

@[simp]
theorem series?_addKey (other : Tsid) :
    (catalog.addKey labels tsid).series? other = catalog.series? other := by
  rw [series?, series?, addKey]

@[simp]
theorem series_addKey :
    (catalog.addKey labels tsid).series = catalog.series := by
  rw [addKey]

@[simp]
theorem published_addKey :
    (catalog.addKey labels tsid).published = catalog.published := by
  rw [addKey]

@[simp]
theorem nextTsid_addKey :
    (catalog.addKey labels tsid).nextTsid = catalog.nextTsid := by
  rw [addKey]

@[simp]
theorem seriesCount_addKey :
    (catalog.addKey labels tsid).seriesCount = catalog.seriesCount := by
  rw [addKey]

@[simp]
theorem limit_addKey : (catalog.addKey labels tsid).limit = catalog.limit := by
  rw [addKey]

end AddKey

theorem placed_addKey {catalog : Catalog}
    (hplaced : catalog.keys.Placed LabelSet.fingerprint) (labels : LabelSet)
    (tsid : Tsid) :
    (catalog.addKey labels tsid).keys.Placed LabelSet.fingerprint := by
  rw [addKey]
  apply hplaced.modify labels
  intro keys other hother
  rw [Std.ExtTreeMap.mem_insert, Std.LawfulEqCmp.compare_eq_iff_eq] at hother
  exact hother.imp_left Eq.symm

theorem series?_store_of_some {catalog : Catalog} {series found : Series}
    {tsid : Tsid} (hnew : catalog.series? series.tsid = none)
    (hfound : catalog.series? tsid = some found) :
    (catalog.store series).series? tsid = some found := by
  rw [series?_store, if_neg ?_, hfound]
  rintro rfl
  rw [hnew] at hfound
  cases hfound

/-- Changing an interval changes no label set and no number. -/
theorem exists_of_series?_modifyActivity {catalog : Catalog}
    {tsid other : Tsid} {change : Activity → Activity} {series : Series}
    (hseries :
      (catalog.modifyActivity tsid change).series? other = some series) :
    ∃ old, catalog.series? other = some old ∧ series.tsid = old.tsid ∧
      series.labels = old.labels ∧
      (series.activity = old.activity ∨
        series.activity = change old.activity) := by
  rw [series?_modifyActivity] at hseries
  split at hseries
  · obtain ⟨old, hold, rfl⟩ := Option.map_eq_some_iff.mp hseries
    exact ⟨old, hold, rfl, rfl, .inr rfl⟩
  · exact ⟨series, hseries, rfl, rfl, .inl rfl⟩

/-- A change of an interval keeps the labels of all series. -/
theorem exists_series?_modifyActivity {catalog : Catalog}
    {tsid other : Tsid} (change : Activity → Activity) {series : Series}
    (hseries : catalog.series? other = some series) :
    ∃ new, (catalog.modifyActivity tsid change).series? other = some new ∧
      new.labels = series.labels ∧
      (new.activity = series.activity ∨
        new.activity = change series.activity) := by
  rw [series?_modifyActivity, hseries]
  split
  · exact ⟨_, rfl, rfl, .inr rfl⟩
  · exact ⟨series, rfl, rfl, .inl rfl⟩

@[simp]
theorem isSome_series?_modifyActivity (catalog : Catalog) (tsid other : Tsid)
    (change : Activity → Activity) :
    ((catalog.modifyActivity tsid change).series? other).isSome =
      (catalog.series? other).isSome := by
  rw [series?_modifyActivity]
  split <;> simp

theorem series?_modifyActivity_eq_none {catalog : Catalog} {tsid other : Tsid}
    {change : Activity → Activity} :
    (catalog.modifyActivity tsid change).series? other = none ↔
      catalog.series? other = none := by
  rw [← Option.not_isSome_iff_eq_none, isSome_series?_modifyActivity,
    Option.not_isSome_iff_eq_none]

theorem size_series_store {catalog : Catalog} {series : Series}
    (hnew : catalog.series? series.tsid = none) :
    (catalog.store series).series.size = catalog.series.size + 1 := by
  have hmem : series.tsid ∉ catalog.series := by
    rw [Std.ExtTreeMap.mem_iff_isSome_getElem?]
    simpa [series?] using hnew
  exact (Std.ExtTreeMap.size_insert ..).trans (if_neg hmem)

theorem size_series_modifyActivity (catalog : Catalog) (tsid : Tsid)
    (change : Activity → Activity) :
    (catalog.modifyActivity tsid change).series.size = catalog.series.size :=
  Std.ExtTreeMap.size_modify

end Catalog

namespace Store

/-- What the structures of a store agree on at every moment. -/
structure Consistent (store : Store) : Prop where
  represented : ∃ triples, store.inverted.Represents triples
  placed : store.catalog.keys.Placed LabelSet.fingerprint
  tsid_eq : ∀ tsid series, store.catalog.series? tsid = some series →
    series.tsid = tsid
  tsid_ne : ∀ tsid series, store.catalog.series? tsid = some series →
    tsid ≠ Tsid.reserved
  tsid_lt : ∀ tsid series, store.catalog.series? tsid = some series →
    tsid < store.catalog.nextTsid
  ordered : ∀ tsid series, store.catalog.series? tsid = some series →
    series.activity.Ordered
  labels_inj : ∀ tsid other series otherSeries,
    store.catalog.series? tsid = some series →
    store.catalog.series? other = some otherSeries →
    series.labels = otherSeries.labels → tsid = other
  key_published : ∀ labels tsid, store.catalog.lookup? labels = some tsid →
    tsid ∈ store.catalog.published
  key_labels : ∀ labels tsid, store.catalog.lookup? labels = some tsid →
    ∃ series, store.catalog.series? tsid = some series ∧ series.labels = labels
  published_held : ∀ tsid, tsid ∈ store.catalog.published →
    ∃ series, store.catalog.series? tsid = some series ∧
      ∀ label ∈ series.labels.labels, store.inverted.Holds label tsid
  held : ∀ label tsid, store.inverted.Holds label tsid →
    ∃ series, store.catalog.series? tsid = some series ∧
      label ∈ series.labels.labels
  next_ne : store.catalog.nextTsid ≠ Tsid.reserved

namespace Consistent

variable {store : Store}

theorem empty (keyStripes nameStripes limit : Nat) :
    (Store.empty keyStripes nameStripes limit).Consistent where
  represented := ⟨∅, InvertedIndex.represents_empty nameStripes⟩
  placed := Striped.placed_replicate LabelSet.fingerprint keyStripes
  tsid_eq := by simp [Store.empty]
  tsid_ne := by simp [Store.empty]
  tsid_lt := by simp [Store.empty]
  ordered := by simp [Store.empty]
  labels_inj := by simp [Store.empty]
  key_published := by simp [Store.empty]
  key_labels := by simp [Store.empty]
  published_held := by simp [Store.empty]
  held label tsid hheld := by
    simp [Store.empty, InvertedIndex.Holds, InvertedIndex.postings,
      InvertedIndex.postings?] at hheld
  next_ne := (by decide : Tsid.first ≠ Tsid.reserved)

/-- The number that is given out next is new. -/
theorem unstored_next (hcons : store.Consistent) :
    store.catalog.series? store.catalog.nextTsid = none := by
  rw [Option.eq_none_iff_forall_ne_some]
  intro series hseries
  exact UInt64.lt_irrefl _ (hcons.tsid_lt _ series hseries)

/-! ## Single writes -/

/-- A new series may be stored if its number was given out and neither the
number nor the label set belongs to a stored one. -/
theorem store_series (hcons : store.Consistent) {series : Series}
    (hne : series.tsid ≠ Tsid.reserved)
    (hlt : series.tsid < store.catalog.nextTsid)
    (hordered : series.activity.Ordered)
    (hnew : store.catalog.series? series.tsid = none)
    (hfree : store.catalog.Free series.labels) :
    Consistent { store with catalog := store.catalog.store series } where
  represented := hcons.represented
  placed := hcons.placed
  tsid_eq tsid found hfound := by
    rw [Catalog.series?_store] at hfound
    split at hfound
    · rename_i hsame
      cases hfound
      exact hsame
    · exact hcons.tsid_eq tsid found hfound
  tsid_ne tsid found hfound := by
    rw [Catalog.series?_store] at hfound
    split at hfound
    · rename_i hsame
      exact hsame ▸ hne
    · exact hcons.tsid_ne tsid found hfound
  tsid_lt tsid found hfound := by
    rw [Catalog.series?_store] at hfound
    split at hfound
    · rename_i hsame
      exact hsame ▸ hlt
    · exact hcons.tsid_lt tsid found hfound
  ordered tsid found hfound := by
    rw [Catalog.series?_store] at hfound
    split at hfound
    · cases hfound
      exact hordered
    · exact hcons.ordered tsid found hfound
  labels_inj tsid other found otherFound hfound hother hlabels := by
    rw [Catalog.series?_store] at hfound hother
    split at hfound <;> split at hother
    · rename_i hsame hsameOther
      exact hsame.symm.trans hsameOther
    · cases hfound
      exact absurd hlabels.symm (hfree other otherFound hother)
    · cases hother
      exact absurd hlabels (hfree tsid found hfound)
    · exact hcons.labels_inj tsid other found otherFound hfound hother hlabels
  key_published := hcons.key_published
  key_labels labels tsid hkey := by
    obtain ⟨found, hfound, hlabels⟩ := hcons.key_labels labels tsid hkey
    exact ⟨found, Catalog.series?_store_of_some hnew hfound, hlabels⟩
  published_held tsid hpublished := by
    obtain ⟨found, hfound, hheld⟩ := hcons.published_held tsid hpublished
    exact ⟨found, Catalog.series?_store_of_some hnew hfound, hheld⟩
  held label tsid hheld := by
    obtain ⟨found, hfound, hlabel⟩ := hcons.held label tsid hheld
    exact ⟨found, Catalog.series?_store_of_some hnew hfound, hlabel⟩
  next_ne := hcons.next_ne

/-- A stored series may be put under any of its labels. -/
theorem insertLabel (hcons : store.Consistent) {series : Series} {tsid : Tsid}
    {label : Label} (hseries : store.catalog.series? tsid = some series)
    (hlabel : label ∈ series.labels.labels) :
    Consistent
      { store with inverted := store.inverted.insertLabel tsid label } where
  represented :=
    InvertedIndex.represented_insertLabel label tsid hcons.represented
  placed := hcons.placed
  tsid_eq := hcons.tsid_eq
  tsid_ne := hcons.tsid_ne
  tsid_lt := hcons.tsid_lt
  ordered := hcons.ordered
  labels_inj := hcons.labels_inj
  key_published := hcons.key_published
  key_labels := hcons.key_labels
  published_held other hpublished := by
    obtain ⟨found, hfound, hheld⟩ := hcons.published_held other hpublished
    refine ⟨found, hfound, fun otherLabel hother => ?_⟩
    exact InvertedIndex.holds_insertLabel.mpr (.inr (hheld otherLabel hother))
  held otherLabel other hheld := by
    rcases InvertedIndex.holds_insertLabel.mp hheld with ⟨rfl, rfl⟩ | hold
    · exact ⟨series, hseries, hlabel⟩
    · exact hcons.held otherLabel other hold
  next_ne := hcons.next_ne

/-- A stored series may be published once it is under all its labels. -/
theorem publish (hcons : store.Consistent) {series : Series} {tsid : Tsid}
    (hseries : store.catalog.series? tsid = some series)
    (hheld : ∀ label ∈ series.labels.labels, store.inverted.Holds label tsid) :
    Consistent { store with catalog := store.catalog.publish tsid } where
  represented := hcons.represented
  placed := hcons.placed
  tsid_eq := hcons.tsid_eq
  tsid_ne := hcons.tsid_ne
  tsid_lt := hcons.tsid_lt
  ordered := hcons.ordered
  labels_inj := hcons.labels_inj
  key_published labels other hkey :=
    (Catalog.mem_published_publish _ _ _).mpr
      (.inr (hcons.key_published labels other hkey))
  key_labels := hcons.key_labels
  published_held other hpublished := by
    rcases (Catalog.mem_published_publish _ _ _).mp hpublished with rfl | hold
    · exact ⟨series, hseries, hheld⟩
    · exact hcons.published_held other hold
  held := hcons.held
  next_ne := hcons.next_ne

/-- The label set of a published series may become its key. -/
theorem addKey (hcons : store.Consistent) {series : Series} {tsid : Tsid}
    (hseries : store.catalog.series? tsid = some series)
    (hpublished : tsid ∈ store.catalog.published) :
    Consistent
      { store with catalog := store.catalog.addKey series.labels tsid } where
  represented := hcons.represented
  placed := Catalog.placed_addKey hcons.placed series.labels tsid
  tsid_eq := by simpa using hcons.tsid_eq
  tsid_ne := by simpa using hcons.tsid_ne
  tsid_lt := by simpa using hcons.tsid_lt
  ordered := by simpa using hcons.ordered
  labels_inj := by simpa using hcons.labels_inj
  key_published labels other hkey := by
    rw [Catalog.lookup?_addKey] at hkey
    rw [Catalog.published_addKey]
    split at hkey
    · cases hkey
      exact hpublished
    · exact hcons.key_published labels other hkey
  key_labels labels other hkey := by
    rw [Catalog.lookup?_addKey] at hkey
    simp only [Catalog.series?_addKey]
    split at hkey
    · rename_i hsame
      cases hkey
      exact ⟨series, hseries, hsame⟩
    · exact hcons.key_labels labels other hkey
  published_held := by simpa using hcons.published_held
  held := by simpa using hcons.held
  next_ne := by simpa using hcons.next_ne

/-- An interval may be widened. -/
theorem modifyActivity (hcons : store.Consistent) (tsid : Tsid)
    {change : Activity → Activity}
    (hwiden : ∀ activity : Activity, activity.Within (change activity)) :
    Consistent
      { store with catalog := store.catalog.modifyActivity tsid change } where
  represented := hcons.represented
  placed := hcons.placed
  tsid_eq other found hfound := by
    obtain ⟨old, hold, htsid, -, -⟩ :=
      Catalog.exists_of_series?_modifyActivity hfound
    exact htsid.trans (hcons.tsid_eq other old hold)
  tsid_ne other found hfound := by
    obtain ⟨old, hold, -⟩ := Catalog.exists_of_series?_modifyActivity hfound
    exact hcons.tsid_ne other old hold
  tsid_lt other found hfound := by
    obtain ⟨old, hold, -⟩ := Catalog.exists_of_series?_modifyActivity hfound
    exact hcons.tsid_lt other old hold
  ordered other found hfound := by
    obtain ⟨old, hold, -, -, hactivity⟩ :=
      Catalog.exists_of_series?_modifyActivity hfound
    have hordered := hcons.ordered other old hold
    rcases hactivity with hsame | hchanged
    · exact hsame ▸ hordered
    · exact hchanged ▸ hordered.of_within (hwiden old.activity)
  labels_inj left right found otherFound hfound hother hlabels := by
    obtain ⟨old, hold, -, hsame, -⟩ :=
      Catalog.exists_of_series?_modifyActivity hfound
    obtain ⟨otherOld, hotherOld, -, hotherSame, -⟩ :=
      Catalog.exists_of_series?_modifyActivity hother
    rw [hsame, hotherSame] at hlabels
    exact hcons.labels_inj left right old otherOld hold hotherOld hlabels
  key_published := hcons.key_published
  key_labels labels other hkey := by
    obtain ⟨found, hfound, hlabels⟩ := hcons.key_labels labels other hkey
    obtain ⟨new, hnew, hsame, -⟩ :=
      Catalog.exists_series?_modifyActivity change hfound
    exact ⟨new, hnew, hsame.trans hlabels⟩
  published_held other hpublished := by
    obtain ⟨found, hfound, hheld⟩ := hcons.published_held other hpublished
    obtain ⟨new, hnew, hsame, -⟩ :=
      Catalog.exists_series?_modifyActivity change hfound
    exact ⟨new, hnew, hsame ▸ hheld⟩
  held label other hheld := by
    obtain ⟨found, hfound, hlabel⟩ := hcons.held label other hheld
    obtain ⟨new, hnew, hsame, -⟩ :=
      Catalog.exists_series?_modifyActivity change hfound
    exact ⟨new, hnew, hsame ▸ hlabel⟩
  next_ne := hcons.next_ne

/-- The next number may move up, and the count of series may change. -/
theorem counters (hcons : store.Consistent) {next : Tsid} (count : Nat)
    (hnext : store.catalog.nextTsid ≤ next) :
    Consistent
      { store with
        catalog :=
          { store.catalog with nextTsid := next, seriesCount := count } } where
  represented := hcons.represented
  placed := hcons.placed
  tsid_eq := hcons.tsid_eq
  tsid_ne := hcons.tsid_ne
  tsid_lt tsid series hseries :=
    UInt64.lt_of_lt_of_le (hcons.tsid_lt tsid series hseries) hnext
  ordered := hcons.ordered
  labels_inj := hcons.labels_inj
  key_published := hcons.key_published
  key_labels := hcons.key_labels
  published_held := hcons.published_held
  held := hcons.held
  next_ne := by
    rintro rfl
    exact hcons.next_ne (UInt64.le_zero_iff.mp hnext)

end Consistent

end Store

end SeriesIndex
