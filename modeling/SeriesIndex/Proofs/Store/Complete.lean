import Mathlib
import SeriesIndex.Proofs.Store.Consistent

/-!
# Complete stores

A consistent store is complete if every stored series can be found by its label
set.  Its keys and its stored series are then inverse to one another, and the
published set, the snapshot and the keys of all stripes have one entry for each
series.
-/

namespace SeriesIndex.Store

variable {store : Store}

/-- A consistent store in which every stored series is a key. -/
structure Complete (store : Store) : Prop extends store.Consistent where
  keyed : ∀ tsid series, store.catalog.series? tsid = some series →
    store.catalog.lookup? series.labels = some tsid

theorem Complete.counters (hcomplete : store.Complete) {next : Tsid}
    (count : Nat) (hnext : store.catalog.nextTsid ≤ next) :
    Complete
      { store with
        catalog :=
          { store.catalog with nextTsid := next, seriesCount := count } } where
  toConsistent := hcomplete.toConsistent.counters count hnext
  keyed := hcomplete.keyed

theorem Complete.isSome_of_key (hcomplete : store.Complete) {labels : LabelSet}
    {tsid : Tsid} (hkey : store.catalog.lookup? labels = some tsid) :
    (store.catalog.series? tsid).isSome := by
  obtain ⟨series, hseries, -⟩ := hcomplete.key_labels labels tsid hkey
  rw [hseries]
  rfl

/-- What is not found is not stored either. -/
theorem Complete.free_of_not_key (hcomplete : store.Complete)
    {labels : LabelSet} (hkey : store.catalog.lookup? labels = none) :
    store.catalog.Free labels := by
  rintro tsid series hseries rfl
  have hkeyed := hcomplete.keyed tsid series hseries
  rw [hkey] at hkeyed
  cases hkeyed

def registered (store : Store) : List LabelSet :=
  store.catalog.snapshot.map Series.labels

/-- A label set is found under the number of the stored series that has it. -/
theorem Complete.lookup?_eq_some_iff (hcomplete : store.Complete)
    {labels : LabelSet} {tsid : Tsid} :
    store.catalog.lookup? labels = some tsid ↔
      ∃ series, store.catalog.series? tsid = some series ∧
        series.labels = labels := by
  constructor
  · exact hcomplete.key_labels labels tsid
  · rintro ⟨series, hseries, rfl⟩
    exact hcomplete.keyed tsid series hseries

/-- Published numbers are those of stored series. -/
theorem Complete.mem_published_iff (hcomplete : store.Complete) {tsid : Tsid} :
    tsid ∈ store.catalog.published ↔
      ∃ series, store.catalog.series? tsid = some series := by
  constructor
  · intro hpublished
    obtain ⟨series, hseries, -⟩ := hcomplete.published_held tsid hpublished
    exact ⟨series, hseries⟩
  · rintro ⟨series, hseries⟩
    exact hcomplete.key_published _ _ (hcomplete.keyed tsid series hseries)

/-- A series is held under its own labels only. -/
theorem Complete.holds_iff (hcomplete : store.Complete) {label : Label}
    {tsid : Tsid} :
    store.inverted.Holds label tsid ↔
      ∃ series, store.catalog.series? tsid = some series ∧
        label ∈ series.labels.labels := by
  constructor
  · exact hcomplete.held label tsid
  · rintro ⟨series, hseries, hlabel⟩
    have hpublished := hcomplete.mem_published_iff.mpr ⟨series, hseries⟩
    obtain ⟨found, hfound, hheld⟩ := hcomplete.published_held tsid hpublished
    rw [hseries] at hfound
    cases hfound
    exact hheld label hlabel

theorem Complete.publishedSeries_eq_ok_iff (hcomplete : store.Complete)
    {tsid : Tsid} {series : Series} :
    store.catalog.publishedSeries tsid = .ok series ↔
      store.catalog.series? tsid = some series := by
  rw [Catalog.publishedSeries]
  constructor
  · intro hok
    split at hok
    · cases hok
    · cases hseries : store.catalog.series? tsid with
      | none => simp [hseries] at hok
      | some found => simpa [hseries] using hok
  · intro hseries
    have hpublished := hcomplete.mem_published_iff.mpr ⟨series, hseries⟩
    have hne := hcomplete.tsid_ne tsid series hseries
    simp [hne, Catalog.isPublished, hpublished, hseries]

theorem Complete.publishedSeries_of_none (hcomplete : store.Complete)
    {tsid : Tsid} (hnone : store.catalog.series? tsid = none) :
    store.catalog.publishedSeries tsid = .error (.unknownSeries tsid) := by
  have hnot : store.catalog.isPublished tsid = false := by
    rw [Catalog.isPublished, ← Bool.not_eq_true,
      Std.ExtTreeSet.contains_iff_mem, hcomplete.mem_published_iff, hnone]
    simp
  rw [Catalog.publishedSeries, if_pos (.inr (by rw [hnot]; rfl))]

/-- A snapshot holds the stored series. -/
theorem Complete.mem_snapshot (hcomplete : store.Complete) {series : Series} :
    series ∈ store.catalog.snapshot ↔
      store.catalog.series? series.tsid = some series := by
  rw [Catalog.snapshot, List.mem_filterMap]
  constructor
  · rintro ⟨tsid, -, hseries⟩
    rw [hcomplete.tsid_eq tsid series hseries]
    exact hseries
  · intro hseries
    refine ⟨series.tsid, ?_, hseries⟩
    rw [Std.ExtTreeSet.mem_toList]
    exact hcomplete.mem_published_iff.mpr ⟨series, hseries⟩

/-- The snapshot leaves no published series out. -/
theorem Consistent.map_tsid_snapshot (hcons : store.Consistent) :
    store.catalog.snapshot.map Series.tsid =
      store.catalog.published.toList := by
  have hall : ∀ tsid ∈ store.catalog.published.toList,
      (store.catalog.series? tsid).map Series.tsid = some tsid := by
    intro tsid htsid
    obtain ⟨series, hseries, -⟩ :=
      hcons.published_held tsid (Std.ExtTreeSet.mem_toList.mp htsid)
    rw [hseries, Option.map_some, hcons.tsid_eq tsid series hseries]
  rw [Catalog.snapshot, List.map_filterMap]
  exact (List.filterMap_congr hall).trans List.filterMap_some

theorem Complete.mem_registered (hcomplete : store.Complete)
    {labels : LabelSet} :
    labels ∈ store.registered ↔
      ∃ tsid, store.catalog.lookup? labels = some tsid := by
  rw [registered, List.mem_map]
  constructor
  · rintro ⟨series, hseries, rfl⟩
    exact ⟨series.tsid,
      hcomplete.keyed _ _ (hcomplete.mem_snapshot.mp hseries)⟩
  · rintro ⟨tsid, hkey⟩
    obtain ⟨series, hseries, hlabels⟩ := hcomplete.key_labels labels tsid hkey
    refine ⟨series, hcomplete.mem_snapshot.mpr ?_, hlabels⟩
    rw [hcomplete.tsid_eq tsid series hseries]
    exact hseries

/-- The published set and the stored series are equally many. -/
theorem Complete.size_published (hcomplete : store.Complete) :
    store.catalog.published.size = store.catalog.series.size := by
  rw [← Std.ExtTreeSet.length_toList, ← Std.ExtTreeMap.length_keys]
  apply List.Perm.length_eq
  rw [List.perm_ext_iff_of_nodup (Postings.nodup_toList _)
    Std.ExtTreeMap.nodup_keys]
  intro tsid
  rw [Std.ExtTreeSet.mem_toList, Std.ExtTreeMap.mem_keys,
    Std.ExtTreeMap.mem_iff_isSome_getElem?, hcomplete.mem_published_iff,
    Option.isSome_iff_exists]
  rfl

theorem Consistent.mem_keys (hcons : store.Consistent) {labels : LabelSet} :
    labels ∈ store.catalog.keys.keys ↔
      ∃ tsid, store.catalog.lookup? labels = some tsid := by
  rw [Striped.mem_keys hcons.placed, Std.ExtTreeMap.mem_iff_isSome_getElem?,
    Option.isSome_iff_exists]
  rfl

/-- No label set is registered twice. -/
theorem Complete.nodup_registered (hcomplete : store.Complete) :
    store.registered.Nodup := by
  have hnodup : (store.catalog.snapshot.map Series.tsid).Nodup := by
    rw [hcomplete.map_tsid_snapshot]
    exact Postings.nodup_toList _
  refine List.Nodup.map_on ?_ hnodup.of_map
  intro left hleft right hright hlabels
  have hleftStored := hcomplete.mem_snapshot.mp hleft
  have hrightStored := hcomplete.mem_snapshot.mp hright
  have htsid := hcomplete.labels_inj _ _ left right hleftStored hrightStored
    hlabels
  rw [htsid, hrightStored] at hleftStored
  exact (Option.some_injective _ hleftStored).symm

/-- So are the keys of all stripes. -/
theorem Complete.length_keys (hcomplete : store.Complete) :
    store.catalog.keys.keys.length = store.catalog.series.size := by
  have hperm : store.catalog.keys.keys.Perm store.registered := by
    rw [List.perm_ext_iff_of_nodup (Striped.nodup_keys hcomplete.placed)
      hcomplete.nodup_registered]
    intro labels
    rw [hcomplete.mem_keys, hcomplete.mem_registered]
  rw [hperm.length_eq, ← hcomplete.size_published,
    ← Std.ExtTreeSet.length_toList, ← hcomplete.map_tsid_snapshot, registered,
    List.length_map, List.length_map]

end SeriesIndex.Store
