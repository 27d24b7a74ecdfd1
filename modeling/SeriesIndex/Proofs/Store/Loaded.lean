import Mathlib
import SeriesIndex.Proofs.Store.Faithful
import SeriesIndex.Proofs.Store.Growth

/-!
# What a batch adds to a store

A batch is loaded as a whole or not at all.  `Loadable` says which batches a
store takes, in terms of the batch and of the registered series only, although
the checks look into five different structures.  `Loads` says what a store
holds after a batch: what it held before, unchanged, and one series for each
entry.  The numbers of a loaded batch are never given out again.
-/

namespace SeriesIndex.Store

variable {store : Store} {entries : List Series}

/-- A batch that a store takes.  By itself it is sound and without repeats, none
of its numbers and label sets is registered, and there is room for it. -/
structure Loadable (store : Store) (entries : List Series) : Prop where
  tsid_ne : ∀ entry ∈ entries,
    entry.tsid ≠ Tsid.reserved ∧ entry.tsid ≠ Tsid.last
  ordered : ∀ entry ∈ entries,
    entry.activity.earliest ≤ entry.activity.latest
  nodup_tsids : (entries.map Series.tsid).Nodup
  tsid_free : ∀ entry ∈ entries,
    entry.tsid ∉ store.catalog.snapshot.map Series.tsid
  nodup_labels : (entries.map Series.labels).Nodup
  labels_free : ∀ entry ∈ entries, entry.labels ∉ store.registered
  room : store.catalog.limit = 0 ∨
    store.catalog.seriesCount + entries.length ≤ store.catalog.limit

theorem Settled.mem_map_tsid_snapshot (hsettled : store.Settled) {tsid : Tsid} :
    tsid ∈ store.catalog.snapshot.map Series.tsid ↔
      ∃ series, store.catalog.series? tsid = some series := by
  rw [hsettled.map_tsid_snapshot, Std.ExtTreeSet.mem_toList,
    hsettled.mem_published_iff]

theorem distinct_iff_nodup :
    (entries.Pairwise fun a b => a.tsid ≠ b.tsid ∧ a.labels ≠ b.labels) ↔
      (entries.map Series.tsid).Nodup ∧ (entries.map Series.labels).Nodup := by
  rw [List.Nodup, List.Nodup, List.pairwise_map, List.pairwise_map,
    List.pairwise_and_iff]

/-- The checks accept the batches that can be loaded, and no others. -/
theorem Settled.checkBatch_eq_ok_iff (hsettled : store.Settled) :
    store.catalog.checkBatch entries = .ok () ↔ store.Loadable entries := by
  rw [Catalog.checkBatch_eq_ok_iff, distinct_iff_nodup, hasRoom_iff]
  constructor
  · rintro ⟨hsound, ⟨htsids, hlabels⟩, hfree, hroom⟩
    constructor
    case tsid_ne =>
      exact fun entry hentry =>
        ⟨(hsound entry hentry).tsid_ne, (hsound entry hentry).tsid_ne_last⟩
    case ordered => exact fun entry hentry => (hsound entry hentry).ordered
    case nodup_tsids => exact htsids
    case tsid_free =>
      intro entry hentry hmem
      obtain ⟨series, hseries⟩ := hsettled.mem_map_tsid_snapshot.mp hmem
      rw [(hfree entry hentry).2] at hseries
      cases hseries
    case nodup_labels => exact hlabels
    case labels_free =>
      intro entry hentry hmem
      obtain ⟨tsid, hkey⟩ := hsettled.mem_registered.mp hmem
      rw [(hfree entry hentry).1] at hkey
      cases hkey
    case room => exact hroom
  · intro hloadable
    refine ⟨fun entry hentry => ?_,
      ⟨hloadable.nodup_tsids, hloadable.nodup_labels⟩,
      fun entry hentry => ⟨?_, ?_⟩, hloadable.room⟩
    · obtain ⟨hne, hneLast⟩ := hloadable.tsid_ne entry hentry
      exact ⟨hne, hneLast, hloadable.ordered entry hentry⟩
    · rw [Option.eq_none_iff_forall_ne_some]
      intro tsid hkey
      exact hloadable.labels_free entry hentry
        (hsettled.mem_registered.mpr ⟨tsid, hkey⟩)
    · rw [Option.eq_none_iff_forall_ne_some]
      intro series hseries
      exact hloadable.tsid_free entry hentry
        (hsettled.mem_map_tsid_snapshot.mpr ⟨series, hseries⟩)

/-- A batch that can be loaded is enrolled entry by entry. -/
theorem Settled.importBatch_of_loadable (hsettled : store.Settled)
    (hloadable : store.Loadable entries) :
    store.importBatch entries =
      (.ok (), entries.foldl enroll (store.opened entries)) :=
  importBatch_of_ok (hsettled.checkBatch_eq_ok_iff.mpr hloadable)

/-- Any other batch leaves the store as it is. -/
theorem Settled.importBatch_of_not_loadable (hsettled : store.Settled)
    (hrefused : ¬store.Loadable entries) :
    ∃ fault, store.importBatch entries = (.error fault, store) := by
  cases hcheck : store.catalog.checkBatch entries with
  | error fault => exact ⟨fault, importBatch_of_error hcheck⟩
  | ok value => exact absurd (hsettled.checkBatch_eq_ok_iff.mp hcheck) hrefused

/-! ## Series after a load -/

/-- Enrolling finds what was found before and the enrolled series. -/
theorem Loading.series?_foldl_enroll (hload : store.Loading entries)
    {tsid : Tsid} {series : Series} :
    (entries.foldl Store.enroll store).catalog.series? tsid = some series ↔
      store.catalog.series? tsid = some series ∨
        series ∈ entries ∧ series.tsid = tsid := by
  induction entries generalizing store with
  | nil => simp
  | cons first rest ih =>
      have hnew := hload.admits.unstored first List.mem_cons_self
      rw [List.foldl_cons, ih hload.enroll, series?_enroll, List.mem_cons]
      by_cases hsame : first.tsid = tsid
      · subst hsame
        rw [if_pos rfl, hnew]
        constructor
        · rintro (hfirst | ⟨hrest, htsid⟩)
          · cases hfirst
            exact .inr ⟨.inl rfl, rfl⟩
          · exact .inr ⟨.inr hrest, htsid⟩
        · rintro (hnone | ⟨rfl | hrest, htsid⟩)
          · cases hnone
          · exact .inl rfl
          · exact .inr ⟨hrest, htsid⟩
      · rw [if_neg hsame]
        constructor
        · rintro (hold | ⟨hrest, htsid⟩)
          · exact .inl hold
          · exact .inr ⟨.inr hrest, htsid⟩
        · rintro (hold | ⟨rfl | hrest, htsid⟩)
          · exact .inl hold
          · exact absurd htsid hsame
          · exact .inr ⟨hrest, htsid⟩

theorem nextTsid_foldl_enroll (store : Store) (entries : List Series) :
    (entries.foldl enroll store).catalog.nextTsid = store.catalog.nextTsid := by
  induction entries generalizing store with
  | nil => rfl
  | cons first rest ih => rw [List.foldl_cons, ih, nextTsid_enroll]

theorem seriesCount_foldl_enroll (store : Store) (entries : List Series) :
    (entries.foldl enroll store).catalog.seriesCount =
      store.catalog.seriesCount := by
  induction entries generalizing store with
  | nil => rfl
  | cons first rest ih => rw [List.foldl_cons, ih, seriesCount_enroll]

def greatest (entries : List Series) : Nat :=
  (entries.map fun entry => entry.tsid.toNat).foldr max 0

theorem toNat_greatestTsid (entries : List Series) :
    (Catalog.greatestTsid entries).toNat = greatest entries := by
  apply Nat.le_antisymm
  · rcases Catalog.greatestTsid_eq_or_mem entries with hnone | hmem
    · rw [hnone]
      exact Nat.zero_le _
    · obtain ⟨entry, hentry, hsame⟩ := List.mem_map.mp hmem
      rw [← hsame]
      exact List.le_max_of_le
        (List.mem_map_of_mem (f := fun entry => entry.tsid.toNat) hentry)
        (Nat.le_refl _)
  · apply List.max_le_of_forall_le _ _
    intro number hnumber
    obtain ⟨entry, hentry, rfl⟩ := List.mem_map.mp hnumber
    exact UInt64.le_iff_toNat_le.mp (Catalog.tsid_le_greatestTsid hentry)

/-- One store holds what another one held and the series of a batch. -/
structure Loads (before : Store) (entries : List Series) (after : Store) :
    Prop where
  series?_iff : ∀ tsid series, after.catalog.series? tsid = some series ↔
    before.catalog.series? tsid = some series ∨
      series ∈ entries ∧ series.tsid = tsid
  published_iff : ∀ tsid, tsid ∈ after.catalog.published ↔
    tsid ∈ before.catalog.published ∨ tsid ∈ entries.map Series.tsid
  lookup?_iff : ∀ labels tsid, after.catalog.lookup? labels = some tsid ↔
    before.catalog.lookup? labels = some tsid ∨
      ∃ entry ∈ entries, entry.labels = labels ∧ entry.tsid = tsid
  postings_iff : ∀ name value tsid,
    tsid ∈ after.inverted.postings name value ↔
      tsid ∈ before.inverted.postings name value ∨
        ∃ entry ∈ entries, entry.tsid = tsid ∧
          entry.labels.get? name = some value
  snapshot_perm :
    after.catalog.snapshot.Perm (before.catalog.snapshot ++ entries)
  seriesCount_eq :
    after.catalog.seriesCount = before.catalog.seriesCount + entries.length
  /-- The next number lies above all numbers of the batch, and does not wrap. -/
  nextTsid_eq : after.catalog.nextTsid.toNat =
    max before.catalog.nextTsid.toNat (greatest entries + 1)

theorem Settled.nodup_snapshot (hsettled : store.Settled) :
    store.catalog.snapshot.Nodup := by
  have hnodup : (store.catalog.snapshot.map Series.tsid).Nodup := by
    rw [hsettled.map_tsid_snapshot]
    exact Postings.nodup_toList _
  exact hnodup.of_map

/-- What the published set, the keys, the inverted index and the snapshot of a
store have gained follows from what the stored series have gained. -/
theorem Settled.loads {before after : Store} (hbefore : before.Settled)
    (hafter : after.Settled)
    (hseries : ∀ tsid series, after.catalog.series? tsid = some series ↔
      before.catalog.series? tsid = some series ∨
        series ∈ entries ∧ series.tsid = tsid)
    (hcount : after.catalog.seriesCount =
      before.catalog.seriesCount + entries.length)
    (hnext : after.catalog.nextTsid.toNat =
      max before.catalog.nextTsid.toNat (greatest entries + 1))
    (hnodup : (entries.map Series.tsid).Nodup)
    (hfree : ∀ entry ∈ entries,
      before.catalog.series? entry.tsid = none) :
    before.Loads entries after where
  series?_iff := hseries
  published_iff tsid := by
    rw [hafter.mem_published_iff, hbefore.mem_published_iff, List.mem_map]
    simp only [hseries, exists_or]
  lookup?_iff labels tsid := by
    rw [hafter.lookup?_eq_some_iff, hbefore.lookup?_eq_some_iff]
    simp only [hseries, or_and_right, exists_or]
    apply or_congr_right
    exact exists_congr fun entry => by
      rw [and_assoc, and_comm (b := _ = labels)]
  postings_iff name value tsid := by
    change after.inverted.Holds ⟨name, value⟩ tsid ↔
      before.inverted.Holds ⟨name, value⟩ tsid ∨ _
    rw [hafter.holds_iff, hbefore.holds_iff]
    simp only [hseries, or_and_right, exists_or, and_assoc,
      LabelSet.get?_eq_some_iff]
  snapshot_perm := by
    have happended : (before.catalog.snapshot ++ entries).Nodup := by
      apply hbefore.nodup_snapshot.append hnodup.of_map
      intro series hold hnew
      have hstored := hbefore.mem_snapshot.mp hold
      rw [hfree series hnew] at hstored
      cases hstored
    rw [List.perm_ext_iff_of_nodup hafter.nodup_snapshot happended]
    intro series
    rw [hafter.mem_snapshot, List.mem_append, hbefore.mem_snapshot, hseries,
      and_iff_left rfl]
  seriesCount_eq := hcount
  nextTsid_eq := hnext

/-- After a batch, the store holds its entries besides what it held before. -/
theorem Settled.loads_importBatch (hsettled : store.Settled)
    (hloadable : store.Loadable entries) :
    store.Loads entries (store.importBatch entries).2 := by
  have hcheck := hsettled.checkBatch_eq_ok_iff.mpr hloadable
  have hload := hsettled.opened hcheck
  have hafter := hsettled.importBatch entries
  rw [importBatch_of_ok hcheck] at hafter ⊢
  apply hsettled.loads hafter
  · exact fun tsid series => hload.series?_foldl_enroll
  · rw [seriesCount_foldl_enroll]
    rfl
  · have hsound := (Catalog.checkBatch_eq_ok_iff.mp hcheck).1
    have hgreatest := Catalog.greatestTsid_ne_last hsound
    rw [nextTsid_foldl_enroll, ← toNat_greatestTsid,
      ← Tsid.toNat_add_one hgreatest, ← Tsid.toNat_max]
    rfl
  · exact hloadable.nodup_tsids
  · exact hload.admits.unstored

/-! ## Later registrations -/

theorem Settled.grows_performAll (hsettled : store.Settled)
    (calls : List Call) : store.Grows (store.performAll calls) := by
  induction calls generalizing store with
  | nil => exact .refl store
  | cons call rest ih =>
      have hstep : store.Grows (store.perform call) := by
        cases call with
        | register timestamp labels =>
            exact hsettled.grows_register timestamp labels
        | importBatch entries => exact hsettled.grows_importBatch entries
      exact hstep.trans (ih (hsettled.perform call))

/-- The number of a stored series is answered for its label set only, and never
as a new one. -/
theorem Settled.register_of_series? (hsettled : store.Settled)
    {series : Series} {timestamp : Timestamp} {labels : LabelSet}
    {registration : Registration}
    (hseries : store.catalog.series? registration.tsid = some series)
    (hok : (store.register timestamp labels).1 = .ok registration) :
    registration.isNew = false ∧ labels = series.labels := by
  obtain ⟨hkey, hnew⟩ := hsettled.register_eq_ok hok
  constructor
  · rw [← Bool.not_eq_true, hnew, hseries]
    exact Option.some_ne_none series
  · obtain ⟨found, hfound, hlabels, -⟩ :=
      (hsettled.grows_register timestamp labels).series _ _ hseries
    obtain ⟨other, hother, hotherLabels⟩ :=
      (hsettled.register timestamp labels).key_labels _ _ hkey
    rw [hfound] at hother
    cases hother
    exact hotherLabels.symm.trans hlabels

/-- Whatever is called later, the number of an entry is answered for the label
set of that entry only, and never as a new one. -/
def KeepsNumbers (store : Store) (entries : List Series) : Prop :=
  ∀ calls timestamp labels registration,
    ((store.performAll calls).register timestamp labels).1 =
        .ok registration →
      ∀ entry ∈ entries, entry.tsid = registration.tsid →
        registration.isNew = false ∧ labels = entry.labels

/-- Numbers that a batch brings along are kept. -/
theorem Settled.keepsNumbers (hsettled : store.Settled)
    (hstored : ∀ entry ∈ entries,
      store.catalog.series? entry.tsid = some entry) :
    store.KeepsNumbers entries := by
  intro calls timestamp labels registration hok entry hentry hsame
  obtain ⟨found, hfound, hlabels, -⟩ :=
    (hsettled.grows_performAll calls).series _ _ (hstored entry hentry)
  rw [hsame] at hfound
  obtain ⟨hnew, hregistered⟩ :=
    (hsettled.performAll calls).register_of_series? hfound hok
  exact ⟨hnew, hregistered.trans hlabels⟩

/-- What comes of a batch: it is loaded as a whole, or the store stays as it
is. -/
inductive Imports (store : Store) (entries : List Series) :
    Except Fault Unit × Store → Prop where
  | loaded {after : Store} (hloads : store.Loads entries after)
      (hkeeps : after.KeepsNumbers entries) :
      Imports store entries (.ok (), after)
  | refused {fault : Fault} : Imports store entries (.error fault, store)

/-- A batch succeeds just if it can be loaded. -/
theorem Settled.importBatch_eq_ok_iff (hsettled : store.Settled) :
    (store.importBatch entries).1 = .ok () ↔ store.Loadable entries := by
  constructor
  · intro hok
    by_contra hrefused
    obtain ⟨fault, herror⟩ := hsettled.importBatch_of_not_loadable hrefused
    rw [herror] at hok
    cases hok
  · intro hloadable
    rw [hsettled.importBatch_of_loadable hloadable]

/-- A batch is imported as a whole or not at all. -/
theorem Settled.imports (hsettled : store.Settled) (entries : List Series) :
    store.Imports entries (store.importBatch entries) := by
  by_cases hloadable : store.Loadable entries
  · have hloads := hsettled.loads_importBatch hloadable
    have hkeeps :=
      (hsettled.importBatch entries).keepsNumbers fun entry hentry =>
      (hloads.series?_iff _ _).mpr (.inr ⟨hentry, rfl⟩)
    rw [hsettled.importBatch_of_loadable hloadable] at hloads hkeeps ⊢
    exact .loaded hloads hkeeps
  · obtain ⟨fault, herror⟩ := hsettled.importBatch_of_not_loadable hloadable
    rw [herror]
    exact .refused

end SeriesIndex.Store
