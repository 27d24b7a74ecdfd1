import Mathlib
import SeriesIndex.Proofs.Store.Settled

/-!
# Stores only grow

Nothing that was found in a store is lost by later writes, but intervals may
become wider.  `Grows` says so of two stores.  Registrations and batches make
stores grow, whether they succeed or not, and what they add is new: a number
that is given out belonged to no series before.
-/

namespace SeriesIndex.Store

variable {store : Store}

/-- Whatever the old store tells, the new one tells as well, up to wider
intervals. -/
structure Grows (old new : Store) : Prop where
  series : ∀ tsid series, old.catalog.series? tsid = some series →
    ∃ found, new.catalog.series? tsid = some found ∧
      found.labels = series.labels ∧ series.activity.Within found.activity
  published : ∀ tsid, tsid ∈ old.catalog.published →
    tsid ∈ new.catalog.published
  key : ∀ labels tsid, old.catalog.lookup? labels = some tsid →
    new.catalog.lookup? labels = some tsid
  holds : ∀ label tsid, old.inverted.Holds label tsid →
    new.inverted.Holds label tsid
  next : old.catalog.nextTsid ≤ new.catalog.nextTsid

@[refl]
theorem Grows.refl (store : Store) : store.Grows store where
  series _ series hseries := ⟨series, hseries, rfl, .refl _⟩
  published _ hpublished := hpublished
  key _ _ hkey := hkey
  holds _ _ hheld := hheld
  next := UInt64.le_refl _

theorem Grows.trans {old middle new : Store} (hfirst : old.Grows middle)
    (hsecond : middle.Grows new) : old.Grows new where
  series tsid series hseries := by
    obtain ⟨found, hfound, hlabels, hwithin⟩ :=
      hfirst.series tsid series hseries
    obtain ⟨last, hlast, hlastLabels, hlastWithin⟩ :=
      hsecond.series tsid found hfound
    exact ⟨last, hlast, hlastLabels.trans hlabels, hwithin.trans hlastWithin⟩
  published tsid hpublished :=
    hsecond.published tsid (hfirst.published tsid hpublished)
  key labels tsid hkey := hsecond.key labels tsid (hfirst.key labels tsid hkey)
  holds label tsid hheld :=
    hsecond.holds label tsid (hfirst.holds label tsid hheld)
  next := UInt64.le_trans hfirst.next hsecond.next

/-! ## Single writes -/

theorem grows_counters {next : Tsid} {count : Nat}
    (hnext : store.catalog.nextTsid ≤ next) :
    store.Grows
      { store with
        catalog :=
          { store.catalog with nextTsid := next, seriesCount := count } } where
  series _ series hseries := ⟨series, hseries, rfl, .refl _⟩
  published _ hpublished := hpublished
  key _ _ hkey := hkey
  holds _ _ hheld := hheld
  next := hnext

/-- To widen an interval is to grow. -/
theorem grows_modifyActivity (tsid : Tsid) {change : Activity → Activity}
    (hwiden : ∀ activity : Activity, activity.Within (change activity)) :
    store.Grows
      { store with
        catalog := store.catalog.modifyActivity tsid change } where
  series _ series hseries := by
    obtain ⟨found, hfound, hlabels, hactivity⟩ :=
      Catalog.exists_series?_modifyActivity change hseries
    refine ⟨found, hfound, hlabels, ?_⟩
    rcases hactivity with hsame | hchanged
    · rw [hsame]
    · rw [hchanged]
      exact hwiden _
  published _ hpublished := hpublished
  key _ _ hkey := hkey
  holds _ _ hheld := hheld
  next := UInt64.le_refl _

theorem grows_store {series : Series}
    (hnew : store.catalog.series? series.tsid = none) :
    store.Grows { store with catalog := store.catalog.store series } where
  series _ found hfound :=
    ⟨found, Catalog.series?_store_of_some hnew hfound, rfl, .refl _⟩
  published _ hpublished := hpublished
  key _ _ hkey := hkey
  holds _ _ hheld := hheld
  next := UInt64.le_refl _

theorem grows_insertLabels (tsid : Tsid) (labels : List Label) :
    store.Grows
      { store with
        inverted := labels.foldl (fun inverted label =>
          inverted.insertLabel tsid label) store.inverted } where
  series _ series hseries := ⟨series, hseries, rfl, .refl _⟩
  published _ hpublished := hpublished
  key _ _ hkey := hkey
  holds _ _ hheld := InvertedIndex.holds_foldl_insertLabel.mpr (.inr hheld)
  next := UInt64.le_refl _

theorem grows_publish (tsid : Tsid) :
    store.Grows { store with catalog := store.catalog.publish tsid } where
  series _ series hseries := ⟨series, hseries, rfl, .refl _⟩
  published _ hpublished :=
    (Catalog.mem_published_publish _ _ _).mpr (.inr hpublished)
  key _ _ hkey := hkey
  holds _ _ hheld := hheld
  next := UInt64.le_refl _

/-- A new key takes none away, unless its label set had another number. -/
theorem grows_addKey {labels : LabelSet} {tsid : Tsid}
    (hown : ∀ other, store.catalog.lookup? labels = some other →
      other = tsid) :
    store.Grows
      { store with catalog := store.catalog.addKey labels tsid } where
  series _ series hseries := by
    refine ⟨series, ?_, rfl, .refl _⟩
    rw [Catalog.series?_addKey]
    exact hseries
  published _ hpublished := by
    rw [Catalog.published_addKey]
    exact hpublished
  key other otherTsid hkey := by
    rw [Catalog.lookup?_addKey]
    split
    · rename_i hsame
      subst hsame
      rw [hown otherTsid hkey]
    · exact hkey
  holds _ _ hheld := hheld
  next := by
    rw [Catalog.nextTsid_addKey]
    exact UInt64.le_refl _

/-! ## Registrations and batches -/

/-- To enroll a series is to grow, write by write. -/
theorem Loading.grows_enroll {series : Series} {rest : List Series}
    (hload : store.Loading (series :: rest)) :
    store.Grows (store.enroll series) := by
  have hstored :=
    grows_store (hload.admits.unstored series List.mem_cons_self)
  have hlisted := hstored.trans
    (grows_insertLabels series.tsid series.labels.labels)
  have hpublished := hlisted.trans (grows_publish series.tsid)
  refine hpublished.trans (grows_addKey fun other hkey => ?_)
  obtain ⟨found, hfound, hlabels⟩ := hload.key_labels series.labels other hkey
  exact absurd hlabels
    (hload.admits.free series List.mem_cons_self other found hfound)

theorem Loading.grows_foldl_enroll {entries : List Series}
    (hload : store.Loading entries) :
    store.Grows (entries.foldl Store.enroll store) := by
  induction entries generalizing store with
  | nil => exact .refl store
  | cons series rest ih =>
      rw [List.foldl_cons]
      exact hload.grows_enroll.trans (ih hload.enroll)

/-- Registrations only add to what is to be seen. -/
theorem Settled.grows_register (hsettled : store.Settled)
    (timestamp : Timestamp) (labels : LabelSet) :
    store.Grows (store.register timestamp labels).2 := by
  have hcases := hsettled.registering timestamp labels
  generalize store.register timestamp labels = result at hcases ⊢
  cases hcases with
  | known _ _ =>
      exact grows_modifyActivity _ fun activity =>
        activity.within_widen timestamp
  | full _ _ => exact .refl store
  | exhausted _ _ _ => exact .refl store
  | new hkey hroom hlast =>
      have hreserved : store.Grows store.reserved :=
        grows_counters (UInt64.le_of_lt (Tsid.lt_add_one hlast))
      exact hreserved.trans
        (hsettled.reserved timestamp hkey hroom hlast).grows_enroll

/-- So do batches. -/
theorem Settled.grows_importBatch (hsettled : store.Settled)
    (entries : List Series) :
    store.Grows (store.importBatch entries).2 := by
  cases hcheck : store.catalog.checkBatch entries with
  | error fault => rw [importBatch_of_error hcheck]
  | ok value =>
      rw [importBatch_of_ok hcheck]
      have hopened : store.Grows (store.opened entries) :=
        grows_counters (Tsid.le_max_left _ _)
      exact hopened.trans (hsettled.opened hcheck).grows_foldl_enroll

/-- A registration answers with the number of the label set.  The number is
said to be new if and only if no series had it before. -/
theorem Settled.register_eq_ok (hsettled : store.Settled)
    {timestamp : Timestamp} {labels : LabelSet} {registration : Registration}
    (hok : (store.register timestamp labels).1 = .ok registration) :
    (store.register timestamp labels).2.catalog.lookup? labels =
        some registration.tsid ∧
      (registration.isNew = true ↔
        store.catalog.series? registration.tsid = none) := by
  have hcases := hsettled.registering timestamp labels
  generalize store.register timestamp labels = result at hcases hok ⊢
  cases hcases with
  | known hkey hstored =>
      cases hok
      refine ⟨hkey, iff_of_false Bool.false_ne_true ?_⟩
      exact Option.isSome_iff_ne_none.mp hstored
  | full _ _ => cases hok
  | exhausted _ _ _ => cases hok
  | new _ _ _ =>
      cases hok
      refine ⟨?_, iff_of_true rfl hsettled.unstored_next⟩
      rw [lookup?_enroll, if_pos rfl]

end SeriesIndex.Store
