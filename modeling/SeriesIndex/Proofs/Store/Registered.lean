import Mathlib
import SeriesIndex.Proofs.Store.Loaded

/-!
# What a registration does to a store

A registration finds its label set registered, or is refused for lack of room,
or for lack of numbers, or adds a series under the next number, in this order of
precedence.  `Registers` describes the four outcomes, each with its condition
and with the store after it, in terms of the published series.
-/

namespace SeriesIndex.Store

variable {store : Store} {timestamp : Timestamp} {labels : LabelSet}

/-- One store is another one in which the interval of a series is widened to a
timestamp, and nothing else is changed. -/
structure Widens (before : Store) (series : Series) (timestamp : Timestamp)
    (after : Store) : Prop where
  series?_eq : after.catalog.series? series.tsid =
    some { series with
      activity := ⟨min series.activity.earliest timestamp,
        max series.activity.latest timestamp⟩ }
  series?_of_ne : ∀ tsid, tsid ≠ series.tsid →
    after.catalog.series? tsid = before.catalog.series? tsid
  keys_eq : after.catalog.keys = before.catalog.keys
  published_eq : after.catalog.published = before.catalog.published
  nextTsid_eq : after.catalog.nextTsid = before.catalog.nextTsid
  seriesCount_eq : after.catalog.seriesCount = before.catalog.seriesCount
  limit_eq : after.catalog.limit = before.catalog.limit
  inverted_eq : after.inverted = before.inverted

/-- There is room for one more series. -/
def HasRoom (store : Store) : Prop :=
  store.catalog.limit = 0 ∨ store.catalog.seriesCount < store.catalog.limit

/-- What comes of a registration: its outcome, and the store after it. -/
inductive Registers (store : Store) (timestamp : Timestamp)
    (labels : LabelSet) : Except Fault Registration × Store → Prop where
  | known {series : Series} {after : Store}
      (hknown : series ∈ store.catalog.snapshot)
      (hlabels : series.labels = labels)
      (hwidens : store.Widens series timestamp after) :
      Registers store timestamp labels (.ok ⟨series.tsid, false⟩, after)
  | full (hunknown : labels ∉ store.registered) (hfull : ¬store.HasRoom) :
      Registers store timestamp labels
        (.error (.seriesLimit store.catalog.limit), store)
  | exhausted (hunknown : labels ∉ store.registered) (hroom : store.HasRoom)
      (hlast : store.catalog.nextTsid = Tsid.last) :
      Registers store timestamp labels
        (.error (.internal .tsidsExhausted), store)
  | new {after : Store} (hunknown : labels ∉ store.registered)
      (hroom : store.HasRoom) (hlast : store.catalog.nextTsid ≠ Tsid.last)
      (hloads : store.Loads
        [⟨store.catalog.nextTsid, labels, .single timestamp⟩] after) :
      Registers store timestamp labels
        (.ok ⟨store.catalog.nextTsid, true⟩, after)

theorem widens_widen {series : Series}
    (hseries : store.catalog.series? series.tsid = some series)
    (timestamp : Timestamp) :
    store.Widens series timestamp
      { store with catalog := store.catalog.widen series.tsid timestamp } where
  series?_eq := by
    rw [Catalog.widen, Catalog.series?_modifyActivity, if_pos rfl, hseries]
    rfl
  series?_of_ne tsid hne := by
    rw [Catalog.widen, Catalog.series?_modifyActivity, if_neg hne.symm]
  keys_eq := rfl
  published_eq := rfl
  nextTsid_eq := rfl
  seriesCount_eq := rfl
  limit_eq := rfl
  inverted_eq := rfl

/-- To enroll a label set that is not registered under the next number is to
load a batch of one series. -/
theorem Settled.loads_register (hsettled : store.Settled)
    (timestamp : Timestamp)
    (hkey : store.catalog.lookup? labels = none)
    (hroom : store.catalog.hasRoom 1 = true)
    (hlast : store.catalog.nextTsid ≠ Tsid.last) :
    store.Loads [⟨store.catalog.nextTsid, labels, .single timestamp⟩]
      (store.reserved.enroll
        ⟨store.catalog.nextTsid, labels, .single timestamp⟩) := by
  have hload := hsettled.reserved timestamp hkey hroom hlast
  apply hsettled.loads hload.enroll
  · intro tsid series
    exact hload.series?_foldl_enroll
  · rw [seriesCount_enroll]
    rfl
  · have hgreatest : greatest
        [⟨store.catalog.nextTsid, labels, .single timestamp⟩] =
          store.catalog.nextTsid.toNat := Nat.max_zero _
    rw [nextTsid_enroll, hgreatest, max_eq_right (Nat.le_succ _)]
    exact Tsid.toNat_add_one hlast
  · exact List.nodup_singleton _
  · exact List.forall_mem_singleton.mpr hsettled.unstored_next

theorem Settled.not_mem_registered_iff (hsettled : store.Settled) :
    labels ∉ store.registered ↔ store.catalog.lookup? labels = none := by
  rw [hsettled.mem_registered, Option.eq_none_iff_forall_ne_some,
    not_exists]

theorem hasRoom_one_iff : store.catalog.hasRoom 1 = true ↔ store.HasRoom :=
  hasRoom_iff

/-- A registration finds a known label set, no room, no number, or adds a
series. -/
theorem Settled.registers (hsettled : store.Settled) (timestamp : Timestamp)
    (labels : LabelSet) :
    store.Registers timestamp labels (store.register timestamp labels) := by
  have hcases := hsettled.registering timestamp labels
  generalize store.register timestamp labels = result at hcases ⊢
  cases hcases with
  | known hkey _ =>
      obtain ⟨series, hseries, hlabels⟩ := hsettled.lookup?_eq_some_iff.mp hkey
      obtain rfl := hsettled.tsid_eq _ series hseries
      exact .known (hsettled.mem_snapshot.mpr hseries) hlabels
        (widens_widen hseries timestamp)
  | full hkey hfull =>
      refine .full (hsettled.not_mem_registered_iff.mpr hkey) fun hroom => ?_
      rw [hasRoom_one_iff.mpr hroom] at hfull
      cases hfull
  | exhausted hkey hroom hlast =>
      exact .exhausted (hsettled.not_mem_registered_iff.mpr hkey)
        (hasRoom_one_iff.mp hroom) hlast
  | new hkey hroom hlast =>
      exact .new (hsettled.not_mem_registered_iff.mpr hkey)
        (hasRoom_one_iff.mp hroom) hlast
        (hsettled.loads_register timestamp hkey hroom hlast)

/-- Every series that is stored after a registration was stored before, up to
its interval, or has the label set that was registered. -/
theorem Registers.labels_of_series? {outcome : Except Fault Registration}
    {after : Store}
    (hregisters : store.Registers timestamp labels (outcome, after))
    {tsid : Tsid} {series : Series}
    (hseries : after.catalog.series? tsid = some series) :
    series.labels = labels ∨
      ∃ old, store.catalog.series? tsid = some old ∧
        old.labels = series.labels := by
  cases hregisters with
  | known hknown hlabels hwidens =>
      rename_i found
      by_cases hsame : tsid = found.tsid
      · rw [hsame, hwidens.series?_eq] at hseries
        cases hseries
        exact .inl hlabels
      · rw [hwidens.series?_of_ne tsid hsame] at hseries
        exact .inr ⟨series, hseries, rfl⟩
  | full _ _ => exact .inr ⟨series, hseries, rfl⟩
  | exhausted _ _ _ => exact .inr ⟨series, hseries, rfl⟩
  | new _ _ _ hloads =>
      rcases (hloads.series?_iff tsid series).mp hseries with hold | ⟨hnew, -⟩
      · exact .inr ⟨series, hold, rfl⟩
      · cases List.mem_singleton.mp hnew
        exact .inl rfl

end SeriesIndex.Store
