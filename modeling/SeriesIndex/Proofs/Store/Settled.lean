import Mathlib
import SeriesIndex.Proofs.Batch
import SeriesIndex.Proofs.Store.Loading

/-!
# Registrations and batches

A registration has four outcomes and a batch has two.  Each of them is stated
once as an equation, and `Registering` says that a registration comes to one of
the four.  From this it follows that registrations and batches, whether they
succeed or fail, lead from settled stores to settled stores.
-/

namespace SeriesIndex.Store

variable {store : Store}

/-! ## Outcomes -/

/-- The store in which the series of a batch are counted and their numbers are
given out, but none is enrolled. -/
def opened (store : Store) (entries : List Series) : Store :=
  { store with
    catalog := (store.catalog.raiseNext entries).raiseCount entries }

/-- The store in which a place and the next number are taken. -/
def reserved (store : Store) : Store :=
  { store with
    catalog :=
      { store.catalog with
        nextTsid := store.catalog.nextTsid + 1
        seriesCount := store.catalog.seriesCount + 1 } }

/-- A label set that is found has its interval widened. -/
theorem register_of_key {timestamp : Timestamp} {labels : LabelSet}
    {tsid : Tsid}
    (hkey : store.catalog.lookup? labels = some tsid)
    (hstored : (store.catalog.series? tsid).isSome) :
    store.register timestamp labels =
      (.ok ⟨tsid, false⟩,
        { store with catalog := store.catalog.widen tsid timestamp }) := by
  simp [register, hkey, extend, hstored]

/-- A new label set is refused if there is no room. -/
theorem register_of_full {timestamp : Timestamp} {labels : LabelSet}
    (hkey : store.catalog.lookup? labels = none)
    (hfull : store.catalog.hasRoom 1 = false) :
    store.register timestamp labels =
      (.error (.seriesLimit store.catalog.limit), store) := by
  simp [register, hkey, Catalog.reserve?, hfull]

/-- It is refused if there is no number left, and its place is given back. -/
theorem register_of_exhausted {timestamp : Timestamp} {labels : LabelSet}
    (hkey : store.catalog.lookup? labels = none)
    (hroom : store.catalog.hasRoom 1 = true)
    (hlast : store.catalog.nextTsid = Tsid.last) :
    store.register timestamp labels =
      (.error (.internal .tsidsExhausted), store) := by
  have hnone : Catalog.allocate?
      { store.catalog with seriesCount := store.catalog.seriesCount + 1 } =
        none := by
    simp [Catalog.allocate?, Tsid.next?, hlast]
  simp [register, hkey, Catalog.reserve?, hroom, hnone, Catalog.release]

/-- Otherwise it is enrolled under the next number. -/
theorem register_of_new {timestamp : Timestamp} {labels : LabelSet}
    (hkey : store.catalog.lookup? labels = none)
    (hroom : store.catalog.hasRoom 1 = true)
    (hlast : store.catalog.nextTsid ≠ Tsid.last) :
    store.register timestamp labels =
      (.ok ⟨store.catalog.nextTsid, true⟩,
        store.reserved.enroll
          ⟨store.catalog.nextTsid, labels, .single timestamp⟩) := by
  simp [register, hkey, Catalog.reserve?, hroom, Catalog.allocate?, Tsid.next?,
    hlast, reserved]

/-- What a registration comes to: its outcome, and the store after it. -/
inductive Registering (store : Store) (timestamp : Timestamp)
    (labels : LabelSet) : Except Fault Registration × Store → Prop where
  | known {tsid : Tsid} (hkey : store.catalog.lookup? labels = some tsid)
      (hstored : (store.catalog.series? tsid).isSome) :
      Registering store timestamp labels
        (.ok ⟨tsid, false⟩,
          { store with catalog := store.catalog.widen tsid timestamp })
  | full (hkey : store.catalog.lookup? labels = none)
      (hfull : store.catalog.hasRoom 1 = false) :
      Registering store timestamp labels
        (.error (.seriesLimit store.catalog.limit), store)
  | exhausted (hkey : store.catalog.lookup? labels = none)
      (hroom : store.catalog.hasRoom 1 = true)
      (hlast : store.catalog.nextTsid = Tsid.last) :
      Registering store timestamp labels
        (.error (.internal .tsidsExhausted), store)
  | new (hkey : store.catalog.lookup? labels = none)
      (hroom : store.catalog.hasRoom 1 = true)
      (hlast : store.catalog.nextTsid ≠ Tsid.last) :
      Registering store timestamp labels
        (.ok ⟨store.catalog.nextTsid, true⟩,
          store.reserved.enroll
            ⟨store.catalog.nextTsid, labels, .single timestamp⟩)

/-- A registration finds its label set, no room, no number, or enrolls a series.
-/
theorem Settled.registering (hsettled : store.Settled) (timestamp : Timestamp)
    (labels : LabelSet) :
    store.Registering timestamp labels (store.register timestamp labels) := by
  cases hkey : store.catalog.lookup? labels with
  | some tsid =>
      have hstored := hsettled.isSome_of_key hkey
      rw [register_of_key hkey hstored]
      exact .known hkey hstored
  | none =>
      cases hroom : store.catalog.hasRoom 1 with
      | false =>
          rw [register_of_full hkey hroom]
          exact .full hkey hroom
      | true =>
          by_cases hlast : store.catalog.nextTsid = Tsid.last
          · rw [register_of_exhausted hkey hroom hlast]
            exact .exhausted hkey hroom hlast
          · rw [register_of_new hkey hroom hlast]
            exact .new hkey hroom hlast

theorem importBatch_of_error {entries : List Series} {fault : Fault}
    (hcheck : store.catalog.checkBatch entries = .error fault) :
    store.importBatch entries = (.error fault, store) := by
  simp [importBatch, hcheck]

theorem importBatch_of_ok {entries : List Series}
    (hcheck : store.catalog.checkBatch entries = .ok ()) :
    store.importBatch entries =
      (.ok (), entries.foldl enroll (store.opened entries)) := by
  simp [importBatch, hcheck, opened]

/-! ## Settled stores stay settled -/

/-- Room for some series is what the limit leaves. -/
theorem hasRoom_iff {catalog : Catalog} {count : Nat} :
    catalog.hasRoom count = true ↔
      catalog.limit = 0 ∨ catalog.seriesCount + count ≤ catalog.limit := by
  simp [Catalog.hasRoom]

theorem Settled.reserved (hsettled : store.Settled) {labels : LabelSet}
    (timestamp : Timestamp)
    (hkey : store.catalog.lookup? labels = none)
    (hroom : store.catalog.hasRoom 1 = true)
    (hlast : store.catalog.nextTsid ≠ Tsid.last) :
    store.reserved.Loading
      [⟨store.catalog.nextTsid, labels, .single timestamp⟩] where
  toComplete := hsettled.toComplete.counters _
    (UInt64.le_of_lt (Tsid.lt_add_one hlast))
  count := by
    have hcount := hsettled.count
    simp only [List.length_nil, Nat.add_zero] at hcount
    simp [Store.reserved, hcount]
  within := hasRoom_iff.mp hroom
  admits := by
    constructor
    · exact List.forall_mem_singleton.mpr hsettled.next_ne
    · exact List.forall_mem_singleton.mpr (Int64.le_refl timestamp)
    · exact List.forall_mem_singleton.mpr hsettled.unstored_next
    · exact List.forall_mem_singleton.mpr (hsettled.free_of_not_key hkey)
    · exact List.pairwise_singleton _ _
  below := by
    simpa [Store.reserved] using Tsid.lt_add_one hlast
  top := by
    refine .inr ⟨store.catalog.nextTsid, .inr (by simp), ?_⟩
    exact (Tsid.toNat_add_one hlast).symm

theorem Settled.opened (hsettled : store.Settled) {entries : List Series}
    (hcheck : store.catalog.checkBatch entries = .ok ()) :
    (store.opened entries).Loading entries := by
  obtain ⟨hsound, hdistinct, hfree, hroom⟩ :=
    Catalog.checkBatch_eq_ok_iff.mp hcheck
  have hgreatest := Catalog.greatestTsid_ne_last hsound
  constructor
  case toComplete =>
    exact hsettled.toComplete.counters _ (Tsid.le_max_left _ _)
  case count =>
    have hcount := hsettled.count
    simp only [List.length_nil, Nat.add_zero] at hcount
    simp [Store.opened, Catalog.raiseCount, Catalog.raiseNext, hcount]
  case within => exact hasRoom_iff.mp hroom
  case admits =>
    constructor
    · exact fun entry hentry => (hsound entry hentry).tsid_ne
    · exact fun entry hentry => (hsound entry hentry).ordered
    · exact fun entry hentry => (hfree entry hentry).2
    · exact fun entry hentry =>
        hsettled.free_of_not_key (hfree entry hentry).1
    · exact hdistinct
  case below =>
    exact fun entry hentry =>
      store.catalog.tsid_lt_nextTsid_raiseNext hsound hentry
  case top =>
    have hnext : (store.opened entries).catalog.nextTsid.toNat =
        max store.catalog.nextTsid.toNat
          ((Catalog.greatestTsid entries).toNat + 1) := by
      rw [← Tsid.toNat_add_one hgreatest, ← Tsid.toNat_max]
      rfl
    rcases Nat.le_total ((Catalog.greatestTsid entries).toNat + 1)
        store.catalog.nextTsid.toNat with hle | hle
    · rw [max_eq_left hle] at hnext
      rw [UInt64.toNat_inj.mp hnext]
      apply hsettled.top.imp_right
      rintro ⟨tsid, htsid, htop⟩
      rw [List.map_nil, or_iff_left List.not_mem_nil] at htsid
      exact ⟨tsid, .inl htsid, htop⟩
    · rw [max_eq_right hle] at hnext
      rcases Catalog.greatestTsid_eq_or_mem entries with hnone | hmem
      · rw [hnone] at hnext
        exact .inl (UInt64.toNat_inj.mp hnext)
      · exact .inr ⟨_, .inr hmem, hnext.symm⟩

/-- A registration leaves the store settled, however it ends. -/
theorem Settled.register (hsettled : store.Settled) (timestamp : Timestamp)
    (labels : LabelSet) : (store.register timestamp labels).2.Settled := by
  have hcases := hsettled.registering timestamp labels
  generalize store.register timestamp labels = result at hcases ⊢
  cases hcases with
  | known _ _ =>
      exact hsettled.modifyActivity _ fun activity =>
        activity.within_widen timestamp
  | full _ _ => exact hsettled
  | exhausted _ _ _ => exact hsettled
  | new hkey hroom hlast =>
      exact (hsettled.reserved timestamp hkey hroom hlast).enroll

/-- So does a batch. -/
theorem Settled.importBatch (hsettled : store.Settled) (entries : List Series) :
    (store.importBatch entries).2.Settled := by
  cases hcheck : store.catalog.checkBatch entries with
  | error fault =>
      rw [importBatch_of_error hcheck]
      exact hsettled
  | ok value =>
      rw [importBatch_of_ok hcheck]
      exact (hsettled.opened hcheck).foldl_enroll

end SeriesIndex.Store
