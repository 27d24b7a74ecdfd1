import Mathlib
import SeriesIndex.Proofs.Store.Canonical
import SeriesIndex.Proofs.Store.Loaded

/-!
# Batches in parts and in any order

Repeats within a batch are looked for in the batch, and repeats of registered
series in the store; room and the next number are settled once for a whole
batch.  To load a batch in two parts, or in another order, is to find the same
repeats by other checks.  These agree because all of them together ask for one
thing: the registered series and the entries, in one list, repeat no number and
no label set.  Which series are stored then depends on neither the parts nor the
order, and a settled store is determined by its stored series.
-/

namespace SeriesIndex.Store

variable {store : Store} {entries others first second : List Series}

/-! ## One list of series -/

/-- No two of the series share a number or a label set. -/
structure Unrepeated (list : List Series) : Prop where
  tsids : (list.map Series.tsid).Nodup
  labels : (list.map Series.labels).Nodup

/-- Whether entries repeat a label set or a number does not depend on their
order. -/
theorem unrepeated_iff_of_perm (hperm : entries.Perm others) :
    Unrepeated entries ↔ Unrepeated others := by
  constructor
  · rintro ⟨htsids, hlabels⟩
    exact ⟨(hperm.map _).nodup_iff.mp htsids,
      (hperm.map _).nodup_iff.mp hlabels⟩
  · rintro ⟨htsids, hlabels⟩
    exact ⟨(hperm.map _).nodup_iff.mpr htsids,
      (hperm.map _).nodup_iff.mpr hlabels⟩

theorem Unrepeated.of_append (hlist : Unrepeated (first ++ second)) :
    Unrepeated first where
  tsids := hlist.tsids.sublist ((List.sublist_append_left _ _).map _)
  labels := hlist.labels.sublist ((List.sublist_append_left _ _).map _)

theorem nodup_map_append_iff {α β : Type} {key : α → β} {base list : List α} :
    ((base ++ list).map key).Nodup ↔
      (base.map key).Nodup ∧ (list.map key).Nodup ∧
        ∀ element ∈ list, key element ∉ base.map key := by
  rw [List.map_append, List.nodup_append_comm, List.nodup_append',
    and_left_comm, List.disjoint_left, List.forall_mem_map]

/-- A batch can be loaded if it repeats nothing together with the registered
series, wherever the repeat would be found. -/
theorem Settled.loadable_iff (hsettled : store.Settled) :
    store.Loadable entries ↔
      (∀ entry ∈ entries, entry.Sound) ∧
        Unrepeated (store.catalog.snapshot ++ entries) ∧
        store.catalog.hasRoom entries.length = true := by
  have htsids : (store.catalog.snapshot.map Series.tsid).Nodup := by
    rw [hsettled.map_tsid_snapshot]
    exact Postings.nodup_toList _
  have hlabels : (store.catalog.snapshot.map Series.labels).Nodup :=
    hsettled.nodup_registered
  constructor
  · intro hloadable
    refine ⟨fun entry hentry => ?_, ⟨?_, ?_⟩, hasRoom_iff.mpr hloadable.room⟩
    · obtain ⟨hne, hneLast⟩ := hloadable.tsid_ne entry hentry
      exact ⟨hne, hneLast, hloadable.ordered entry hentry⟩
    · exact nodup_map_append_iff.mpr
        ⟨htsids, hloadable.nodup_tsids, hloadable.tsid_free⟩
    · exact nodup_map_append_iff.mpr
        ⟨hlabels, hloadable.nodup_labels, hloadable.labels_free⟩
  · rintro ⟨hsound, hlist, hroom⟩
    obtain ⟨-, hnodupTsids, htsidFree⟩ := nodup_map_append_iff.mp hlist.tsids
    obtain ⟨-, hnodupLabels, hlabelsFree⟩ :=
      nodup_map_append_iff.mp hlist.labels
    constructor
    case tsid_ne =>
      exact fun entry hentry =>
        ⟨(hsound entry hentry).tsid_ne, (hsound entry hentry).tsid_ne_last⟩
    case ordered => exact fun entry hentry => (hsound entry hentry).ordered
    case nodup_tsids => exact hnodupTsids
    case tsid_free => exact htsidFree
    case nodup_labels => exact hnodupLabels
    case labels_free => exact hlabelsFree
    case room => exact hasRoom_iff.mp hroom

/-- Whether entries can be loaded does not depend on their order. -/
theorem Settled.loadable_iff_of_perm (hsettled : store.Settled)
    (hperm : entries.Perm others) :
    store.Loadable entries ↔ store.Loadable others := by
  rw [hsettled.loadable_iff, hsettled.loadable_iff,
    unrepeated_iff_of_perm (hperm.append_left _), hperm.length_eq]
  simp only [hperm.mem_iff]

/-- A batch can be loaded if its first part can be, and then its second part. -/
theorem Settled.loadable_append_iff (hsettled : store.Settled) :
    store.Loadable (first ++ second) ↔
      store.Loadable first ∧
        (store.importBatch first).2.Loadable second := by
  have hmiddle := hsettled.importBatch first
  have hlimit : (store.importBatch first).2.catalog.limit =
      store.catalog.limit :=
    congrArg Frame.limit (frame_importBatch store first)
  -- Once the first part is loaded, the one list of series is the same.
  have hparts (hfirst : store.Loadable first) :
      Unrepeated
          ((store.importBatch first).2.catalog.snapshot ++ second) ↔
        Unrepeated (store.catalog.snapshot ++ (first ++ second)) := by
    rw [← List.append_assoc]
    apply unrepeated_iff_of_perm
    exact (hsettled.loads_importBatch hfirst).snapshot_perm.append_right second
  constructor
  · intro hboth
    obtain ⟨hsound, hlist, hroom⟩ := hsettled.loadable_iff.mp hboth
    rw [List.forall_mem_append] at hsound
    rw [hasRoom_iff, List.length_append] at hroom
    have hfirst : store.Loadable first := by
      refine hsettled.loadable_iff.mpr ⟨hsound.1, ?_, hasRoom_iff.mpr ?_⟩
      · rw [← List.append_assoc] at hlist
        exact hlist.of_append
      · omega
    have hcount := (hsettled.loads_importBatch hfirst).seriesCount_eq
    refine ⟨hfirst, hmiddle.loadable_iff.mpr ⟨hsound.2, ?_, ?_⟩⟩
    · exact (hparts hfirst).mpr hlist
    · rw [hasRoom_iff, hlimit, hcount]
      omega
  · rintro ⟨hfirst, hsecond⟩
    have hcount := (hsettled.loads_importBatch hfirst).seriesCount_eq
    obtain ⟨hsound, -, -⟩ := hsettled.loadable_iff.mp hfirst
    obtain ⟨hsoundSecond, hlist, hroom⟩ := hmiddle.loadable_iff.mp hsecond
    rw [hasRoom_iff, hlimit, hcount] at hroom
    refine hsettled.loadable_iff.mpr ⟨?_, (hparts hfirst).mp hlist, ?_⟩
    · exact List.forall_mem_append.mpr ⟨hsound, hsoundSecond⟩
    · rw [hasRoom_iff, List.length_append]
      omega

/-! ## The store afterwards -/

/-- Where the stored series are the same after two batches, so is all else. -/
theorem Settled.eq_of_loads {left right : Store} (hleft : left.Settled)
    (hright : right.Settled) (hframe : left.frame = right.frame)
    (hsame : ∀ tsid series, left.catalog.series? tsid = some series ↔
      right.catalog.series? tsid = some series) : left = right :=
  hleft.eq_of_series? hright hframe fun tsid => Option.ext (hsame tsid)

/-- A batch leads to the same store in any order. -/
theorem Settled.importBatch_eq_of_perm (hsettled : store.Settled)
    (hperm : entries.Perm others) :
    (store.importBatch entries).2 = (store.importBatch others).2 := by
  by_cases hloadable : store.Loadable entries
  · have hothers := (hsettled.loadable_iff_of_perm hperm).mp hloadable
    have hloads := hsettled.loads_importBatch hloadable
    have hloadsOthers := hsettled.loads_importBatch hothers
    apply (hsettled.importBatch entries).eq_of_loads
      (hsettled.importBatch others)
    · rw [frame_importBatch, frame_importBatch]
    · intro tsid series
      rw [hloads.series?_iff, hloadsOthers.series?_iff, hperm.mem_iff]
  · have hothers := mt (hsettled.loadable_iff_of_perm hperm).mpr hloadable
    obtain ⟨fault, hfault⟩ := hsettled.importBatch_of_not_loadable hloadable
    obtain ⟨other, hother⟩ := hsettled.importBatch_of_not_loadable hothers
    rw [hfault, hother]

/-- A batch leads to the store that its parts lead to, one after the other. -/
theorem Settled.importBatch_append_of_loadable (hsettled : store.Settled)
    (hboth : store.Loadable (first ++ second)) :
    (store.importBatch (first ++ second)).2 =
      ((store.importBatch first).2.importBatch second).2 := by
  obtain ⟨hfirst, hsecond⟩ := hsettled.loadable_append_iff.mp hboth
  have hmiddle := hsettled.importBatch first
  have hloads := hsettled.loads_importBatch hboth
  have hloadsFirst := hsettled.loads_importBatch hfirst
  have hloadsSecond := hmiddle.loads_importBatch hsecond
  apply (hsettled.importBatch _).eq_of_loads (hmiddle.importBatch second)
  · rw [frame_importBatch, frame_importBatch, frame_importBatch]
  · intro tsid series
    rw [hloads.series?_iff, hloadsSecond.series?_iff, hloadsFirst.series?_iff,
      List.mem_append, or_and_right, or_assoc]

/-- A batch is loaded in one go exactly if it is loaded in two, and with the
same result. -/
theorem Settled.importBatch_append_iff (hsettled : store.Settled)
    (first second : List Series) (after : Store) :
    store.importBatch (first ++ second) = (.ok (), after) ↔
      ∃ middle, store.importBatch first = (.ok (), middle) ∧
        middle.importBatch second = (.ok (), after) := by
  have hmiddle := hsettled.importBatch first
  constructor
  · intro hload
    have hboth : store.Loadable (first ++ second) :=
      hsettled.importBatch_eq_ok_iff.mp (congrArg Prod.fst hload)
    obtain ⟨hfirst, hsecond⟩ := hsettled.loadable_append_iff.mp hboth
    have hresult := hsettled.importBatch_append_of_loadable hboth
    rw [hload] at hresult
    exact ⟨_, Prod.ext (hsettled.importBatch_eq_ok_iff.mpr hfirst) rfl,
      Prod.ext (hmiddle.importBatch_eq_ok_iff.mpr hsecond) hresult.symm⟩
  · rintro ⟨middle, hfirst, hsecond⟩
    have hloadable : store.Loadable first :=
      hsettled.importBatch_eq_ok_iff.mp (congrArg Prod.fst hfirst)
    rw [hfirst] at hmiddle
    have hrest : middle.Loadable second :=
      hmiddle.importBatch_eq_ok_iff.mp (congrArg Prod.fst hsecond)
    have hboth : store.Loadable (first ++ second) := by
      refine hsettled.loadable_append_iff.mpr ⟨hloadable, ?_⟩
      rw [hfirst]
      exact hrest
    have hresult := hsettled.importBatch_append_of_loadable hboth
    rw [hfirst, hsecond] at hresult
    exact Prod.ext (hsettled.importBatch_eq_ok_iff.mpr hboth) hresult

/-- After any registrations and batches, a batch is loaded exactly if any
beginning of it is loaded and then the rest, into the same store; and neither
whether it is loaded nor the store afterwards depends on the order of its
entries. -/
theorem importBatch_parts_orders (keyStripes nameStripes limit : Nat)
    (calls : List Call) :
    let store := (Store.empty keyStripes nameStripes limit).performAll calls
    (∀ first second after,
      store.importBatch (first ++ second) = (.ok (), after) ↔
        ∃ middle, store.importBatch first = (.ok (), middle) ∧
          middle.importBatch second = (.ok (), after)) ∧
    ∀ entries others, entries.Perm others →
      ((store.importBatch entries).1 = .ok () ↔
        (store.importBatch others).1 = .ok ()) ∧
      (store.importBatch entries).2 = (store.importBatch others).2 := by
  intro store
  have hsettled : store.Settled :=
    (settled_empty keyStripes nameStripes limit).performAll calls
  refine ⟨hsettled.importBatch_append_iff, fun entries others hperm => ?_⟩
  rw [hsettled.importBatch_eq_ok_iff, hsettled.importBatch_eq_ok_iff]
  exact ⟨hsettled.loadable_iff_of_perm hperm,
    hsettled.importBatch_eq_of_perm hperm⟩

/-- Two entries beyond one series that was registered. -/
def arrivals : List Series :=
  [⟨7, ⟨[⟨"a", "1"⟩], by decide, by decide⟩, ⟨0, 5⟩⟩,
    ⟨3, ⟨[⟨"a", "2"⟩], by decide, by decide⟩, ⟨1, 1⟩⟩]

theorem importBatch_parts_orders_arrivals :
    let store := (Store.empty 4 4 3).performAll [.register 100 .empty]
    arrivals.Perm arrivals.reverse ∧
      (store.importBatch arrivals).1 = .ok () ∧
      (store.importBatch arrivals.reverse).1 = .ok () ∧
      (store.importBatch arrivals).2 =
        (store.importBatch arrivals.reverse).2 := by
  intro store
  have hperm : arrivals.Perm arrivals.reverse := (List.reverse_perm _).symm
  have hloaded : (store.importBatch arrivals).1 = .ok () := by
    decide +kernel
  obtain ⟨hiff, hsame⟩ :=
    (importBatch_parts_orders 4 4 3 [.register 100 .empty]).2 _ _ hperm
  exact ⟨hperm, hloaded, hiff.mp hloaded, hsame⟩

end SeriesIndex.Store
