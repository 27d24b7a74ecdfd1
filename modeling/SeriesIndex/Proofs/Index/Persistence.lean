import Mathlib
import SeriesIndex.Proofs.Index.Sessions

/-!
# Snapshots are faithful

Whatever an index was asked for, its snapshot is accepted under its settings,
and the index built from it has the same store.  Only the counters start anew,
so that no session tells the two apart by anything but its statistics, and there
by a constant.  Conversely, the snapshot of an index that was built from entries
lists just these, in order of their numbers.
-/

namespace SeriesIndex

namespace Store

variable {store : Store} {entries : List Series}

theorem Settled.length_snapshot (hsettled : store.Settled) :
    store.catalog.snapshot.length = store.catalog.seriesCount := by
  rw [← List.length_map (f := Series.tsid), hsettled.map_tsid_snapshot,
    Std.ExtTreeSet.length_toList, hsettled.size_published]
  exact hsettled.count.symm

/-- A snapshot lists its series in ascending order of their numbers. -/
theorem Settled.snapshot_ascending (hsettled : store.Settled) :
    store.catalog.snapshot.Pairwise fun a b => a.tsid ≤ b.tsid := by
  rw [← List.pairwise_map (f := Series.tsid) (R := (· ≤ ·)),
    hsettled.map_tsid_snapshot]
  exact (Postings.toList_ascending _).imp UInt64.le_of_lt

/-- A snapshot can be loaded into an empty store with the same limit. -/
theorem Settled.loadable_snapshot (hsettled : store.Settled)
    (keyStripes nameStripes : Nat) :
    (Store.empty keyStripes nameStripes store.catalog.limit).Loadable
      store.catalog.snapshot := by
  have hseries {series : Series} (hmem : series ∈ store.catalog.snapshot) :
      store.catalog.series? series.tsid = some series :=
    hsettled.mem_snapshot.mp hmem
  have hempty := settled_empty keyStripes nameStripes store.catalog.limit
  constructor
  case tsid_ne =>
    intro series hmem
    have hlt := hsettled.tsid_lt _ series (hseries hmem)
    exact ⟨hsettled.tsid_ne _ series (hseries hmem), Tsid.ne_last_of_lt hlt⟩
  case ordered =>
    exact fun series hmem => hsettled.ordered _ series (hseries hmem)
  case nodup_tsids =>
    rw [hsettled.map_tsid_snapshot]
    exact Postings.nodup_toList _
  case tsid_free =>
    intro series _ hmem
    obtain ⟨found, hfound⟩ := hempty.mem_map_tsid_snapshot.mp hmem
    cases (Catalog.series?_empty _ _ _).symm.trans hfound
  case nodup_labels => exact hsettled.nodup_registered
  case labels_free =>
    intro series _ hmem
    obtain ⟨tsid, hkey⟩ := hempty.mem_registered.mp hmem
    cases (Catalog.lookup?_empty _ _ _).symm.trans hkey
  case room =>
    apply hsettled.within.imp_right
    intro hwithin
    rw [hsettled.length_snapshot]
    exact (Nat.zero_add _).trans_le hwithin

/-- The store that is loaded from a snapshot is the store that it was taken
from. -/
theorem Settled.importBatch_snapshot (hsettled : store.Settled)
    (keyStripes nameStripes : Nat)
    (hframe : store.frame =
      (Store.empty keyStripes nameStripes store.catalog.limit).frame) :
    ((Store.empty keyStripes nameStripes store.catalog.limit).importBatch
      store.catalog.snapshot).2 = store := by
  have hempty := settled_empty keyStripes nameStripes store.catalog.limit
  have hloads := hempty.loads_importBatch
    (hsettled.loadable_snapshot keyStripes nameStripes)
  apply (hempty.importBatch _).eq_of_series? hsettled
  · exact (frame_importBatch _ _).trans hframe.symm
  · intro tsid
    apply Option.ext
    intro series
    rw [hloads.series?_iff, hsettled.mem_snapshot]
    constructor
    · rintro (hold | ⟨hseries, rfl⟩)
      · cases (Catalog.series?_empty _ _ _).symm.trans hold
      · exact hseries
    · intro hseries
      obtain rfl := hsettled.tsid_eq tsid series hseries
      exact .inr ⟨hseries, rfl⟩

theorem pairwise_mergeSort_tsid (entries : List Series) :
    (entries.mergeSort fun a b => a.tsid ≤ b.tsid).Pairwise
      fun a b => a.tsid ≤ b.tsid := by
  have htrans (a b c : Series) (hab : decide (a.tsid ≤ b.tsid) = true)
      (hbc : decide (b.tsid ≤ c.tsid) = true) :
      decide (a.tsid ≤ c.tsid) = true :=
    decide_eq_true
      (UInt64.le_trans (of_decide_eq_true hab) (of_decide_eq_true hbc))
  have htotal (a b : Series) :
      (decide (a.tsid ≤ b.tsid) || decide (b.tsid ≤ a.tsid)) = true := by
    rw [Bool.or_eq_true, decide_eq_true_eq, decide_eq_true_eq]
    exact UInt64.le_total a.tsid b.tsid
  exact (List.pairwise_mergeSort htrans htotal entries).imp of_decide_eq_true

/-- What is loaded into an empty store is listed by its snapshot in order. -/
theorem snapshot_importBatch_empty {keyStripes nameStripes limit : Nat}
    (hloadable : (Store.empty keyStripes nameStripes limit).Loadable entries) :
    ((Store.empty keyStripes nameStripes limit).importBatch
      entries).2.catalog.snapshot =
        entries.mergeSort fun a b => a.tsid ≤ b.tsid := by
  have hempty := settled_empty keyStripes nameStripes limit
  have hafter := hempty.importBatch entries
  have hperm := (hempty.loads_importBatch hloadable).snapshot_perm
  have hnone : (Store.empty keyStripes nameStripes limit).catalog.snapshot =
      [] := by
    rw [← List.length_eq_zero_iff, hempty.length_snapshot]
    rfl
  rw [hnone, List.nil_append] at hperm
  apply List.Perm.eq_of_pairwise _ hafter.snapshot_ascending
    (pairwise_mergeSort_tsid entries)
    (hperm.trans (List.mergeSort_perm entries _).symm)
  intro a b ha hb hle hge
  have hmem : b ∈ entries := (List.mergeSort_perm entries _).mem_iff.mp hb
  exact List.inj_on_of_nodup_map hloadable.nodup_tsids (hperm.mem_iff.mp ha)
    hmem (UInt64.le_antisymm hle hge)

end Store

namespace Index

variable {index : Index}

/-- An index is restored from its own snapshot, but for its counters. -/
theorem Regular.restore_snapshot (hregular : index.Regular) :
    restore index.settings index.snapshot =
      .ok { index with counters := {} } := by
  have hframe := hregular.frame_eq
  have hloadable := hregular.settled.loadable_snapshot
    index.settings.keyStripes index.settings.nameStripes
  have hloaded := hregular.settled.importBatch_snapshot
    index.settings.keyStripes index.settings.nameStripes
  rw [hregular.limit_eq] at hloadable hloaded
  refine restore_eq_ok_iff.mpr ⟨hregular.valid, ?_, hloadable, ?_⟩
  · intro series hseries
    exact hregular.allowed _ series (hregular.settled.mem_snapshot.mp hseries)
  · have hstore : ((empty index.settings).store.importBatch index.snapshot).2 =
        index.store := hloaded hframe
    rw [hstore]
    rfl

/-- From the snapshot of an index, an index is built that no session tells apart
from it: every answer is the same, up to counters that lag behind by a constant,
and so is the store after every session, with all that is counted in it.  An
index that is built from entries has these in order as its snapshot. -/
theorem restore_snapshot_faithful :
    (∀ index : Index, index.Reachable →
      ∃ restored,
        restore index.settings index.snapshot = .ok restored ∧
        ∀ requests,
          index.answers requests =
            (restored.answers requests).map
              (fun answer => answer.ahead index.counters) ∧
          (index.after requests).settings =
            (restored.after requests).settings ∧
          (index.after requests).store = (restored.after requests).store ∧
          (index.after requests).counters =
            index.counters + (restored.after requests).counters) ∧
    ∀ settings entries index, restore settings entries = .ok index →
      index.snapshot = entries.mergeSort fun a b => a.tsid ≤ b.tsid := by
  constructor
  · intro index hreach
    refine ⟨_, hreach.regular.restore_snapshot, fun requests => ?_⟩
    have hahead :
        ahead { index with counters := {} } index.counters = index := rfl
    have hanswers := answers_ahead { index with counters := {} }
      index.counters requests
    have hafter := after_ahead { index with counters := {} }
      index.counters requests
    rw [hahead] at hanswers hafter
    exact ⟨hanswers, (congrArg Index.settings hafter).trans rfl,
      (congrArg Index.store hafter).trans rfl,
      (congrArg Index.counters hafter).trans rfl⟩
  · intro settings entries index hbuild
    obtain ⟨-, -, hloadable, rfl⟩ := restore_eq_ok_iff.mp hbuild
    exact Store.snapshot_importBatch_empty hloadable

/-- The full index is asked for an answer, to add a series that it has no room
for, to widen an interval, and for its figures. -/
theorem restore_snapshot_faithful_crowded :
    let requests : List Request :=
      [.resolve apiOutsideDev 7 9, .call (.register 30 (deployment "dev" "db")),
        .call (.registerPairs 1 [("job", "web")]), .activity 3,
        .resolveWithLabels [] 0 2, .labelValues "env", .snapshot, .stats]
    crowded.Reachable ∧
      ∃ restored,
        restore crowded.settings crowded.snapshot = .ok restored ∧
        crowded.answers requests =
          (restored.answers requests).map
            (fun answer => answer.ahead crowded.counters) ∧
        (crowded.after requests).store = (restored.after requests).store ∧
        restored.snapshot =
          crowded.snapshot.mergeSort fun a b => a.tsid ≤ b.tsid := by
  intro requests
  obtain ⟨restored, hrestored, hsessions⟩ :=
    restore_snapshot_faithful.1 crowded reachable_crowded
  obtain ⟨hanswers, -, hstore, -⟩ := hsessions requests
  exact ⟨reachable_crowded, restored, hrestored, hanswers, hstore,
    restore_snapshot_faithful.2 _ _ _ hrestored⟩

end Index

end SeriesIndex
