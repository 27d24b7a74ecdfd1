import Mathlib
import SeriesIndex.Proofs.Order

/-!
# Checks of a batch

A batch passes its checks exactly if every entry is sound by itself, no two
entries share a number or a label set, no number and no label set is taken, and
there is room for all of them.
-/

namespace SeriesIndex

/-- An entry that is not wrong by itself. -/
structure Series.Sound (entry : Series) : Prop where
  tsid_ne : entry.tsid ≠ Tsid.reserved
  tsid_ne_last : entry.tsid ≠ Tsid.last
  ordered : entry.activity.Ordered

namespace Catalog

theorem checkEntry_eq_ok_iff {entry : Series} :
    checkEntry entry = .ok () ↔ entry.Sound := by
  rw [checkEntry]
  constructor
  · intro hok
    split at hok
    · cases hok
    · rename_i hne
      split at hok
      · cases hok
      · rename_i hneLast
        split at hok
        · cases hok
        · rename_i hordered
          exact ⟨hne, hneLast, Int64.not_lt.mp hordered⟩
  · intro hsound
    rw [if_neg hsound.tsid_ne, if_neg hsound.tsid_ne_last,
      if_neg (Int64.not_lt.mpr hsound.ordered)]

theorem checkEntries_cons_eq_ok_iff {tsids : Postings}
    {keys : Std.ExtTreeMap LabelSet Tsid} {entry : Series}
    {rest : List Series} :
    checkEntries tsids keys (entry :: rest) = .ok () ↔
      entry.Sound ∧ entry.tsid ∉ tsids ∧ entry.labels ∉ keys ∧
        checkEntries (tsids.insert entry.tsid)
          (keys.insert entry.labels entry.tsid) rest = .ok () := by
  rw [checkEntries, ← checkEntry_eq_ok_iff]
  cases hcheck : checkEntry entry with
  | error fault => simp [bind, Except.bind]
  | ok value =>
      by_cases htsid : entry.tsid ∈ tsids
      · simp [bind, Except.bind, htsid, throw, throwThe, MonadExceptOf.throw]
      · cases hkey : keys[entry.labels]? with
        | none =>
            have hmem : entry.labels ∉ keys := by
              simp [Std.ExtTreeMap.mem_iff_isSome_getElem?, hkey]
            simp [bind, Except.bind, htsid, hmem]
        | some other =>
            have hmem : entry.labels ∈ keys := by
              simp [Std.ExtTreeMap.mem_iff_isSome_getElem?, hkey]
            simp [bind, Except.bind, htsid, hmem, throw, throwThe,
              MonadExceptOf.throw]

/-- Entries pass if each is sound and no two share a number or a label set. -/
theorem checkEntries_eq_ok_iff {tsids : Postings}
    {keys : Std.ExtTreeMap LabelSet Tsid} {entries : List Series} :
    checkEntries tsids keys entries = .ok () ↔
      (∀ entry ∈ entries, entry.Sound ∧ entry.tsid ∉ tsids ∧
        entry.labels ∉ keys) ∧
      entries.Pairwise fun a b => a.tsid ≠ b.tsid ∧ a.labels ≠ b.labels := by
  induction entries generalizing tsids keys with
  | nil => simp [checkEntries]
  | cons entry rest ih =>
      rw [checkEntries_cons_eq_ok_iff, ih, List.pairwise_cons,
        List.forall_mem_cons]
      simp only [Std.ExtTreeSet.mem_insert, Std.ExtTreeMap.mem_insert,
        Std.LawfulEqCmp.compare_eq_iff_eq, not_or]
      constructor
      · rintro ⟨hsound, htsid, hkey, hrest, hdistinct⟩
        refine ⟨⟨⟨hsound, htsid, hkey⟩, ?_⟩, ?_, hdistinct⟩
        · intro other hother
          obtain ⟨hotherSound, hotherTsid, hotherKey⟩ := hrest other hother
          exact ⟨hotherSound, hotherTsid.2, hotherKey.2⟩
        · intro other hother
          obtain ⟨-, hotherTsid, hotherKey⟩ := hrest other hother
          exact ⟨hotherTsid.1, hotherKey.1⟩
      · rintro ⟨⟨⟨hsound, htsid, hkey⟩, hrest⟩, hapart, hdistinct⟩
        refine ⟨hsound, htsid, hkey, ?_, hdistinct⟩
        intro other hother
        obtain ⟨hotherSound, hotherTsid, hotherKey⟩ := hrest other hother
        obtain ⟨hneTsid, hneLabels⟩ := hapart other hother
        exact ⟨hotherSound, ⟨hneTsid, hotherTsid⟩, hneLabels, hotherKey⟩

theorem checkFree_eq_ok_iff {catalog : Catalog} {entry : Series} :
    catalog.checkFree entry = .ok () ↔
      catalog.lookup? entry.labels = none ∧
        catalog.series? entry.tsid = none := by
  rw [checkFree]
  cases catalog.lookup? entry.labels with
  | some tsid => simp
  | none =>
      cases catalog.series? entry.tsid with
      | some series => simp
      | none => simp

theorem forM_eq_ok_iff {α ε : Type} {check : α → Except ε Unit}
    {list : List α} :
    list.forM check = .ok () ↔ ∀ element ∈ list, check element = .ok () := by
  induction list with
  | nil => simp [pure, Except.pure]
  | cons first rest ih =>
      have hcons : (first :: rest).forM check =
          (check first >>= fun _ => rest.forM check) := rfl
      rw [hcons, List.forall_mem_cons, ← ih]
      cases check first with
      | error fault => simp [bind, Except.bind]
      | ok value => simp [bind, Except.bind]

/-- A batch passes if its entries are sound, distinct, free and within the
limit. -/
theorem checkBatch_eq_ok_iff {catalog : Catalog} {entries : List Series} :
    catalog.checkBatch entries = .ok () ↔
      (∀ entry ∈ entries, entry.Sound) ∧
      (entries.Pairwise fun a b => a.tsid ≠ b.tsid ∧ a.labels ≠ b.labels) ∧
      (∀ entry ∈ entries, catalog.lookup? entry.labels = none ∧
        catalog.series? entry.tsid = none) ∧
      catalog.hasRoom entries.length = true := by
  have hentries : checkEntries ∅ ∅ entries = .ok () ↔
      (∀ entry ∈ entries, entry.Sound) ∧
        entries.Pairwise fun a b => a.tsid ≠ b.tsid ∧ a.labels ≠ b.labels := by
    simp [checkEntries_eq_ok_iff]
  have hfree : entries.forM catalog.checkFree = .ok () ↔
      ∀ entry ∈ entries, catalog.lookup? entry.labels = none ∧
        catalog.series? entry.tsid = none := by
    simp only [forM_eq_ok_iff, checkFree_eq_ok_iff]
  rw [← and_assoc, ← hentries, ← hfree, checkBatch]
  cases checkEntries ∅ ∅ entries with
  | error fault => simp [bind, Except.bind]
  | ok value =>
      cases entries.forM catalog.checkFree with
      | error fault => simp [bind, Except.bind]
      | ok other =>
          cases catalog.hasRoom entries.length with
          | false =>
              simp [bind, Except.bind, throw, throwThe, MonadExceptOf.throw]
          | true => simp [bind, Except.bind, pure, Except.pure]

/-- In a batch without repeats, label sets and numbers are one to one. -/
theorem labels_eq_iff_of_distinct {entries : List Series} {left right : Series}
    (hdistinct : entries.Pairwise fun a b =>
      a.tsid ≠ b.tsid ∧ a.labels ≠ b.labels)
    (hleft : left ∈ entries) (hright : right ∈ entries) :
    left.labels = right.labels ↔ left.tsid = right.tsid := by
  have hlabels : (entries.map Series.labels).Nodup :=
    List.pairwise_map.mpr (hdistinct.imp And.right)
  have htsids : (entries.map Series.tsid).Nodup :=
    List.pairwise_map.mpr (hdistinct.imp And.left)
  constructor
  · intro hsame
    rw [List.inj_on_of_nodup_map hlabels hleft hright hsame]
  · intro hsame
    rw [List.inj_on_of_nodup_map htsids hleft hright hsame]

/-! ## The numbers of a batch -/

theorem le_foldl_max (tsids : List Tsid) (start : Tsid) :
    start ≤ tsids.foldl max start ∧
      ∀ tsid ∈ tsids, tsid ≤ tsids.foldl max start := by
  induction tsids generalizing start with
  | nil => simp
  | cons first rest ih =>
      rw [List.foldl_cons, List.forall_mem_cons]
      obtain ⟨hstart, hrest⟩ := ih (max start first)
      exact ⟨UInt64.le_trans (Tsid.le_max_left start first) hstart,
        UInt64.le_trans (Tsid.le_max_right start first) hstart, hrest⟩

theorem foldl_max_mem (tsids : List Tsid) (start : Tsid) :
    tsids.foldl max start = start ∨ tsids.foldl max start ∈ tsids := by
  induction tsids generalizing start with
  | nil => exact .inl rfl
  | cons first rest ih =>
      rw [List.foldl_cons]
      rcases ih (max start first) with hsame | hmem
      · rw [hsame]
        have hmax : max start first = if start ≤ first then first else start :=
          rfl
        rw [hmax]
        split
        · exact .inr (by simp)
        · exact .inl rfl
      · exact .inr (List.mem_cons_of_mem _ hmem)

theorem tsid_le_greatestTsid {entries : List Series} {entry : Series}
    (hentry : entry ∈ entries) : entry.tsid ≤ greatestTsid entries :=
  (le_foldl_max _ _).2 entry.tsid (List.mem_map_of_mem hentry)

theorem greatestTsid_eq_or_mem (entries : List Series) :
    greatestTsid entries = Tsid.reserved ∨
      greatestTsid entries ∈ entries.map Series.tsid :=
  foldl_max_mem _ _

/-- The number after the greatest one of a sound batch does not wrap. -/
theorem greatestTsid_ne_last {entries : List Series}
    (hsound : ∀ entry ∈ entries, entry.Sound) :
    greatestTsid entries ≠ Tsid.last := by
  rcases greatestTsid_eq_or_mem entries with hnone | hmem
  · rw [hnone]
    decide
  · obtain ⟨entry, hentry, hsame⟩ := List.mem_map.mp hmem
    rw [← hsame]
    exact (hsound entry hentry).tsid_ne_last

/-- Numbers that are given out later are behind those of the batch. -/
theorem tsid_lt_nextTsid_raiseNext (catalog : Catalog) {entries : List Series}
    (hsound : ∀ entry ∈ entries, entry.Sound) {entry : Series}
    (hentry : entry ∈ entries) :
    entry.tsid < (catalog.raiseNext entries).nextTsid := by
  have hgreatest := greatestTsid_ne_last hsound
  exact UInt64.lt_of_le_of_lt (tsid_le_greatestTsid hentry)
    (UInt64.lt_of_lt_of_le (Tsid.lt_add_one hgreatest) (Tsid.le_max_right _ _))

end Catalog

end SeriesIndex
