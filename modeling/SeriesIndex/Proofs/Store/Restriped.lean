import SeriesIndex.Proofs.Restriped
import SeriesIndex.Proofs.Store.Canonical

/-!
# Stores in different numbers of stripes

Two stores are restriped if they hold the same series under the same limit,
whatever the numbers of their stripes are.  Nothing that can be asked of a store
tells the two apart, and whatever is asked leaves them restriped, so a session
has the same answers with both.  A store always finds a label set in the one
slot that its fingerprint chooses, and label sets that share a fingerprint are
still different keys.
-/

namespace SeriesIndex.Store

/-- Both stores are settled, and they differ in their stripes at most. -/
structure Restriped (left right : Store) : Prop where
  settled_left : left.Settled
  settled_right : right.Settled
  limit_eq : left.catalog.limit = right.catalog.limit
  series?_eq : left.catalog.series? = right.catalog.series?

theorem restriped_empty (keys names otherKeys otherNames limit : Nat) :
    (empty keys names limit).Restriped (empty otherKeys otherNames limit) where
  settled_left := settled_empty _ _ _
  settled_right := settled_empty _ _ _
  limit_eq := rfl
  series?_eq := rfl

namespace Restriped

variable {left right : Store}

/-! ## What is read of a store -/

theorem lookup?_eq (hrestriped : left.Restriped right) :
    left.catalog.lookup? = right.catalog.lookup? := by
  funext labels
  exact hrestriped.settled_left.lookup?_eq hrestriped.settled_right
    (congrFun hrestriped.series?_eq) labels

theorem published_eq (hrestriped : left.Restriped right) :
    left.catalog.published = right.catalog.published :=
  hrestriped.settled_left.published_eq hrestriped.settled_right
    (congrFun hrestriped.series?_eq)

theorem nextTsid_eq (hrestriped : left.Restriped right) :
    left.catalog.nextTsid = right.catalog.nextTsid :=
  hrestriped.settled_left.nextTsid_eq_nextTsid hrestriped.settled_right
    (congrFun hrestriped.series?_eq)

theorem seriesCount_eq (hrestriped : left.Restriped right) :
    left.catalog.seriesCount = right.catalog.seriesCount :=
  hrestriped.settled_left.seriesCount_eq hrestriped.settled_right
    (congrFun hrestriped.series?_eq)

theorem sameTriples (hrestriped : left.Restriped right) :
    left.inverted.SameTriples right.inverted :=
  hrestriped.settled_left.sameTriples hrestriped.settled_right
    (congrFun hrestriped.series?_eq)

theorem publishedSeries_eq (hrestriped : left.Restriped right) :
    left.catalog.publishedSeries = right.catalog.publishedSeries := by
  funext tsid
  rw [Catalog.publishedSeries, Catalog.publishedSeries, Catalog.isPublished,
    Catalog.isPublished, hrestriped.published_eq, hrestriped.series?_eq]

theorem snapshot_eq (hrestriped : left.Restriped right) :
    left.catalog.snapshot = right.catalog.snapshot := by
  rw [Catalog.snapshot, Catalog.snapshot, hrestriped.published_eq,
    hrestriped.series?_eq]

theorem hasRoom_eq (hrestriped : left.Restriped right) :
    left.catalog.hasRoom = right.catalog.hasRoom := by
  funext count
  rw [Catalog.hasRoom, Catalog.hasRoom, hrestriped.limit_eq,
    hrestriped.seriesCount_eq]

/-- Both stores refuse the same batches for the same faults. -/
theorem checkBatch_eq (hrestriped : left.Restriped right) :
    left.catalog.checkBatch = right.catalog.checkBatch := by
  have hfree : left.catalog.checkFree = right.catalog.checkFree := by
    funext entry
    rw [Catalog.checkFree, Catalog.checkFree, hrestriped.lookup?_eq,
      hrestriped.series?_eq]
  funext entries
  rw [Catalog.checkBatch, Catalog.checkBatch, hfree, hrestriped.hasRoom_eq,
    hrestriped.limit_eq]

/-- Both select the same series. -/
theorem select_eq (hrestriped : left.Restriped right) :
    left.select = right.select := by
  funext matchers
  rw [select, select, hrestriped.published_eq,
    hrestriped.sameTriples.operands?_eq]

theorem resolveSeries_eq (hrestriped : left.Restriped right) :
    left.resolveSeries = right.resolveSeries := by
  have hfetch : left.fetch = right.fetch := by
    funext tsid
    rw [fetch, fetch, hrestriped.series?_eq]
  funext matchers window
  rw [resolveSeries, resolveSeries, hrestriped.select_eq, hfetch]

theorem resolve_eq (hrestriped : left.Restriped right) :
    left.resolve = right.resolve := by
  funext matchers window
  rw [resolve, resolve, hrestriped.resolveSeries_eq]

/-! ## What is written to a store -/

theorem series?_foldl_enroll_eq (entries : List Series)
    (hseries : left.catalog.series? = right.catalog.series?) :
    (entries.foldl enroll left).catalog.series? =
      (entries.foldl enroll right).catalog.series? := by
  induction entries generalizing left right with
  | nil => exact hseries
  | cons series rest ih =>
      apply ih
      funext tsid
      rw [series?_enroll, series?_enroll, hseries]

/-- Writes that keep both frames need to be compared in the series alone. -/
theorem of_series? (hrestriped : left.Restriped right) {after other : Store}
    (hafter : after.Settled) (hother : other.Settled)
    (hframe : after.frame = left.frame)
    (hotherFrame : other.frame = right.frame)
    (hseries : after.catalog.series? = other.catalog.series?) :
    after.Restriped other where
  settled_left := hafter
  settled_right := hother
  limit_eq :=
    calc
      after.catalog.limit = left.catalog.limit := congrArg Frame.limit hframe
      _ = right.catalog.limit := hrestriped.limit_eq
      _ = other.catalog.limit := congrArg Frame.limit hotherFrame.symm
  series?_eq := hseries

/-- A registration has the same outcome with both, and stores the same series.
-/
theorem register_eq (hrestriped : left.Restriped right) (timestamp : Timestamp)
    (labels : LabelSet) :
    (left.register timestamp labels).1 = (right.register timestamp labels).1 ∧
      (left.register timestamp labels).2.catalog.series? =
        (right.register timestamp labels).2.catalog.series? := by
  have hnext := hrestriped.nextTsid_eq
  have hseries := hrestriped.series?_eq
  cases hkey : left.catalog.lookup? labels with
  | some tsid =>
      have hother := congrFun hrestriped.lookup?_eq labels
      rw [hkey] at hother
      rw [register_of_key hkey (hrestriped.settled_left.isSome_of_key hkey),
        register_of_key hother.symm
          (hrestriped.settled_right.isSome_of_key hother.symm)]
      refine ⟨rfl, ?_⟩
      funext other
      rw [Catalog.widen, Catalog.widen, Catalog.series?_modifyActivity,
        Catalog.series?_modifyActivity, hseries]
  | none =>
      have hother := congrFun hrestriped.lookup?_eq labels
      rw [hkey] at hother
      cases hroom : left.catalog.hasRoom 1 with
      | false =>
          have hotherRoom := congrFun hrestriped.hasRoom_eq 1
          rw [hroom] at hotherRoom
          rw [register_of_full hkey hroom,
            register_of_full hother.symm hotherRoom.symm, hrestriped.limit_eq]
          exact ⟨rfl, hseries⟩
      | true =>
          have hotherRoom := congrFun hrestriped.hasRoom_eq 1
          rw [hroom] at hotherRoom
          by_cases hlast : left.catalog.nextTsid = Tsid.last
          · rw [register_of_exhausted hkey hroom hlast,
              register_of_exhausted hother.symm hotherRoom.symm
                (hnext.symm.trans hlast)]
            exact ⟨rfl, hseries⟩
          · rw [register_of_new hkey hroom hlast,
              register_of_new hother.symm hotherRoom.symm (hnext ▸ hlast),
              ← hnext]
            exact ⟨rfl, series?_foldl_enroll_eq [_] hseries⟩

/-- A registration has the same outcome in both stores. -/
theorem register (hrestriped : left.Restriped right) (timestamp : Timestamp)
    (labels : LabelSet) :
    (left.register timestamp labels).2.Restriped
      (right.register timestamp labels).2 := by
  apply hrestriped.of_series?
  · exact hrestriped.settled_left.register timestamp labels
  · exact hrestriped.settled_right.register timestamp labels
  · exact hrestriped.settled_left.frame_register timestamp labels
  · exact hrestriped.settled_right.frame_register timestamp labels
  · exact (hrestriped.register_eq timestamp labels).2

/-- A batch has the same outcome with both, and stores the same series. -/
theorem importBatch_eq (hrestriped : left.Restriped right)
    (entries : List Series) :
    (left.importBatch entries).1 = (right.importBatch entries).1 ∧
      (left.importBatch entries).2.catalog.series? =
        (right.importBatch entries).2.catalog.series? := by
  have hsame := congrFun hrestriped.checkBatch_eq entries
  have hseries := hrestriped.series?_eq
  cases hcheck : left.catalog.checkBatch entries with
  | error fault =>
      rw [importBatch_of_error hcheck,
        importBatch_of_error (hsame.symm.trans hcheck)]
      exact ⟨rfl, hseries⟩
  | ok value =>
      rw [importBatch_of_ok hcheck, importBatch_of_ok (hsame.symm.trans hcheck)]
      exact ⟨rfl, series?_foldl_enroll_eq entries hseries⟩

/-- A batch is loaded into both stores or into neither. -/
theorem importBatch (hrestriped : left.Restriped right)
    (entries : List Series) :
    (left.importBatch entries).2.Restriped
      (right.importBatch entries).2 := by
  apply hrestriped.of_series?
  · exact hrestriped.settled_left.importBatch entries
  · exact hrestriped.settled_right.importBatch entries
  · exact frame_importBatch left entries
  · exact frame_importBatch right entries
  · exact (hrestriped.importBatch_eq entries).2

end Restriped

end SeriesIndex.Store
