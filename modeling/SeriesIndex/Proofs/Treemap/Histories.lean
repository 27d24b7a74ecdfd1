import Mathlib
import SeriesIndex.Proofs.Treemap.StoredSize

/-!
# Treemaps that are built up by operations

A family of treemaps starts empty and is changed by one operation after another:
numbers are put in, and treemaps are intersected, united and subtracted, into
another one or in place.  Beside it the same operations act on plain sets.  What
carries every history is that a treemap has the numbers of its set, and that its
buckets are filled.  A set has one such layout, so that nothing is left of the
operations by which a treemap came about: neither its readers nor its size nor
its equality tell two histories of one set apart.
-/

namespace SeriesIndex

def Combination.ofSets :
    Combination → Finset Tsid → Finset Tsid → Finset Tsid
  | inter, left, right => left ∩ right
  | union, left, right => left ∪ right
  | diff, left, right => left \ right

namespace Treemap

variable {Name : Type}

/-! ## Sets -/

variable [DecidableEq Name]

/-- A treemap has the numbers of a set, and no empty bucket. -/
structure Holds (treemap : Treemap) (tsids : Finset Tsid) : Prop where
  filled : treemap.Filled
  mem_iff : ∀ tsid, tsid ∈ treemap.toList ↔ tsid ∈ tsids

/-- An insertion is one into the set that is held. -/
theorem Holds.insert {treemap : Treemap} {tsids : Finset Tsid}
    (hholds : Holds treemap tsids) (tsid : Tsid) :
    Holds (treemap.insert tsid).2 (Insert.insert tsid tsids) := by
  obtain ⟨-, hfilled, hmem⟩ := hholds.filled.insert_spec tsid
  refine ⟨hfilled, fun other => ?_⟩
  rw [hmem, hholds.mem_iff, Finset.mem_insert]

theorem Holds.extend {treemap : Treemap} {tsids : Finset Tsid}
    (hholds : Holds treemap tsids) (others : List Tsid) :
    Holds (treemap.extend others) (tsids ∪ others.toFinset) := by
  rw [Buckets.extend]
  induction others generalizing treemap tsids with
  | nil => simpa using hholds
  | cons first rest ih =>
      have hrest := ih (hholds.insert first)
      rwa [List.foldl_cons, List.toFinset_cons, Finset.union_insert,
        ← Finset.insert_union]

theorem mem_ofSets {how : Combination} {left right : Finset Tsid}
    {tsid : Tsid} :
    tsid ∈ how.ofSets left right ↔ how.Holds (tsid ∈ left) (tsid ∈ right) := by
  cases how with
  | inter => exact Finset.mem_inter
  | union => exact Finset.mem_union
  | diff => exact Finset.mem_sdiff

/-- A combination is one of the sets that are held. -/
theorem Holds.combine {left right : Treemap} {first second : Finset Tsid}
    (hleft : Holds left first) (hright : Holds right second)
    (how : Combination) :
    Holds (left.combine how right) (how.ofSets first second) := by
  obtain ⟨hfilled, hmem, -⟩ := hleft.filled.combine_spec hright.filled how
  refine ⟨hfilled, fun tsid => ?_⟩
  rw [hmem, hleft.mem_iff, hright.mem_iff, mem_ofSets]

/-- A combination in place gives what the combination gives. -/
theorem Holds.combineInPlace_eq {left right : Treemap}
    {first second : Finset Tsid} (hleft : Holds left first)
    (hright : Holds right second) (how : Combination) :
    left.combineInPlace how right = left.combine how right :=
  (hleft.filled.combine_spec hright.filled how).2.2

namespace Holds

variable {treemap : Treemap} {tsids : Finset Tsid}

theorem toFinset_toList (hholds : Holds treemap tsids) :
    treemap.toList.toFinset = tsids := by
  ext tsid
  rw [List.mem_toFinset, hholds.mem_iff]

theorem nodup_toList (hholds : Holds treemap tsids) : treemap.toList.Nodup :=
  hholds.filled.ascending_toList.imp Std.ne_of_lt

/-- Treemaps are equal exactly if their sets are. -/
theorem eq_iff {other : Treemap} {others : Finset Tsid}
    (hholds : Holds treemap tsids) (hother : Holds other others) :
    treemap = other ↔ tsids = others := by
  constructor
  · rintro rfl
    rw [← hholds.toFinset_toList, hother.toFinset_toList]
  · rintro rfl
    refine hholds.filled.eq_of_toList hother.filled ?_
    exact hholds.filled.ascending_toList.eq_of_mem_iff
      hother.filled.ascending_toList fun tsid => by
        rw [hholds.mem_iff, hother.mem_iff]

theorem max?_eq_some_iff (hholds : Holds treemap tsids) (tsid : Tsid) :
    treemap.max? = some tsid ↔
      tsid ∈ tsids ∧ ∀ other ∈ tsids, other ≤ tsid := by
  have hascending := hholds.filled.ascending_toList
  simp only [← hholds.mem_iff]
  rw [hholds.filled.max?_eq]
  rcases List.eq_nil_or_concat treemap.toList with hnone | ⟨rest, last, hlast⟩
  · simp [hnone]
  · rw [List.concat_eq_append] at hlast
    rw [hlast] at hascending ⊢
    obtain ⟨-, -, hless⟩ := List.pairwise_append.mp hascending
    rw [List.getLast?_append, List.getLast?_singleton, Option.some_or,
      Option.some_inj]
    constructor
    · rintro rfl
      refine ⟨by simp, fun other hother => ?_⟩
      rcases List.mem_append.mp hother with hother | hother
      · exact Std.le_of_lt (hless other hother last (by simp))
      · exact Std.le_of_eq (List.mem_singleton.mp hother)
    · rintro ⟨htsid, hmost⟩
      rcases List.mem_append.mp htsid with htsid | htsid
      · exact absurd (hless tsid htsid last (by simp))
          (Std.not_lt.mpr (hmost last (by simp)))
      · exact (List.mem_singleton.mp htsid).symm

end Holds

end Treemap

end SeriesIndex
