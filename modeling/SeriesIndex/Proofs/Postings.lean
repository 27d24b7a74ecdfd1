import Mathlib
import SeriesIndex.Query

/-!
# Sets of series numbers

Postings are seen through membership.  The lemmas below say which numbers a
union gathers, which ones an intersection keeps, whatever the order in which its
operands are taken and however early it stops, and that listing postings gives
ascending numbers.
-/

namespace SeriesIndex.Postings

theorem toList_ascending (postings : Postings) :
    postings.toList.Pairwise (· < ·) := by
  refine Std.ExtTreeSet.ordered_toList.imp fun hless => ?_
  exact Std.compare_eq_lt.mp hless

theorem nodup_toList (postings : Postings) : postings.toList.Nodup :=
  postings.toList_ascending.imp fun hless heq => by
    subst heq
    exact UInt64.lt_irrefl _ hless

theorem eq_empty_of_isEmpty {postings : Postings}
    (hempty : postings.isEmpty = true) (tsid : Tsid) : tsid ∉ postings := by
  rw [Std.ExtTreeSet.isEmpty_iff.mp hempty]
  exact Std.ExtTreeSet.not_mem_empty

theorem mem_foldl_union {α : Type} {found : Postings} {list : List α}
    {postings : α → Postings} {tsid : Tsid} :
    tsid ∈ list.foldl (fun found item => found ∪ postings item) found ↔
      tsid ∈ found ∨ ∃ item ∈ list, tsid ∈ postings item := by
  induction list generalizing found with
  | nil => simp
  | cons item rest ih =>
      rw [List.foldl_cons, ih, Std.ExtTreeSet.mem_union_iff, or_assoc,
        List.exists_mem_cons_iff]

theorem mem_foldl_inter {α : Type} {left : Postings} {list : List α}
    {postings : α → Postings} {tsid : Tsid} :
    tsid ∈ list.foldl (fun left item => left ∩ postings item) left ↔
      tsid ∈ left ∧ ∀ item ∈ list, tsid ∈ postings item := by
  induction list generalizing left with
  | nil => simp
  | cons item rest ih =>
      rw [List.foldl_cons, ih, Std.ExtTreeSet.mem_inter_iff, and_assoc,
        List.forall_mem_cons]

/-- Stopping at an empty intermediate result loses nothing. -/
theorem mem_narrow {candidates : Postings} {operands : List Postings}
    {tsid : Tsid} :
    tsid ∈ candidates.narrow operands ↔
      tsid ∈ candidates ∧ ∀ operand ∈ operands, tsid ∈ operand := by
  induction operands generalizing candidates with
  | nil => simp [narrow]
  | cons operand rest ih =>
      have hinter : tsid ∈ candidates ∩ operand ↔
          tsid ∈ candidates ∧ tsid ∈ operand := Std.ExtTreeSet.mem_inter_iff
      rw [narrow]
      split
      · rename_i hempty
        have hnone := eq_empty_of_isEmpty hempty tsid
        constructor
        · intro hmem
          exact absurd hmem hnone
        · rintro ⟨hcandidate, hall⟩
          exact absurd (hinter.mpr ⟨hcandidate, hall operand (by simp)⟩) hnone
      · rw [ih, hinter]
        simp [and_assoc]

/-- The intersection of some operands does not depend on their order. -/
theorem mem_intersection {operands : List Postings} (hsome : operands ≠ [])
    {tsid : Tsid} :
    tsid ∈ intersection operands ↔ ∀ operand ∈ operands, tsid ∈ operand := by
  have hperm := List.mergeSort_perm operands fun a b => decide (a.size ≤ b.size)
  rw [intersection]
  split
  · rename_i hnil
    rw [hnil] at hperm
    exact absurd hperm.nil_eq.symm hsome
  · rename_i smallest rest hcons
    rw [hcons] at hperm
    rw [mem_narrow, ← List.forall_mem_cons (p := fun operand => tsid ∈ operand)]
    exact forall_congr' fun operand => by rw [hperm.mem_iff]

end SeriesIndex.Postings
