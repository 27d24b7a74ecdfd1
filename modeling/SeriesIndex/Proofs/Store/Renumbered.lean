import Mathlib
import SeriesIndex.Proofs.Store.Continued

/-!
# Stores that differ in their numbering

Two stores can hold the same label sets over the same intervals and use the same
numbers, and still give them to different label sets.  The bijection that takes
the number of each label set in one store to its number in the other one then
takes everything along that can be asked of a number, and what is asked of
names, values and counts is answered alike.
-/

namespace SeriesIndex.Store

/-- Two stores that hold the same, up to the numbers of their label sets. -/
structure Alike (left right : Store) : Prop where
  settled_left : left.Settled
  settled_right : right.Settled
  published_iff : ∀ tsid,
    tsid ∈ left.catalog.published ↔ tsid ∈ right.catalog.published
  registered_iff : ∀ labels,
    labels ∈ left.registered ↔ labels ∈ right.registered
  activity_eq : ∀ tsid other series found,
    left.catalog.series? tsid = some series →
    right.catalog.series? other = some found →
    series.labels = found.labels → series.activity = found.activity

/-- The number in one store of the label set that goes by a number in
another. -/
def renumber (left right : Store) (tsid : Tsid) : Tsid :=
  match left.catalog.series? tsid with
  | some series => (right.catalog.lookup? series.labels).getD tsid
  | none => tsid

variable {left right : Store} {tsid : Tsid} {series : Series}

theorem Alike.symm (halike : left.Alike right) : right.Alike left where
  settled_left := halike.settled_right
  settled_right := halike.settled_left
  published_iff tsid := (halike.published_iff tsid).symm
  registered_iff labels := (halike.registered_iff labels).symm
  activity_eq tsid other series found hseries hfound hlabels :=
    (halike.activity_eq other tsid found series hfound hseries
      hlabels.symm).symm

theorem renumber_of_none (hnone : left.catalog.series? tsid = none) :
    left.renumber right tsid = tsid := by
  rw [renumber, hnone]

/-- A stored series is renumbered to where the other store has its labels. -/
theorem renumber_of_lookup? {other : Tsid}
    (hseries : left.catalog.series? tsid = some series)
    (hkey : right.catalog.lookup? series.labels = some other) :
    left.renumber right tsid = other := by
  rw [renumber, hseries]
  exact congrArg (·.getD tsid) hkey

/-- A label set is found again under its other number, over the same
interval. -/
theorem Alike.series?_of_series? (halike : left.Alike right)
    (hseries : left.catalog.series? tsid = some series) :
    right.catalog.series? (left.renumber right tsid) =
      some { series with tsid := left.renumber right tsid } := by
  have hleft := halike.settled_left
  have hright := halike.settled_right
  have hmem : series.labels ∈ left.registered :=
    hleft.mem_registered.mpr ⟨tsid, hleft.keyed tsid series hseries⟩
  obtain ⟨other, hkey⟩ :=
    hright.mem_registered.mp ((halike.registered_iff _).mp hmem)
  obtain ⟨found, hfound, hlabels⟩ := hright.lookup?_eq_some_iff.mp hkey
  have hactivity :=
    halike.activity_eq tsid other series found hseries hfound hlabels.symm
  rw [renumber_of_lookup? hseries hkey, hfound, hactivity, ← hlabels,
    ← hright.tsid_eq other found hfound]

theorem Alike.series?_eq_none_iff (halike : left.Alike right) :
    left.catalog.series? tsid = none ↔ right.catalog.series? tsid = none := by
  have hsame := halike.published_iff tsid
  rw [halike.settled_left.mem_published_iff,
    halike.settled_right.mem_published_iff, ← Option.isSome_iff_exists,
    ← Option.isSome_iff_exists] at hsame
  rw [← Option.not_isSome_iff_eq_none, ← Option.not_isSome_iff_eq_none, hsame]

/-- To renumber there and back is to change nothing. -/
theorem Alike.renumber_renumber (halike : left.Alike right) (tsid : Tsid) :
    right.renumber left (left.renumber right tsid) = tsid := by
  cases hseries : left.catalog.series? tsid with
  | none =>
      rw [renumber_of_none hseries]
      exact renumber_of_none (halike.series?_eq_none_iff.mp hseries)
  | some series =>
      exact renumber_of_lookup? (halike.series?_of_series? hseries)
        (halike.settled_left.keyed tsid series hseries)

/-- Renumbering is a bijection. -/
def Alike.renumbering (halike : left.Alike right) : Equiv.Perm Tsid where
  toFun := left.renumber right
  invFun := right.renumber left
  left_inv := halike.renumber_renumber
  right_inv := halike.symm.renumber_renumber

/-- Series with the same labels are stored under corresponding numbers. -/
theorem Alike.series?_renumbering (halike : left.Alike right) (tsid : Tsid) :
    right.catalog.series? (halike.renumbering tsid) =
      (left.catalog.series? tsid).map fun series =>
        { series with tsid := halike.renumbering tsid } := by
  cases hseries : left.catalog.series? tsid with
  | none =>
      have hsame : halike.renumbering tsid = tsid := renumber_of_none hseries
      rw [hsame]
      exact halike.series?_eq_none_iff.mp hseries
  | some series => exact halike.series?_of_series? hseries

theorem Alike.publishedSeries_renumbering (halike : left.Alike right)
    (tsid : Tsid) :
    right.catalog.publishedSeries (halike.renumbering tsid) =
      (left.catalog.publishedSeries tsid).map fun series =>
        { series with tsid := halike.renumbering tsid } := by
  have hright := halike.series?_renumbering tsid
  cases hseries : left.catalog.series? tsid with
  | none =>
      rw [hseries] at hright
      have hsame : halike.renumbering tsid = tsid := renumber_of_none hseries
      rw [halike.settled_left.publishedSeries_of_none hseries,
        halike.settled_right.publishedSeries_of_none hright, hsame]
      rfl
  | some series =>
      rw [hseries] at hright
      rw [halike.settled_left.publishedSeries_eq_ok_iff.mpr hseries,
        halike.settled_right.publishedSeries_eq_ok_iff.mpr hright]
      rfl

theorem Alike.lookup?_eq (halike : left.Alike right) (labels : LabelSet) :
    right.catalog.lookup? labels =
      (left.catalog.lookup? labels).map halike.renumbering := by
  cases hkey : left.catalog.lookup? labels with
  | none =>
      have hnot := mt (halike.registered_iff labels).mpr
        (halike.settled_left.not_mem_registered_iff.mpr hkey)
      exact halike.settled_right.not_mem_registered_iff.mp hnot
  | some tsid =>
      obtain ⟨series, hseries, rfl⟩ :=
        halike.settled_left.lookup?_eq_some_iff.mp hkey
      have hkeyed := halike.settled_right.keyed _ _
        (halike.series?_of_series? hseries)
      exact hkeyed

/-! ## Names, values and counts -/

theorem Alike.labelNames_eq (halike : left.Alike right) :
    right.inverted.labelNames = left.inverted.labelNames := by
  have hleft := halike.settled_left.faithful
  have hright := halike.settled_right.faithful
  apply hright.labelNames_ascending.eq_of_mem_iff hleft.labelNames_ascending
  intro name
  rw [hright.mem_labelNames_iff, hleft.mem_labelNames_iff]
  simp only [halike.registered_iff]

theorem Alike.values_eq (halike : left.Alike right) (name : String) :
    right.inverted.values name = left.inverted.values name := by
  have hleft := halike.settled_left.faithful
  have hright := halike.settled_right.faithful
  apply (hright.values_ascending name).eq_of_mem_iff
    (hleft.values_ascending name)
  intro value
  rw [hright.mem_values_iff, hleft.mem_values_iff]
  simp only [halike.registered_iff]

theorem Alike.labels_eq (halike : left.Alike right) :
    right.labels = left.labels := by
  ext label
  rw [mem_labels, mem_labels]
  simp only [halike.registered_iff]

theorem Alike.nameCount_eq (halike : left.Alike right) :
    right.inverted.nameCount = left.inverted.nameCount := by
  rw [halike.settled_right.nameCount_eq, halike.settled_left.nameCount_eq,
    halike.labels_eq]

theorem Alike.pairCount_eq (halike : left.Alike right) :
    right.inverted.pairCount = left.inverted.pairCount := by
  rw [halike.settled_right.pairCount_eq, halike.settled_left.pairCount_eq,
    halike.labels_eq]

theorem Alike.seriesCount_eq (halike : left.Alike right) :
    right.catalog.seriesCount = left.catalog.seriesCount := by
  have hsame : left.catalog.published = right.catalog.published :=
    Std.ExtTreeSet.ext_mem fun {tsid} => halike.published_iff tsid
  rw [halike.settled_right.faithful.seriesCount_eq,
    halike.settled_left.faithful.seriesCount_eq, hsame]

/-! ## Queries -/

/-- Corresponding numbers answer the same queries. -/
theorem Alike.answering_renumbering (halike : left.Alike right)
    (matchers : List Matcher) (window : Window) (tsid : Tsid) :
    right.Answering matchers window (halike.renumbering tsid) ↔
      left.Answering matchers window tsid := by
  rw [Answering, Answering, halike.settled_right.mem_published_iff,
    halike.settled_left.mem_published_iff, halike.series?_renumbering]
  simp

/-- A query answers with the other numbers of the same label sets. -/
theorem Alike.mem_answers_iff (halike : left.Alike right)
    (matchers : List Matcher) (window : Window) (tsid : Tsid) :
    tsid ∈ (right.answers matchers window).map Series.tsid ↔
      ∃ other ∈ (left.answers matchers window).map Series.tsid,
        halike.renumbering other = tsid := by
  simp only [halike.settled_right.mem_answers, halike.settled_left.mem_answers,
    ← halike.answering_renumbering]
  constructor
  · intro hanswering
    refine ⟨halike.renumbering.symm tsid, ?_, Equiv.apply_symm_apply _ _⟩
    rw [Equiv.apply_symm_apply]
    exact hanswering
  · rintro ⟨other, hanswering, rfl⟩
    exact hanswering

end SeriesIndex.Store
