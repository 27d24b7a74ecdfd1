import Mathlib
import SeriesIndex.Matcher

/-!
# Labels of a label set

A label set holds at most one label of a name, and holds its labels in the order
in which their names are compared.  Halving therefore ends at the label with a
name if there is one, so that reading the value of a name and finding a label
among the labels are the same thing.  A matcher selects a label set by the value
under its name, and selects none that lacks the name.
-/

namespace SeriesIndex

namespace Label

/-- Of labels in strictly ascending order of their names, the one with the
smaller name stands first. -/
theorem name_lt_iff {labels : List Label}
    (hascending : labels.Pairwise fun a b => a.name < b.name)
    {left right : Nat} (hleft : left < labels.length)
    (hright : right < labels.length) :
    labels[left].name < labels[right].name ↔ left < right := by
  have hless := List.pairwise_iff_getElem.mp hascending
  rcases Nat.lt_trichotomy left right with hlt | rfl | hgt
  · exact iff_of_true (hless _ _ hleft hright hlt) hlt
  · exact iff_of_false (String.lt_irrefl _) (Nat.lt_irrefl _)
  · exact iff_of_false
      (fun hname => String.lt_irrefl _
        (String.lt_trans hname (hless _ _ hright hleft hgt)))
      (Nat.not_lt_of_gt hgt)

/-- Halving ends at the label with the name, wherever it is among the labels
that are left. -/
theorem place_eq {labels : List Label}
    (hascending : labels.Pairwise fun a b => a.name < b.name)
    {base count index : Nat} (hindex : index < labels.length)
    (hbound : base + count ≤ labels.length) (hbase : base ≤ index)
    (hcount : index < base + count) :
    place labels labels[index].name base count = index := by
  fun_induction place labels labels[index].name base count with
  | case1 base count hmany half hafter ih =>
      have hmiddle : base + half < labels.length := by omega
      rw [List.getElem?_eq_getElem hmiddle, Option.any_some, decide_eq_true_eq,
        name_lt_iff hascending hindex hmiddle] at hafter
      exact ih (by omega) hbase (by omega)
  | case2 base count hmany half hafter ih =>
      have hmiddle : base + half < labels.length := by omega
      rw [List.getElem?_eq_getElem hmiddle, Option.any_some, decide_eq_true_eq,
        name_lt_iff hascending hindex hmiddle] at hafter
      exact ih (by omega) (by omega) (by omega)
  | case3 base count hone => omega

end Label

namespace LabelSet

variable {set : LabelSet}

theorem nodup_names (set : LabelSet) : (set.labels.map Label.name).Nodup := by
  rw [List.Nodup, List.pairwise_map]
  apply set.ascending.imp
  intro a b hless hsame
  exact String.lt_irrefl b.name (hsame ▸ hless)

theorem nodup_labels (set : LabelSet) : set.labels.Nodup :=
  set.nodup_names.of_map

theorem eq_of_name_eq {left right : Label} (hleft : left ∈ set.labels)
    (hright : right ∈ set.labels) (hname : left.name = right.name) :
    left = right :=
  List.inj_on_of_nodup_map set.nodup_names hleft hright hname

/-- The value of a name is that of the label with this name. -/
theorem get?_eq_some_iff {name value : String} :
    set.get? name = some value ↔ ⟨name, value⟩ ∈ set.labels := by
  rw [get?, Option.map_eq_some_iff]
  constructor
  · rintro ⟨label, hfound, rfl⟩
    obtain ⟨hlabel, hname⟩ := Option.filter_eq_some_iff.mp hfound
    obtain rfl := of_decide_eq_true hname
    exact List.mem_of_getElem? hlabel
  · intro hmem
    obtain ⟨index, hindex, hlabel⟩ := List.mem_iff_getElem.mp hmem
    have hplace := Label.place_eq set.ascending hindex
      (Nat.zero_add set.size).le (Nat.zero_le index)
      ((Nat.zero_add set.size).symm ▸ hindex)
    rw [hlabel] at hplace
    refine ⟨⟨name, value⟩, Option.filter_eq_some_iff.mpr ⟨?_, ?_⟩, rfl⟩
    · rw [hplace, List.getElem?_eq_getElem hindex, hlabel]
    · exact decide_eq_true rfl

end LabelSet

namespace Matcher

/-- The matcher finds a label of its name, with a value that it accepts. -/
def Selects (matcher : Matcher) (labels : LabelSet) : Prop :=
  ∃ value, labels.get? matcher.name = some value ∧ matcher.accepts value = true

instance (matcher : Matcher) (labels : LabelSet) :
    Decidable (matcher.Selects labels) :=
  decidable_of_iff ((labels.get? matcher.name).any matcher.accepts = true) <| by
    simp [Selects, Option.any_eq_true]

theorem selects_iff_mem {matcher : Matcher} {labels : LabelSet} :
    matcher.Selects labels ↔
      ∃ value, ⟨matcher.name, value⟩ ∈ labels.labels ∧
        matcher.accepts value = true := by
  simp only [Selects, LabelSet.get?_eq_some_iff]

end Matcher

end SeriesIndex
