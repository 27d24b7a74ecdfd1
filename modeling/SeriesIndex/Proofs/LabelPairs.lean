import Mathlib
import SeriesIndex.Proofs.LabelSet

/-!
# Pairs that make a label set

Pairs of a name and a value make a label set exactly if no two of them share a
name and no name is empty, in whatever order they come, and the set then has
these pairs and no others.  Otherwise the fault does not depend on the order
either: it names the least name that is given twice, and an empty name is
reported only if no name is.
-/

namespace SeriesIndex

namespace Label

theorem perm_sortByName (labels : List Label) :
    (sortByName labels).Perm labels :=
  List.mergeSort_perm labels _

theorem repeated?_eq_none_iff {labels : List Label}
    (hsorted : labels.Pairwise fun a b => a.name ≤ b.name) :
    repeated? labels = none ↔ (labels.map name).Nodup := by
  constructor
  · intro hnone
    rw [List.Nodup, List.pairwise_map]
    apply (pairwise_lt_of_repeated?_eq_none hsorted hnone).imp
    intro a b hless hsame
    exact String.lt_irrefl b.name (hsame ▸ hless)
  · intro hnodup
    apply repeated?_eq_none_of_pairwise
    rw [List.Nodup, List.pairwise_map] at hnodup
    exact (hsorted.and hnodup).imp fun ⟨hle, hne⟩ =>
      String.not_le.mp fun hge => hne (String.le_antisymm hle hge)

section Sorted

variable {first second : Label} {rest : List Label}

/-- A name that is repeated among sorted labels is not before the first one. -/
theorem le_of_two_le_count
    (hsorted : (first :: rest).Pairwise fun a b => a.name ≤ b.name)
    {name : String}
    (hrepeated : 2 ≤ ((first :: rest).map Label.name).count name) :
    first.name ≤ name := by
  have hmem := List.count_pos_iff.mp (Nat.lt_of_lt_of_le Nat.two_pos hrepeated)
  obtain ⟨label, hlabel, rfl⟩ := List.mem_map.mp hmem
  rcases List.mem_cons.mp hlabel with rfl | hlabel
  · exact String.le_refl _
  · exact (List.pairwise_cons.mp hsorted).1 label hlabel

/-- A name that differs from the next one differs from all that follow. -/
theorem name_ne_of_sorted
    (hsorted : (first :: second :: rest).Pairwise fun a b => a.name ≤ b.name)
    (hne : first.name ≠ second.name) :
    ∀ label ∈ second :: rest, first.name ≠ label.name := by
  obtain ⟨hfirst, hrest⟩ := List.pairwise_cons.mp hsorted
  intro label hlabel hsame
  have hle : second.name ≤ label.name := by
    rcases List.mem_cons.mp hlabel with rfl | hlabel
    · exact String.le_refl _
    · exact (List.pairwise_cons.mp hrest).1 label hlabel
  exact hne (String.le_antisymm (hfirst second List.mem_cons_self)
    (hsame ▸ hle))

/-- A name that stands alone does not count among the repeated ones. -/
theorem two_le_count_cons_iff
    (halone : ∀ label ∈ rest, first.name ≠ label.name) {name : String} :
    2 ≤ ((first :: rest).map Label.name).count name ↔
      2 ≤ (rest.map Label.name).count name := by
  rw [List.map_cons, List.count_cons]
  split
  · rename_i hsame
    have hzero : (rest.map Label.name).count name = 0 := by
      rw [List.count_eq_zero, List.mem_map]
      rintro ⟨label, hlabel, hother⟩
      exact halone label hlabel ((beq_iff_eq.mp hsame).trans hother.symm)
    omega
  · rfl

end Sorted

/-- In sorted labels, the first two neighbours that share a name have the least
name that is repeated at all. -/
theorem repeated?_eq_some_iff {labels : List Label} {name : String}
    (hsorted : labels.Pairwise fun a b => a.name ≤ b.name) :
    repeated? labels = some name ↔
      2 ≤ (labels.map Label.name).count name ∧
        ∀ other, 2 ≤ (labels.map Label.name).count other → name ≤ other := by
  fun_induction repeated? labels with
  | case1 first second rest hsame =>
      have htwice :
          2 ≤ ((first :: second :: rest).map Label.name).count first.name := by
        simp [hsame]
      constructor
      · intro hname
        cases hname
        exact ⟨htwice, fun other => le_of_two_le_count hsorted⟩
      · rintro ⟨hrepeated, hleast⟩
        rw [String.le_antisymm (hleast _ htwice)
          (le_of_two_le_count hsorted hrepeated)]
  | case2 first second rest hne ih =>
      have hrest := (List.pairwise_cons.mp hsorted).2
      simp only [ih hrest,
        two_le_count_cons_iff (name_ne_of_sorted hsorted hne)]
  | case3 labels hshort =>
      have hlength : labels.length ≤ 1 := by
        rcases labels with _ | ⟨first, _ | ⟨second, rest⟩⟩
        · exact Nat.zero_le _
        · exact Nat.le_refl _
        · exact (hshort _ _ _ rfl).elim
      refine iff_of_false (Option.some_ne_none name).symm fun hrepeated => ?_
      have hcount : (labels.map Label.name).count name ≤ _ :=
        List.count_le_length
      rw [List.length_map] at hcount
      omega

end Label

namespace LabelSet

/-- A label set is determined by its labels, whatever their order. -/
theorem eq_of_perm {left right : LabelSet}
    (hperm : left.labels.Perm right.labels) : left = right := by
  apply ext
  apply List.Perm.eq_of_pairwise _ left.ascending right.ascending hperm
  intro a b _ _ hless hgreater
  exact absurd (String.lt_trans hless hgreater) (String.lt_irrefl _)

/-- Why labels with these names make no label set. -/
inductive Unusable (names : List String) : LabelFault → Prop where
  | duplicateName {name : String} (hrepeated : 2 ≤ names.count name)
      (hleast : ∀ other, 2 ≤ names.count other → name ≤ other) :
      Unusable names (.duplicateName name)
  | emptyName (hdistinct : names.Nodup) (hempty : "" ∈ names) :
      Unusable names .emptyName

theorem not_two_le_count {names : List String} (hdistinct : names.Nodup)
    (name : String) : ¬2 ≤ names.count name :=
  Nat.not_le_of_lt
    (Nat.lt_succ_of_le (List.nodup_iff_count_le_one.mp hdistinct name))

/-- There is one reason only. -/
theorem Unusable.unique {names : List String} {left right : LabelFault}
    (hleft : Unusable names left) (hright : Unusable names right) :
    left = right := by
  cases hleft with
  | duplicateName hrepeated hleast =>
      cases hright with
      | duplicateName hotherRepeated hotherLeast =>
          rw [String.le_antisymm (hleast _ hotherRepeated)
            (hotherLeast _ hrepeated)]
      | emptyName hdistinct _ =>
          exact absurd hrepeated (not_two_le_count hdistinct _)
  | emptyName hdistinct _ =>
      cases hright with
      | duplicateName hrepeated _ =>
          exact absurd hrepeated (not_two_le_count hdistinct _)
      | emptyName _ _ => rfl

theorem Unusable.of_perm {names others : List String} {cause : LabelFault}
    (hunusable : Unusable names cause) (hperm : names.Perm others) :
    Unusable others cause := by
  cases hunusable with
  | duplicateName hrepeated hleast =>
      simp only [hperm.count_eq] at hrepeated hleast
      exact .duplicateName hrepeated hleast
  | emptyName hdistinct hempty =>
      exact .emptyName (hperm.nodup_iff.mp hdistinct) (hperm.mem_iff.mp hempty)

variable {labels : List Label} {set : LabelSet} {cause : LabelFault}

theorem unusable_of_ofLabels (herror : ofLabels labels = .error cause) :
    Unusable (labels.map Label.name) cause := by
  have hperm := (Label.perm_sortByName labels).map Label.name
  have hsorted := Label.pairwise_sortByName labels
  rw [ofLabels] at herror
  split at herror
  · rename_i name hsome
    cases herror
    obtain ⟨hrepeated, hleast⟩ := (Label.repeated?_eq_some_iff hsorted).mp hsome
    exact (Unusable.duplicateName hrepeated hleast).of_perm hperm
  · rename_i hnone
    split at herror
    · cases herror
    · rename_i hnamed
      cases herror
      have hdistinct := (Label.repeated?_eq_none_iff hsorted).mp hnone
      push Not at hnamed
      obtain ⟨label, hlabel, hempty⟩ := hnamed
      have hmem := List.mem_map.mpr ⟨label, hlabel, hempty⟩
      exact (Unusable.emptyName hdistinct hmem).of_perm hperm

theorem not_unusable_of_perm (hperm : set.labels.Perm labels) :
    ¬Unusable (labels.map Label.name) cause := by
  have hnames := hperm.map Label.name
  intro hunusable
  cases hunusable with
  | duplicateName hrepeated hleast =>
      exact not_two_le_count (hnames.nodup_iff.mp set.nodup_names) _ hrepeated
  | emptyName hdistinct hempty =>
      obtain ⟨label, hlabel, hname⟩ :=
        List.mem_map.mp (hnames.mem_iff.mpr hempty)
      exact set.named label hlabel hname

theorem perm_of_ofLabels (hok : ofLabels labels = .ok set) :
    set.labels.Perm labels := by
  rw [ofLabels] at hok
  split at hok
  · cases hok
  · split at hok
    · cases hok
      exact Label.perm_sortByName labels
    · cases hok

/-- Labels make the set that has just these. -/
theorem ofLabels_eq_ok_iff :
    ofLabels labels = .ok set ↔ set.labels.Perm labels := by
  refine ⟨perm_of_ofLabels, fun hperm => ?_⟩
  cases hmade : ofLabels labels with
  | error cause =>
      exact absurd (unusable_of_ofLabels hmade) (not_unusable_of_perm hperm)
  | ok other => rw [eq_of_perm ((perm_of_ofLabels hmade).trans hperm.symm)]

/-- They are refused for what is wrong with their names. -/
theorem ofLabels_eq_error_iff :
    ofLabels labels = .error cause ↔
      Unusable (labels.map Label.name) cause := by
  refine ⟨unusable_of_ofLabels, fun hunusable => ?_⟩
  cases hmade : ofLabels labels with
  | error other => rw [(unusable_of_ofLabels hmade).unique hunusable]
  | ok set =>
      exact absurd hunusable (not_unusable_of_perm (perm_of_ofLabels hmade))

/-! ## Pairs -/

variable {pairs : List (String × String)}

theorem ofPairs_eq_ok_iff :
    ofPairs pairs = .ok set ↔ set.toPairs.Perm pairs := by
  have hinjective :
      Function.Injective fun label : Label => (label.name, label.value) := by
    rintro ⟨name, value⟩ ⟨otherName, otherValue⟩ hsame
    simpa using hsame
  rw [ofPairs, ofLabels_eq_ok_iff, toPairs, ← List.map_perm_map_iff hinjective,
    List.map_map]
  exact iff_of_eq (congrArg _ (List.map_id' pairs))

theorem ofPairs_eq_error_iff :
    ofPairs pairs = .error cause ↔ Unusable (pairs.map Prod.fst) cause := by
  rw [ofPairs, ofLabels_eq_error_iff, List.map_map]
  rfl

/-- The order of pairs does not matter. -/
theorem ofPairs_eq_of_perm {others : List (String × String)}
    (hperm : pairs.Perm others) : ofPairs pairs = ofPairs others := by
  cases hmade : ofPairs pairs with
  | ok set =>
      rw [ofPairs_eq_ok_iff] at hmade
      exact (ofPairs_eq_ok_iff.mpr (hmade.trans hperm)).symm
  | error cause =>
      rw [ofPairs_eq_error_iff] at hmade
      exact (ofPairs_eq_error_iff.mpr
        (hmade.of_perm (hperm.map Prod.fst))).symm

end LabelSet

end SeriesIndex
