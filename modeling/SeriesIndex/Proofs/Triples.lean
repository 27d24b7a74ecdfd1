import Mathlib
import SeriesIndex.Proofs.Postings
import SeriesIndex.Proofs.Striped

/-!
# The inverted index as a set of triples

An inverted index is nothing but a finite set of triples: a label name, a value
and the number of a series.  `Represents` ties the stripes, the maps of values,
the unions and the three counters to such a set, and every insertion adds one
triple to it.  All that a reader of the index can see is then a statement about
the set.
-/

namespace SeriesIndex

abbrev Triple := String × String × Tsid

/-- A counter that grows exactly when an element is new counts the set with
that element. -/
theorem card_insert_eq_add {α : Type} [DecidableEq α] (set : Finset α)
    (element : α) {isNew : Bool} (hnew : isNew = true ↔ element ∉ set) :
    (insert element set).card = set.card + isNew.toNat := by
  rw [Finset.card_insert_eq_ite]
  cases isNew with
  | true => rw [if_neg (hnew.mp rfl)]; rfl
  | false => rw [if_pos (by simpa using hnew)]; rfl

namespace InvertedIndex

/-- The index holds exactly the given triples, in the postings as well as in
the unions, has no entry without a series, and its counters count the names,
the pairs and the triples. -/
structure Represents (index : InvertedIndex) (triples : Finset Triple) :
    Prop where
  placed : index.names.Placed nameHash
  mem_postings : ∀ name value tsid,
    tsid ∈ index.postings name value ↔ (name, value, tsid) ∈ triples
  mem_union : ∀ name tsid,
    tsid ∈ index.union name ↔ ∃ value, (name, value, tsid) ∈ triples
  isSome_postings? : ∀ name value,
    (index.postings? name value).isSome ↔ ∃ tsid, (name, value, tsid) ∈ triples
  isSome_named? : ∀ name,
    (index.named? name).isSome ↔ ∃ value tsid, (name, value, tsid) ∈ triples
  nameCount : index.nameCount = (triples.image fun triple => triple.1).card
  pairCount :
    index.pairCount = (triples.image fun triple => (triple.1, triple.2.1)).card
  insertionCount : index.insertionCount = triples.card

@[simp]
theorem named?_empty (stripes : Nat) (name : String) :
    (empty stripes).named? name = none := by
  simp [empty, named?]

theorem represents_empty (stripes : Nat) : (empty stripes).Represents ∅ where
  placed := Striped.placed_replicate nameHash stripes
  mem_postings := by simp [postings, postings?]
  mem_union := by simp [union]
  isSome_postings? := by simp [postings?]
  isSome_named? := by simp
  nameCount := by simp [empty]
  pairCount := by simp [empty]
  insertionCount := by simp [empty]

/-! ## Insertion -/

theorem union_insert (index : InvertedIndex) (name value other : String)
    (tsid : Tsid) :
    (index.insert name value tsid).2.union other =
      if name = other then (index.union name).insert tsid
      else index.union other := by
  rw [union, named?_insert]
  by_cases hname : name = other
  · subst hname
    cases hnamed : index.named? name <;> simp [union, hnamed, NameEntry.insert]
  · simp [union, hname]

theorem isSome_postings?_insert (index : InvertedIndex)
    (name value other otherValue : String) (tsid : Tsid) :
    ((index.insert name value tsid).2.postings? other otherValue).isSome ↔
      (name = other ∧ value = otherValue) ∨
        (index.postings? other otherValue).isSome := by
  rw [postings?, named?_insert]
  by_cases hname : name = other
  · subst hname
    by_cases hvalue : value = otherValue
    · subst hvalue
      simp [NameEntry.getElem?_values_insert]
    · cases hnamed : index.named? name <;>
        simp [postings?, hnamed, hvalue, NameEntry.getElem?_values_insert]
  · simp [postings?, hname]

theorem isSome_named?_insert (index : InvertedIndex)
    (name value other : String) (tsid : Tsid) :
    ((index.insert name value tsid).2.named? other).isSome ↔
      name = other ∨ (index.named? other).isSome := by
  rw [named?_insert]
  by_cases hname : name = other
  · simp [hname]
  · simp [hname]

theorem placed_insert {index : InvertedIndex}
    (hplaced : index.names.Placed nameHash) (name value : String)
    (tsid : Tsid) :
    (index.insert name value tsid).2.names.Placed nameHash := by
  apply hplaced.modify name
  intro entries other hother
  rw [Std.ExtTreeMap.mem_alter] at hother
  by_cases hname : name = other
  · exact .inl hname.symm
  · have hcompare : compare name other ≠ .eq := by
      rwa [ne_eq, Std.LawfulEqCmp.compare_eq_iff_eq]
    exact .inr (by simpa [hcompare] using hother)

theorem size_names_insert (index : InvertedIndex) (name value : String)
    (tsid : Tsid) :
    (index.insert name value tsid).2.names.size = index.names.size :=
  Striped.size_modify _ _ _

/-- An insertion adds its triple and nothing else. -/
theorem Represents.insert {index : InvertedIndex} {triples : Finset Triple}
    (hrep : index.Represents triples) (name value : String) (tsid : Tsid) :
    (index.insert name value tsid).2.Represents
      (Insert.insert (name, value, tsid) triples) where
  placed := placed_insert hrep.placed name value tsid
  mem_postings other otherValue otherTsid := by
    rw [postings_insert, Finset.mem_insert, ← hrep.mem_postings]
    by_cases hsame : name = other ∧ value = otherValue
    · obtain ⟨rfl, rfl⟩ := hsame
      rw [if_pos ⟨rfl, rfl⟩, Std.ExtTreeSet.mem_insert,
        Std.LawfulEqCmp.compare_eq_iff_eq]
      simp [eq_comm]
    · rw [if_neg hsame]
      have hne : (other, otherValue, otherTsid) ≠ (name, value, tsid) := by
        rintro heq
        simp only [Prod.mk.injEq] at heq
        exact hsame ⟨heq.1.symm, heq.2.1.symm⟩
      simp [hne]
  mem_union other otherTsid := by
    rw [union_insert]
    by_cases hname : name = other
    · subst hname
      rw [if_pos rfl, Std.ExtTreeSet.mem_insert, hrep.mem_union,
        Std.LawfulEqCmp.compare_eq_iff_eq]
      simp only [Finset.mem_insert, Prod.mk.injEq, true_and, exists_or,
        exists_eq_left, eq_comm (a := tsid)]
    · rw [if_neg hname, hrep.mem_union]
      simp [Ne.symm hname]
  isSome_postings? other otherValue := by
    rw [isSome_postings?_insert, hrep.isSome_postings?]
    simp [exists_or, eq_comm (a := other), eq_comm (a := otherValue)]
  isSome_named? other := by
    rw [isSome_named?_insert, hrep.isSome_named?]
    simp [exists_or, eq_comm]
  nameCount := by
    have hnew : (index.named? name).isNone = true ↔
        name ∉ triples.image fun triple => triple.1 := by
      rw [← Option.not_isSome, Bool.not_eq_true', ← Bool.not_eq_true,
        hrep.isSome_named?]
      simp
    rw [Finset.image_insert, card_insert_eq_add _ _ hnew, ← hrep.nameCount]
    rfl
  pairCount := by
    have hnew : (index.postings? name value).isNone = true ↔
        (name, value) ∉ triples.image fun triple => (triple.1, triple.2.1) := by
      rw [← Option.not_isSome, Bool.not_eq_true', ← Bool.not_eq_true,
        hrep.isSome_postings?]
      simp
    rw [Finset.image_insert, card_insert_eq_add _ _ hnew, ← hrep.pairCount]
    rfl
  insertionCount := by
    have hnew : (!(index.postings name value).contains tsid) = true ↔
        (name, value, tsid) ∉ triples := by
      rw [← hrep.mem_postings, Bool.not_eq_true', ← Bool.not_eq_true]
      rfl
    rw [card_insert_eq_add _ _ hnew, ← hrep.insertionCount]
    rfl

/-! ## Uniqueness -/

/-- Options are equal if they hold a value at the same time, and then the same
one. -/
theorem option_eq_of_isSome_iff {α : Type} {left right : Option α}
    (hsome : left.isSome ↔ right.isSome)
    (hsame : ∀ a b, left = some a → right = some b → a = b) :
    left = right := by
  cases left with
  | none =>
      cases right with
      | none => rfl
      | some b => simp at hsome
  | some a =>
      cases right with
      | none => simp at hsome
      | some b => exact congrArg some (hsame a b rfl rfl)

section Uniqueness

variable {left right : InvertedIndex} {triples : Finset Triple}

theorem Represents.postings?_eq (hleft : left.Represents triples)
    (hright : right.Represents triples) (name value : String) :
    left.postings? name value = right.postings? name value := by
  apply option_eq_of_isSome_iff
  · rw [hleft.isSome_postings?, hright.isSome_postings?]
  · intro postings others hpostings hothers
    apply Std.ExtTreeSet.ext_mem
    intro tsid
    have hmem := (hleft.mem_postings name value tsid).trans
      (hright.mem_postings name value tsid).symm
    simpa [InvertedIndex.postings, hpostings, hothers] using hmem

theorem Represents.named?_eq (hleft : left.Represents triples)
    (hright : right.Represents triples) (name : String) :
    left.named? name = right.named? name := by
  apply option_eq_of_isSome_iff
  · rw [hleft.isSome_named?, hright.isSome_named?]
  · intro entry other hentry hother
    have hvalues : entry.values = other.values := by
      apply Std.ExtTreeMap.ext_getElem?
      intro value
      have hsame := hleft.postings?_eq hright name value
      simpa [postings?, hentry, hother] using hsame
    have hunion : entry.union = other.union := by
      apply Std.ExtTreeSet.ext_mem
      intro tsid
      have hmem := (hleft.mem_union name tsid).trans
        (hright.mem_union name tsid).symm
      simpa [union, hentry, hother] using hmem
    cases entry
    cases other
    rw [NameEntry.mk.injEq]
    exact ⟨hvalues, hunion⟩

/-- A set of triples has one index with a given number of stripes. -/
theorem Represents.eq (hleft : left.Represents triples)
    (hright : right.Represents triples)
    (hsize : left.names.size = right.names.size) : left = right := by
  have hnames : left.names = right.names :=
    hleft.placed.ext hright.placed hsize (hleft.named?_eq hright)
  have hnameCount := hleft.nameCount.trans hright.nameCount.symm
  have hpairCount := hleft.pairCount.trans hright.pairCount.symm
  have hinsertionCount := hleft.insertionCount.trans hright.insertionCount.symm
  cases left
  cases right
  rw [mk.injEq]
  exact ⟨hnames, hnameCount, hpairCount, hinsertionCount⟩

end Uniqueness

/-! ## What readers see -/

section Readers

variable {index : InvertedIndex} {triples : Finset Triple}

theorem mem_values (hrep : index.Represents triples) {name value : String} :
    value ∈ index.values name ↔ ∃ tsid, (name, value, tsid) ∈ triples := by
  rw [← hrep.isSome_postings?, values, postings?]
  cases index.named? name with
  | none => simp
  | some entry => simp

/-- Values are listed in ascending order, each of them once. -/
theorem values_ascending (index : InvertedIndex) (name : String) :
    (index.values name).Pairwise (· < ·) := by
  rw [values]
  cases index.named? name with
  | none => simp
  | some entry =>
      refine Std.ExtTreeMap.ordered_keys.imp fun hless => ?_
      exact compare_lt_iff_lt.mp hless

theorem mem_labelNames (hrep : index.Represents triples) {name : String} :
    name ∈ index.labelNames ↔ ∃ value tsid, (name, value, tsid) ∈ triples := by
  rw [labelNames, List.mem_mergeSort, ← hrep.isSome_named?, named?,
    ← Std.ExtTreeMap.mem_iff_isSome_getElem?]
  exact Striped.mem_keys hrep.placed

/-- Label names are listed in ascending order, each of them once, although
they come from several stripes. -/
theorem labelNames_ascending (hrep : index.Represents triples) :
    index.labelNames.Pairwise (· < ·) := by
  have hsorted : index.labelNames.Pairwise (· ≤ ·) := by
    refine (List.pairwise_mergeSort ?_ ?_ _).imp of_decide_eq_true
    · intro a b c hab hbc
      exact decide_eq_true
        (String.le_trans (of_decide_eq_true hab) (of_decide_eq_true hbc))
    · intro a b
      rcases String.le_total a b with hle | hle <;> simp [hle]
  have hnodup : index.labelNames.Nodup :=
    (List.mergeSort_perm _ _).nodup_iff.mpr (Striped.nodup_keys hrep.placed)
  exact hsorted.imp₂ (fun a b hle hne => lt_of_le_of_ne hle hne) hnodup

theorem NameEntry.mem_unionWhere {entry : NameEntry} {select : String → Bool}
    {tsid : Tsid} :
    tsid ∈ entry.unionWhere select ↔
      ∃ value postings, entry.values[value]? = some postings ∧
        select value = true ∧ tsid ∈ postings := by
  have hfold : ∀ (list : List (String × Postings)) (union : Postings),
      tsid ∈ list.foldl (fun union pair =>
          if select pair.1 then union ∪ pair.2 else union) union ↔
        tsid ∈ union ∨ ∃ pair ∈ list, select pair.1 = true ∧ tsid ∈ pair.2 := by
    intro list
    induction list with
    | nil => simp
    | cons pair rest ih =>
        intro union
        rw [List.foldl_cons, ih]
        by_cases hselect : select pair.1 = true
        · simp [hselect, Std.ExtTreeSet.mem_union_iff, or_assoc]
        · simp [hselect]
  rw [NameEntry.unionWhere, Std.ExtTreeMap.foldl_eq_foldl_toList, hfold]
  simp [Std.ExtTreeMap.mem_toList_iff_getElem?_eq_some]

theorem mem_unionWhere (hrep : index.Represents triples) {name : String}
    {select : String → Bool} {tsid : Tsid} :
    tsid ∈ index.unionWhere name select ↔
      ∃ value, select value = true ∧ (name, value, tsid) ∈ triples := by
  simp only [← hrep.mem_postings, postings, postings?, unionWhere]
  cases index.named? name with
  | none => simp
  | some entry =>
      simp only [Option.map_some, Option.getD_some, Option.bind_some,
        NameEntry.mem_unionWhere]
      constructor
      · rintro ⟨value, postings, hpostings, hselect, hmem⟩
        exact ⟨value, hselect, by simpa [hpostings] using hmem⟩
      · rintro ⟨value, hselect, hmem⟩
        cases hpostings : entry.values[value]? with
        | none => simp [hpostings] at hmem
        | some postings =>
            exact ⟨value, postings, hpostings, hselect,
              by simpa [hpostings] using hmem⟩

theorem unionExcluding_eq (index : InvertedIndex) (name : String)
    (select : String → Bool) :
    index.unionExcluding name select =
      index.union name \ index.unionWhere name select := by
  rw [unionExcluding, union, unionWhere]
  cases index.named? name with
  | none => rfl
  | some entry => rfl

theorem mem_unionExcluding (hrep : index.Represents triples) {name : String}
    {select : String → Bool} {tsid : Tsid} :
    tsid ∈ index.unionExcluding name select ↔
      (∃ value, (name, value, tsid) ∈ triples) ∧
        ¬∃ value, select value = true ∧ (name, value, tsid) ∈ triples := by
  rw [unionExcluding_eq, Std.ExtTreeSet.mem_diff_iff, hrep.mem_union,
    mem_unionWhere hrep]

theorem mem_unionWithout (hrep : index.Represents triples)
    {name value : String} {tsid : Tsid} :
    tsid ∈ index.unionWithout name value ↔
      (∃ other, (name, other, tsid) ∈ triples) ∧
        (name, value, tsid) ∉ triples := by
  rw [← hrep.mem_union, ← hrep.mem_postings, unionWithout, union, postings,
    postings?]
  cases index.named? name with
  | none => simp
  | some entry =>
      cases hvalue : entry.values[value]? with
      | none => simp [hvalue]
      | some postings => simp [hvalue, Std.ExtTreeSet.mem_diff_iff]

end Readers

end InvertedIndex

end SeriesIndex
