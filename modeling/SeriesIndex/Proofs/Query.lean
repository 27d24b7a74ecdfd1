import Mathlib
import SeriesIndex.Proofs.Store.Consistent

/-!
# Queries against single series

A query works on whole sets of series, stops as soon as a set is empty and takes
the smallest set first.  Its answer is nevertheless the one that is found by
looking at every published series by itself: the series whose label sets every
matcher selects and whose intervals reach into the window.
-/

namespace SeriesIndex

theorem Matcher.agrees_of_isRegex_eq_false {matcher : Matcher}
    (hop : matcher.op.isRegex = false) (value : String) :
    matcher.agrees value = (matcher.value == value) := by
  have hcompiled : matcher.compiled = none := by
    rw [← Option.not_isSome_iff_eq_none, matcher.usable, hop]
    exact Bool.false_ne_true
  rw [agrees, hcompiled]

namespace InvertedIndex

variable {index : InvertedIndex} {triples : Finset Triple}

theorem exists_agrees_iff {matcher : Matcher}
    (hop : matcher.op.isRegex = false) {tsid : Tsid} :
    (∃ value, matcher.agrees value = true ∧
        (matcher.name, value, tsid) ∈ triples) ↔
      (matcher.name, matcher.value, tsid) ∈ triples := by
  simp only [Matcher.agrees_of_isRegex_eq_false hop, beq_iff_eq]
  constructor
  · rintro ⟨value, rfl, hmem⟩
    exact hmem
  · intro hmem
    exact ⟨matcher.value, rfl, hmem⟩

/-- A matcher that leaves no values out selects what has a value that agrees. -/
theorem mem_evaluate_of_positive (hrep : index.Represents triples)
    {matcher : Matcher} (hpositive : matcher.op.isNegative = false)
    {tsid : Tsid} :
    tsid ∈ index.evaluate matcher ↔
      ∃ value, matcher.agrees value = true ∧
        (matcher.name, value, tsid) ∈ triples := by
  cases hop : matcher.op with
  | equal =>
      rw [exists_agrees_iff (by rw [hop]; rfl), ← hrep.mem_postings]
      simp only [evaluate, hop]
  | regex =>
      rw [← mem_unionWhere hrep]
      simp only [evaluate, hop]
  | notEqual => simp [hop, MatchOp.isNegative] at hpositive
  | notRegex => simp [hop, MatchOp.isNegative] at hpositive

/-- A matcher that leaves values out selects what has a value, but none that
agrees. -/
theorem mem_evaluate_of_negative (hrep : index.Represents triples)
    {matcher : Matcher} (hnegative : matcher.op.isNegative = true)
    {tsid : Tsid} :
    tsid ∈ index.evaluate matcher ↔
      (∃ value, (matcher.name, value, tsid) ∈ triples) ∧
        ¬∃ value, matcher.agrees value = true ∧
          (matcher.name, value, tsid) ∈ triples := by
  cases hop : matcher.op with
  | equal => simp [hop, MatchOp.isNegative] at hnegative
  | regex => simp [hop, MatchOp.isNegative] at hnegative
  | notEqual =>
      rw [exists_agrees_iff (by rw [hop]; rfl), ← mem_unionWithout hrep]
      simp only [evaluate, hop]
  | notRegex =>
      rw [← mem_unionExcluding hrep]
      simp only [evaluate, hop]

/-- If a series has one value under a name, every matcher looks at that value
only. -/
theorem mem_evaluate (hrep : index.Represents triples) {matcher : Matcher}
    {tsid : Tsid}
    (hunique : ∀ value other, (matcher.name, value, tsid) ∈ triples →
      (matcher.name, other, tsid) ∈ triples → value = other) :
    tsid ∈ index.evaluate matcher ↔
      ∃ value, (matcher.name, value, tsid) ∈ triples ∧
        matcher.accepts value = true := by
  cases hop : matcher.op.isNegative with
  | false =>
      rw [mem_evaluate_of_positive hrep hop]
      simp only [Matcher.accepts, hop, Bool.bne_false, and_comm]
  | true =>
      rw [mem_evaluate_of_negative hrep hop]
      simp only [Matcher.accepts, hop, Bool.bne_true, Bool.not_eq_true']
      constructor
      · rintro ⟨⟨value, hmem⟩, hnone⟩
        refine ⟨value, hmem, ?_⟩
        by_contra hagrees
        exact hnone ⟨value, by simpa using hagrees, hmem⟩
      · rintro ⟨value, hmem, hagrees⟩
        refine ⟨⟨value, hmem⟩, ?_⟩
        rintro ⟨other, hother, hotherMem⟩
        rw [hunique value other hmem hotherMem, hother] at hagrees
        cases hagrees

/-- If no matcher selects nothing, there is one operand for each. -/
theorem operands?_eq_some {matchers : List Matcher} {operands : List Postings}
    (hsome : index.operands? matchers = some operands) :
    operands = matchers.map index.evaluate := by
  induction matchers generalizing operands with
  | nil =>
      cases hsome
      rfl
  | cons matcher rest ih =>
      rw [operands?] at hsome
      split at hsome
      · cases hsome
      · obtain ⟨others, hothers, rfl⟩ := Option.map_eq_some_iff.mp hsome
        rw [ih hothers, List.map_cons]

theorem operands?_eq_none {matchers : List Matcher}
    (hnone : index.operands? matchers = none) :
    ∃ matcher ∈ matchers, (index.evaluate matcher).isEmpty = true := by
  induction matchers with
  | nil => cases hnone
  | cons matcher rest ih =>
      rw [operands?] at hnone
      split at hnone
      · rename_i hempty
        exact ⟨matcher, List.mem_cons_self, hempty⟩
      · obtain ⟨other, hother, hempty⟩ := ih (Option.map_eq_none_iff.mp hnone)
        exact ⟨other, List.mem_cons_of_mem _ hother, hempty⟩

end InvertedIndex

namespace Store

variable {store : Store} {matchers : List Matcher} {window : Window}

/-- Selecting is intersecting what the matchers select with the published set,
whatever the order and however early it stops. -/
theorem mem_select {tsid : Tsid} :
    tsid ∈ store.select matchers ↔
      tsid ∈ store.catalog.published ∧
        ∀ matcher ∈ matchers, tsid ∈ store.inverted.evaluate matcher := by
  rw [select]
  split
  · rename_i hempty
    rw [List.isEmpty_iff.mp hempty]
    simp
  · rename_i hsome
    have hne : matchers ≠ [] := fun hnil => hsome (List.isEmpty_iff.mpr hnil)
    split
    · rename_i hnone
      obtain ⟨matcher, hmatcher, hempty⟩ :=
        InvertedIndex.operands?_eq_none hnone
      have hout := Postings.eq_empty_of_isEmpty hempty tsid
      constructor
      · intro hmem
        exact absurd hmem Std.ExtTreeSet.not_mem_empty
      · rintro ⟨-, hall⟩
        exact absurd (hall matcher hmatcher) hout
    · rename_i operands hoperands
      have hmap := InvertedIndex.operands?_eq_some hoperands
      subst hmap
      rw [Std.ExtTreeSet.mem_inter_iff,
        Postings.mem_intersection (by simpa using hne), List.forall_mem_map,
        and_comm]

/-- In a consistent store a series has one value under a name. -/
theorem Consistent.holds_unique (hcons : store.Consistent)
    {name value other : String} {tsid : Tsid}
    (hvalue : store.inverted.Holds ⟨name, value⟩ tsid)
    (hother : store.inverted.Holds ⟨name, other⟩ tsid) : value = other := by
  obtain ⟨series, hseries, hlabel⟩ := hcons.held _ tsid hvalue
  obtain ⟨found, hfound, hotherLabel⟩ := hcons.held _ tsid hother
  rw [hseries] at hfound
  cases hfound
  exact congrArg Label.value (LabelSet.eq_of_name_eq hlabel hotherLabel rfl)

/-- A matcher selects what is held under a value that it accepts. -/
theorem Consistent.mem_evaluate (hcons : store.Consistent) {matcher : Matcher}
    {tsid : Tsid} :
    tsid ∈ store.inverted.evaluate matcher ↔
      ∃ value, store.inverted.Holds ⟨matcher.name, value⟩ tsid ∧
        matcher.accepts value = true := by
  obtain ⟨triples, hrep⟩ := hcons.represented
  simp only [hrep.holds_iff]
  apply InvertedIndex.mem_evaluate hrep
  intro value other hvalue hother
  exact hcons.holds_unique (hrep.holds_iff.mpr hvalue)
    (hrep.holds_iff.mpr hother)

/-- What a matcher selects, published or not, is a stored series whose label
set it selects. -/
theorem Consistent.selects_of_mem_evaluate (hcons : store.Consistent)
    {matcher : Matcher} {tsid : Tsid}
    (hmem : tsid ∈ store.inverted.evaluate matcher) :
    ∃ series, store.catalog.series? tsid = some series ∧
      matcher.Selects series.labels := by
  obtain ⟨value, hheld, haccepts⟩ := hcons.mem_evaluate.mp hmem
  obtain ⟨series, hseries, hlabel⟩ := hcons.held _ tsid hheld
  exact ⟨series, hseries, Matcher.selects_iff_mem.mpr ⟨value, hlabel, haccepts⟩⟩

/-- A published series is selected by every matcher that selects its label
set. -/
theorem Consistent.mem_evaluate_of_selects (hcons : store.Consistent)
    {matcher : Matcher} {tsid : Tsid} {series : Series}
    (hpublished : tsid ∈ store.catalog.published)
    (hseries : store.catalog.series? tsid = some series)
    (hselects : matcher.Selects series.labels) :
    tsid ∈ store.inverted.evaluate matcher := by
  obtain ⟨value, hlabel, haccepts⟩ := Matcher.selects_iff_mem.mp hselects
  obtain ⟨found, hfound, hheld⟩ := hcons.published_held tsid hpublished
  rw [hseries] at hfound
  cases hfound
  exact hcons.mem_evaluate.mpr ⟨value, hheld _ hlabel, haccepts⟩

/-- A stored series that every matcher selects. -/
def Selected (store : Store) (matchers : List Matcher) (tsid : Tsid) : Prop :=
  ∃ series, store.catalog.series? tsid = some series ∧
    ∀ matcher ∈ matchers, matcher.Selects series.labels

/-- A query selects the published series that all matchers select. -/
theorem Consistent.mem_select (hcons : store.Consistent) {tsid : Tsid} :
    tsid ∈ store.select matchers ↔
      tsid ∈ store.catalog.published ∧ store.Selected matchers tsid := by
  rw [Store.mem_select]
  apply and_congr_right
  intro hpublished
  obtain ⟨series, hseries, -⟩ := hcons.published_held tsid hpublished
  constructor
  · intro hall
    refine ⟨series, hseries, fun matcher hmatcher => ?_⟩
    obtain ⟨found, hfound, hselects⟩ :=
      hcons.selects_of_mem_evaluate (hall matcher hmatcher)
    rw [hseries] at hfound
    cases hfound
    exact hselects
  · rintro ⟨found, hfound, hselects⟩ matcher hmatcher
    exact hcons.mem_evaluate_of_selects hpublished hfound
      (hselects matcher hmatcher)

/-! ## Answers -/

theorem mapM_fetch_eq_ok {tsids : List Tsid}
    (hstored : ∀ tsid ∈ tsids, ∃ series,
      store.catalog.series? tsid = some series) :
    tsids.mapM store.fetch = .ok (tsids.filterMap store.catalog.series?) := by
  induction tsids with
  | nil => rfl
  | cons tsid rest ih =>
      obtain ⟨series, hseries⟩ := hstored tsid List.mem_cons_self
      have hfetch : store.fetch tsid = .ok series := by
        simp [fetch, hseries]
      have hrest := ih fun other hother =>
        hstored other (List.mem_cons_of_mem _ hother)
      rw [List.mapM_cons, hfetch, hrest, List.filterMap_cons_some hseries]
      rfl

/-- The series that answer a query, if nothing is missing. -/
def answers (store : Store) (matchers : List Matcher) (window : Window) :
    List Series :=
  ((store.select matchers).toList.filterMap store.catalog.series?).filter
    fun series => series.activity.overlaps window

end Store

/-- Every published number is that of a stored series. -/
def Catalog.Backed (catalog : Catalog) : Prop :=
  ∀ tsid ∈ catalog.published,
    ∃ series, catalog.series? tsid = some series ∧ series.tsid = tsid

-- Nothing else is needed for an answer: the inverted index may say what it
-- will.

namespace Catalog.Backed

variable {store : Store}

theorem resolveSeries_eq (hbacked : store.catalog.Backed)
    (matchers : List Matcher) (window : Window) :
    store.resolveSeries matchers window =
      .ok (store.answers matchers window) := by
  have hstored : ∀ tsid ∈ (store.select matchers).toList,
      ∃ series, store.catalog.series? tsid = some series := by
    intro tsid htsid
    have hselected := Std.ExtTreeSet.mem_toList.mp htsid
    obtain ⟨series, hseries, -⟩ :=
      hbacked tsid (Store.mem_select.mp hselected).1
    exact ⟨series, hseries⟩
  rw [Store.resolveSeries, Store.mapM_fetch_eq_ok hstored]
  rfl

theorem resolve_eq (hbacked : store.catalog.Backed)
    (matchers : List Matcher) (window : Window) :
    store.resolve matchers window =
      .ok ((store.answers matchers window).map Series.tsid) := by
  rw [Store.resolve, hbacked.resolveSeries_eq]
  rfl

theorem map_tsid_select (hbacked : store.catalog.Backed)
    (matchers : List Matcher) :
    ((store.select matchers).toList.filterMap store.catalog.series?).map
        Series.tsid = (store.select matchers).toList := by
  have hall : ∀ tsid ∈ (store.select matchers).toList,
      (store.catalog.series? tsid).map Series.tsid = some tsid := by
    intro tsid htsid
    have hselected := Std.ExtTreeSet.mem_toList.mp htsid
    obtain ⟨series, hseries, hsame⟩ :=
      hbacked tsid (Store.mem_select.mp hselected).1
    rw [hseries, Option.map_some, hsame]
  rw [List.map_filterMap]
  exact (List.filterMap_congr hall).trans List.filterMap_some

/-- A query answers in ascending order. -/
theorem answers_ascending (hbacked : store.catalog.Backed)
    (matchers : List Matcher) (window : Window) :
    ((store.answers matchers window).map Series.tsid).Pairwise (· < ·) := by
  have hsub : ((store.answers matchers window).map Series.tsid).Sublist
      (store.select matchers).toList := by
    rw [← hbacked.map_tsid_select matchers]
    exact List.Sublist.map Series.tsid List.filter_sublist
  exact (Postings.toList_ascending _).sublist hsub

/-- A series answers if it is the stored one of a selected number, and active in
the window. -/
theorem mem_answers_iff (hbacked : store.catalog.Backed)
    {matchers : List Matcher} {window : Window} {series : Series} :
    series ∈ store.answers matchers window ↔
      series.tsid ∈ store.select matchers ∧
        store.catalog.series? series.tsid = some series ∧
        series.activity.overlaps window = true := by
  simp only [Store.answers, List.mem_filter, List.mem_filterMap,
    Std.ExtTreeSet.mem_toList]
  constructor
  · rintro ⟨⟨tsid, hselected, hseries⟩, hoverlaps⟩
    obtain ⟨found, hfound, hsame⟩ :=
      hbacked tsid (Store.mem_select.mp hselected).1
    rw [hseries] at hfound
    cases hfound
    rw [hsame]
    exact ⟨hselected, hseries, hoverlaps⟩
  · rintro ⟨hselected, hseries, hoverlaps⟩
    exact ⟨⟨series.tsid, hselected, hseries⟩, hoverlaps⟩

end Catalog.Backed

namespace Store

variable {store : Store} {matchers : List Matcher} {window : Window}

theorem Consistent.backed (hcons : store.Consistent) :
    store.catalog.Backed := by
  intro tsid hpublished
  obtain ⟨series, hseries, -⟩ := hcons.published_held tsid hpublished
  exact ⟨series, hseries, hcons.tsid_eq tsid series hseries⟩

theorem Consistent.resolveSeries_eq (hcons : store.Consistent)
    (matchers : List Matcher) (window : Window) :
    store.resolveSeries matchers window =
      .ok (store.answers matchers window) :=
  hcons.backed.resolveSeries_eq matchers window

theorem Consistent.resolve_eq (hcons : store.Consistent)
    (matchers : List Matcher) (window : Window) :
    store.resolve matchers window =
      .ok ((store.answers matchers window).map Series.tsid) :=
  hcons.backed.resolve_eq matchers window

theorem Consistent.answers_ascending (hcons : store.Consistent)
    (matchers : List Matcher) (window : Window) :
    ((store.answers matchers window).map Series.tsid).Pairwise (· < ·) :=
  hcons.backed.answers_ascending matchers window

/-- A published series that every matcher selects, and whose interval reaches
into the window. -/
def Answering (store : Store) (matchers : List Matcher) (window : Window)
    (tsid : Tsid) : Prop :=
  tsid ∈ store.catalog.published ∧
    ∃ series, store.catalog.series? tsid = some series ∧
      (∀ matcher ∈ matchers, matcher.Selects series.labels) ∧
      series.activity.overlaps window = true

/-- A query answers with exactly the series that are to answer it. -/
theorem Consistent.mem_answers (hcons : store.Consistent) {tsid : Tsid} :
    tsid ∈ (store.answers matchers window).map Series.tsid ↔
      store.Answering matchers window tsid := by
  simp only [List.mem_map, hcons.backed.mem_answers_iff, hcons.mem_select]
  constructor
  · rintro ⟨series, ⟨⟨hpublished, found, hfound, hselects⟩, hseries,
      hoverlaps⟩, rfl⟩
    rw [hseries] at hfound
    cases hfound
    exact ⟨hpublished, series, hseries, hselects, hoverlaps⟩
  · rintro ⟨hpublished, series, hseries, hselects, hoverlaps⟩
    obtain rfl := hcons.tsid_eq tsid series hseries
    exact ⟨series, ⟨⟨hpublished, series, hseries, hselects⟩, hseries,
      hoverlaps⟩, rfl⟩

/-- What is selected is found as well by looking at every published series. -/
theorem Consistent.toList_select (hcons : store.Consistent)
    (matchers : List Matcher) :
    (store.select matchers).toList =
      store.catalog.published.toList.filter fun tsid =>
        (store.catalog.series? tsid).any fun series =>
          decide (∀ matcher ∈ matchers, matcher.Selects series.labels) := by
  apply (Postings.toList_ascending _).eq_of_mem_iff
    ((Postings.toList_ascending _).filter _)
  intro tsid
  simp only [Std.ExtTreeSet.mem_toList, hcons.mem_select, Selected,
    List.mem_filter, Option.any_eq_true, decide_eq_true_eq]

/-- So is the answer, series by series. -/
theorem Consistent.answers_eq_filter (hcons : store.Consistent)
    (matchers : List Matcher) (window : Window) :
    store.answers matchers window =
      (store.catalog.published.toList.filterMap store.catalog.series?).filter
        fun series =>
          decide (∀ matcher ∈ matchers, matcher.Selects series.labels) &&
            series.activity.overlaps window := by
  rw [answers, hcons.toList_select, List.filterMap_filter,
    List.filter_filterMap, List.filter_filterMap]
  apply List.filterMap_congr
  intro tsid _
  cases hseries : store.catalog.series? tsid with
  | none => simp
  | some series =>
      rw [Option.any_some, Option.filter_some]
      cases decide (∀ matcher ∈ matchers, matcher.Selects series.labels) with
      | false => rfl
      | true => rfl

end Store

end SeriesIndex
