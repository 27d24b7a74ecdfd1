import SeriesIndex.Proofs.Insertions
import SeriesIndex.Proofs.Query

/-!
# Matchers and their negations

Each operator asks the inverted index another question.  The answers fit
together nevertheless: a matcher and its negation divide the series that carry
the matcher's name, whatever was inserted, so that not even a series with
several values under one name is lost between the two or found by both.  A
pattern finds what its values find one by one, and to leave a value out is to
take away what it finds.
-/

namespace SeriesIndex

/-! ## Matchers for one value -/

/-- The matcher that selects one value, under the name of another matcher. -/
def Matcher.exactly (matcher : Matcher) (value : String) : Matcher where
  op := .equal
  name := matcher.name
  value := value
  compiled := none
  named := matcher.named
  compiled_eq := rfl
  usable := rfl

theorem Matcher.build_equal (limits : Pattern.Limits) (matcher : Matcher)
    (value : String) :
    build limits .equal matcher.name value = .ok (matcher.exactly value) := by
  rw [build, dif_neg matcher.named]
  rfl

theorem Matcher.build_notEqual (limits : Pattern.Limits) (matcher : Matcher)
    (value : String) :
    build limits .notEqual matcher.name value =
      .ok (matcher.exactly value).negate := by
  rw [build, dif_neg matcher.named]
  rfl

namespace InvertedIndex

variable {index : InvertedIndex} {triples : Finset Triple} {matcher : Matcher}

/-! ## Negation -/

/-- The negation selects what has the name and is not selected. -/
theorem mem_evaluate_negate (hrep : index.Represents triples) {tsid : Tsid} :
    tsid ∈ index.evaluate matcher.negate ↔
      tsid ∈ index.union matcher.name ∧ tsid ∉ index.evaluate matcher := by
  have hnegate : matcher.negate.op.isNegative = !matcher.op.isNegative :=
    matcher.op.isNegative_negate
  rw [hrep.mem_union]
  -- One of the two leaves values out, and both agree with the same values.
  cases hop : matcher.op.isNegative with
  | false =>
      rw [hop] at hnegate
      rw [mem_evaluate_of_negative hrep hnegate,
        mem_evaluate_of_positive hrep hop]
      exact Iff.rfl
  | true =>
      rw [hop] at hnegate
      rw [mem_evaluate_of_positive hrep hnegate,
        mem_evaluate_of_negative hrep hop]
      constructor
      · rintro ⟨value, hagrees, hmem⟩
        exact ⟨⟨value, hmem⟩, fun hout => hout.2 ⟨value, hagrees, hmem⟩⟩
      · rintro ⟨hnamed, hout⟩
        by_contra hnone
        exact hout ⟨hnamed, hnone⟩

/-- Whatever a matcher selects has the matcher's name. -/
theorem mem_union_of_mem_evaluate (hrep : index.Represents triples)
    {tsid : Tsid} (hmem : tsid ∈ index.evaluate matcher) :
    tsid ∈ index.union matcher.name := by
  rw [← matcher.negate_negate, mem_evaluate_negate hrep] at hmem
  exact hmem.1

/-! ## Value by value -/

/-- What the matchers for some values select together. -/
def evaluateEach (index : InvertedIndex) (matcher : Matcher)
    (values : List String) : Postings :=
  values.foldl
    (fun found value => found ∪ index.evaluate (matcher.exactly value)) ∅

theorem mem_evaluateEach {values : List String} {tsid : Tsid} :
    tsid ∈ index.evaluateEach matcher values ↔
      ∃ value ∈ values, tsid ∈ index.evaluate (matcher.exactly value) := by
  rw [evaluateEach, Postings.mem_foldl_union]
  simp

/-- A matcher that leaves no values out selects what the values it accepts
select, of those that there are. -/
theorem evaluate_eq_evaluateEach (hrep : index.Represents triples)
    (hpositive : matcher.op.isNegative = false) :
    index.evaluate matcher =
      index.evaluateEach matcher
        ((index.values matcher.name).filter matcher.accepts) := by
  have haccepts : matcher.accepts = matcher.agrees := by
    funext value
    rw [Matcher.accepts, hpositive, Bool.bne_false]
  apply Std.ExtTreeSet.ext_mem
  intro tsid
  rw [mem_evaluate_of_positive hrep hpositive, mem_evaluateEach, haccepts]
  constructor
  · rintro ⟨value, hagrees, hmem⟩
    refine ⟨value, List.mem_filter.mpr ⟨?_, hagrees⟩, ?_⟩
    · exact (mem_values hrep).mpr ⟨tsid, hmem⟩
    · exact (hrep.mem_postings matcher.name value tsid).mpr hmem
  · rintro ⟨value, hvalue, hmem⟩
    exact ⟨value, (List.mem_filter.mp hvalue).2,
      (hrep.mem_postings matcher.name value tsid).mp hmem⟩

/-! ## The partition -/

/-- What the matchers under the name of a matcher select, for the index that
holds the given triples. -/
structure Partitions (index : InvertedIndex) (triples : Finset Triple)
    (matcher : Matcher) : Prop where
  mem_union : ∀ tsid, tsid ∈ index.union matcher.name ↔
    ∃ value, (matcher.name, value, tsid) ∈ triples
  disjoint : index.evaluate matcher ∩ index.evaluate matcher.negate = ∅
  union_eq : index.evaluate matcher ∪ index.evaluate matcher.negate =
    index.union matcher.name
  regex : matcher.op = .regex →
    index.evaluate matcher = index.evaluateEach matcher
      ((index.values matcher.name).filter matcher.accepts)
  build_equal : ∀ limits value,
    Matcher.build limits .equal matcher.name value =
      .ok (matcher.exactly value)
  build_notEqual : ∀ limits value,
    Matcher.build limits .notEqual matcher.name value =
      .ok (matcher.exactly value).negate
  notEqual : ∀ value,
    index.evaluate (matcher.exactly value).negate =
      index.union matcher.name \ index.evaluate (matcher.exactly value)

/-- A matcher and its negation divide what has the label between them. -/
theorem Represents.partitions (hrep : index.Represents triples)
    (matcher : Matcher) : index.Partitions triples matcher where
  mem_union := hrep.mem_union matcher.name
  disjoint := by
    rw [Std.ExtTreeSet.eq_empty_iff_forall_not_mem]
    intro tsid
    rw [Std.ExtTreeSet.mem_inter_iff, mem_evaluate_negate hrep]
    rintro ⟨hmem, -, hout⟩
    exact hout hmem
  union_eq := by
    apply Std.ExtTreeSet.ext_mem
    intro tsid
    rw [Std.ExtTreeSet.mem_union_iff, mem_evaluate_negate hrep]
    constructor
    · rintro (hmem | ⟨hnamed, -⟩)
      · exact mem_union_of_mem_evaluate hrep hmem
      · exact hnamed
    · intro hnamed
      by_cases hmem : tsid ∈ index.evaluate matcher
      · exact .inl hmem
      · exact .inr ⟨hnamed, hmem⟩
  regex := by
    intro hop
    apply evaluate_eq_evaluateEach hrep
    rw [hop]
    rfl
  build_equal limits value := matcher.build_equal limits value
  build_notEqual limits value := matcher.build_notEqual limits value
  notEqual value := by
    apply Std.ExtTreeSet.ext_mem
    intro tsid
    rw [mem_evaluate_negate hrep, Std.ExtTreeSet.mem_diff_iff]
    exact Iff.rfl

theorem Represents.union_eq_empty_iff (hrep : index.Represents triples)
    (name : String) :
    index.union name = ∅ ↔ ∀ value tsid, (name, value, tsid) ∉ triples := by
  simp only [Std.ExtTreeSet.eq_empty_iff_forall_not_mem, hrep.mem_union,
    not_exists]
  exact forall_comm

/-- Whatever is put into an index, a matcher and its negation are a partition of
the series that carry the matcher's name; none carry a name that was not put
in. -/
theorem putAll_partitions (stripes : Nat) (insertions : List Insertion) :
    (∀ name, ((empty stripes).putAll insertions).union name = ∅ ↔
        ∀ value tsid, (name, value, tsid) ∉ inserted insertions) ∧
      ∀ matcher, ((empty stripes).putAll insertions).Partitions
        (inserted insertions) matcher := by
  have hrep := represents_putAll stripes insertions
  exact ⟨hrep.union_eq_empty_iff, hrep.partitions⟩

end InvertedIndex

end SeriesIndex
