import SeriesIndex.Index
import SeriesIndex.Proofs.HostMatcher

/-!
# Equality of matchers

Matchers are compared by operator, name and value, and a negation changes the
operator alone; neither looks at the compiled pattern, by which values are
matched.  This is sound because the compiled pattern follows from the value:
however a matcher was made, under whatever limits, and however often it was
negated, it carries what its own value is compiled to if its operator asks for a
pattern, and nothing otherwise.
-/

namespace SeriesIndex

/-- A pattern is compiled to the same under all limits that let it pass. -/
theorem Pattern.compile_unique {limits others : Limits} {pattern : String}
    {regex other : Regex} (hregex : compile limits pattern = .ok regex)
    (hother : compile others pattern = .ok other) : regex = other := by
  have hsame := regexOf?_eq_some_of_compile hregex
  rw [regexOf?_eq_some_of_compile hother] at hsame
  exact (Option.some.inj hsame).symm

namespace Matcher

variable {limits others : Pattern.Limits} {matcher left right : Matcher}

/-! ## Building again -/

/-- Building with the negated operator is negating what is built. -/
theorem build_negate (limits : Pattern.Limits) (op : MatchOp)
    (name value : String) :
    build limits op.negate name value =
      (build limits op name value).map negate := by
  by_cases hname : name = ""
  · rw [build, build, dif_pos hname, dif_pos hname]
    rfl
  · rw [build, build, dif_neg hname, dif_neg hname]
    by_cases hregex : op.isRegex = true
    · have hnegate : op.negate.isRegex = true := by
        rw [MatchOp.isRegex_negate, hregex]
      rw [dif_pos hregex, dif_pos hnegate]
      split <;> rfl
    · have hnegate : ¬op.negate.isRegex = true := by
        rwa [MatchOp.isRegex_negate]
      rw [dif_neg hregex, dif_neg hnegate]
      rfl

/-- The matcher is what is built from its parts under the limits. -/
def Rebuilds (limits : Pattern.Limits) (matcher : Matcher) : Prop :=
  build limits matcher.op matcher.name matcher.value = .ok matcher

theorem rebuilds_of_build {op : MatchOp} {name value : String}
    (hbuild : build limits op name value = .ok matcher) :
    matcher.Rebuilds limits := by
  obtain ⟨rfl, rfl, rfl⟩ := fields_of_build hbuild
  exact hbuild

/-- A negation changes the operator only, as if it had been asked for. -/
theorem Rebuilds.negate (hrebuilds : matcher.Rebuilds limits) :
    matcher.negate.Rebuilds limits := by
  have hbuild : build limits matcher.op.negate matcher.name matcher.value =
      .ok matcher.negate := by
    rw [build_negate, hrebuilds]
    rfl
  exact hbuild

theorem Rebuilds.negateTimes (hrebuilds : matcher.Rebuilds limits)
    (times : Nat) : (matcher.negateTimes times).Rebuilds limits := by
  rw [negateTimes_eq]
  split
  · exact hrebuilds
  · exact hrebuilds.negate

theorem rebuilds_of_toMatcher {host : HostMatcher}
    (hmade : host.toMatcher limits = .ok matcher) :
    matcher.Rebuilds limits := by
  induction host generalizing matcher with
  | equal name value => exact rebuilds_of_build hmade
  | regexp name pattern => exact rebuilds_of_build hmade
  | not inner ih =>
      rw [HostMatcher.toMatcher] at hmade
      cases hinner : inner.toMatcher limits with
      | error fault =>
          rw [hinner] at hmade
          cases hmade
      | ok made =>
          rw [hinner] at hmade
          cases hmade
          exact (ih hinner).negate

/-- A matcher that can be come by, with the limits under which it was compiled:
it is built under the usual limits, under given ones or under those of an index,
or made from that of a host, and then negated any number of times. -/
inductive Made : Pattern.Limits → Matcher → Prop where
  | usual {op : MatchOp} {name value : String} {matcher : Matcher}
      (hbuild : build {} op name value = .ok matcher) : Made {} matcher
  | limited {limits : Pattern.Limits} {op : MatchOp} {name value : String}
      {matcher : Matcher} (hbuild : build limits op name value = .ok matcher) :
      Made limits matcher
  | ofIndex {index : Index} {op : MatchOp} {name value : String}
      {matcher : Matcher}
      (hbuild : index.matcher op name value = .ok matcher) :
      Made index.settings.patternLimits matcher
  | ofHost {limits : Pattern.Limits} {host : HostMatcher} {matcher : Matcher}
      (hmade : host.toMatcher limits = .ok matcher) : Made limits matcher
  | negated {limits : Pattern.Limits} {matcher : Matcher}
      (hmade : Made limits matcher) : Made limits matcher.negate

/-- However a matcher was made, its parts build it again. -/
theorem Made.rebuilds (hmade : Made limits matcher) :
    matcher.Rebuilds limits := by
  induction hmade with
  | usual hbuild => exact rebuilds_of_build hbuild
  | limited hbuild => exact rebuilds_of_build hbuild
  | ofIndex hbuild => exact rebuilds_of_build hbuild
  | ofHost hhost => exact rebuilds_of_toMatcher hhost
  | negated _ ih => exact ih.negate

/-! ## Compiled patterns -/

/-- The matcher carries what its value is compiled to within the limits, if its
operator asks for a pattern; otherwise it carries nothing. -/
structure Compiled (limits : Pattern.Limits) (matcher : Matcher) : Prop where
  isSome_iff : matcher.compiled.isSome = true ↔ matcher.op.isRegex = true
  eq_some_iff : ∀ regex, matcher.compiled = some regex ↔
    matcher.op.isRegex = true ∧
      Pattern.compile limits matcher.value = .ok regex

theorem Rebuilds.compiled (hrebuilds : matcher.Rebuilds limits) :
    matcher.Compiled limits := by
  cases hop : matcher.op.isRegex with
  | false =>
      have hnone : matcher.compiled = none := by
        rw [matcher.compiled_eq, hop]
        rfl
      constructor
      · simp [hnone, hop]
      · simp [hnone, hop]
  | true =>
      obtain ⟨regex, hcompile, -⟩ := accepts_of_build hop hrebuilds
      have hsome : matcher.compiled = some regex := by
        rw [matcher.compiled_eq, hop, if_pos rfl]
        exact Pattern.regexOf?_eq_some_of_compile hcompile
      constructor
      · simp [hsome, hop]
      · simp [hsome, hop, hcompile]

/-- The pattern of a matcher is the one that its text compiles to. -/
theorem Made.compiled (hmade : Made limits matcher) :
    matcher.Compiled limits :=
  hmade.rebuilds.compiled

/-! ## Equality -/

structure Same (left right : Matcher) : Prop where
  op_eq : left.op = right.op
  name_eq : left.name = right.name
  value_eq : left.value = right.value

/-- Matchers that are the same carry the same pattern, though it is not compared
and was compiled under other limits. -/
theorem Same.compiled_eq (hsame : left.Same right)
    (hleft : left.Compiled limits) (hright : right.Compiled others) :
    left.compiled = right.compiled := by
  cases hregex : right.compiled with
  | none =>
      rw [← Option.not_isSome_iff_eq_none, hleft.isSome_iff, hsame.op_eq,
        ← hright.isSome_iff, hregex]
      exact Bool.false_ne_true
  | some regex =>
      have hop := hright.isSome_iff.mp (by rw [hregex]; rfl)
      have hcompile := ((hright.eq_some_iff regex).mp hregex).2
      obtain ⟨found, hfound⟩ :=
        Option.isSome_iff_exists.mp (hleft.isSome_iff.mpr (hsame.op_eq ▸ hop))
      have hleftCompile := ((hleft.eq_some_iff found).mp hfound).2
      rw [hsame.value_eq] at hleftCompile
      rw [hfound, Pattern.compile_unique hleftCompile hcompile]

theorem eq_of_fields (hsame : left.Same right)
    (hcompiled : left.compiled = right.compiled) : left = right := by
  obtain ⟨hop, hname, hvalue⟩ := hsame
  cases left
  cases right
  rw [mk.injEq]
  exact ⟨hop, hname, hvalue, hcompiled⟩

/-- Nothing tells two matchers apart: their hashes, the values that they accept,
and the answer of any index to any query with the one or the other in it. -/
structure Interchangeable (left right : Matcher) : Prop where
  compiled_eq : left.compiled = right.compiled
  digest_eq : left.digest = right.digest
  accepts_eq : ∀ value, left.accepts value = right.accepts value
  resolve_eq : ∀ (index : Index) (before after : List Matcher) start stop,
    index.resolve (before ++ left :: after) start stop =
      index.resolve (before ++ right :: after) start stop
  resolveWindow_eq : ∀ (index : Index) (before after : List Matcher) window,
    index.resolveWindow (before ++ left :: after) window =
      index.resolveWindow (before ++ right :: after) window
  resolveWithLabels_eq : ∀ (index : Index) (before after : List Matcher)
      start stop,
    index.resolveWithLabels (before ++ left :: after) start stop =
      index.resolveWithLabels (before ++ right :: after) start stop

/-- Matchers with the same parts cannot be told apart. -/
theorem Made.interchangeable (hleft : Made limits left)
    (hright : Made others right) (hsame : left.Same right) :
    left.Interchangeable right := by
  have hcompiled := hsame.compiled_eq hleft.compiled hright.compiled
  obtain rfl := eq_of_fields hsame hcompiled
  constructor <;> intros <;> rfl

/-! ## Negation -/

theorem value_negateTimes (matcher : Matcher) (times : Nat) :
    (matcher.negateTimes times).value = matcher.value := by
  rw [negateTimes_eq]
  split <;> rfl

/-- A negation selects what is left out, and of several ones only the parity
counts. -/
structure Negates (matcher : Matcher) : Prop where
  accepts_negate : ∀ value,
    matcher.negate.accepts value = !matcher.accepts value
  negateTimes_eq : ∀ times, matcher.negateTimes times =
    if Even times then matcher else matcher.negate
  name_eq : ∀ times, (matcher.negateTimes times).name = matcher.name
  value_eq : ∀ times, (matcher.negateTimes times).value = matcher.value

theorem negates (matcher : Matcher) : matcher.Negates where
  accepts_negate := matcher.accepts_negate
  negateTimes_eq := matcher.negateTimes_eq
  name_eq := matcher.name_negateTimes
  value_eq := matcher.value_negateTimes

/-- Every matcher that can be come by carries the compiled form of its own value
exactly if it needs one, is complemented by its negation, and is equal to, and
can be replaced by, every other one that has its operator, name and value. -/
theorem made_interchangeable :
    (∀ limits matcher, Made limits matcher →
      matcher.Compiled limits ∧ matcher.Negates) ∧
    ∀ limits others left right, Made limits left → Made others right →
      (left = right ↔ left.Same right) ∧
        (left.Same right → left.Interchangeable right) := by
  refine ⟨fun _ matcher hmade => ⟨hmade.compiled, matcher.negates⟩, ?_⟩
  intro limits others left right hleft hright
  refine ⟨⟨?_, fun hsame => ?_⟩, hleft.interchangeable hright⟩
  · rintro rfl
    exact ⟨rfl, rfl, rfl⟩
  · exact eq_of_fields hsame (hsame.compiled_eq hleft.compiled hright.compiled)

/-- The negation of a matcher that leaves two values out is the matcher that
selects them, also when the two were compiled under different limits. -/
theorem made_interchangeable_alternatives :
    ∃ left right, Made {} left ∧ Made ⟨3, 100000⟩ right ∧ left.Same right ∧
      left.Compiled {} ∧ right.Negates ∧ left.Interchangeable right := by
  have hread : Pattern.reading? "a|b" = some
      (.alternation [.literal ⟨'a', false⟩, .literal ⟨'b', false⟩],
        .choice [.set true (.ofPoints [97]), .set true (.ofPoints [98])]) := rfl
  have hname : "n" ≠ "" := by decide
  have hcompile : Pattern.compile {} "a|b" = .ok _ :=
    (Pattern.compile_eq_ok_iff hread).mpr
      ⟨⟨by decide, by cbv, by decide, by decide⟩, rfl⟩
  have hother : Pattern.compile ⟨3, 100000⟩ "a|b" = .ok _ :=
    (Pattern.compile_eq_ok_iff hread).mpr
      ⟨⟨by decide, by cbv, by decide, by decide⟩, rfl⟩
  obtain ⟨left, hleft⟩ :=
    (exists_build_iff hname (rfl : MatchOp.regex.isRegex = true)).mpr
      ⟨_, hcompile⟩
  obtain ⟨right, hright⟩ :=
    (exists_build_iff hname (rfl : MatchOp.notRegex.isRegex = true)).mpr
      ⟨_, hother⟩
  obtain ⟨hop, hleftName, hvalue⟩ := fields_of_build hleft
  obtain ⟨hotherOp, hotherName, hotherValue⟩ := fields_of_build hright
  have hmade : Made {} left := .usual hleft
  have hmadeOther : Made ⟨3, 100000⟩ right.negate := .negated (.limited hright)
  have hsame : left.Same right.negate := by
    constructor
    case op_eq => exact hop.trans (congrArg MatchOp.negate hotherOp).symm
    case name_eq => exact hleftName.trans hotherName.symm
    case value_eq => exact hvalue.trans hotherValue.symm
  exact ⟨left, right.negate, hmade, hmadeOther, hsame,
    (made_interchangeable.1 _ _ hmade).1,
    (made_interchangeable.1 _ _ hmadeOther).2,
    (made_interchangeable.2 _ _ _ _ hmade hmadeOther).2 hsame⟩

end Matcher

end SeriesIndex
