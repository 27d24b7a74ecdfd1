import Mathlib
import SeriesIndex.Matcher
import SeriesIndex.Proofs.Pattern.Reach
import SeriesIndex.Proofs.Pattern.Nesting

/-!
# Matching a whole value

A pattern is compiled between two anchors.  For a pattern that is well formed by
itself they do what they are there for: the matcher selects the values that the
pattern matches from the first character to the last.  Such a pattern is still
refused if it ends in a comment or leaves no room for the group around it.  A
pattern that is not well formed by itself can close that group and so get out of
the anchors.
-/

namespace SeriesIndex

namespace Pattern

/-- What a pattern is by itself: its syntax tree and the term it stands for. -/
def reading? (pattern : String) : Option (Syntax × Term) :=
  (parse? pattern.toList).bind fun tree =>
    (tree.term? {}).map fun (term, _) => (tree, term)

def Term.anchored (term : Term) : Term :=
  .sequence [.look .textStart, term, .look .textEnd]

/-- A match goes from the first character of the value to the last. -/
def Term.MatchesWhole (term : Term) (value : String) : Prop :=
  term.regex.Spans value.toList.toArray 0 value.length

theorem Mode.change_nil (mode : Mode) : mode.change [] = mode :=
  rfl

/-- Anchors do not change what is read between them. -/
theorem term?_anchored (tree : Syntax) :
    tree.anchored.term? {} =
      (tree.term? {}).map fun (term, _) => (term.anchored, {}) := by
  simp only [Syntax.anchored, Syntax.term?, Syntax.terms?, Option.bind_eq_bind,
    Option.bind_some, Mode.change_nil]
  cases tree.term? {} <;> rfl

theorem regex_anchored (term : Term) :
    term.anchored.regex =
      .cat (.cat (.look .textStart) term.regex) (.look .textEnd) := by
  simp only [Term.anchored, Term.regex, Term.regexes, List.length_cons,
    List.length_nil, Regex.inSequence, Regex.joinPairs]

/-- Between its anchors a term matches nothing but whole values. -/
theorem matches?_anchored (term : Term) (value : String) :
    term.anchored.regex.matches? value = true ↔ term.MatchesWhole value := by
  rw [Regex.matches?_iff, regex_anchored]
  have hsize : value.toList.toArray.size = value.length := by
    rw [List.size_toArray, String.length_toList]
  simp only [Regex.Spans, Look.holds, beq_iff_eq, hsize]
  constructor
  · rintro ⟨i, j, -, k, ⟨first, ⟨rfl, rfl⟩, hspans⟩, rfl, rfl⟩
    exact hspans
  · intro hspans
    exact ⟨0, _, Nat.zero_le _, _, ⟨0, ⟨rfl, rfl⟩, hspans⟩, rfl, rfl⟩

variable {pattern : String} {tree : Syntax} {term : Term}

/-- A well formed pattern keeps its meaning between the anchors, unless it ends
in a comment or gets too deep. -/
theorem termOf?_eq (hread : reading? pattern = some (tree, term)) :
    termOf? pattern =
      if EndsInComment pattern.toList ∨ depthLimit < tree.depth + 2 then none
      else some term.anchored := by
  obtain ⟨tree, hparse, hterm⟩ := Option.bind_eq_some_iff.mp hread
  obtain ⟨⟨term, mode⟩, hterm, hsame⟩ := Option.map_eq_some_iff.mp hterm
  cases hsame
  rw [termOf?, parse?_anchored hparse]
  split
  · rfl
  · rw [Option.bind_some, term?_anchored, hterm]
    rfl

/-- Which well-formed patterns are compiled, and what becomes of them. -/
theorem compile_eq_ok_iff (hread : reading? pattern = some (tree, term))
    {limits : Limits} {regex : Regex} :
    compile limits pattern = .ok regex ↔
      (pattern.utf8ByteSize ≤ limits.length ∧
        term.anchored.shape.fits limits.size = true ∧
        ¬ EndsInComment pattern.toList ∧ tree.depth + 2 ≤ depthLimit) ∧
      regex = term.anchored.regex := by
  rw [compile, termOf?_eq hread]
  by_cases hlength : limits.length < pattern.utf8ByteSize
  · rw [if_pos hlength]
    exact ⟨nofun, fun h => absurd h.1.1 (Nat.not_le.mpr hlength)⟩
  · rw [if_neg hlength]
    by_cases hlost :
        EndsInComment pattern.toList ∨ depthLimit < tree.depth + 2
    · rw [if_pos hlost]
      refine ⟨nofun, fun h => ?_⟩
      rcases hlost with hends | hdeep
      · exact absurd hends h.1.2.2.1
      · exact absurd h.1.2.2.2 (Nat.not_le.mpr hdeep)
    · rw [if_neg hlost]
      dsimp only
      rw [not_or, Nat.not_lt] at hlost
      by_cases hfits : term.anchored.shape.fits limits.size = true
      · rw [if_pos hfits, Except.ok.injEq]
        exact ⟨fun hsame =>
          ⟨⟨Nat.not_lt.mp hlength, hfits, hlost⟩, hsame.symm⟩,
          fun h => h.2.symm⟩
      · rw [if_neg hfits]
        exact ⟨nofun, fun h => absurd h.1.2.1 hfits⟩

end Pattern

namespace Matcher

open Pattern

variable {limits : Limits} {op : MatchOp} {name pattern : String}

/-- A matcher with a pattern can be built where the pattern is compiled. -/
theorem exists_build_iff (hname : name ≠ "") (hregex : op.isRegex = true) :
    (∃ matcher, build limits op name pattern = .ok matcher) ↔
      ∃ regex, compile limits pattern = .ok regex := by
  rw [build, dif_neg hname, dif_pos hregex]
  split
  case h_1 regex hcompile =>
    exact ⟨fun _ => ⟨regex, hcompile⟩, fun _ => ⟨_, rfl⟩⟩
  case h_2 cause hcompile =>
    rw [hcompile]
    constructor <;> exact nofun

/-- A matcher holds values against the compiled form of its pattern. -/
theorem accepts_of_build {matcher : Matcher} (hregex : op.isRegex = true)
    (hbuild : build limits op name pattern = .ok matcher) :
    ∃ regex, compile limits pattern = .ok regex ∧ ∀ value,
      matcher.accepts value = (regex.matches? value != op.isNegative) := by
  by_cases hname : name = ""
  · rw [build, dif_pos hname] at hbuild
    cases hbuild
  · rw [build, dif_neg hname, dif_pos hregex] at hbuild
    split at hbuild
    case h_1 regex hcompile =>
      cases hbuild
      exact ⟨regex, hcompile, fun value => rfl⟩
    case h_2 => cases hbuild

variable {tree : Syntax} {term : Term}

/-- Values that the pattern matches as a whole agree with it. -/
theorem accepts_iff_matchesWhole {matcher : Matcher}
    (hread : reading? pattern = some (tree, term))
    (hregex : op.isRegex = true)
    (hbuild : build limits op name pattern = .ok matcher) (value : String) :
    matcher.accepts value = true ↔
      (term.MatchesWhole value ↔ op.isNegative = false) := by
  obtain ⟨regex, hcompile, haccepts⟩ := accepts_of_build hregex hbuild
  obtain ⟨-, rfl⟩ := (compile_eq_ok_iff hread).mp hcompile
  rw [haccepts, ← matches?_anchored]
  cases term.anchored.regex.matches? value <;> cases op.isNegative <;> simp

/-- A pattern that is well formed by itself is anchored at both ends.  It is
accepted within the limits unless it ends in a comment or leaves no room for the
group around it, with either operator; and then the one selects the values that
the pattern matches as a whole, and the other one those that it does not. -/
theorem build_of_wellFormed (hname : name ≠ "")
    (hread : reading? pattern = some (tree, term)) (limits : Limits) :
    (∀ op : MatchOp, op.isRegex = true →
      ((∃ matcher, build limits op name pattern = .ok matcher) ↔
        pattern.utf8ByteSize ≤ limits.length ∧
          term.anchored.shape.fits limits.size = true ∧
          ¬ EndsInComment pattern.toList ∧ tree.depth + 2 ≤ depthLimit)) ∧
    (∀ matcher, build limits .regex name pattern = .ok matcher →
      ∀ value, matcher.accepts value = true ↔ term.MatchesWhole value) ∧
    ∀ matcher, build limits .notRegex name pattern = .ok matcher →
      ∀ value, matcher.accepts value = true ↔ ¬ term.MatchesWhole value := by
  refine ⟨fun op hregex => ?_, fun matcher hbuild value => ?_,
    fun matcher hbuild value => ?_⟩
  · rw [exists_build_iff hname hregex]
    simp only [compile_eq_ok_iff hread, exists_and_left, exists_eq, and_true]
  · rw [accepts_iff_matchesWhole hread rfl hbuild]
    simp [MatchOp.isNegative]
  · rw [accepts_iff_matchesWhole hread rfl hbuild]
    simp [MatchOp.isNegative]

/-- The anchors hold for each of two alternatives. -/
theorem build_of_wellFormed_alternatives :
    ∃ tree term, reading? "a|b" = some (tree, term) ∧
      (∃ matcher, build {} .regex "n" "a|b" = .ok matcher) ∧
      ∀ matcher, build {} .regex "n" "a|b" = .ok matcher →
        matcher.accepts "a" = true ∧ matcher.accepts "ax" = false := by
  have hread : reading? "a|b" = some
      (.alternation [.literal ⟨'a', false⟩, .literal ⟨'b', false⟩],
        .choice [.set true (.ofPoints [97]), .set true (.ofPoints [98])]) := rfl
  obtain ⟨hbuild, hselects, -⟩ :=
    build_of_wellFormed (show "n" ≠ "" by decide) hread {}
  refine ⟨_, _, hread, (hbuild .regex rfl).mpr ?_, fun matcher hmatcher => ?_⟩
  · exact ⟨by decide, by cbv, by decide, by decide⟩
  · rw [← Bool.not_eq_true, hselects matcher hmatcher,
      hselects matcher hmatcher, ← matches?_anchored, ← matches?_anchored]
    constructor
    · cbv
    · cbv
      exact Bool.false_ne_true

/-- A pattern that closes the group around it is not well formed by itself, and
still it is accepted and gets out of the anchors: it selects values of which it
matches only the front or only the end. -/
theorem exists_build_unanchored :
    reading? "a)|(?:b" = none ∧
      ∃ matcher, build {} .regex "n" "a)|(?:b" = .ok matcher ∧
        matcher.accepts "ax" = true ∧ matcher.accepts "xb" = true := by
  have hcompile : compile {} "a)|(?:b" = .ok
      (.alt (.cat (.look .textStart) (.set (.ofPoints [97])))
        (.cat (.set (.ofPoints [98])) (.look .textEnd))) := by
    cbv
  have hregex : MatchOp.regex.isRegex = true := rfl
  obtain ⟨matcher, hbuild⟩ :=
    (exists_build_iff (show "n" ≠ "" by decide) hregex).mpr ⟨_, hcompile⟩
  obtain ⟨regex, hsame, haccepts⟩ := accepts_of_build hregex hbuild
  obtain rfl := Except.ok.inj (hcompile.symm.trans hsame)
  refine ⟨rfl, matcher, hbuild, ?_⟩
  rw [haccepts, haccepts]
  cbv

end Matcher

end SeriesIndex
