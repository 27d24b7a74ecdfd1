import SeriesIndex.Pattern.Footprint
import SeriesIndex.Pattern.Run

/-!
# Anchored patterns

A pattern is set between `^(?:` and `)$` as text, and the result is compiled.
So a pattern that is well formed by itself has to match a whole value; one that
closes the group around it escapes the anchors.
-/

namespace SeriesIndex.Pattern

inductive PatternFault where
  | tooLong (length most : Nat)
  | malformed
  | tooLarge
  | other (reason : String)
  deriving DecidableEq, Repr

/-- The reason that is given for a refusal; the details of a malformed or too
large pattern are left out. -/
def PatternFault.message : PatternFault → String
  | tooLong length most => s!"pattern is {length} bytes (max: {most})"
  | malformed => "<syntax>"
  | tooLarge => "<size>"
  | other reason => reason

/-- The text that is compiled for a pattern. -/
def anchored (pattern : String) : List Char :=
  ['^', '(', '?', ':'] ++ pattern.toList ++ [')', '$']

/-- The term that an anchored pattern stands for, if its text is well formed. -/
def termOf? (pattern : String) : Option Term :=
  ((parse? (anchored pattern)).bind (Syntax.term? {})).map (·.1)

def regexOf? (pattern : String) : Option Regex :=
  (termOf? pattern).map Term.regex

/-- The bounds on a pattern: its length and the size of its compiled form, in
bytes. -/
structure Limits where
  length : Nat := 1024
  size : Nat := 1048576
  deriving DecidableEq, Repr

/-- Compiles a pattern anchored at both ends.  The length is looked at before
the pattern is read, and the size after it. -/
def compile (limits : Limits) (pattern : String) : Except PatternFault Regex :=
  if limits.length < pattern.utf8ByteSize then
    .error (.tooLong pattern.utf8ByteSize limits.length)
  else
    match termOf? pattern with
    | none => .error .malformed
    | some term =>
      if term.shape.fits limits.size then .ok term.regex else .error .tooLarge

/-- The limits decide whether a pattern is compiled, not what it becomes. -/
theorem regexOf?_eq_some_of_compile {limits : Limits} {pattern : String}
    {regex : Regex} (hcompile : compile limits pattern = .ok regex) :
    regexOf? pattern = some regex := by
  unfold compile at hcompile
  split at hcompile
  · cases hcompile
  · split at hcompile
    · cases hcompile
    · split at hcompile
      · cases hcompile
        simp_all [regexOf?]
      · cases hcompile

end SeriesIndex.Pattern
