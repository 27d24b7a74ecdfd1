import SeriesIndex.Matcher

/-!
# Matchers of a host

A host may write its matchers with a wrapper for negation around an equality or
a pattern.  Turning such a matcher into one of the index negates the operator
once for each wrapper, so that two wrappers cancel.
-/

namespace SeriesIndex

inductive HostMatcher where
  | equal (name value : String)
  | regexp (name pattern : String)
  | not (inner : HostMatcher)
  deriving DecidableEq, Repr

namespace HostMatcher

def notTimes (inner : HostMatcher) : Nat → HostMatcher
  | 0 => inner
  | times + 1 => (HostMatcher.not inner).notTimes times

/-- The matcher of the index that selects the same. -/
def toMatcher (limits : Pattern.Limits) : HostMatcher → Except Fault Matcher
  | equal name value => Matcher.build limits .equal name value
  | regexp name pattern => Matcher.build limits .regex name pattern
  | not inner => (inner.toMatcher limits).map Matcher.negate

/-- The matchers of a query; the first one that cannot be built is the fault. -/
def toMatchers (limits : Pattern.Limits) (hosts : List HostMatcher) :
    Except Fault (List Matcher) :=
  hosts.mapM (toMatcher limits)

/-- A matcher of the index as a host writes it, with at most one negation. -/
def ofMatcher (matcher : Matcher) : HostMatcher :=
  match matcher.op with
  | .equal => equal matcher.name matcher.value
  | .notEqual => not (equal matcher.name matcher.value)
  | .regex => regexp matcher.name matcher.value
  | .notRegex => not (regexp matcher.name matcher.value)

end HostMatcher

end SeriesIndex
