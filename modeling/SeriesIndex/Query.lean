import SeriesIndex.Matcher
import SeriesIndex.Store

/-!
# Queries

A query is a list of matchers and a window.  It answers with the published
series that every matcher selects and whose intervals reach into the window, in
ascending order of their numbers.  A matcher selects only series that have a
label of its name, also when it leaves values out.
-/

namespace SeriesIndex

/-- The series that a matcher selects, published or not. -/
def InvertedIndex.evaluate (index : InvertedIndex) (matcher : Matcher) :
    Postings :=
  match matcher.op with
  | .equal => index.postings matcher.name matcher.value
  | .notEqual => index.unionWithout matcher.name matcher.value
  | .regex => index.unionWhere matcher.name matcher.agrees
  | .notRegex => index.unionExcluding matcher.name matcher.agrees

/-- What each of some matchers selects, unless one of them selects nothing. -/
def InvertedIndex.operands? (index : InvertedIndex) :
    List Matcher → Option (List Postings)
  | [] => some []
  | matcher :: rest =>
    let postings := index.evaluate matcher
    if postings.isEmpty then none
    else (index.operands? rest).map (postings :: ·)

/-- Intersects one after another, until nothing is left. -/
def Postings.narrow (candidates : Postings) : List Postings → Postings
  | [] => candidates
  | postings :: rest =>
    let left := candidates ∩ postings
    if left.isEmpty then left else Postings.narrow left rest

/-- Intersects all, the smallest first; nothing if there is none. -/
def Postings.intersection (operands : List Postings) : Postings :=
  match operands.mergeSort fun a b => a.size ≤ b.size with
  | [] => ∅
  | smallest :: rest => smallest.narrow rest

namespace Store

/-- The published series that every matcher selects; all of them if there is no
matcher. -/
def select (store : Store) (matchers : List Matcher) : Postings :=
  if matchers.isEmpty then store.catalog.published
  else
    match store.inverted.operands? matchers with
    | none => ∅
    | some operands => Postings.intersection operands ∩ store.catalog.published

/-- The stored series with a number that a query came upon. -/
def fetch (store : Store) (tsid : Tsid) : Except Fault Series :=
  match store.catalog.series? tsid with
  | some series => .ok series
  | none => .error (.internal (.publishedWithoutSeries tsid))

def resolveSeries (store : Store) (matchers : List Matcher) (window : Window) :
    Except Fault (List Series) := do
  let candidates ← (store.select matchers).toList.mapM store.fetch
  return candidates.filter fun series => series.activity.overlaps window

def resolve (store : Store) (matchers : List Matcher) (window : Window) :
    Except Fault (List Tsid) :=
  (store.resolveSeries matchers window).map fun answers =>
    answers.map Series.tsid

/-- What is told of a matcher that was evaluated. -/
def evaluateEvent (store : Store) (matcher : Matcher) : Event where
  level := .trace
  message := "Evaluated matcher"
  fields :=
    [("matcher", .text matcher.text),
      ("cardinality", .number (store.inverted.evaluate matcher).size)]

/-- What is told of the matchers of a query: each one up to the first that
selects nothing. -/
def selectEvents (store : Store) : List Matcher → List Event
  | [] => []
  | matcher :: rest =>
    store.evaluateEvent matcher ::
      if (store.inverted.evaluate matcher).isEmpty then []
      else store.selectEvents rest

/-- What is told of a query that was answered. -/
def resolveEvents (store : Store) (matchers : List Matcher) (window : Window) :
    Except Fault (List Series) → List Event
  | .ok answers =>
    store.selectEvents matchers ++
      [{ level := .trace, message := "Resolved matcher set",
         fields :=
          [("matchers", .number matchers.length),
            ("candidates", .number (store.select matchers).size),
            ("matched", .number answers.length),
            ("range", .text window.text)] }]
  | .error _ => store.selectEvents matchers

end Store

end SeriesIndex
