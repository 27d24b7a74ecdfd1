import SeriesIndex.Event
import SeriesIndex.Fault

/-!
# Matchers

A matcher is a condition on the value of one label.  It compares the value with
a text, or holds it against a pattern that has to match all of it, and either
selects what agrees or what does not.  A pattern is compiled when the matcher is
built; the compiled form is determined by the operator and the value, so that
matchers are equal if their operators, names and values are.
-/

namespace SeriesIndex

inductive MatchOp where
  | equal
  | notEqual
  | regex
  | notRegex
  deriving DecidableEq, Repr

namespace MatchOp

def negate : MatchOp → MatchOp
  | equal => notEqual
  | notEqual => equal
  | regex => notRegex
  | notRegex => regex

/-- Whether the text is a pattern. -/
def isRegex : MatchOp → Bool
  | equal | notEqual => false
  | regex | notRegex => true

def isNegative : MatchOp → Bool
  | equal | regex => false
  | notEqual | notRegex => true

def symbol : MatchOp → String
  | equal => "="
  | notEqual => "!="
  | regex => "=~"
  | notRegex => "!~"

def word : MatchOp → String
  | equal => "Eql"
  | notEqual => "Neq"
  | regex => "EqlRegex"
  | notRegex => "NeqRegex"

def all : List MatchOp := [equal, notEqual, regex, notRegex]

def ofWord? (word : String) : Option MatchOp :=
  all.find? fun op => op.word == word

def rank : MatchOp → UInt64
  | equal => 0
  | notEqual => 1
  | regex => 2
  | notRegex => 3

@[simp]
theorem negate_negate (op : MatchOp) : op.negate.negate = op := by
  cases op <;> rfl

@[simp]
theorem isRegex_negate (op : MatchOp) : op.negate.isRegex = op.isRegex := by
  cases op <;> rfl

@[simp]
theorem isNegative_negate (op : MatchOp) :
    op.negate.isNegative = !op.isNegative := by
  cases op <;> rfl

end MatchOp

structure Matcher where
  op : MatchOp
  name : String
  value : String
  compiled : Option Pattern.Regex
  named : name ≠ ""
  compiled_eq : compiled = if op.isRegex then Pattern.regexOf? value else none
  usable : compiled.isSome = op.isRegex

namespace Matcher

/-- The operator, the name and the value say all about a matcher. -/
theorem ext {a b : Matcher} (hop : a.op = b.op) (hname : a.name = b.name)
    (hvalue : a.value = b.value) : a = b := by
  have hcompiled : a.compiled = b.compiled := by
    rw [a.compiled_eq, b.compiled_eq, hop, hvalue]
  cases a
  cases b
  simp_all

instance : DecidableEq Matcher := fun a b =>
  if h : a.op = b.op ∧ a.name = b.name ∧ a.value = b.value then
    .isTrue (ext h.1 h.2.1 h.2.2)
  else .isFalse fun hab => h (hab ▸ ⟨rfl, rfl, rfl⟩)

/-- Builds a matcher.  An empty name is refused before the pattern is looked
at. -/
def build (limits : Pattern.Limits) (op : MatchOp) (name value : String) :
    Except Fault Matcher :=
  if named : name = "" then .error (.argument .emptyMatcherName)
  else if regex : op.isRegex = true then
    match compiled : Pattern.compile limits value with
    | .ok compiledForm =>
      .ok
        { op, name, value
          compiled := some compiledForm
          named
          compiled_eq := by
            rw [if_pos regex, Pattern.regexOf?_eq_some_of_compile compiled]
          usable := by simp [regex] }
    | .error cause => .error (.pattern (Fault.shownPattern value) cause)
  else
    .ok
      { op, name, value
        compiled := none
        named
        compiled_eq := by simp [regex]
        usable := by simp [regex] }

def negate (matcher : Matcher) : Matcher :=
  { matcher with
    op := matcher.op.negate
    compiled_eq := by rw [MatchOp.isRegex_negate]; exact matcher.compiled_eq
    usable := by rw [MatchOp.isRegex_negate]; exact matcher.usable }

def negateTimes (matcher : Matcher) : Nat → Matcher
  | 0 => matcher
  | times + 1 => matcher.negate.negateTimes times

@[simp]
theorem negate_negate (matcher : Matcher) : matcher.negate.negate = matcher :=
  ext (by simp [negate]) rfl rfl

/-- Whether a value agrees with the text or the pattern, whatever the operator
makes of it. -/
def agrees (matcher : Matcher) (value : String) : Bool :=
  match matcher.compiled with
  | some regex => regex.matches? value
  | none => matcher.value == value

def accepts (matcher : Matcher) (value : String) : Bool :=
  matcher.agrees value != matcher.op.isNegative

theorem accepts_negate (matcher : Matcher) (value : String) :
    matcher.negate.accepts value = !matcher.accepts value := by
  simp [accepts, negate, agrees]

def text (matcher : Matcher) : String :=
  matcher.name ++ matcher.op.symbol ++ Text.Quoted.encode matcher.value

/-- The matcher with its parts named. -/
def describe (matcher : Matcher) : String :=
  "LabelMatcher \x7b op: " ++ matcher.op.word
    ++ ", name: " ++ Text.Quoted.encode matcher.name
    ++ ", value: " ++ Text.Quoted.encode matcher.value ++ " \x7d"

/-- The hash of a matcher, over its operator, name and value. -/
def digest (matcher : Matcher) : UInt64 :=
  Hash.Sip.digest (Hash.wordBytes matcher.op.rank
    ++ Hash.textBytes matcher.name ++ Hash.textBytes matcher.value)

/-- What is told when matchers are built: only of a pattern that is refused. -/
def buildEvents {α : Type} : Except Fault α → List Event
  | .error (.pattern _ (.tooLong length most)) =>
    [{ level := .warn, message := "Rejected oversized regex pattern",
       fields := [("len", .number length), ("max", .number most)] }]
  | .error (.pattern _ _) =>
    [{ level := .warn, message := "Regex compilation failed" }]
  | _ => []

end Matcher

end SeriesIndex
