/-!
# Syntax of patterns

The syntax tree of a pattern: what is written, before any flag is taken into
account.  `Syntax.depth` is the nesting that the limit on patterns speaks of.
-/

namespace SeriesIndex.Pattern

/-- What a flag letter changes in the rest of its group. -/
inductive Flag where
  | ignoreCase
  | multiLine
  | dotAll
  | swapGreed
  | unicode
  | lineFeedPairs
  | verbose
  deriving DecidableEq, Repr

namespace Flag

def ofLetter? : Char → Option Flag
  | 'i' => some ignoreCase
  | 'm' => some multiLine
  | 's' => some dotAll
  | 'U' => some swapGreed
  | 'u' => some unicode
  | 'R' => some lineFeedPairs
  | 'x' => some verbose
  | _ => none

end Flag

/-- Flags switched on (`true`) or off, in the order written; none occurs
twice. -/
abbrev FlagChanges := List (Flag × Bool)

/-- What a change list sets a flag to, if it mentions it. -/
def FlagChanges.setting? (changes : FlagChanges) (flag : Flag) : Option Bool :=
  (changes.find? fun change => change.1 == flag).map (·.2)

/-- A character that stands for itself.  One written as two hexadecimal digits
stands for a byte where Unicode is switched off. -/
structure Literal where
  char : Char
  byteForm : Bool := false
  deriving DecidableEq, Repr

inductive Place where
  | lineStart
  | lineEnd
  | textStart
  | textEnd
  | wordEdge
  | notWordEdge
  | wordStart
  | wordEnd
  | wordStartHalf
  | wordEndHalf
  deriving DecidableEq, Repr

inductive Shorthand where
  | digit
  | space
  | word
  deriving DecidableEq, Repr

inductive PropertyName where
  | single (name : String)
  | valued (property value : String)
  deriving DecidableEq, Repr

inductive SetOperator where
  | intersection
  | difference
  | symmetricDifference
  deriving DecidableEq, Repr

/-- Character classes.  `ascii` is a named class such as `[:alpha:]`, given by
its ranges. -/
inductive ClassSyntax where
  | literal (literal : Literal)
  | range (first last : Literal)
  | ascii (ranges : List (Char × Char)) (negated : Bool)
  | property (name : PropertyName) (negated : Bool)
  | shorthand (kind : Shorthand) (negated : Bool)
  | bracket (negated : Bool) (inner : ClassSyntax)
  | union (items : List ClassSyntax)
  | operation (operator : SetOperator) (left right : ClassSyntax)
  deriving Inhabited

/-- Patterns.  A repetition says whether it prefers to take few copies.  A group
carries the flag changes that hold inside it, and says whether what it matches
is remembered. -/
inductive Syntax where
  | empty
  | flags (changes : FlagChanges)
  | literal (literal : Literal)
  | dot
  | place (place : Place)
  | charClass (inner : ClassSyntax)
  | repetition (least : Nat) (most : Option Nat) (reluctant : Bool)
      (body : Syntax)
  | group (remembered : Bool) (changes : FlagChanges) (body : Syntax)
  | alternation (branches : List Syntax)
  | concat (parts : List Syntax)
  deriving Inhabited

namespace ClassSyntax

mutual

/-- Nesting of a class: brackets, operations and unions that are not empty each
add a level. -/
def depth : ClassSyntax → Nat
  | bracket _ inner => depth inner + 1
  | union [] => 0
  | union items => depthAll items + 1
  | operation _ left right => max (depth left) (depth right) + 1
  | _ => 0

def depthAll : List ClassSyntax → Nat
  | [] => 0
  | item :: rest => max (depth item) (depthAll rest)

end

/-- Items written side by side; a single item stands for itself. -/
def ofItems : List ClassSyntax → ClassSyntax
  | [item] => item
  | items => union items

end ClassSyntax

namespace Syntax

mutual

/-- Nesting of a pattern: repetitions, groups, alternations, sequences and the
levels of bracketed classes each add one. -/
def depth : Syntax → Nat
  | charClass inner => inner.depth
  | repetition _ _ _ body => depth body + 1
  | group _ _ body => depth body + 1
  | alternation branches => depthAll branches + 1
  | concat parts => depthAll parts + 1
  | _ => 0

def depthAll : List Syntax → Nat
  | [] => 0
  | part :: rest => max (depth part) (depthAll rest)

end

def ofParts : List Syntax → Syntax
  | [] => empty
  | [part] => part
  | parts => concat parts

def ofBranches : List Syntax → Syntax
  | [branch] => branch
  | branches => alternation branches

end Syntax

end SeriesIndex.Pattern
