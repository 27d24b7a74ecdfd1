import SeriesIndex.Pattern.Look
import SeriesIndex.Pattern.Parser
import SeriesIndex.Unicode.Folding
import SeriesIndex.Unicode.Names
import SeriesIndex.Unicode.Negation

/-!
# What patterns mean

The meaning of a syntax tree under the flags in force.  Flags set inside a group
hold to its end, across the bars between its branches.  With Unicode switched
off a pattern may only ask for ASCII characters, so a negated class, a dot or a
byte above `7F` has no meaning there, since it could match part of a character.
-/

namespace SeriesIndex.Pattern

open Unicode

structure Mode where
  ignoreCase : Bool := false
  multiLine : Bool := false
  dotAll : Bool := false
  swapGreed : Bool := false
  unicode : Bool := true
  lineFeedPairs : Bool := false
  deriving DecidableEq, Repr

namespace Mode

def change (mode : Mode) (changes : FlagChanges) : Mode where
  ignoreCase := (changes.setting? .ignoreCase).getD mode.ignoreCase
  multiLine := (changes.setting? .multiLine).getD mode.multiLine
  dotAll := (changes.setting? .dotAll).getD mode.dotAll
  swapGreed := (changes.setting? .swapGreed).getD mode.swapGreed
  unicode := (changes.setting? .unicode).getD mode.unicode
  lineFeedPairs := (changes.setting? .lineFeedPairs).getD mode.lineFeedPairs

def casePairs (mode : Mode) : List (Nat × Nat) :=
  if mode.unicode then Folding.pairs else Folding.asciiPairs

/-- Closes a set under change of case where case is ignored. -/
def fold (mode : Mode) (chars : Table) : Table :=
  if mode.ignoreCase then Folding.close mode.casePairs chars else chars

/-- Complements a set; without Unicode this would ask for parts of
characters. -/
def negate? (mode : Mode) (negated : Bool) (chars : Table) : Option Table :=
  if negated then
    if mode.unicode then some chars.negation else none
  else some chars

def char? (mode : Mode) (literal : Literal) : Option Char :=
  if !mode.unicode && literal.byteForm && 0x80 ≤ literal.char.toNat then none
  else some literal.char

def classChar? (mode : Mode) (literal : Literal) : Option Char :=
  if !mode.unicode && 0x80 ≤ literal.char.toNat then none else some literal.char

def dot? (mode : Mode) : Option Table :=
  if !mode.unicode then none
  else if mode.dotAll then some .full
  else if mode.lineFeedPairs then
    some (Table.ofPoints ['\r'.toNat, '\n'.toNat]).negation
  else some (Table.ofPoints ['\n'.toNat]).negation

def look (mode : Mode) : Place → Look
  | .lineStart =>
    if !mode.multiLine then .textStart
    else if mode.lineFeedPairs then .pairedLineStart else .lineStart
  | .lineEnd =>
    if !mode.multiLine then .textEnd
    else if mode.lineFeedPairs then .pairedLineEnd else .lineEnd
  | .textStart => .textStart
  | .textEnd => .textEnd
  | .wordEdge => .wordEdge mode.unicode
  | .notWordEdge => .notWordEdge mode.unicode
  | .wordStart => .wordStart mode.unicode
  | .wordEnd => .wordEnd mode.unicode
  | .wordStartHalf => .wordStartHalf mode.unicode
  | .wordEndHalf => .wordEndHalf mode.unicode

def shorthand (mode : Mode) : Shorthand → Table
  | .digit =>
    if mode.unicode then Category.decimalNumber else .ofCharRanges [('0', '9')]
  | .space =>
    if mode.unicode then Property.whiteSpace
    else .ofCharRanges [('\t', '\r'), (' ', ' ')]
  | .word =>
    if mode.unicode then Property.word
    else .ofCharRanges [('0', '9'), ('A', 'Z'), ('_', '_'), ('a', 'z')]

def property? (mode : Mode) (name : PropertyName) : Option Table :=
  if !mode.unicode then none
  else
    match name with
    | .single name => tableNamed name
    | .valued property value => tableValued property value

def variants (mode : Mode) (c : Char) : List Nat :=
  if !mode.ignoreCase then [c.toNat]
  else if mode.unicode then Folding.variants c.toNat
  else if c.isLower then [c.toNat, c.toUpper.toNat]
  else if c.isUpper then [c.toNat, c.toLower.toNat]
  else [c.toNat]

def literal? (mode : Mode) (literal : Literal) : Option Table :=
  (mode.char? literal).map fun c => .ofPoints (mode.variants c)

end Mode

namespace ClassSyntax

mutual

def chars? (mode : Mode) : ClassSyntax → Option Table
  | literal l => (mode.classChar? l).map fun c => .ofPoints [c.toNat]
  | range first last => do
    return .ofCharRanges [(← mode.classChar? first, ← mode.classChar? last)]
  | ascii ranges negated =>
    mode.negate? negated (mode.fold (.ofCharRanges ranges))
  | property name negated => do
    mode.negate? negated (mode.fold (← mode.property? name))
  | shorthand kind negated => mode.negate? negated (mode.shorthand kind)
  | bracket negated inner => do
    mode.negate? negated (mode.fold (← chars? mode inner).joined)
  | union items => (charsEach? mode items).map Table.unions
  | operation operator left right => do
    let left := mode.fold (← chars? mode left).joined
    let right := mode.fold (← chars? mode right).joined
    match operator with
    | .intersection => return left.inter right
    | .difference => return left.without right
    | .symmetricDifference => return left.exclusive right

def charsEach? (mode : Mode) : List ClassSyntax → Option (List Table)
  | [] => some []
  | item :: rest => do
    return (← chars? mode item) :: (← charsEach? mode rest)

end

end ClassSyntax

/-- A pattern with its flags resolved.  A set says whether it was written with
Unicode switched on, a group is one whose match is remembered. -/
inductive Term where
  | empty
  | set (unicode : Bool) (chars : Table)
  | look (look : Look)
  | repetition (least : Nat) (most : Option Nat) (reluctant : Bool)
      (body : Term)
  | group (body : Term)
  | sequence (parts : List Term)
  | choice (branches : List Term)

namespace Syntax

mutual

/-- The meaning of a pattern, and the flags in force after it. -/
def term? (mode : Mode) : Syntax → Option (Term × Mode)
  | empty => some (.empty, mode)
  | flags changes => some (.empty, mode.change changes)
  | literal l => (mode.literal? l).map (.set mode.unicode ·, mode)
  | dot => mode.dot?.map (.set mode.unicode ·, mode)
  | place p => some (.look (mode.look p), mode)
  | charClass inner => (inner.chars? mode).map (.set mode.unicode ·, mode)
  | repetition least most reluctant body =>
    (term? mode body).map fun (term, mode) =>
      (.repetition least most (reluctant != mode.swapGreed) term, mode)
  | group remembered changes body =>
    (term? (mode.change changes) body).map fun (term, _) =>
      (if remembered then .group term else term, mode)
  | alternation branches => (terms? mode branches).map fun (terms, mode) =>
      (.choice terms, mode)
  | concat parts =>
    (terms? mode parts).map fun (terms, mode) => (.sequence terms, mode)

def terms? (mode : Mode) : List Syntax → Option (List Term × Mode)
  | [] => some ([], mode)
  | part :: rest => do
    let (term, mode) ← term? mode part
    let (terms, mode) ← terms? mode rest
    return (term :: terms, mode)

end

end Syntax

end SeriesIndex.Pattern
