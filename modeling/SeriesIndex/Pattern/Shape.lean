import SeriesIndex.Pattern.Meaning

/-!
# Shapes of patterns

A shape is what an automaton is built from: a pattern with its flags resolved,
its sets as ranges, and simplified while it is put together.  Adjacent
characters form one literal, sequences and choices hold no others of their kind,
a choice between characters or between sets is a set, and what all branches of a
choice start with stands before it.
-/

namespace SeriesIndex.Pattern

open Unicode

/-- A literal is never empty, sequences and choices have at least two parts. -/
inductive Shape where
  | empty
  | literal (text : List Char)
  | set (unicode : Bool) (ranges : List (Nat × Nat))
  | look (look : Look)
  | repetition (least : Nat) (most : Option Nat) (reluctant : Bool)
      (body : Shape)
  | group (body : Shape)
  | sequence (parts : List Shape)
  | choice (branches : List Shape)

namespace Shape

def nothing : Shape := set false []

/-- A set with one member is a literal. -/
def ofRanges (unicode : Bool) : List (Nat × Nat) → Shape
  | [] => nothing
  | [(low, high)] =>
    if low = high then literal [Char.ofNat low] else set unicode [(low, high)]
  | ranges => set unicode ranges

mutual

def isZeroWidth : Shape → Bool
  | empty | look _ => true
  | literal _ | set _ _ => false
  | repetition _ _ _ body => body.isZeroWidth
  | group body => body.isZeroWidth
  | sequence parts => allZeroWidth parts
  | choice branches => allZeroWidth branches

def allZeroWidth : List Shape → Bool
  | [] => true
  | shape :: rest => shape.isZeroWidth && allZeroWidth rest

end

mutual

/-- A lower bound on the number of characters in a match; none if some part of
the shape matches nothing at all. -/
def least? : Shape → Option Nat
  | empty | look _ => some 0
  | literal text => some text.length
  | set _ ranges => if ranges.isEmpty then none else some 1
  | repetition least _ _ body => body.least?.map (least * ·)
  | group body => body.least?
  | sequence parts => leastSum? parts
  | choice branches => leastOf? branches

def leastSum? : List Shape → Option Nat
  | [] => some 0
  | shape :: rest => do return (← shape.least?) + (← leastSum? rest)

def leastOf? : List Shape → Option Nat
  | [] => none
  | [shape] => shape.least?
  | shape :: rest => do return min (← shape.least?) (← leastOf? rest)

end

mutual

/-- Whether a look-around has to hold where a match starts. -/
def startsWith (l : Look) : Shape → Bool
  | look m => l == m
  | repetition least _ _ body => 0 < least && body.startsWith l
  | group body => body.startsWith l
  | sequence parts => anyStartsWith l parts
  | choice branches => allStartWith l branches
  | empty | literal _ | set _ _ => false

def anyStartsWith (l : Look) : List Shape → Bool
  | [] => false
  | shape :: rest =>
    shape.startsWith l || (shape.isZeroWidth && anyStartsWith l rest)

def allStartWith (l : Look) : List Shape → Bool
  | [] => true
  | shape :: rest => shape.startsWith l && allStartWith l rest

end

mutual

/-- Whether a look-around has to hold where a match ends. -/
def endsWith (l : Look) : Shape → Bool
  | look m => l == m
  | repetition least _ _ body => 0 < least && body.endsWith l
  | group body => body.endsWith l
  | sequence parts => anyEndsWith l parts
  | choice branches => allEndWith l branches
  | empty | literal _ | set _ _ => false

def anyEndsWith (l : Look) : List Shape → Bool
  | [] => false
  | shape :: rest =>
    anyEndsWith l rest || (allZeroWidth rest && shape.endsWith l)

def allEndWith (l : Look) : List Shape → Bool
  | [] => true
  | shape :: rest => shape.endsWith l && allEndWith l rest

end

mutual

/-- Whether two shapes are alike.  Groups are told apart by where they stand, so
no two of them are. -/
def isLike : Shape → Shape → Bool
  | empty, empty => true
  | literal a, literal b => a == b
  | set u a, set v b => u == v && a == b
  | look l, look m => l == m
  | repetition least most reluctant a, repetition least' most' reluctant' b =>
    least == least' && most == most' && reluctant == reluctant' && a.isLike b
  | sequence a, sequence b => areLike a b
  | choice a, choice b => areLike a b
  | _, _ => false

def areLike : List Shape → List Shape → Bool
  | [], [] => true
  | a :: as, b :: bs => a.isLike b && areLike as bs
  | _, _ => false

end

def push : Shape → List Shape → List Shape
  | empty, parts => parts
  | literal a, literal b :: parts => literal (a ++ b) :: parts
  | shape, parts => shape :: parts

/-- Shapes one after the other. -/
def inSequence (shapes : List Shape) : Shape :=
  let parts := shapes.foldr (fun shape parts =>
    match shape with
    | sequence inner => inner.foldr push parts
    | shape => push shape parts) []
  match parts with
  | [] => empty
  | [shape] => shape
  | parts => sequence parts

/-- The range of a literal of one character. -/
def charRange? : Shape → Option (Nat × Nat)
  | literal [c] => some (c.toNat, c.toNat)
  | _ => none

def setRanges? : Shape → Option (List (Nat × Nat))
  | set _ ranges => some ranges
  | _ => none

def parts? : Shape → Option (List Shape)
  | sequence parts => some parts
  | _ => none

/-- The single set that branches stand for, if all are characters or all are
sets. -/
def asSet? (branches : List Shape) : Option Shape :=
  (branches.mapM charRange? <|> (branches.mapM setRanges?).map List.flatten).map
    fun ranges => ofRanges true (Table.ofRanges ranges).ranges.toList

/-- The parts that two sequences start with alike. -/
def sharedStart : List Shape → List Shape → List Shape
  | a :: as, b :: bs => if a.isLike b then a :: sharedStart as bs else []
  | _, _ => []

/-- What all branches start with, if there is such a part, and what is left of
them. -/
def factor? (branches : List Shape) : Option (List Shape × List Shape) := do
  let sequences ← branches.mapM parts?
  let shared := sequences.tail.foldl sharedStart (sequences.headD [])
  if shared.isEmpty then none
  else
    some (shared,
      sequences.map fun parts => inSequence (parts.drop shared.length))

/-- The choice between branches that start with nothing in common. -/
def oneOfDistinct (shapes : List Shape) : Shape :=
  let branches := shapes.flatMap fun
    | choice inner => inner
    | shape => [shape]
  match branches with
  | [] => nothing
  | [shape] => shape
  | branches => (asSet? branches).getD (choice branches)

/-- The choice between shapes.  Once all that is shared stands before the
choice, nothing is shared by what is left. -/
def oneOf (shapes : List Shape) : Shape :=
  match oneOfDistinct shapes with
  | choice branches =>
    match factor? branches with
    | some (shared, rest) => inSequence (shared ++ [oneOfDistinct rest])
    | none => choice branches
  | shape => shape

/-- A shape repeated.  What has no width needs to be there once at most. -/
def repeated (least : Nat) (most : Option Nat) (reluctant : Bool)
    (body : Shape) : Shape :=
  let (least, most) :=
    if body.isZeroWidth then (min least 1, some (min (most.getD 1) 1))
    else (least, most)
  if most = some 0 then empty
  else if least = 1 ∧ most = some 1 then body
  else repetition least most reluctant body

end Shape

namespace Term

mutual

def shape : Term → Shape
  | empty => .empty
  | set unicode chars => .ofRanges unicode chars.ranges.toList
  | look l => .look l
  | repetition least most reluctant body =>
    .repeated least most reluctant body.shape
  | group body => .group body.shape
  | sequence parts => .inSequence (shapes parts)
  | choice branches => .oneOf (shapes branches)

def shapes : List Term → List Shape
  | [] => []
  | term :: rest => term.shape :: shapes rest

end

end Term

end SeriesIndex.Pattern
