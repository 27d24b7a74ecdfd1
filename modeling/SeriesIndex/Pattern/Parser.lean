import SeriesIndex.Pattern.Bracket
import SeriesIndex.Unicode.Latest

/-!
# Reading patterns

The reader goes through a pattern once, keeping the parts read at the current
level and a stack of the groups that are open around it.  `parse?` gives the
syntax tree of a whole pattern; it refuses malformed patterns and those nested
too deeply.
-/

namespace SeriesIndex.Pattern

open Unicode

/-- An open group: whether it is remembered, its flag changes, and what its
surroundings are to go on with. -/
structure Frame where
  remembered : Bool
  changes : FlagChanges
  parts : List Syntax
  branches : List Syntax
  verbose : Bool

/-- Where the reader stands.  Parts and branches of the current level come last
first. -/
structure Reader where
  verbose : Bool
  parts : List Syntax
  branches : List Syntax
  groups : List Frame
  names : List String

namespace Reader

def start : Reader := ⟨false, [], [], [], []⟩

def push (r : Reader) (part : Syntax) : Reader :=
  { r with parts := part :: r.parts }

def branch (r : Reader) : Syntax :=
  .ofParts r.parts.reverse

def level (r : Reader) : Syntax :=
  .ofBranches (r.branch :: r.branches).reverse

def bar (r : Reader) : Reader :=
  { r with parts := [], branches := r.branch :: r.branches }

/-- Opens a group. -/
def enter (r : Reader) (remembered : Bool) (changes : FlagChanges) : Reader :=
  { r with
    verbose := (changes.setting? .verbose).getD r.verbose
    parts := []
    branches := []
    groups :=
      ⟨remembered, changes, r.parts, r.branches, r.verbose⟩ :: r.groups }

def leave (r : Reader) : Option Reader :=
  match r.groups with
  | [] => none
  | frame :: groups => some
      { r with
        verbose := frame.verbose
        parts := .group frame.remembered frame.changes r.level :: frame.parts
        branches := frame.branches
        groups := groups }

def setFlags (r : Reader) (changes : FlagChanges) : Reader :=
  { r with
    verbose := (changes.setting? .verbose).getD r.verbose
    parts := .flags changes :: r.parts }

/-- Repeats the last part; there has to be one, and flag changes are none. -/
def repeatLast (r : Reader) (least : Nat) (most : Option Nat)
    (reluctant : Bool) : Option Reader :=
  match r.parts with
  | [] | .empty :: _ | .flags _ :: _ => none
  | part :: parts =>
    some { r with parts := .repetition least most reluctant part :: parts }

/-- Opens a group that has a name; no name may be given twice. -/
def enterNamed (r : Reader) (name : List Char) : Option Reader :=
  let name := String.ofList name
  if r.names.contains name then none
  else some { r.enter true [] with names := name :: r.names }

end Reader

namespace Group

/-- Whether a character may stand in a group's name, at its front or later. -/
def isNameStart (c : Char) : Bool :=
  c == '_' || Latest.alphabetic.contains c

def isNamePart (c : Char) : Bool :=
  c == '_' || c == '.' || c == '[' || c == ']' || Latest.alphabetic.contains c
    || Latest.number.contains c

def name? (text : List Char) : Option (List Char × List Char) :=
  match text.takeWhile (· != '>'), text.dropWhile (· != '>') with
  | first :: others, _ :: rest =>
    if isNameStart first && others.all isNamePart then
      some (first :: others, rest)
    else none
  | _, _ => none

/-- Reads flag letters up to the sign that ends them.  After a hyphen, which
stands at most once and never last, flags are switched off.  Says whether a
group follows. -/
def flags? (on dangling : Bool) (changes : FlagChanges) :
    List Char → Option (FlagChanges × Bool × List Char)
  | [] => none
  | c :: rest =>
    if c == ':' || c == ')' then
      if dangling then none else some (changes.reverse, c == ':', rest)
    else if c == '-' then
      if on then flags? false true changes rest else none
    else
      match Flag.ofLetter? c with
      | none => none
      | some flag =>
        if (changes.setting? flag).isSome then none
        else flags? on false ((flag, on) :: changes) rest

def opening (r : Reader) (text : List Char) : Option (Reader × List Char) :=
  match skip r.verbose text with
  | '?' :: '=' :: _ | '?' :: '!' :: _ | '?' :: '<' :: '=' :: _
  | '?' :: '<' :: '!' :: _ => none
  | '?' :: 'P' :: '<' :: rest | '?' :: '<' :: rest => do
    let (name, rest) ← name? rest
    return (← r.enterNamed name, rest)
  | '?' :: rest => do
    let (changes, isGroup, rest) ← flags? true false [] rest
    if isGroup then return (r.enter false changes, rest)
    else if changes.isEmpty then none
    else return (r.setFlags changes, rest)
  | rest => some (r.enter true [], rest)

end Group

namespace Repetition

def countBound : Nat := 0x100000000

def count (verbose : Bool) (text : List Char) : Option (Nat × List Char) :=
  let (digits, rest) := digitRun verbose false (text.dropWhile isBlank)
  let value :=
    digits.foldl (fun value c => value * 10 + (c.toNat - '0'.toNat)) 0
  if digits.isEmpty || countBound ≤ value then none
  else some (value, rest.dropWhile isBlank)

/-- Reads the question mark that makes a repetition reluctant, if there is
one. -/
def reluctance : List Char → Bool × List Char
  | '?' :: rest => (true, rest)
  | text => (false, text)

/-- Reads the counts of a repetition up to the brace that ends them. -/
def counts (verbose : Bool) (text : List Char) :
    Option (Nat × Option Nat × List Char) := do
  let (least, rest) ← count verbose (skip verbose text)
  let (most, rest) ←
    match rest with
    | ',' :: rest =>
      match skip verbose rest with
      | '}' :: rest => some (none, '}' :: rest)
      | rest => (count verbose rest).map fun (most, rest) => (some most, rest)
    | rest => some (some least, rest)
  match rest with
  | '}' :: rest =>
    if most.all (least ≤ ·) then some (least, most, skip verbose rest) else none
  | _ => none

end Repetition

/-- Repeats the last part, reluctantly if a question mark follows. -/
def Reader.repetition (r : Reader) (least : Nat) (most : Option Nat)
    (text : List Char) : Option (Reader × List Char) :=
  let (reluctant, rest) := Repetition.reluctance text
  (r.repeatLast least most reluctant).map (·, rest)

/-- Takes one step: reads the next part of a text that does not start with
blanks. -/
def Reader.step (r : Reader) (c : Char) (rest : List Char) :
    Option (Reader × List Char) :=
  match c with
  | '(' => Group.opening r rest
  | ')' => r.leave.map (·, rest)
  | '|' => some (r.bar, rest)
  | '[' =>
      (bracket r.verbose rest).map fun (inner, rest) =>
      (r.push (.charClass inner), rest)
  | '?' => r.repetition 0 (some 1) rest
  | '*' => r.repetition 0 none rest
  | '+' => r.repetition 1 none rest
  | '{' => do
    let (least, most, rest) ← Repetition.counts r.verbose rest
    r.repetition least most rest
  | '\\' => do
    let (atom, rest) ← escape r.verbose rest
    match atom with
    | .literal literal => return (r.push (.literal literal), rest)
    | .place place => return (r.push (.place place), rest)
    | .charClass inner => return (r.push (.charClass inner), rest)
  | '.' => some (r.push .dot, rest)
  | '^' => some (r.push (.place .lineStart), rest)
  | '$' => some (r.push (.place .lineEnd), rest)
  | c => some (r.push (.literal ⟨c, false⟩), rest)

/-- Reads to the end.  Every step takes at least one character, so the length of
the text is steps enough. -/
def Reader.run : Nat → Reader → List Char → Option Reader
  | 0, _, _ => none
  | steps + 1, r, text =>
    match skip r.verbose text with
    | [] => some r
    | c :: rest =>
      match r.step c rest with
      | some (r, rest) => Reader.run steps r rest
      | none => none

def depthLimit : Nat := 250

/-- The syntax tree of a pattern, if it is well formed. -/
def parse? (text : List Char) : Option Syntax := do
  let r ← Reader.run (text.length + 1) .start text
  if r.groups.isEmpty && r.level.depth ≤ depthLimit then return r.level
  else none

end SeriesIndex.Pattern
