import SeriesIndex.Pattern.Escape

/-!
# Bracketed classes

A class in brackets lists characters, ranges and further classes, and combines
them with `&&`, `--` and `~~`, which bind equally and to the left.  A closing
bracket stands for itself when it comes first, and so do the hyphens before
anything else.
-/

namespace SeriesIndex.Pattern

namespace Bracket

def asciiRanges? : List Char → Option (List (Char × Char))
  | ['a', 'l', 'n', 'u', 'm'] => some [('0', '9'), ('A', 'Z'), ('a', 'z')]
  | ['a', 'l', 'p', 'h', 'a'] => some [('A', 'Z'), ('a', 'z')]
  | ['a', 's', 'c', 'i', 'i'] => some [('\x00', '\x7f')]
  | ['b', 'l', 'a', 'n', 'k'] => some [('\t', '\t'), (' ', ' ')]
  | ['c', 'n', 't', 'r', 'l'] => some [('\x00', '\x1f'), ('\x7f', '\x7f')]
  | ['d', 'i', 'g', 'i', 't'] => some [('0', '9')]
  | ['g', 'r', 'a', 'p', 'h'] => some [('!', '~')]
  | ['l', 'o', 'w', 'e', 'r'] => some [('a', 'z')]
  | ['p', 'r', 'i', 'n', 't'] => some [(' ', '~')]
  | ['p', 'u', 'n', 'c', 't'] =>
    some [('!', '/'), (':', '@'), ('[', '\x60'), ('\x7b', '~')]
  | ['s', 'p', 'a', 'c', 'e'] => some [('\t', '\r'), (' ', ' ')]
  | ['u', 'p', 'p', 'e', 'r'] => some [('A', 'Z')]
  | ['w', 'o', 'r', 'd'] =>
    some [('0', '9'), ('A', 'Z'), ('_', '_'), ('a', 'z')]
  | ['x', 'd', 'i', 'g', 'i', 't'] => some [('0', '9'), ('A', 'F'), ('a', 'f')]
  | _ => none

/-- Reads `:name:]` or `:^name:]`, which follow an opening bracket. -/
def asciiClass? : List Char → Option (ClassSyntax × List Char)
  | ':' :: rest =>
    let (negated, rest) :=
      match rest with
      | '^' :: rest => (true, rest)
      | rest => (false, rest)
    match rest.dropWhile (· != ':') with
    | ':' :: ']' :: after =>
      (asciiRanges? (rest.takeWhile (· != ':'))).map fun ranges =>
        (.ascii ranges negated, after)
    | _ => none
  | _ => none

def atom (verbose : Bool) : List Char → Option (Atom × List Char)
  | [] => none
  | '\\' :: rest => escape verbose rest
  | c :: rest => some (.literal ⟨c, false⟩, rest)

/-- An atom on its own; places have no meaning in a class. -/
def single : Atom → Option ClassSyntax
  | .literal literal => some (.literal literal)
  | .charClass inner => some inner
  | .place _ => none

/-- Reads a range or a single item.  A hyphen before a closing bracket or
another hyphen makes no range. -/
def item (verbose : Bool) (text : List Char) :
    Option (ClassSyntax × List Char) := do
  let (first, rest) ← atom verbose text
  let rest := skip verbose rest
  match rest with
  | [] => none
  | '-' :: after =>
    if peek verbose after == some ']' || peek verbose after == some '-' then
      return (← single first, rest)
    else
      let (last, rest) ← atom verbose (skip verbose after)
      match first, last with
      | .literal first, .literal last =>
        if first.char ≤ last.char then some (.range first last, rest) else none
      | _, _ => none
  | rest => return (← single first, rest)

def hyphens (verbose : Bool) : Nat → List ClassSyntax → List Char →
    List ClassSyntax × List Char
  | rounds + 1, items, '-' :: rest =>
    hyphens verbose rounds (.literal ⟨'-', false⟩ :: items) (skip verbose rest)
  | _, items, text => (items, text)

/-- Reads the front of a class, after its bracket: a caret that negates it and
the signs that stand for themselves there.  The items come last first. -/
def front (verbose : Bool) (text : List Char) :
    Bool × List ClassSyntax × List Char :=
  let text := skip verbose text
  let (negated, text) :=
    match text with
    | '^' :: rest => (true, skip verbose rest)
    | text => (false, text)
  match hyphens verbose text.length [] text with
  | ([], ']' :: rest) => (negated, [.literal ⟨']', false⟩], skip verbose rest)
  | (items, text) => (negated, items, text)

/-- The class so far: the operation that waits for its right side, applied to
the items read since, which come last first. -/
def settle (pending : Option (SetOperator × ClassSyntax))
    (items : List ClassSyntax) : ClassSyntax :=
  let right := ClassSyntax.ofItems items.reverse
  match pending with
  | some (operator, left) => .operation operator left right
  | none => right

/-- Reads the inside of a class up to its closing bracket.  Every round takes at
least one character, so the length of the text is rounds enough. -/
def inside (verbose : Bool) :
    Nat → Option (SetOperator × ClassSyntax) → List ClassSyntax →
    List Char → Option (ClassSyntax × List Char)
  | 0, _, _, _ => none
  | rounds + 1, pending, items, text =>
    match skip verbose text with
    | [] => none
    | '[' :: rest =>
      match asciiClass? rest with
      | some (named, rest) =>
        inside verbose rounds pending (named :: items) rest
      | none =>
        let (negated, first, rest) := front verbose rest
        match inside verbose rounds none first rest with
        | some (inner, rest) =>
          inside verbose rounds pending (.bracket negated inner :: items) rest
        | none => none
    | ']' :: rest => some (settle pending items, rest)
    | '&' :: '&' :: rest =>
      inside verbose rounds (some (.intersection, settle pending items)) [] rest
    | '-' :: '-' :: rest =>
      inside verbose rounds (some (.difference, settle pending items)) [] rest
    | '~' :: '~' :: rest =>
      inside verbose rounds (some (.symmetricDifference, settle pending items))
        [] rest
    | text =>
      match item verbose text with
      | some (next, rest) => inside verbose rounds pending (next :: items) rest
      | none => none

end Bracket

def bracket (verbose : Bool) (text : List Char) :
    Option (ClassSyntax × List Char) :=
  let (negated, first, rest) := Bracket.front verbose text
  (Bracket.inside verbose (rest.length + 1) none first rest).map
    fun (inner, rest) => (.bracket negated inner, rest)

end SeriesIndex.Pattern
