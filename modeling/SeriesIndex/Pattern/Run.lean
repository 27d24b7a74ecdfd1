import SeriesIndex.Pattern.Regex

/-!
# Running regular expressions

A text is read once, character by character, and what may still follow of a
regular expression is kept as a `State`: it marks the sets that wait for the
next character.  `completes` says whether a character completes a match, and
`shift` moves all marks over that character and adds those for matches that
start behind it.  Every mark is kept once, however many ways lead to it, so the
work for a character is bounded by the size of the expression.

Both are told by `hit` which sets the character is in, and `place` is where it
ends.
-/

namespace SeriesIndex.Pattern

open Unicode

/-- What waits within a regular expression.  The parts of a sequence or of a
choice have a state each; of a counted repetition those copies are listed that
something waits in, with the number of copies before them. -/
inductive State where
  | idle
  | waiting
  | pair (first second : State)
  | copies (live : List (Nat × State))

namespace State

def isIdle : State → Bool
  | idle => true
  | _ => false

/-- The states of the two parts of a sequence or a choice. -/
def first : State → State
  | pair s _ => s
  | _ => idle

def second : State → State
  | pair _ t => t
  | _ => idle

/-- The copies of a repetition that something waits in. -/
def live : State → List (Nat × State)
  | copies live => live
  | _ => []

def both : State → State → State
  | idle, idle => idle
  | s, t => pair s t

/-- The state with the given copies, of which idle ones are left out. -/
def ofLive (live : List (Nat × State)) : State :=
  match live.filter fun (_, s) => !s.isIdle with
  | [] => idle
  | live => copies live

end State

/-- How many copies are complete wherever one of the live ones is. -/
def counts (most : Nat) (completes : State → Bool) (live : List (Nat × State)) :
    List Nat :=
  live.filterMap fun (number, s) =>
    if number < most && completes s then some (number + 1) else none

/-- The copies that begin where the given numbers of copies are complete.  If a
copy may be empty there, so do all that follow. -/
def begun (most : Nat) (skips : Bool) (counts : List Nat) : List Nat :=
  if skips then
    match counts.min? with
    | some low => List.range' low (most - low)
    | none => []
  else counts.filter (· < most)

/-- Moves the marks of all live copies and enters those with the given numbers;
both lists ascend, and so does the result. -/
def shiftCopies (shift : State → Bool → State) :
    List Nat → List (Nat × State) → List (Nat × State)
  | [], live => live.map fun (number, s) => (number, shift s false)
  | number :: numbers, live => insert number live (shiftCopies shift numbers)
where
  /-- Enters one copy; `rest` takes care of the copies behind it. -/
  insert (number : Nat) :
      List (Nat × State) → (List (Nat × State) → List (Nat × State)) →
        List (Nat × State)
    | [], rest => (number, shift .idle true) :: rest []
    | (other, s) :: live, rest =>
      if number < other then
        (number, shift .idle true) :: rest ((other, s) :: live)
      else if number = other then (number, shift s true) :: rest live
      else (other, shift s false) :: insert number live rest

namespace Regex

def isEmptyAt (text : Array Char) (place : Nat) : Regex → Bool
  | empty => true
  | set _ => false
  | look l => l.holds text place
  | cat first second =>
    first.isEmptyAt text place && second.isEmptyAt text place
  | alt left right => left.isEmptyAt text place || right.isEmptyAt text place
  | plus body => body.isEmptyAt text place
  | times least most body =>
    least ≤ most && (least == 0 || body.isEmptyAt text place)

/-- Whether the character read completes a match. -/
def completes (text : Array Char) (hit : Table → Bool) (place : Nat) :
    Regex → State → Bool
  | _, .idle => false
  | set chars, _ => hit chars
  | cat a b, s =>
    b.completes text hit place s.second
      || (a.completes text hit place s.first && b.isEmptyAt text place)
  | alt a b, s =>
    a.completes text hit place s.first || b.completes text hit place s.second
  | plus body, s => body.completes text hit place s
  | times least most body, s =>
    let counts := counts most (body.completes text hit place) s.live
    counts.any (least ≤ ·)
      || (!counts.isEmpty && least ≤ most && body.isEmptyAt text place)
  | empty, _ | look _, _ => false

/-- The state behind the character read.  If `enters`, a match may start there,
too. -/
def shift (text : Array Char) (hit : Table → Bool) (place : Nat) :
    Regex → State → Bool → State
  | _, .idle, false => .idle
  | set _, _, enters => if enters then .waiting else .idle
  | cat a b, s, enters =>
    .both (a.shift text hit place s.first enters)
      (b.shift text hit place s.second
        (a.completes text hit place s.first ||
          (enters && a.isEmptyAt text place)))
  | alt a b, s, enters =>
    .both (a.shift text hit place s.first enters)
      (b.shift text hit place s.second enters)
  | plus body, s, enters =>
    body.shift text hit place s (enters || body.completes text hit place s)
  | times _ most body, s, enters =>
    let counts := counts most (body.completes text hit place) s.live
    let counts := if enters then 0 :: counts else counts
    let skips := !counts.isEmpty && body.isEmptyAt text place
    .ofLive
      (shiftCopies (body.shift text hit place) (begun most skips counts) s.live)
  | empty, _, _ | look _, _, _ => .idle

/-- Reads the characters that are left from `place` on, until a match is
complete. -/
def run (text : Array Char) (regex : Regex) : List Char → Nat → State → Bool
  | [], _, _ => false
  | c :: rest, place, s =>
    regex.completes text (·.contains c) (place + 1) s
      || regex.isEmptyAt text (place + 1)
      || run text regex rest (place + 1)
        (regex.shift text (·.contains c) (place + 1) s true)

/-- Whether a match exists anywhere in a text.  It may start before the first
character. -/
def matches? (regex : Regex) (text : String) : Bool :=
  let chars := text.toList.toArray
  regex.isEmptyAt chars 0
    || regex.run chars text.toList 0
      (regex.shift chars (fun _ => false) 0 .idle true)

end Regex

end SeriesIndex.Pattern
