import SeriesIndex.Pattern.Meaning

/-!
# Regular expressions over texts

A `Regex` is what is left of a pattern for matching: sets, look-arounds,
sequences, choices and repetitions.  `Spans` says between which places of a text
it matches.  A text is matched when some match exists in it, wherever that
starts; which one is found plays no part.
-/

namespace SeriesIndex.Pattern

open Unicode

/-- `plus` repeats its body once or more often, `times` as often as its bounds
allow. -/
inductive Regex where
  | empty
  | set (chars : Table)
  | look (look : Look)
  | cat (first second : Regex)
  | alt (left right : Regex)
  | plus (body : Regex)
  | times (least most : Nat) (body : Regex)

/-- So many steps of a relation between places. -/
def Steps (step : Nat → Nat → Prop) : Nat → Nat → Nat → Prop
  | 0, i, j => i = j
  | count + 1, i, j => ∃ k, step i k ∧ Steps step count k j

namespace Regex

/-- Whether a match goes from the place `i` of a text to the place `j`. -/
def Spans (text : Array Char) : Regex → Nat → Nat → Prop
  | empty, i, j => i = j
  | set chars, i, j =>
    j = i + 1 ∧ ∃ c, text[i]? = some c ∧ chars.contains c = true
  | look l, i, j => i = j ∧ l.holds text i = true
  | cat first second, i, j => ∃ k, first.Spans text i k ∧ second.Spans text k j
  | alt left right, i, j => left.Spans text i j ∨ right.Spans text i j
  | plus body, i, j => ∃ count, Steps (body.Spans text) (count + 1) i j
  | times least most body, i, j =>
    ∃ count, least ≤ count ∧ count ≤ most ∧ Steps (body.Spans text) count i j

/-- Whether only the empty text can be matched. -/
def isZeroWidth : Regex → Bool
  | empty | look _ => true
  | set _ => false
  | cat first second => first.isZeroWidth && second.isZeroWidth
  | alt left right => left.isZeroWidth && right.isZeroWidth
  | plus body => body.isZeroWidth
  | times _ most body => most == 0 || body.isZeroWidth

/-- A repetition.  What has no width needs to be there once at most, and only
the last of several copies is repeated without end. -/
def repeated (least : Nat) (most : Option Nat) (body : Regex) : Regex :=
  if body.isZeroWidth then if least = 0 then empty else body
  else
    match least, most with
    | 0, none => alt empty (plus body)
    | 1, none => plus body
    | least, none => cat (times (least - 1) (least - 1) body) (plus body)
    | 0, some 1 => alt empty body
    | 1, some 1 => body
    | least, some most => times least most body

def joinPairs : List Regex → List Regex
  | first :: second :: rest => cat first second :: joinPairs rest
  | regexes => regexes

/-- Parts in sequence.  Neighbours are joined for so many rounds, and what is
left then is joined from the right; after as many rounds as there are parts, a
single one is left.  So no part lies deeper than it has to. -/
def inSequence : Nat → List Regex → Regex
  | _, [] => empty
  | _, [regex] => regex
  | 0, first :: rest => cat first (inSequence 0 rest)
  | rounds + 1, first :: rest => inSequence rounds (joinPairs (first :: rest))

def oneOf : List Regex → Regex
  | [] => set .empty
  | [regex] => regex
  | regex :: rest => alt regex (oneOf rest)

end Regex

namespace Term

mutual

/-- What of a term matters for matching. -/
def regex : Term → Regex
  | empty => .empty
  | set _ chars => .set chars
  | look l => .look l
  | repetition least most _ body => .repeated least most body.regex
  | group body => body.regex
  | sequence parts => .inSequence parts.length (regexes parts)
  | choice branches => .oneOf (regexes branches)

def regexes : List Term → List Regex
  | [] => []
  | term :: rest => term.regex :: regexes rest

end

end Term

end SeriesIndex.Pattern
