import SeriesIndex.Unicode.Property

/-!
# Look-arounds

A text is an array of characters; a place in it is a number between zero and its
length.  `Look.holds` says where a look-around holds.  It takes no characters
itself.
-/

namespace SeriesIndex.Pattern

open Unicode

/-- Conditions on a place.  Where words matter, `unicode` picks their
characters. -/
inductive Look where
  | textStart
  | textEnd
  | lineStart
  | lineEnd
  | pairedLineStart
  | pairedLineEnd
  | wordEdge (unicode : Bool)
  | notWordEdge (unicode : Bool)
  | wordStart (unicode : Bool)
  | wordEnd (unicode : Bool)
  | wordStartHalf (unicode : Bool)
  | wordEndHalf (unicode : Bool)
  deriving DecidableEq, Repr

def isAsciiWord (c : Char) : Bool :=
  c.isAlphanum || c == '_'

/-- Whether a neighbour of a place exists and belongs to a word. -/
def isWordAt (unicode : Bool) (c : Option Char) : Bool :=
  c.any fun c => if unicode then Property.word.contains c else isAsciiWord c

def before (text : Array Char) (place : Nat) : Option Char :=
  if place = 0 then none else text[place - 1]?

def after (text : Array Char) (place : Nat) : Option Char :=
  text[place]?

/-- Whether a look-around holds at a place.  Paired line ends are a carriage
return, a line feed, or both in this order, which nothing separates. -/
def Look.holds (text : Array Char) (place : Nat) : Look → Bool
  | textStart => place == 0
  | textEnd => place == text.size
  | lineStart => place == 0 || before text place == some '\n'
  | lineEnd => place == text.size || after text place == some '\n'
  | pairedLineStart =>
    place == 0 || before text place == some '\n'
      || (before text place == some '\r' && after text place != some '\n')
  | pairedLineEnd =>
    place == text.size || after text place == some '\r'
      || (after text place == some '\n' && before text place != some '\r')
  | wordEdge u =>
    isWordAt u (before text place) != isWordAt u (after text place)
  | notWordEdge u =>
    isWordAt u (before text place) == isWordAt u (after text place)
  | wordStart u =>
    !isWordAt u (before text place) && isWordAt u (after text place)
  | wordEnd u =>
    isWordAt u (before text place) && !isWordAt u (after text place)
  | wordStartHalf u => !isWordAt u (before text place)
  | wordEndHalf u => !isWordAt u (after text place)

end SeriesIndex.Pattern
