import SeriesIndex.Unicode.Latest

/-!
# Quoted text

The quoted form of a text stands between double quotes.  A backslash introduces
the double quote, the backslash itself and four control characters; every other
character that would not be seen as one of its own is written as `\u`, its code
point in hexadecimal between braces.  What is assigned, and what it joins, is as
in the latest version of the standard.
-/

namespace SeriesIndex.Text.Quoted

open Unicode

/-- Code points that show nothing of their own: controls, separators, private
use and unassigned ones, those that may be ignored, and those that join the
character before them.  The two letters among the last are seen. -/
def unseen : Table := .unions
  [Latest.other, Category.separator, Property.defaultIgnorableCodePoint,
   Latest.graphemeExtend.diff Category.letter]

/-- Whether a character shows up as a character of its own. -/
def isPlain (c : Char) : Bool :=
  if c.toNat < 0x7F then 0x20 ≤ c.toNat
  else !unseen.contains c

/-- How a character is written between the quotes. -/
def encodeChar (c : Char) : List Char :=
  if c = '\x00' then ['\\', '0']
  else if c = '\t' then ['\\', 't']
  else if c = '\n' then ['\\', 'n']
  else if c = '\r' then ['\\', 'r']
  else if c = '\"' then ['\\', '\"']
  else if c = '\\' then ['\\', '\\']
  else if isPlain c then [c]
  else '\\' :: 'u' :: '{' :: (Nat.toDigits 16 c.toNat ++ ['}'])

def encode (text : String) : String :=
  String.ofList ('\"' :: (text.toList.flatMap encodeChar ++ ['\"']))

end SeriesIndex.Text.Quoted
