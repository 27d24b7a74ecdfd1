/-!
# Hexadecimal numbers

Digits in either case, the numbers that they write, and the characters that such
a number names.
-/

namespace SeriesIndex.Text.Hexadecimal

def digit? (c : Char) : Option Nat :=
  if '0' ≤ c && c ≤ '9' then some (c.toNat - '0'.toNat)
  else if 'A' ≤ c && c ≤ 'F' then some (c.toNat - 'A'.toNat + 10)
  else if 'a' ≤ c && c ≤ 'f' then some (c.toNat - 'a'.toNat + 10)
  else none

def value? (digits : List Char) : Option Nat :=
  if digits.isEmpty then none
  else digits.foldlM (fun value c => (digit? c).map (value * 16 + ·)) 0

/-- The character with a code point, surrogates and too large numbers
excepted. -/
def charOf? (point : Nat) : Option Char :=
  if point.isValidChar then some (Char.ofNat point) else none

/-- The character whose code point a run of digits writes. -/
def char? (digits : List Char) : Option Char :=
  (value? digits).bind charOf?

end SeriesIndex.Text.Hexadecimal
