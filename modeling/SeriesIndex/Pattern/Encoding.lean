/-!
# Ranges of encodings

A character is encoded in one to four bytes: a first byte that tells how many
follow, and then six bits in each byte.  `encodings` cuts a range of code points
into pieces such that the encodings in a piece are all those whose bytes lie,
place by place, in given ranges.
-/

namespace SeriesIndex.Pattern

abbrev ByteRange := UInt8 × UInt8

/-- Code points whose encodings have the same number of bytes after the first
one, and the first byte that they start from. -/
structure Window where
  first : Nat
  last : Nat
  lead : Nat
  following : Nat
  deriving Repr

namespace Window

/-- All windows in ascending order; what they leave out are no characters. -/
def all : List Window :=
  [⟨0, 0x7F, 0, 0⟩, ⟨0x80, 0x7FF, 0xC0, 1⟩, ⟨0x800, 0xD7FF, 0xE0, 2⟩,
    ⟨0xE000, 0xFFFF, 0xE0, 2⟩, ⟨0x10000, 0x10FFFF, 0xF0, 3⟩]

def encode (lead : Nat) : Nat → Nat → List UInt8
  | 0, point => [(lead + point).toUInt8]
  | following + 1, point =>
    encode lead following (point / 64) ++ [(0x80 + point % 64).toUInt8]

/-- How many code points share all but their last byte, their last two, or
three. -/
def blocks : List Nat := [64, 4096, 262144]

/-- Cuts a range where it enters or leaves whole blocks, smaller blocks first.
A range within one block is left as it is. -/
def cut : List Nat → Nat → Nat → List (Nat × Nat)
  | [], low, high => [(low, high)]
  | block :: larger, low, high =>
    if low / block = high / block then [(low, high)]
    else
      let start := (low + block - 1) / block * block
      let before := if low < start then [(low, start - 1)] else []
      if start / block = high / block then before ++ [(start, high)]
      else if high % block + 1 < block then
        let final := high / block * block
        before ++ cut larger start (final - 1) ++ [(final, high)]
      else before ++ cut larger start high

def encodings (window : Window) (low high : Nat) : List (List ByteRange) :=
  let low := max low window.first
  let high := min high window.last
  if low ≤ high then
    (cut (blocks.take window.following) low high).map fun (low, high) =>
      (encode window.lead window.following low).zip
        (encode window.lead window.following high)
  else []

end Window

def encodings (low high : Nat) : List (List ByteRange) :=
  Window.all.flatMap fun window => window.encodings low high

end SeriesIndex.Pattern
