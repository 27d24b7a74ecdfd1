import SeriesIndex.Unicode.Table

/-!
# Complements and differences by characters

A table of characters has ranges that run from one character to another.  The
surrogates, `D800` to `DFFF`, are no characters: a range may run across them,
but none starts or ends there, and of two ranges one may end right before them
where the next starts right after.

Each gap between ranges is told by the characters next to it: the one after the
range below and the one before the range above.  Two ranges that meet at the
surrogates have no character between them.  The two characters told are then
their own ends, the greater one first, and the complement has what runs from one
to the other.
-/

namespace SeriesIndex.Unicode

def beforeSurrogates : Nat := 0xD7FF

def afterSurrogates : Nat := 0xE000

def nextChar (point : Nat) : Nat :=
  if point = beforeSurrogates then afterSurrogates else point + 1

def previousChar (point : Nat) : Nat :=
  if point = afterSurrogates then beforeSurrogates else point - 1

namespace Table

/-- What lies above a range that ends with `high`, gap by gap, given the ranges
above it. -/
def above (high : Nat) : List (Nat × Nat) → List (Nat × Nat)
  | [] => if high < last then [(nextChar high, last)] else []
  | (low, next) :: rest =>
    let first := nextChar high
    let final := previousChar low
    (min first final, max first final) :: above next rest

/-- The complement, gap by gap. -/
def negation (table : Table) : Table :=
  match table.ranges.toList with
  | [] => full
  | (low, high) :: rest =>
    let below := if 0 < low then [(0, previousChar low)] else []
    ⟨(below ++ above high rest).toArray⟩

/-- The part of a range that runs from one character to another, if there is
one. -/
def trim? : Nat × Nat → Option (Nat × Nat)
  | (low, high) =>
    let low :=
      if beforeSurrogates < low && low < afterSurrogates then afterSurrogates
      else low
    let high :=
      if beforeSurrogates < high && high < afterSurrogates then beforeSurrogates
      else high
    if low ≤ high then some (low, high) else none

/-- What is left of a table of characters without another. -/
def without (a b : Table) : Table :=
  ⟨(a.diff b).ranges.filterMap trim?⟩

/-- What is in one table of characters and not in the other. -/
def exclusive (a b : Table) : Table :=
  (a.union b).without (a.inter b)

end Table

end SeriesIndex.Unicode
