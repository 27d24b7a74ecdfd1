import Std.Data.ExtTreeSet
import SeriesIndex.Series

/-!
# Postings

Postings are a set of series numbers: those of the series that carry a label, or
that answer a query.  Two postings are equal exactly if they have the same
members, and listing them gives the numbers in ascending order.

The stored form of postings splits a number in two levels.  The upper 32 bits
choose a bitmap and the upper 48 bits a container in it; a container holds the
lower 16 bits of its members, as an array of words or, when there are many, as a
bitset.
-/

namespace SeriesIndex

abbrev Postings := Std.ExtTreeSet Tsid

namespace Postings

def extend (postings : Postings) (tsids : List Tsid) : Postings :=
  tsids.foldl (fun set tsid => set.insert tsid) postings

theorem mem_extend {postings : Postings} {tsids : List Tsid} {tsid : Tsid} :
    tsid ∈ postings.extend tsids ↔ tsid ∈ postings ∨ tsid ∈ tsids := by
  induction tsids generalizing postings with
  | nil => simp [extend]
  | cons first rest ih =>
    have hstep : postings.extend (first :: rest) =
        extend (postings.insert first) rest := rfl
    rw [hstep, ih, Std.ExtTreeSet.mem_insert, Std.LawfulEqCmp.compare_eq_iff_eq,
      List.mem_cons]
    constructor
    · intro h
      rcases h with (h | h) | h
      · exact .inr (.inl h.symm)
      · exact .inl h
      · exact .inr (.inr h)
    · intro h
      rcases h with h | h | h
      · exact .inl (.inr h)
      · exact .inl (.inl h.symm)
      · exact .inr h

def headerBytes : Nat := 8

def bitmapBytes : Nat := 12

/-- The greatest number of members that a container keeps as an array. -/
def arrayMost : Nat := 4096

/-- Bytes of a container with `count` members. -/
def containerBytes (count : Nat) : Nat :=
  8 + if count ≤ arrayMost then 2 * count else 8192

/-- Ascending numbers split into runs that agree above the lowest `bits`
bits. -/
def runs (bits : UInt64) (tsids : List Tsid) : List (List Tsid) :=
  tsids.splitBy fun a b => a >>> bits == b >>> bits

def storedBytes (postings : Postings) : Nat :=
  headerBytes
    + bitmapBytes * (runs 32 postings.toList).length
    + (runs 16 postings.toList).foldr
      (fun run bytes => containerBytes run.length + bytes) 0

end Postings

end SeriesIndex
