import SeriesIndex.Treemap.Walk

/-!
# Containers

A container holds numbers of 16 bits.  Up to 4096 of them are kept as an array
in ascending order, and more as a bitset together with their count.  Whatever is
done to a container, it changes its form when its count passes that bound.
-/

namespace SeriesIndex

/-- How many numbers of 16 bits there are. -/
@[irreducible]
def Container.width : Nat := 65536

inductive Container where
  | array (lows : Array UInt16)
  | bitset (count : Nat) (bits : BitVec Container.width)
  deriving DecidableEq

/-- The combination of bitsets. -/
def Combination.onBits {width : Nat} :
    Combination → BitVec width → BitVec width → BitVec width
  | inter, left, right => left &&& right
  | union, left, right => left ||| right
  | diff, left, right => left &&& ~~~right

namespace Container

/-- The greatest count of numbers that are kept as an array. -/
def arrayMost : Nat := 4096

/-- The numbers of a bitset in ascending order. -/
def lowsOf (bits : BitVec width) : List UInt16 :=
  ((List.range width).map UInt16.ofNat).filter fun low =>
    bits.getLsbD low.toNat

/-- The bitset of one number. -/
def bitOf (low : UInt16) : BitVec width :=
  .twoPow width low.toNat

def bitsOf (lows : List UInt16) : BitVec width :=
  lows.foldl (fun bits low => bits ||| bitOf low) 0

/-- The container of ascending numbers. -/
def ofLows (lows : Array UInt16) : Container :=
  if lows.size ≤ arrayMost then array lows
  else bitset lows.size (bitsOf lows.toList)

/-- The container of the numbers of a bitset. -/
def ofBits (bits : BitVec width) : Container :=
  let lows := lowsOf bits
  if lows.length ≤ arrayMost then array lows.toArray
  else bitset lows.length bits

def toList : Container → List UInt16
  | array lows => lows.toList
  | bitset _ bits => lowsOf bits

def bits : Container → BitVec width
  | array lows => bitsOf lows.toList
  | bitset _ bits => bits

def contains : Container → UInt16 → Bool
  | array lows, low => lows.contains low
  | bitset _ bits, low => bits.getLsbD low.toNat

def size : Container → Nat
  | array lows => lows.size
  | bitset count _ => count

def isEmpty (container : Container) : Bool :=
  container.size == 0

def max? : Container → Option UInt16
  | array lows => lows.back?
  | bitset _ bits => (lowsOf bits).getLast?

/-- Adds a number, and says whether it was not yet there. -/
def insert : Container → UInt16 → Bool × Container
  | array lows, low =>
    let place := lows.findIdx (low ≤ ·)
    if lows[place]? = some low then (false, array lows)
    else (true, ofLows (lows.insertIdxIfInBounds place low))
  | bitset count bits, low =>
    if bits.getLsbD low.toNat then (false, bitset count bits)
    else (true, bitset (count + 1) (bits ||| bitOf low))

/-- What is left of a number that both lists have. -/
def kept (how : Combination) (low _other : UInt16) : Option UInt16 :=
  if how.keepsBoth then some low else none

def combine (how : Combination) : Container → Container → Container
  | array lows, array others =>
    ofLows (Walk.inStep id how (kept how) lows.toList others.toList).toArray
  | left, right => ofBits (how.onBits left.bits right.bits)

def combineInPlace (how : Combination) : Container → Container → Container
  | array lows, array others =>
    ofLows (Walk.inPlace id how (kept how) lows.toList others.toList).toArray
  | left, right => ofBits (how.onBits left.bits right.bits)

/-- Bytes of the numbers in the stored form. -/
def storedBytes : Container → Nat
  | array lows => 2 * lows.size
  | bitset _ _ => 8192

end Container

end SeriesIndex
