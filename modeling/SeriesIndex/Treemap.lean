import SeriesIndex.Series
import SeriesIndex.Treemap.Buckets

/-!
# Treemaps

A treemap is a set of series numbers, in the form in which roaring bitmaps keep
it: the upper 32 bits of a number choose a bitmap, its next 16 bits a container
of the bitmap, and the container holds its last 16 bits.  Two treemaps are equal
if they have the same buckets with the same contents.

Where only the members matter, postings are plain sets.
-/

namespace SeriesIndex

instance : Digits UInt32 UInt16 UInt16 where
  upper number := (number >>> 16).toUInt16
  lower number := number.toUInt16
  join upper lower := upper.toUInt32 <<< 16 ||| lower.toUInt32

instance : Digits Tsid UInt32 UInt32 where
  upper tsid := (tsid >>> 32).toUInt32
  lower tsid := tsid.toUInt32
  join upper lower := upper.toUInt64 <<< 32 ||| lower.toUInt64

/-- A set of numbers of 32 bits. -/
abbrev Bitmap := Buckets UInt16 Container

abbrev Treemap := Buckets UInt32 Bitmap

/-- The size of the stored form in bytes: a header, and for each container where
it is, how many numbers it has, and these numbers. -/
def Bitmap.storedBytes (bitmap : Bitmap) : Nat :=
  8 + bitmap.entries.foldr
    (fun entry bytes => 8 + entry.2.storedBytes + bytes) 0

/-- The size of the stored form in bytes: a header, and each bitmap behind its
upper 32 bits. -/
def Treemap.storedBytes (treemap : Treemap) : Nat :=
  8 + treemap.entries.foldr
    (fun entry bytes => 4 + Bitmap.storedBytes entry.2 + bytes) 0

namespace Treemap

/-- What can be done to a family of treemaps with names. -/
inductive Operation (Name : Type) where
  | new (target : Name)
  | insert (target : Name) (tsid : Tsid)
  | collect (target : Name) (tsids : List Tsid)
  | extend (target : Name) (tsids : List Tsid)
  | combine (how : Combination) (target left right : Name)
  | combineInPlace (how : Combination) (target other : Name)

variable {Name : Type}

/-- The name that an operation gives a new treemap. -/
def Operation.target : Operation Name → Name
  | new target | insert target _ | collect target _ | extend target _
  | combine _ target _ _ | combineInPlace _ target _ => target

def Operation.made (family : Name → Treemap) : Operation Name → Treemap
  | new _ => {}
  | insert target tsid => ((family target).insert tsid).2
  | collect _ tsids => Buckets.extend {} tsids
  | extend target tsids => (family target).extend tsids
  | combine how _ left right => (family left).combine how (family right)
  | combineInPlace how target other =>
    (family target).combineInPlace how (family other)

variable [DecidableEq Name]

def perform (family : Name → Treemap) (operation : Operation Name)
    (name : Name) : Treemap :=
  if name = operation.target then operation.made family else family name

/-- The family after operations, one after another; all treemaps start empty. -/
def performAll (operations : List (Operation Name)) : Name → Treemap :=
  operations.foldl perform fun _ => {}

end Treemap

end SeriesIndex
