import SeriesIndex.Treemap.Container

/-!
# Buckets

A number is cut in an upper and a lower part.  Numbers with the same upper part
are in one bucket, which holds their lower parts; a bucket is there only if it
holds something.  What a bucket holds is a set itself, either a container or
buckets for the lower part in turn.
-/

namespace SeriesIndex

/-- Numbers that are cut in two. -/
class Digits (α : outParam Type) (κ δ : Type) where
  upper : α → κ
  lower : α → δ
  join : κ → δ → α

/-- What buckets can hold: sets with their operations. -/
class Content (σ : Type) (δ : outParam Type) where
  empty : σ
  isEmpty : σ → Bool
  size : σ → Nat
  max? : σ → Option δ
  toList : σ → List δ
  contains : σ → δ → Bool
  insert : σ → δ → Bool × σ
  combine : Combination → σ → σ → σ
  combineInPlace : Combination → σ → σ → σ

instance : Content Container UInt16 where
  empty := .array #[]
  isEmpty := Container.isEmpty
  size := Container.size
  max? := Container.max?
  toList := Container.toList
  contains := Container.contains
  insert := Container.insert
  combine := Container.combine
  combineInPlace := Container.combineInPlace

structure Buckets (κ σ : Type) where
  entries : List (κ × σ) := []
  deriving DecidableEq

namespace Buckets

variable {α κ δ σ : Type} [LT κ] [DecidableLT κ] [DecidableEq κ]
variable [Digits α κ δ] [Content σ δ]

def isEmpty (buckets : Buckets κ σ) : Bool :=
  buckets.entries.isEmpty

def size (buckets : Buckets κ σ) : Nat :=
  buckets.entries.foldr (fun entry size => Content.size entry.2 + size) 0

/-- The greatest number, which the last bucket holds. -/
def max? (buckets : Buckets κ σ) : Option α := do
  let (upper, content) ← buckets.entries.getLast?
  let lower ← Content.max? content
  return Digits.join upper lower

def toList (buckets : Buckets κ σ) : List α :=
  buckets.entries.flatMap fun entry =>
    (Content.toList entry.2).map (Digits.join entry.1)

/-- What is held for an upper part. -/
def content? (buckets : Buckets κ σ) (upper : κ) : Option σ :=
  (Walk.under? Prod.fst upper buckets.entries).map Prod.snd

def contains (buckets : Buckets κ σ) (number : α) : Bool :=
  match buckets.content? (Digits.upper δ number) with
  | some content => Content.contains content (Digits.lower κ number)
  | none => false

/-- Adds a number, and says whether it was not yet there. -/
def insert (buckets : Buckets κ σ) (number : α) : Bool × Buckets κ σ :=
  let upper : κ := Digits.upper δ number
  let (isNew, content) := Content.insert
    ((buckets.content? upper).getD Content.empty) (Digits.lower κ number)
  (isNew, ⟨Walk.put Prod.fst (upper, content) buckets.entries⟩)

/-- A bucket of combined contents, unless nothing is left. -/
def filled (content : σ) (upper : κ) : Option (κ × σ) :=
  if Content.isEmpty content then none else some (upper, content)

def combine (how : Combination) (left right : Buckets κ σ) : Buckets κ σ where
  entries := Walk.inStep Prod.fst how (fun entry other =>
    filled (Content.combine how entry.2 other.2) entry.1)
    left.entries right.entries

def combineInPlace (how : Combination) (left right : Buckets κ σ) :
    Buckets κ σ where
  entries := Walk.inPlace Prod.fst how (fun entry other =>
    filled (Content.combineInPlace how entry.2 other.2) entry.1)
    left.entries right.entries

/-- Adds numbers one after another. -/
def extend (buckets : Buckets κ σ) (numbers : List α) : Buckets κ σ :=
  numbers.foldl (fun buckets number => (buckets.insert number).2) buckets

instance : Content (Buckets κ σ) α where
  empty := {}
  isEmpty := isEmpty
  size := size
  max? := max?
  toList := toList
  contains := contains
  insert := insert
  combine := combine
  combineInPlace := combineInPlace

end Buckets

end SeriesIndex
