import SeriesIndex.Text.Hexadecimal

/-!
# Sets of code points

A `Table` holds a set of code points as disjoint ranges in ascending order.
Tables are written as text: blank-separated entries in hexadecimal, each a code
point `A`, a range `A-B`, or a stepped range `A-B/N` that holds `A`, `A + N`,
... up to `B`.
-/

namespace SeriesIndex.Unicode

/-- A set of code points: disjoint ranges, both ends included, in ascending
order. -/
structure Table where
  ranges : Array (Nat × Nat)
  deriving Inhabited

/-- Reads hexadecimal digits onto `value` and returns what follows them. -/
def readHex (value : Nat) : List Char → Nat × List Char
  | [] => (value, [])
  | c :: rest =>
    match Text.Hexadecimal.digit? c with
    | some digit => readHex (value * 16 + digit) rest
    | none => (value, c :: rest)

namespace Table

def last : Nat := 0x10FFFF

def readEntry (entry : List Char) : List (Nat × Nat) :=
  let (low, rest) := readHex 0 entry
  match rest with
  | '-' :: rest =>
    let (high, rest) := readHex 0 rest
    match rest with
    | '/' :: rest =>
      let step := (readHex 0 rest).1
      (List.range ((high - low) / step + 1)).map fun i =>
        (low + i * step, low + i * step)
    | _ => [(low, high)]
  | _ => [(low, low)]

def entries (text : String) : List (List Char) :=
  (text.toList.splitBy fun a b => a.isWhitespace == b.isWhitespace).filter
    fun entry => !entry.any Char.isWhitespace

def ofText (text : String) : Table :=
  ⟨((entries text).flatMap readEntry).toArray⟩

/-- Puts a range in front of ranges that all start at or after it, joining what
touches. -/
def join (range : Nat × Nat) : List (Nat × Nat) → List (Nat × Nat)
  | [] => [range]
  | next :: rest =>
    if next.1 ≤ range.2 + 1 then join (range.1, max range.2 next.2) rest
    else range :: next :: rest

/-- The table of the code points in any of the ranges, which come in any
order. -/
def ofRanges (ranges : List (Nat × Nat)) : Table :=
  ⟨((ranges.mergeSort fun a b => a.1 ≤ b.1).foldr join []).toArray⟩

def ofCharRanges (ranges : List (Char × Char)) : Table :=
  .ofRanges (ranges.map fun (first, last) => (first.toNat, last.toNat))

/-- The same set in ranges that do not touch. -/
def joined (table : Table) : Table :=
  ofRanges table.ranges.toList

def empty : Table := ⟨#[]⟩

def full : Table := ⟨#[(0, last)]⟩

def ascii : Table := ⟨#[(0, 0x7F)]⟩

def union (a b : Table) : Table :=
  ofRanges (a.ranges.toList ++ b.ranges.toList)

def unions (tables : List Table) : Table :=
  ofRanges (tables.flatMap fun table => table.ranges.toList)

/-- What lies between the ranges, from `next` on. -/
def gaps (next : Nat) : List (Nat × Nat) → List (Nat × Nat)
  | [] => if next ≤ last then [(next, last)] else []
  | (low, high) :: rest =>
    if next < low then (next, low - 1) :: gaps (high + 1) rest
    else gaps (high + 1) rest

def compl (table : Table) : Table :=
  ⟨(gaps 0 table.ranges.toList).toArray⟩

def diff (a b : Table) : Table :=
  (a.compl.union b).compl

def inter (a b : Table) : Table :=
  (a.compl.union b.compl).compl

def ofPoints (points : List Nat) : Table :=
  .ofRanges (points.map fun point => (point, point))

/-- Binary search for the range of a code point between the positions `low` and
`high`; every round halves their distance, so `rounds` need not exceed it. -/
def search (ranges : Array (Nat × Nat)) (point : Nat) : Nat → Nat → Nat → Bool
  | 0, _, _ => false
  | rounds + 1, low, high =>
    if low < high then
      let middle := (low + high) / 2
      match ranges[middle]? with
      | none => false
      | some (first, final) =>
        if point < first then search ranges point rounds low middle
        else if final < point then search ranges point rounds (middle + 1) high
        else true
    else false

def has (table : Table) (point : Nat) : Bool :=
  search table.ranges point table.ranges.size 0 table.ranges.size

def contains (table : Table) (c : Char) : Bool :=
  table.has c.toNat

end Table

end SeriesIndex.Unicode
