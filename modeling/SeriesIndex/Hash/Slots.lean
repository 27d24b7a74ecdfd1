import SeriesIndex.Hash.Fnv
import Std.Data.HashMap

/-!
# A memory of bounded size

A fixed number of slots holds values by key.  Every key has one slot, which keys
share, and a slot holds only what was put there last.  So a key that is found
was put there with the value found, while one that is not found may only have
been displaced.
-/

namespace SeriesIndex.Hash

structure Slots where
  count : Nat
  entries : Std.HashMap Nat (List UInt64 × Nat)

namespace Slots

def empty (count : Nat) : Slots := ⟨count, ∅⟩

def slot (slots : Slots) (key : List UInt64) : Nat :=
  (Fnv.digest key).toNat % slots.count

def find? (slots : Slots) (key : List UInt64) : Option Nat :=
  match slots.entries[slots.slot key]? with
  | some (held, value) => if held = key then some value else none
  | none => none

/-- Puts a value into the slot of its key, over what is there. -/
def put (slots : Slots) (key : List UInt64) (value : Nat) : Slots :=
  { slots with entries := slots.entries.insert (slots.slot key) (key, value) }

end Slots

end SeriesIndex.Hash
