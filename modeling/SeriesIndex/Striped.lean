/-!
# Striped tables

A table is cut into a number of slots, and a hash chooses the slot in which a
key lives.  The number of slots is a power of two.  Which slots there are can
only be seen in their number: a key is always looked for where it was put.
-/

namespace SeriesIndex

structure Striped (α : Type) where
  slots : Array α
  pos : 0 < slots.size

namespace Striped

variable {α : Type}

/-- The number of slots for a wanted number: the next power of two. -/
def slotCount (wanted : Nat) : Nat :=
  (max wanted 1).nextPowerOfTwo

theorem slotCount_pos (wanted : Nat) : 0 < slotCount wanted :=
  Nat.pos_of_isPowerOfTwo (Nat.isPowerOfTwo_nextPowerOfTwo _)

def replicate (wanted : Nat) (content : α) : Striped α :=
  ⟨Array.replicate (slotCount wanted) content, by simp [slotCount_pos]⟩

def size (table : Striped α) : Nat := table.slots.size

/-- The slot that a hash chooses. -/
def slotOf (table : Striped α) (hash : UInt64) : Nat :=
  hash.toNat % table.slots.size

theorem slotOf_lt (table : Striped α) (hash : UInt64) :
    table.slotOf hash < table.slots.size :=
  Nat.mod_lt _ table.pos

def get (table : Striped α) (hash : UInt64) : α :=
  have := table.slotOf_lt hash
  table.slots[table.slotOf hash]

def modify (table : Striped α) (hash : UInt64) (change : α → α) : Striped α :=
  ⟨table.slots.modify (hash.toNat % table.slots.size) change,
    by simpa using table.pos⟩

def toList (table : Striped α) : List α := table.slots.toList

@[simp]
theorem size_modify (table : Striped α) (hash : UInt64) (change : α → α) :
    (table.modify hash change).size = table.size := by
  simp [modify, size]

@[simp]
theorem slotOf_modify (table : Striped α) (hash other : UInt64)
    (change : α → α) :
    (table.modify hash change).slotOf other = table.slotOf other := by
  simp [modify, slotOf]

/-- A change is seen through exactly the hashes that choose the changed slot. -/
theorem get_modify (table : Striped α) (hash other : UInt64) (change : α → α) :
    (table.modify hash change).get other =
      if table.slotOf hash = table.slotOf other then change (table.get other)
      else table.get other := by
  simp only [get, slotOf_modify]
  simp [modify, slotOf, Array.getElem_modify]
  rfl

@[simp]
theorem get_replicate (wanted : Nat) (content : α) (hash : UInt64) :
    (replicate wanted content).get hash = content := by
  simp [get, replicate]

end Striped

end SeriesIndex
