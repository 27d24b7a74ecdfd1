import Mathlib
import SeriesIndex.Striped

/-!
# Keys in striped tables

A striped table of maps behaves like one map as long as every key lives in the
slot that its hash chooses.  This module states that condition, shows that
changing the slot of a key keeps it, and derives that the slots together list
every key once, whatever their number.
-/

namespace SeriesIndex.Striped

variable {Key Value : Type} [Ord Key] [Std.TransOrd Key] [Std.LawfulEqOrd Key]

/-- Every key lives in the one slot that its hash chooses. -/
def Placed (hash : Key → UInt64) (table : Striped (Std.ExtTreeMap Key Value)) :
    Prop :=
  ∀ (slot : Nat) (hslot : slot < table.slots.size) (key : Key),
    key ∈ table.slots[slot] → table.slotOf (hash key) = slot

def keys (table : Striped (Std.ExtTreeMap Key Value)) : List Key :=
  table.toList.flatMap fun entries => entries.keys

variable {hash : Key → UInt64} {table : Striped (Std.ExtTreeMap Key Value)}

omit [Std.LawfulEqOrd Key] in
theorem placed_replicate (hash : Key → UInt64) (wanted : Nat) :
    (replicate wanted (∅ : Std.ExtTreeMap Key Value)).Placed hash := by
  intro slot hslot key hkey
  simp [replicate] at hkey

omit [Std.TransOrd Key] [Std.LawfulEqOrd Key] in
theorem getElem_slots_modify (key : Key)
    (change : Std.ExtTreeMap Key Value → Std.ExtTreeMap Key Value) (slot : Nat)
    (hslot : slot < (table.modify (hash key) change).slots.size)
    (hold : slot < table.slots.size) :
    (table.modify (hash key) change).slots[slot] =
      if table.slotOf (hash key) = slot then change table.slots[slot]
      else table.slots[slot] := by
  simp only [Striped.modify, Array.getElem_modify, slotOf]
  rfl

omit [Std.LawfulEqOrd Key] in
/-- Changing the slot of a key keeps the keys in place if no other key enters
that slot. -/
theorem Placed.modify (hplaced : table.Placed hash) (key : Key)
    {change : Std.ExtTreeMap Key Value → Std.ExtTreeMap Key Value}
    (hchange : ∀ entries other, other ∈ change entries →
      other = key ∨ other ∈ entries) :
    (table.modify (hash key) change).Placed hash := by
  intro slot hslot other hother
  have hold : slot < table.slots.size := by
    simpa [Striped.modify] using hslot
  rw [getElem_slots_modify key change slot hslot hold] at hother
  rw [slotOf_modify]
  by_cases hsame : table.slotOf (hash key) = slot
  · rw [if_pos hsame] at hother
    rcases hchange _ _ hother with rfl | hmem
    · exact hsame
    · exact hplaced slot hold other hmem
  · rw [if_neg hsame] at hother
    exact hplaced slot hold other hother

theorem mem_keys (hplaced : table.Placed hash) {key : Key} :
    key ∈ table.keys ↔ key ∈ table.get (hash key) := by
  simp only [keys, toList, List.mem_flatMap, Std.ExtTreeMap.mem_keys]
  constructor
  · rintro ⟨entries, hentries, hkey⟩
    obtain ⟨slot, hslot, rfl⟩ := List.getElem_of_mem hentries
    have hsize : slot < table.slots.size := by simpa using hslot
    have hkey' : key ∈ table.slots[slot] := by simpa using hkey
    have hchosen := hplaced slot hsize key hkey'
    simpa only [get, hchosen] using hkey'
  · intro hkey
    exact ⟨table.get (hash key), by simp [get], hkey⟩

theorem nodup_keys (hplaced : table.Placed hash) : table.keys.Nodup := by
  rw [keys, List.nodup_flatMap]
  constructor
  · intro entries _
    exact Std.ExtTreeMap.nodup_keys
  · rw [List.pairwise_iff_getElem]
    intro low high hlow hhigh hless key hkeyLow hkeyHigh
    have hsizeLow : low < table.slots.size := by simpa [toList] using hlow
    have hsizeHigh : high < table.slots.size := by simpa [toList] using hhigh
    have hmemLow : key ∈ table.slots[low] := Std.ExtTreeMap.mem_keys.mp hkeyLow
    have hmemHigh : key ∈ table.slots[high] :=
      Std.ExtTreeMap.mem_keys.mp hkeyHigh
    have hchosenLow := hplaced low hsizeLow key hmemLow
    have hchosenHigh := hplaced high hsizeHigh key hmemHigh
    omega

/-- Tables with keys in place are equal if they have equally many slots and
every look-up finds the same. -/
theorem Placed.ext {left right : Striped (Std.ExtTreeMap Key Value)}
    (hleft : left.Placed hash) (hright : right.Placed hash)
    (hsize : left.size = right.size)
    (hsame : ∀ key,
      (left.get (hash key))[key]? = (right.get (hash key))[key]?) :
    left = right := by
  obtain ⟨slots, pos⟩ := left
  obtain ⟨others, otherPos⟩ := right
  rw [mk.injEq]
  apply Array.ext hsize
  intro slot hslot hother
  apply Std.ExtTreeMap.ext_getElem?
  intro key
  have hslotOf : slotOf ⟨slots, pos⟩ (hash key) =
      slotOf ⟨others, otherPos⟩ (hash key) :=
    congrArg ((hash key).toNat % ·) hsize
  by_cases hchosen : slotOf ⟨slots, pos⟩ (hash key) = slot
  · have hfound := hsame key
    simp only [get, ← hslotOf, hchosen] at hfound
    exact hfound
  · have hout : key ∉ slots[slot] := fun hmem =>
      hchosen (hleft slot hslot key hmem)
    have hotherOut : key ∉ others[slot] := fun hmem =>
      hchosen (hslotOf.trans (hright slot hother key hmem))
    rw [Std.ExtTreeMap.getElem?_eq_none hout,
      Std.ExtTreeMap.getElem?_eq_none hotherOut]

/-! ## Tables of different sizes -/

def entries (table : Striped (Std.ExtTreeMap Key Value)) : List (Key × Value) :=
  table.toList.flatMap fun entries => entries.toList

omit [Std.LawfulEqOrd Key] in
theorem map_fst_entries (table : Striped (Std.ExtTreeMap Key Value)) :
    table.entries.map Prod.fst = table.keys := by
  rw [entries, keys, List.map_flatMap]
  simp only [Std.ExtTreeMap.map_fst_toList_eq_keys]

theorem mem_entries (hplaced : table.Placed hash) {key : Key} {value : Value} :
    (key, value) ∈ table.entries ↔
      (table.get (hash key))[key]? = some value := by
  simp only [entries, toList, List.mem_flatMap,
    Std.ExtTreeMap.mem_toList_iff_getElem?_eq_some]
  constructor
  · rintro ⟨entries, hentries, hvalue⟩
    obtain ⟨slot, hslot, rfl⟩ := List.getElem_of_mem hentries
    have hsize : slot < table.slots.size := by simpa using hslot
    have hvalue' : table.slots[slot][key]? = some value := by simpa using hvalue
    have hkey : key ∈ table.slots[slot] := by
      rw [Std.ExtTreeMap.mem_iff_isSome_getElem?, hvalue']
      rfl
    have hchosen := hplaced slot hsize key hkey
    simpa only [get, hchosen] using hvalue'
  · intro hvalue
    exact ⟨table.get (hash key), by simp [get], hvalue⟩

/-- Tables with keys in place in which every look-up finds the same hold the
same entries, however many slots they have. -/
theorem Placed.entries_perm {left right : Striped (Std.ExtTreeMap Key Value)}
    (hleft : left.Placed hash) (hright : right.Placed hash)
    (hsame : ∀ key,
      (left.get (hash key))[key]? = (right.get (hash key))[key]?) :
    left.entries.Perm right.entries := by
  have hnodup : ∀ table : Striped (Std.ExtTreeMap Key Value),
      table.Placed hash → table.entries.Nodup := by
    intro table hplaced
    apply List.Nodup.of_map Prod.fst
    rw [map_fst_entries]
    exact nodup_keys hplaced
  apply (List.perm_ext_iff_of_nodup (hnodup left hleft)
    (hnodup right hright)).mpr
  rintro ⟨key, value⟩
  rw [mem_entries hleft, mem_entries hright, hsame]

def insertAll (table : Striped (Std.ExtTreeMap Key Value))
    (hash : Key → UInt64) (entries : List (Key × Value)) :
    Striped (Std.ExtTreeMap Key Value) :=
  entries.foldl (fun table entry =>
    table.modify (hash entry.1) fun slot => slot.insert entry.1 entry.2) table

/-- A table into which entries are put is read as if all of them were in one
map, however many keys share a hash or a slot. -/
theorem getElem?_insertAll (wanted : Nat) (hash : Key → UInt64)
    (entries : List (Key × Value)) (key : Key) :
    (((replicate wanted ∅).insertAll hash entries).get (hash key))[key]? =
      (Std.ExtTreeMap.ofList entries)[key]? := by
  have hfold : ∀ (entries : List (Key × Value))
      (table : Striped (Std.ExtTreeMap Key Value))
      (map : Std.ExtTreeMap Key Value),
      (∀ key, (table.get (hash key))[key]? = map[key]?) →
        ∀ key, ((table.insertAll hash entries).get (hash key))[key]? =
          (map.insertMany entries)[key]? := by
    intro entries
    induction entries with
    | nil => exact fun table map hsame => hsame
    | cons entry rest ih =>
        intro table map hsame
        rw [Std.ExtTreeMap.insertMany_cons]
        apply ih
        intro key
        rw [get_modify, Std.ExtTreeMap.getElem?_insert, ← hsame]
        by_cases heq : entry.1 = key
        · subst heq
          simp
        · -- Another key may share the slot, but not the entry.
          split <;> simp [Std.ExtTreeMap.getElem?_insert, heq]
  rw [Std.ExtTreeMap.ofList_eq_insertMany_empty]
  apply hfold
  simp

theorem getElem?_insertAll_eq_some_iff [DecidableEq Key] (wanted : Nat)
    (hash : Key → UInt64) {entries : List (Key × Value)}
    (hnodup : (entries.map Prod.fst).Nodup) {key : Key} {value : Value} :
    (((replicate wanted ∅).insertAll hash entries).get (hash key))[key]? =
        some value ↔ (key, value) ∈ entries := by
  have hdistinct : entries.Pairwise fun a b => ¬compare a.1 b.1 = .eq := by
    refine (List.pairwise_map.mp hnodup).imp fun hne heq => hne ?_
    exact Std.LawfulEqCmp.compare_eq_iff_eq.mp heq
  have hfound : ∀ value, (key, value) ∈ entries →
      (Std.ExtTreeMap.ofList entries)[key]? = some value := fun value hmem =>
    Std.ExtTreeMap.getElem?_ofList_of_mem Std.ReflCmp.compare_self
      hdistinct hmem
  rw [getElem?_insertAll]
  constructor
  · intro hvalue
    have hkey : key ∈ Std.ExtTreeMap.ofList entries := by
      rw [Std.ExtTreeMap.mem_iff_isSome_getElem?, hvalue]
      rfl
    rw [Std.ExtTreeMap.mem_ofList, List.contains_iff_mem] at hkey
    obtain ⟨⟨other, found⟩, hmem, rfl⟩ := List.mem_map.mp hkey
    obtain rfl : value = found :=
      Option.some.inj (hvalue.symm.trans (hfound found hmem))
    exact hmem
  · exact hfound value

/-! ## Masks -/

/-- The number of slots is a power of two, so a slot is chosen by the lowest
bits of a hash. -/
theorem slotOf_eq_and {Content : Type} {table : Striped Content} {wanted : Nat}
    (hsize : table.size = slotCount wanted) (hash : UInt64) :
    table.slotOf hash = hash.toNat &&& (table.size - 1) := by
  obtain ⟨exponent, hpower⟩ := Nat.isPowerOfTwo_nextPowerOfTwo (max wanted 1)
  have hslots : table.size = 2 ^ exponent := hsize.trans hpower
  rw [hslots, Nat.and_two_pow_sub_one_eq_mod, ← hslots]
  rfl

end SeriesIndex.Striped
