import Mathlib
import SeriesIndex.Proofs.Treemap.Walks
import SeriesIndex.Treemap.Buckets

/-!
# Containers hold sets

What a bucket holds has one layout for each set of numbers.  For a container
this is the array of the numbers in ascending order if there are few, and
otherwise the bitset of them with their count.  The operations keep to this
layout, and with it what is seen of a container depends on its numbers only.
-/

namespace SeriesIndex

/-- The combination of memberships. -/
def Combination.Holds : Combination → Prop → Prop → Prop
  | inter, first, second => first ∧ second
  | union, first, second => first ∨ second
  | diff, first, second => first ∧ ¬ second

/-- Contents of which some are laid out as they should be. -/
class Layout (σ : Type) where
  Canonical : σ → Prop

open Layout Content in
/-- Contents that are sets, as far as they are laid out as they should be; and
all operations keep to this layout. -/
class LawfulContent (σ : Type) (δ : outParam Type) [Content σ δ] [Layout σ]
    [LT δ] : Prop where
  canonical_empty : Canonical (empty : σ)
  toList_empty : toList (empty : σ) = []
  ascending : ∀ {s : σ}, Canonical s → (toList s).Pairwise (· < ·)
  eq_of_toList : ∀ {s t : σ}, Canonical s → Canonical t →
    toList s = toList t → s = t
  isEmpty_iff : ∀ {s : σ}, Canonical s → (isEmpty s = true ↔ toList s = [])
  size_eq : ∀ {s : σ}, Canonical s → size s = (toList s).length
  max?_eq : ∀ {s : σ}, Canonical s → max? s = (toList s).getLast?
  contains_iff : ∀ {s : σ}, Canonical s → ∀ d,
    (contains s d = true ↔ d ∈ toList s)
  canonical_insert : ∀ {s : σ}, Canonical s → ∀ d, Canonical (insert s d).2
  insert_fst : ∀ {s : σ}, Canonical s → ∀ d,
    ((insert s d).1 = true ↔ d ∉ toList s)
  mem_insert : ∀ {s : σ}, Canonical s → ∀ d e,
    (e ∈ toList (insert s d).2 ↔ e = d ∨ e ∈ toList s)
  canonical_combine : ∀ {s t : σ}, Canonical s → Canonical t → ∀ how,
    Canonical (combine how s t)
  mem_combine : ∀ {s t : σ}, Canonical s → Canonical t → ∀ how d,
    (d ∈ toList (combine how s t) ↔ how.Holds (d ∈ toList s) (d ∈ toList t))
  combineInPlace_eq : ∀ {s t : σ}, Canonical s → Canonical t → ∀ how,
    combineInPlace how s t = combine how s t

namespace Container

/-! ## Bitsets -/

theorem toNat_lt_width (low : UInt16) : low.toNat < width := by
  rw [width]
  exact low.toNat_lt

theorem mem_lowsOf {bits : BitVec width} {low : UInt16} :
    low ∈ lowsOf bits ↔ bits.getLsbD low.toNat = true := by
  rw [lowsOf, List.mem_filter, and_iff_right]
  exact List.mem_map.mpr
    ⟨low.toNat, List.mem_range.mpr (toNat_lt_width low), UInt16.ofNat_toNat⟩

theorem ascending_lowsOf (bits : BitVec width) :
    (lowsOf bits).Pairwise (· < ·) := by
  refine List.Pairwise.filter _ (List.pairwise_map.mpr ?_)
  refine List.pairwise_lt_range.imp_of_mem fun {low other} hlow hother hless =>
    ?_
  have hlow : low < 65536 := by simpa [width] using hlow
  have hother : other < 65536 := by simpa [width] using hother
  rw [UInt16.lt_iff_toNat_lt, UInt16.toNat_ofNat', UInt16.toNat_ofNat',
    Nat.mod_eq_of_lt hlow, Nat.mod_eq_of_lt hother]
  exact hless

/-- Bitsets with the same numbers are equal. -/
theorem eq_of_lowsOf {bits other : BitVec width}
    (hsame : ∀ low, low ∈ lowsOf bits ↔ low ∈ lowsOf other) : bits = other := by
  apply BitVec.eq_of_getLsbD_eq
  intro index hindex
  rw [width] at hindex
  have hlow : (UInt16.ofNat index).toNat = index :=
    UInt16.toNat_ofNat_of_lt' hindex
  rw [← hlow, Bool.eq_iff_iff, ← mem_lowsOf, ← mem_lowsOf]
  exact hsame _

theorem getLsbD_bitOf (low other : UInt16) :
    (bitOf low).getLsbD other.toNat = true ↔ other = low := by
  rw [bitOf, BitVec.getLsbD_twoPow, Bool.and_eq_true, decide_eq_true_iff,
    decide_eq_true_iff, UInt16.toNat_inj, eq_comm]
  exact and_iff_right (toNat_lt_width low)

theorem mem_lowsOf_bitsOf {lows : List UInt16} {low : UInt16} :
    low ∈ lowsOf (bitsOf lows) ↔ low ∈ lows := by
  have hfold : ∀ bits : BitVec width,
      (lows.foldl (fun bits low => bits ||| bitOf low) bits).getLsbD low.toNat =
        true ↔ bits.getLsbD low.toNat = true ∨ low ∈ lows := by
    induction lows with
    | nil => simp
    | cons first rest ih =>
        intro bits
        rw [List.foldl_cons, ih, BitVec.getLsbD_or, Bool.or_eq_true,
          getLsbD_bitOf, List.mem_cons, or_assoc]
  rw [mem_lowsOf, bitsOf, hfold]
  simp

/-- Numbers are read back from the bits that they set. -/
theorem lowsOf_bitsOf {lows : List UInt16} (hlows : lows.Pairwise (· < ·)) :
    lowsOf (bitsOf lows) = lows :=
  (ascending_lowsOf _).eq_of_mem_iff hlows fun _ => mem_lowsOf_bitsOf

theorem mem_lowsOf_onBits (how : Combination) {left right : BitVec width}
    {low : UInt16} :
    low ∈ lowsOf (how.onBits left right) ↔
      how.Holds (low ∈ lowsOf left) (low ∈ lowsOf right) := by
  simp only [mem_lowsOf]
  cases how with
  | inter => simp [Combination.onBits, Combination.Holds]
  | union => simp [Combination.onBits, Combination.Holds]
  | diff =>
      simp [Combination.onBits, Combination.Holds, toNat_lt_width low]

/-! ## Layout -/

instance : Layout Container where
  Canonical
    | array lows => lows.toList.Pairwise (· < ·) ∧ lows.size ≤ arrayMost
    | bitset count bits => count = (lowsOf bits).length ∧ arrayMost < count

open Layout

variable {container other : Container}

theorem ascending_toList (hcontainer : Canonical container) :
    container.toList.Pairwise (· < ·) := by
  cases container with
  | array lows => exact hcontainer.1
  | bitset count bits => exact ascending_lowsOf bits

theorem size_eq (hcontainer : Canonical container) :
    container.size = container.toList.length := by
  cases container with
  | array lows => exact Array.length_toList.symm
  | bitset count bits => exact hcontainer.1

theorem canonical_ofLows {lows : Array UInt16}
    (hlows : lows.toList.Pairwise (· < ·)) : Canonical (ofLows lows) := by
  rw [ofLows]
  split
  · rename_i hfew
    exact ⟨hlows, hfew⟩
  · rename_i hmany
    refine ⟨?_, Nat.lt_of_not_le hmany⟩
    rw [lowsOf_bitsOf hlows, Array.length_toList]

theorem toList_ofLows {lows : Array UInt16}
    (hlows : lows.toList.Pairwise (· < ·)) :
    (ofLows lows).toList = lows.toList := by
  rw [ofLows]
  split
  · rfl
  · exact lowsOf_bitsOf hlows

theorem ofBits_of_le {bits : BitVec width}
    (hfew : (lowsOf bits).length ≤ arrayMost) :
    ofBits bits = array (lowsOf bits).toArray := if_pos hfew

theorem ofBits_of_lt {bits : BitVec width}
    (hmany : arrayMost < (lowsOf bits).length) :
    ofBits bits = bitset (lowsOf bits).length bits :=
  if_neg (Nat.not_le.mpr hmany)

/-- Bits are put into the kind of container that their number asks for. -/
theorem canonical_ofBits (bits : BitVec width) : Canonical (ofBits bits) := by
  rcases Nat.lt_or_ge arrayMost (lowsOf bits).length with hmany | hfew
  · rw [ofBits_of_lt hmany]
    exact ⟨rfl, hmany⟩
  · rw [ofBits_of_le hfew]
    exact ⟨ascending_lowsOf bits, hfew⟩

theorem toList_ofBits (bits : BitVec width) :
    (ofBits bits).toList = lowsOf bits := by
  rcases Nat.lt_or_ge arrayMost (lowsOf bits).length with hmany | hfew
  · rw [ofBits_of_lt hmany, toList]
  · rw [ofBits_of_le hfew, toList]

theorem mem_lowsOf_bits (container : Container) (low : UInt16) :
    low ∈ lowsOf container.bits ↔ low ∈ container.toList := by
  cases container with
  | array lows => exact mem_lowsOf_bitsOf
  | bitset count bits => rfl

/-- The form of a container is determined by the count of its numbers. -/
theorem eq_of_toList (hcontainer : Canonical container)
    (hother : Canonical other) (hsame : container.toList = other.toList) :
    container = other := by
  have hcount : container.size = other.size := by
    rw [size_eq hcontainer, size_eq hother, hsame]
  cases container with
  | array lows =>
      cases other with
      | array others => rw [Array.ext' hsame]
      | bitset count bits =>
          have hfew : lows.size ≤ arrayMost := hcontainer.2
          have hmany : arrayMost < count := hother.2
          exact absurd hcount (Nat.ne_of_lt (hfew.trans_lt hmany))
  | bitset count bits =>
      cases other with
      | array others =>
          have hmany : arrayMost < count := hcontainer.2
          have hfew : others.size ≤ arrayMost := hother.2
          exact absurd hcount.symm (Nat.ne_of_lt (hfew.trans_lt hmany))
      | bitset others bits' =>
          have hcounts : count = others := hcount
          have hbits : bits = bits' := eq_of_lowsOf fun low =>
            iff_of_eq (congrArg (low ∈ ·) hsame)
          rw [hcounts, hbits]

/-! ## Insertion -/

theorem getElem?_findIdx {lows : Array UInt16}
    (hlows : lows.toList.Pairwise (· < ·)) (low : UInt16) :
    lows[lows.findIdx (low ≤ ·)]? = some low ↔ low ∈ lows.toList := by
  rcases lows with ⟨lows⟩
  rw [List.findIdx_toArray, List.getElem?_toArray]
  induction lows with
  | nil => simp
  | cons first rest ih =>
      obtain ⟨hfirst, hrest⟩ := List.pairwise_cons.mp hlows
      rw [List.findIdx_cons]
      by_cases hle : low ≤ first
      · have hnot : low ∉ rest := fun hmem =>
          absurd (hfirst low hmem) (UInt16.not_lt.mpr hle)
        simp [hle, hnot, eq_comm]
      · have hne : low ≠ first := fun heq => hle (heq ▸ UInt16.le_refl _)
        simpa [hle, hne] using ih hrest

theorem toList_insertIdxIfInBounds (lows : Array UInt16) (low : UInt16) :
    (lows.insertIdxIfInBounds (lows.findIdx (low ≤ ·)) low).toList =
      lows.toList.insertIdx (lows.toList.findIdx (low ≤ ·)) low := by
  rcases lows with ⟨lows⟩
  rw [List.findIdx_toArray, Array.insertIdxIfInBounds,
    dif_pos (by simp [List.findIdx_le_length]), Array.toList_insertIdx]

/-- A new number is inserted where it belongs. -/
theorem insertIdx_findIdx {lows : List UInt16} {low : UInt16}
    (hlow : low ∉ lows) :
    lows.insertIdx (lows.findIdx (low ≤ ·)) low = Walk.put id low lows := by
  induction lows with
  | nil => rfl
  | cons first rest ih =>
      obtain ⟨hne, hrest⟩ : low ≠ first ∧ low ∉ rest := by simpa using hlow
      rw [List.findIdx_cons, Walk.put, id, id]
      by_cases hle : low ≤ first
      · have hless : low < first := Std.lt_of_le_of_ne hle hne
        simp [hle, hless]
      · have hless : ¬ low < first := fun hless => hle (Std.le_of_lt hless)
        have hmore : first < low := UInt16.not_le.mp hle
        simp [hle, hless, hmore, ih hrest]

theorem mem_put {lows : List UInt16} {low : UInt16} (hlow : low ∉ lows)
    (other : UInt16) :
    other ∈ Walk.put id low lows ↔ other = low ∨ other ∈ lows := by
  rw [← insertIdx_findIdx hlow, List.mem_insertIdx List.findIdx_le_length]

theorem length_put {lows : List UInt16} {low : UInt16} (hlow : low ∉ lows) :
    (Walk.put id low lows).length = lows.length + 1 := by
  rw [← insertIdx_findIdx hlow,
    List.length_insertIdx_of_le_length List.findIdx_le_length]

theorem insert_of_mem (hcontainer : Canonical container) {low : UInt16}
    (hlow : low ∈ container.toList) :
    container.insert low = (false, container) := by
  cases container with
  | array lows => exact if_pos ((getElem?_findIdx hcontainer.1 low).mpr hlow)
  | bitset count bits => exact if_pos (mem_lowsOf.mp hlow)

/-- A set that gets one more number. -/
theorem insert_of_not_mem (hcontainer : Canonical container) {low : UInt16}
    (hlow : low ∉ container.toList) :
    (container.insert low).1 = true ∧ Canonical (container.insert low).2 ∧
      ∀ other, other ∈ (container.insert low).2.toList ↔
        other = low ∨ other ∈ container.toList := by
  cases container with
  | array lows =>
      have hinsert : (array lows).insert low = (true,
          ofLows (lows.insertIdxIfInBounds (lows.findIdx (low ≤ ·)) low)) :=
        if_neg fun hplace =>
          hlow ((getElem?_findIdx hcontainer.1 low).mp hplace)
      rw [toList] at hlow
      have hlist := toList_insertIdxIfInBounds lows low
      rw [insertIdx_findIdx hlow] at hlist
      have hascending : Walk.Ascending id (Walk.put id low lows.toList) :=
        Walk.ascending_put hcontainer.1
      rw [← hlist] at hascending
      rw [hinsert]
      refine ⟨rfl, canonical_ofLows hascending, fun other => ?_⟩
      rw [toList_ofLows hascending, hlist, mem_put hlow, toList]
  | bitset count bits =>
      have hinsert : (bitset count bits).insert low =
          (true, bitset (count + 1) (bits ||| bitOf low)) :=
        if_neg fun hbit => hlow (mem_lowsOf.mpr hbit)
      rw [toList] at hlow
      have hmem : ∀ other, other ∈ lowsOf (bits ||| bitOf low) ↔
          other = low ∨ other ∈ lowsOf bits := by
        intro other
        rw [mem_lowsOf, BitVec.getLsbD_or, Bool.or_eq_true, getLsbD_bitOf,
          mem_lowsOf, or_comm]
      have hlist : lowsOf (bits ||| bitOf low) =
          Walk.put id low (lowsOf bits) :=
        (ascending_lowsOf _).eq_of_mem_iff
          (Walk.ascending_put (ascending_lowsOf bits)) fun other => by
            rw [hmem, mem_put hlow]
      have hcount : count + 1 = (lowsOf (bits ||| bitOf low)).length := by
        rw [hlist, length_put hlow, hcontainer.1]
      rw [hinsert]
      exact ⟨rfl, ⟨hcount, Nat.lt_succ_of_lt hcontainer.2⟩, hmem⟩

/-- An insertion adds one number, tells whether it is new, and changes the kind
of container where it has to. -/
theorem insert_spec (hcontainer : Canonical container) (low : UInt16) :
    ((container.insert low).1 = true ↔ low ∉ container.toList) ∧
      Canonical (container.insert low).2 ∧
      ∀ other, other ∈ (container.insert low).2.toList ↔
        other = low ∨ other ∈ container.toList := by
  by_cases hlow : low ∈ container.toList
  · rw [insert_of_mem hcontainer hlow]
    exact ⟨iff_of_false Bool.false_ne_true (not_not_intro hlow), hcontainer,
      fun other => (or_iff_right_of_imp fun heq => heq ▸ hlow).symm⟩
  · obtain ⟨hnew, hspec⟩ := insert_of_not_mem hcontainer hlow
    exact ⟨iff_of_true hnew hlow, hspec⟩

/-! ## Combination -/

theorem keepsKeys_kept (how : Combination) :
    Walk.KeepsKeys id (kept how) := by
  intro low other result _ hresult
  exact (Option.some.inj (Option.ite_none_right_eq_some.mp hresult).2).symm

theorem under?_id {lows : List UInt16} (hlows : lows.Pairwise (· < ·))
    (low : UInt16) :
    Walk.under? id low lows = if low ∈ lows then some low else none := by
  split
  · rename_i hlow
    exact (Walk.under?_eq_some_iff hlows).mpr ⟨hlow, rfl⟩
  · rename_i hlow
    exact Walk.under?_eq_none fun other hother heq => hlow (heq ▸ hother)

/-- A combination of ascending lists is that of their numbers. -/
theorem mem_of_combines {how : Combination} {lows others result : List UInt16}
    (hresult : Walk.Combines id how (kept how) lows others result)
    (hlows : lows.Pairwise (· < ·)) (hothers : others.Pairwise (· < ·))
    (low : UInt16) :
    low ∈ result ↔ how.Holds (low ∈ lows) (low ∈ others) := by
  have hentry := hresult.under?_eq low
  rw [under?_id hresult.ascending, under?_id hlows, under?_id hothers] at hentry
  have hmem : low ∈ result ↔
      (if low ∈ result then some low else none).isSome := by
    simp
  rw [hmem, hentry]
  by_cases hfirst : low ∈ lows <;> by_cases hsecond : low ∈ others <;>
    cases how <;>
    simp [Walk.made, kept, Combination.Holds, Combination.keepsFirst,
      Combination.keepsSecond, Combination.keepsBoth, hfirst, hsecond]

/-- A combination holds what it should, in the kind of container that it should.
-/
theorem combine_spec (hcontainer : Canonical container)
    (hother : Canonical other) (how : Combination) :
    Canonical (container.combine how other) ∧
      (∀ low, low ∈ (container.combine how other).toList ↔
        how.Holds (low ∈ container.toList) (low ∈ other.toList)) ∧
      container.combineInPlace how other = container.combine how other := by
  have hbits : Canonical (ofBits (how.onBits container.bits other.bits)) ∧
      ∀ low, low ∈ (ofBits (how.onBits container.bits other.bits)).toList ↔
        how.Holds (low ∈ container.toList) (low ∈ other.toList) := by
    refine ⟨canonical_ofBits _, fun low => ?_⟩
    rw [toList_ofBits, mem_lowsOf_onBits, mem_lowsOf_bits, mem_lowsOf_bits]
  cases container with
  | bitset count bits => exact ⟨hbits.1, hbits.2, rfl⟩
  | array lows =>
      cases other with
      | bitset count bits => exact ⟨hbits.1, hbits.2, rfl⟩
      | array others =>
          have hwalk := Walk.combines_inStep how (keepsKeys_kept how)
            hcontainer.1 hother.1
          have hplace := Walk.combines_inPlace how (keepsKeys_kept how)
            hcontainer.1 hother.1
            (by rintro rfl; simp [kept, Combination.keepsBoth])
          have hascending : (Walk.inStep id how (kept how) lows.toList
              others.toList).toArray.toList.Pairwise (· < ·) := hwalk.ascending
          rw [combine, combineInPlace, hplace.eq hwalk]
          refine ⟨canonical_ofLows hascending, fun low => ?_, rfl⟩
          rw [toList_ofLows hascending]
          exact mem_of_combines hwalk hcontainer.1 hother.1 low

theorem max?_eq (container : Container) :
    container.max? = container.toList.getLast? := by
  cases container with
  | array lows => exact (Array.getLast?_toList lows).symm
  | bitset count bits => rfl

theorem contains_iff (container : Container) (low : UInt16) :
    container.contains low = true ↔ low ∈ container.toList := by
  cases container with
  | array lows =>
    rw [contains, toList, Array.contains_iff_mem, Array.mem_toList_iff]
  | bitset count bits => exact mem_lowsOf.symm

instance : LawfulContent Container UInt16 where
  canonical_empty := ⟨.nil, Nat.zero_le _⟩
  toList_empty := rfl
  ascending := ascending_toList
  eq_of_toList := eq_of_toList
  isEmpty_iff {container} hcontainer := by
    have hsize := size_eq hcontainer
    change (container.size == 0) = true ↔ container.toList = []
    rw [beq_iff_eq, hsize, List.length_eq_zero_iff]
  size_eq := size_eq
  max?_eq _ := max?_eq _
  contains_iff _ := contains_iff _
  canonical_insert hcontainer low := (insert_spec hcontainer low).2.1
  insert_fst hcontainer low := (insert_spec hcontainer low).1
  mem_insert hcontainer low := (insert_spec hcontainer low).2.2
  canonical_combine hcontainer hother how :=
    (combine_spec hcontainer hother how).1
  mem_combine hcontainer hother how := (combine_spec hcontainer hother how).2.1
  combineInPlace_eq hcontainer hother how :=
    (combine_spec hcontainer hother how).2.2

end Container

end SeriesIndex
