import Mathlib
import SeriesIndex.Catalog

/-!
# Order of numbers and timestamps

Series numbers and timestamps are machine words.  Their orders are those of the
natural and the whole numbers that they stand for, and the next number is one
greater as long as the last number is not reached.
-/

namespace SeriesIndex

namespace Tsid

theorem toNat_max (a b : Tsid) : (max a b).toNat = max a.toNat b.toNat := by
  have hmax : max a b = if a ≤ b then b else a := rfl
  rw [hmax]
  split
  · rename_i hle
    exact (max_eq_right (UInt64.le_iff_toNat_le.mp hle)).symm
  · rename_i hlt
    have hge : b.toNat ≤ a.toNat :=
      Nat.le_of_lt (UInt64.lt_iff_toNat_lt.mp (UInt64.not_le.mp hlt))
    exact (max_eq_left hge).symm

theorem ne_last_iff {tsid : Tsid} :
    tsid ≠ last ↔ tsid.toNat + 1 < 18446744073709551616 := by
  have hbound := tsid.toNat_lt
  have hlast : last.toNat = 18446744073709551615 := rfl
  rw [ne_eq, ← UInt64.toNat_inj, hlast]
  omega

/-- Only the last number has no successor. -/
theorem toNat_add_one {tsid : Tsid} (hne : tsid ≠ last) :
    (tsid + 1).toNat = tsid.toNat + 1 := by
  have hbound := ne_last_iff.mp hne
  rw [UInt64.toNat_add, UInt64.toNat_one, Nat.mod_eq_of_lt hbound]

theorem ne_last_of_lt {tsid next : Tsid} (hlt : tsid < next) : tsid ≠ last := by
  have hbound := next.toNat_lt
  have hless := UInt64.lt_iff_toNat_lt.mp hlt
  rw [ne_last_iff]
  omega

theorem lt_add_one {tsid : Tsid} (hne : tsid ≠ last) : tsid < tsid + 1 := by
  rw [UInt64.lt_iff_toNat_lt, toNat_add_one hne]
  omega

theorem le_max_left (a b : Tsid) : a ≤ max a b := by
  rw [UInt64.le_iff_toNat_le, toNat_max]
  exact Nat.le_max_left _ _

theorem le_max_right (a b : Tsid) : b ≤ max a b := by
  rw [UInt64.le_iff_toNat_le, toNat_max]
  exact Nat.le_max_right _ _

end Tsid

namespace Timestamp

theorem toInt_min (a b : Timestamp) :
    (min a b).toInt = min a.toInt b.toInt := by
  have hmin : min a b = if a ≤ b then a else b := rfl
  rw [hmin]
  split
  · rename_i hle
    exact (min_eq_left (Int64.le_iff_toInt_le.mp hle)).symm
  · rename_i hlt
    have hge : b.toInt ≤ a.toInt :=
      Int.le_of_lt (Int64.lt_iff_toInt_lt.mp (Int64.not_le.mp hlt))
    exact (min_eq_right hge).symm

theorem toInt_max (a b : Timestamp) :
    (max a b).toInt = max a.toInt b.toInt := by
  have hmax : max a b = if a ≤ b then b else a := rfl
  rw [hmax]
  split
  · rename_i hle
    exact (max_eq_right (Int64.le_iff_toInt_le.mp hle)).symm
  · rename_i hlt
    have hge : b.toInt ≤ a.toInt :=
      Int.le_of_lt (Int64.lt_iff_toInt_lt.mp (Int64.not_le.mp hlt))
    exact (max_eq_left hge).symm

theorem min_eq_or (a b : Timestamp) : min a b = a ∨ min a b = b := by
  have hmin : min a b = if a ≤ b then a else b := rfl
  rw [hmin]
  split
  · exact .inl rfl
  · exact .inr rfl

theorem max_eq_or (a b : Timestamp) : max a b = a ∨ max a b = b := by
  have hmax : max a b = if a ≤ b then b else a := rfl
  rw [hmax]
  split
  · exact .inr rfl
  · exact .inl rfl

theorem min_le_right (a b : Timestamp) : min a b ≤ b := by
  rw [Int64.le_iff_toInt_le, toInt_min]
  exact Int.min_le_right _ _

theorem le_max_right (a b : Timestamp) : b ≤ max a b := by
  rw [Int64.le_iff_toInt_le, toInt_max]
  exact Int.le_max_right _ _

end Timestamp

namespace Activity

/-- The bounds of an interval are the right way round. -/
def Ordered (activity : Activity) : Prop :=
  activity.earliest ≤ activity.latest

def Within (inner outer : Activity) : Prop :=
  outer.earliest ≤ inner.earliest ∧ inner.latest ≤ outer.latest

@[refl]
theorem Within.refl (activity : Activity) : activity.Within activity :=
  ⟨Int64.le_refl _, Int64.le_refl _⟩

theorem Within.trans {inner middle outer : Activity}
    (hinner : inner.Within middle) (houter : middle.Within outer) :
    inner.Within outer :=
  ⟨Int64.le_trans houter.1 hinner.1, Int64.le_trans hinner.2 houter.2⟩

theorem within_widenDown (activity : Activity) (timestamp : Timestamp) :
    activity.Within (activity.widenDown timestamp) := by
  refine ⟨?_, Int64.le_refl _⟩
  rw [widenDown, Int64.le_iff_toInt_le, Timestamp.toInt_min]
  exact min_le_left _ _

theorem within_widenUp (activity : Activity) (timestamp : Timestamp) :
    activity.Within (activity.widenUp timestamp) := by
  refine ⟨Int64.le_refl _, ?_⟩
  rw [widenUp, Int64.le_iff_toInt_le, Timestamp.toInt_max]
  exact le_max_left _ _

/-- To widen an interval loses none of it. -/
theorem within_widen (activity : Activity) (timestamp : Timestamp) :
    activity.Within (activity.widen timestamp) :=
  (activity.within_widenDown timestamp).trans (within_widenUp _ timestamp)

/-- An interval stays within another one when it is widened to a timestamp
there. -/
theorem Within.widenDown {inner outer : Activity} {timestamp : Timestamp}
    (hinner : inner.Within outer)
    (htimestamp : (single timestamp).Within outer) :
    (inner.widenDown timestamp).Within outer := by
  refine ⟨?_, hinner.2⟩
  rw [Activity.widenDown]
  rcases Timestamp.min_eq_or inner.earliest timestamp with hsame | hsame
  · rw [hsame]
    exact hinner.1
  · rw [hsame]
    exact htimestamp.1

theorem Within.widenUp {inner outer : Activity} {timestamp : Timestamp}
    (hinner : inner.Within outer)
    (htimestamp : (single timestamp).Within outer) :
    (inner.widenUp timestamp).Within outer := by
  refine ⟨hinner.1, ?_⟩
  rw [Activity.widenUp]
  rcases Timestamp.max_eq_or inner.latest timestamp with hsame | hsame
  · rw [hsame]
    exact hinner.2
  · rw [hsame]
    exact htimestamp.2

/-- An interval that holds another one has its bounds the right way round. -/
theorem Ordered.of_within {inner outer : Activity} (hordered : inner.Ordered)
    (hwithin : inner.Within outer) : outer.Ordered :=
  Int64.le_trans hwithin.1 (Int64.le_trans hordered hwithin.2)

/-- An interval overlaps a window if neither ends before the other starts. -/
theorem overlaps_iff {activity : Activity} {window : Window} :
    activity.overlaps window = true ↔
      activity.earliest ≤ window.stop ∧ window.start ≤ activity.latest := by
  rw [overlaps, Bool.and_eq_true, decide_eq_true_eq, decide_eq_true_eq]

/-- A wider interval reaches into every window that a narrower one reaches
into. -/
theorem overlaps_of_within {inner outer : Activity} {window : Window}
    (hwithin : inner.Within outer) (hoverlaps : inner.overlaps window = true) :
    outer.overlaps window = true := by
  rw [overlaps_iff] at *
  exact ⟨Int64.le_trans hwithin.1 hoverlaps.1,
    Int64.le_trans hoverlaps.2 hwithin.2⟩

/-- For bounds the right way round, reaching into a window means to share a
timestamp with it. -/
theorem overlaps_iff_exists {activity : Activity} {window : Window}
    (hordered : activity.Ordered) (hwindow : window.start ≤ window.stop) :
    activity.overlaps window = true ↔
      ∃ timestamp, activity.earliest ≤ timestamp ∧
        timestamp ≤ activity.latest ∧ window.contains timestamp = true := by
  simp only [overlaps_iff, Window.contains, Bool.and_eq_true,
    decide_eq_true_eq]
  constructor
  · rintro ⟨hstart, hstop⟩
    rcases Int64.le_total activity.earliest window.start with hle | hle
    · exact ⟨window.start, hle, hstop, Int64.le_refl _, hwindow⟩
    · exact ⟨activity.earliest, Int64.le_refl _, hordered, hle, hstart⟩
  · rintro ⟨timestamp, hearliest, hlatest, hstart, hstop⟩
    exact ⟨Int64.le_trans hearliest hstop, Int64.le_trans hstart hlatest⟩

theorem single_within_widen (activity : Activity) (timestamp : Timestamp) :
    (single timestamp).Within (activity.widen timestamp) :=
  ⟨Timestamp.min_le_right _ _, Timestamp.le_max_right _ _⟩

/-- The smallest interval that covers some intervals. -/
structure IsHull (intervals : Activity → Prop) (hull : Activity) : Prop where
  covers : ∀ interval, intervals interval → interval.Within hull
  least : ∀ other : Activity,
    (∀ interval, intervals interval → interval.Within other) →
      hull.Within other

/-- There is only one. -/
theorem IsHull.unique {intervals : Activity → Prop} {left right : Activity}
    (hleft : IsHull intervals left) (hright : IsHull intervals right) :
    left = right := by
  have hinner := hleft.least right hright.covers
  have houter := hright.least left hleft.covers
  cases left
  cases right
  rw [mk.injEq]
  exact ⟨Int64.le_antisymm houter.1 hinner.1,
    Int64.le_antisymm hinner.2 houter.2⟩

end Activity

end SeriesIndex
