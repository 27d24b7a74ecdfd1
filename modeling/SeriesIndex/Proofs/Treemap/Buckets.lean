import Mathlib
import SeriesIndex.Proofs.Treemap.Containers

/-!
# Buckets hold sets

Buckets are laid out as they should be if their upper parts ascend and each
bucket holds something that is laid out as it should be.  A set of numbers then
has one layout if the sets of its lower parts have: an upper part has a bucket
exactly if it has a number, and the bucket holds the lower parts.  So buckets
are again what buckets can hold, and two levels of them need no proof of their
own.
-/

namespace SeriesIndex

/-- Numbers that are ordered by their upper parts and then by their lower
ones. -/
class LawfulDigits (α : outParam Type) (κ δ : Type) [Digits α κ δ]
    [LT α] [LT κ] [LT δ] : Prop where
  join_upper_lower : ∀ number : α,
    Digits.join (Digits.upper δ number : κ) (Digits.lower κ number : δ) = number
  upper_join : ∀ (upper : κ) (lower : δ),
    Digits.upper δ (Digits.join upper lower) = upper
  lower_join : ∀ (upper : κ) (lower : δ),
    Digits.lower κ (Digits.join upper lower) = lower
  join_lt_iff : ∀ (upper other : κ) (lower least : δ),
    Digits.join upper lower < Digits.join other least ↔
      upper < other ∨ upper = other ∧ lower < least

namespace Buckets

open Layout (Canonical)

section Filling

variable {κ δ σ : Type} [Content σ δ]

theorem keepsKeys_filled (combined : σ → σ → σ) :
    Walk.KeepsKeys Prod.fst fun entry other : κ × σ =>
      filled (combined entry.2 other.2) entry.1 := by
  intro entry other result _ hresult
  change filled (combined entry.2 other.2) entry.1 = some result at hresult
  rw [filled] at hresult
  split at hresult
  · cases hresult
  · rw [← Option.some.inj hresult]

variable [Layout σ] [LT δ] [LawfulContent σ δ]

/-- A bucket is kept if something is left in it. -/
theorem filled_eq_some_iff {content : σ} (hcontent : Canonical content)
    {upper : κ} {entry : κ × σ} :
    filled content upper = some entry ↔
      (upper, content) = entry ∧ Content.toList entry.2 ≠ [] := by
  have hempty := LawfulContent.isEmpty_iff hcontent
  rw [filled]
  split
  · rename_i hnone
    refine iff_of_false nofun ?_
    rintro ⟨rfl, hsome⟩
    exact hsome (hempty.mp hnone)
  · rename_i hsome
    rw [Option.some_inj]
    refine (and_iff_left_of_imp ?_).symm
    rintro rfl hnone
    exact hsome (hempty.mpr hnone)

/-- A bucket that is filled with a set holds this set, and none holds
nothing. -/
theorem exists_mem_filled {content : σ} (hcontent : Canonical content)
    {upper : κ} {lower : δ} :
    (∃ entry ∈ filled content upper, lower ∈ Content.toList entry.2) ↔
      lower ∈ Content.toList content := by
  constructor
  · rintro ⟨entry, hentry, hlower⟩
    obtain ⟨rfl, -⟩ := (filled_eq_some_iff hcontent).mp hentry
    exact hlower
  · intro hlower
    exact ⟨(upper, content), (filled_eq_some_iff hcontent).mpr
      ⟨rfl, List.ne_nil_of_mem hlower⟩, hlower⟩

end Filling

variable {α κ δ σ : Type} [LT κ] [Digits α κ δ] [Content σ δ]

section Members

variable [LT α] [LT δ] [LawfulDigits α κ δ] {buckets : Buckets κ σ}

theorem mem_toList_iff {number : α} :
    number ∈ buckets.toList ↔ ∃ entry ∈ buckets.entries,
      entry.1 = Digits.upper δ number ∧
        Digits.lower κ number ∈ Content.toList entry.2 := by
  rw [toList, List.mem_flatMap]
  refine exists_congr fun entry => and_congr_right fun _ => ?_
  rw [List.mem_map]
  constructor
  · rintro ⟨lower, hlower, rfl⟩
    rw [LawfulDigits.upper_join, LawfulDigits.lower_join]
    exact ⟨rfl, hlower⟩
  · rintro ⟨hupper, hlower⟩
    exact ⟨_, hlower, hupper ▸ LawfulDigits.join_upper_lower number⟩

end Members

/-! ## Layout -/

variable [Layout σ] {buckets others : Buckets κ σ}

/-- Upper parts ascend, and no bucket is empty. -/
structure Filled (buckets : Buckets κ σ) : Prop where
  ascending : Walk.Ascending Prod.fst buckets.entries
  canonical : ∀ entry ∈ buckets.entries, Canonical entry.2
  nonempty : ∀ entry ∈ buckets.entries, Content.toList entry.2 ≠ []

instance : Layout (Buckets κ σ) where
  Canonical := Filled

theorem Filled.isEmpty_iff (hbuckets : buckets.Filled) :
    buckets.isEmpty = true ↔ buckets.toList = [] := by
  rw [isEmpty, List.isEmpty_iff, toList, List.flatMap_eq_nil_iff]
  constructor
  · intro hnone entry hentry
    rw [hnone] at hentry
    cases hentry
  · intro hnone
    refine List.eq_nil_iff_forall_not_mem.mpr fun entry hentry => ?_
    exact hbuckets.nonempty entry hentry
      (List.map_eq_nil_iff.mp (hnone entry hentry))

variable [LT δ] [LawfulContent σ δ]

/-- Sizes of buckets add up to the size of all. -/
theorem Filled.size_eq (hbuckets : buckets.Filled) :
    buckets.size = buckets.toList.length := by
  have hsizes : buckets.entries.map (fun entry => Content.size entry.2) =
      buckets.entries.map fun entry =>
        ((Content.toList entry.2).map (Digits.join entry.1 : δ → α)).length :=
    List.map_congr_left fun entry hentry => by
      rw [List.length_map,
        LawfulContent.size_eq (hbuckets.canonical entry hentry)]
  rw [size, toList, List.length_flatMap, ← hsizes, List.sum_eq_foldr,
    List.foldr_map]

/-- The last bucket holds the greatest number. -/
theorem Filled.max?_eq (hbuckets : buckets.Filled) :
    buckets.max? = buckets.toList.getLast? := by
  rcases List.eq_nil_or_concat buckets.entries with hnone | ⟨rest, entry, hlast⟩
  · rw [max?, toList, hnone]
    rfl
  · have hentry : entry ∈ buckets.entries := by simp [hlast]
    have hmax := LawfulContent.max?_eq (hbuckets.canonical entry hentry)
    have hmost := List.getLast?_eq_some_getLast
      (hbuckets.nonempty entry hentry)
    rw [hmost] at hmax
    simp [max?, toList, hlast, hmax, hmost]

variable [LT α] [LawfulDigits α κ δ]

/-- Numbers are listed in ascending order, bucket by bucket. -/
theorem Filled.ascending_toList (hbuckets : buckets.Filled) :
    buckets.toList.Pairwise (· < ·) := by
  refine List.pairwise_flatMap.mpr ⟨fun entry hentry => ?_, ?_⟩
  · refine List.pairwise_map.mpr ?_
    refine (LawfulContent.ascending (hbuckets.canonical entry hentry)).imp ?_
    intro lower other hless
    exact (LawfulDigits.join_lt_iff _ _ _ _).mpr (.inr ⟨rfl, hless⟩)
  · refine hbuckets.ascending.imp fun {entry other} hless => ?_
    intro number hnumber greater hgreater
    obtain ⟨lower, -, rfl⟩ := List.mem_map.mp hnumber
    obtain ⟨least, -, rfl⟩ := List.mem_map.mp hgreater
    exact (LawfulDigits.join_lt_iff _ _ _ _).mpr (.inl hless)

variable [LE κ] [DecidableEq κ] [Std.LawfulOrderLT κ]

omit [LawfulContent σ δ] in
/-- A number is sought in the bucket of its upper part. -/
theorem Filled.mem_toList_iff (hbuckets : buckets.Filled) {number : α} :
    number ∈ buckets.toList ↔
      ∃ entry ∈ Walk.under? Prod.fst (Digits.upper δ number) buckets.entries,
        Digits.lower κ number ∈ Content.toList entry.2 := by
  rw [Buckets.mem_toList_iff]
  refine exists_congr fun entry => ?_
  rw [Option.mem_def, Walk.under?_eq_some_iff hbuckets.ascending, and_assoc]

theorem Filled.contains_iff (hbuckets : buckets.Filled) (number : α) :
    buckets.contains number = true ↔ number ∈ buckets.toList := by
  rw [hbuckets.mem_toList_iff, contains, content?]
  cases hentry : Walk.under? Prod.fst (Digits.upper δ number)
      buckets.entries with
  | none => simp
  | some entry =>
      have hcanonical :=
        hbuckets.canonical entry (Walk.under?_eq_some hentry).1
      simp [LawfulContent.contains_iff hcanonical]

omit [LawfulContent σ δ] in
theorem Filled.mem_content_iff (hbuckets : buckets.Filled) {entry : κ × σ}
    (hentry : entry ∈ buckets.entries) {lower : δ} :
    lower ∈ Content.toList entry.2 ↔
      Digits.join entry.1 lower ∈ buckets.toList := by
  have hfound : Walk.under? Prod.fst entry.1 buckets.entries = some entry :=
    (Walk.under?_eq_some_iff hbuckets.ascending).mpr ⟨hentry, rfl⟩
  rw [hbuckets.mem_toList_iff, LawfulDigits.upper_join,
    LawfulDigits.lower_join, hfound]
  simp

/-- What is held for an upper part, if only as an empty set. -/
theorem Filled.content_spec (hbuckets : buckets.Filled) (upper : κ) :
    Canonical ((buckets.content? upper).getD Content.empty) ∧
      ∀ lower : δ,
        lower ∈ Content.toList ((buckets.content? upper).getD Content.empty) ↔
          Digits.join upper lower ∈ buckets.toList := by
  rw [content?]
  cases hentry : Walk.under? Prod.fst upper buckets.entries with
  | none =>
      refine ⟨LawfulContent.canonical_empty, fun lower => ?_⟩
      rw [hbuckets.mem_toList_iff, LawfulDigits.upper_join, hentry]
      simp [LawfulContent.toList_empty]
  | some entry =>
      obtain ⟨hmem, rfl⟩ := Walk.under?_eq_some hentry
      exact ⟨hbuckets.canonical entry hmem,
        fun lower => hbuckets.mem_content_iff hmem⟩

/-- Buckets that are combined key by key are filled, and hold the combination of
the two sets. -/
theorem Filled.of_combines (hbuckets : buckets.Filled) (hothers : others.Filled)
    {how : Combination} {result : List (κ × σ)}
    (hresult : Walk.Combines Prod.fst how (fun entry other =>
      filled (Content.combine how entry.2 other.2) entry.1)
      buckets.entries others.entries result) :
    (Buckets.mk result).Filled ∧
      ∀ number, number ∈ (Buckets.mk result).toList ↔
        how.Holds (number ∈ buckets.toList) (number ∈ others.toList) := by
  have hcombine {entry other : κ × σ} (hentry : entry ∈ buckets.entries)
      (hother : other ∈ others.entries) :
      Canonical (Content.combine how entry.2 other.2) :=
    LawfulContent.canonical_combine (hbuckets.canonical entry hentry)
      (hothers.canonical other hother) how
  have hspec : ∀ entry ∈ result,
      Canonical entry.2 ∧ Content.toList entry.2 ≠ [] := by
    intro entry hentry
    rcases hresult.of_mem hentry with
      hmem | hmem | ⟨first, hfirst, second, hsecond, -, hmade⟩
    · exact ⟨hbuckets.canonical entry hmem, hbuckets.nonempty entry hmem⟩
    · exact ⟨hothers.canonical entry hmem, hothers.nonempty entry hmem⟩
    · have hcanonical := hcombine hfirst hsecond
      obtain ⟨rfl, hsome⟩ := (filled_eq_some_iff hcanonical).mp hmade
      exact ⟨hcanonical, hsome⟩
  have hfilled : (Buckets.mk result).Filled :=
    ⟨hresult.ascending, fun entry hentry => (hspec entry hentry).1,
      fun entry hentry => (hspec entry hentry).2⟩
  refine ⟨hfilled, fun number => ?_⟩
  rw [hfilled.mem_toList_iff, hbuckets.mem_toList_iff, hothers.mem_toList_iff,
    hresult.under?_eq]
  cases hfirst : Walk.under? Prod.fst (Digits.upper δ number)
      buckets.entries with
  | none =>
      cases Walk.under? Prod.fst (Digits.upper δ number) others.entries <;>
        cases how <;> simp [Walk.made, Combination.Holds,
          Combination.keepsSecond]
  | some first =>
      cases hsecond : Walk.under? Prod.fst (Digits.upper δ number)
          others.entries with
      | none =>
          cases how <;> simp [Walk.made, Combination.Holds,
            Combination.keepsFirst]
      | some second =>
          have hfirst := (Walk.under?_eq_some hfirst).1
          have hsecond := (Walk.under?_eq_some hsecond).1
          rw [Walk.made, exists_mem_filled (hcombine hfirst hsecond),
            LawfulContent.mem_combine (hbuckets.canonical first hfirst)
              (hothers.canonical second hsecond)]
          simp

section Unique

variable [LE δ] [Std.IsLinearOrder δ] [Std.LawfulOrderLT δ]

/-- Buckets with the same numbers have the same entries: an upper part has a
bucket as soon as it has a number, and then the lower parts are the same. -/
theorem Filled.mem_entries (hbuckets : buckets.Filled) (hothers : others.Filled)
    (hsame : buckets.toList = others.toList) {entry : κ × σ}
    (hentry : entry ∈ buckets.entries) : entry ∈ others.entries := by
  obtain ⟨lower, hlower⟩ :=
    List.exists_mem_of_ne_nil _ (hbuckets.nonempty entry hentry)
  rw [hbuckets.mem_content_iff hentry, hsame, Buckets.mem_toList_iff,
    LawfulDigits.upper_join] at hlower
  obtain ⟨other, hother, hkey, -⟩ := hlower
  have hcanonical := hbuckets.canonical entry hentry
  have hcanonical' := hothers.canonical other hother
  have hirrefl : Std.Irrefl fun lower least : δ => lower < least :=
    ⟨fun _ => Std.lt_irrefl⟩
  have hantisymm : Std.Antisymm fun lower least : δ => lower < least :=
    ⟨fun _ _ hless hmore => absurd (Std.lt_trans hless hmore) Std.lt_irrefl⟩
  have hcontent : other.2 = entry.2 := by
    refine LawfulContent.eq_of_toList hcanonical' hcanonical ?_
    refine (LawfulContent.ascending hcanonical').eq_of_mem_iff
      (LawfulContent.ascending hcanonical) fun lower => ?_
    rw [hothers.mem_content_iff hother, hbuckets.mem_content_iff hentry, hsame,
      hkey]
  rwa [← Prod.ext hkey hcontent]

variable [Std.IsLinearOrder κ]

/-- A set of numbers has one layout. -/
theorem Filled.eq_of_toList (hbuckets : buckets.Filled)
    (hothers : others.Filled) (hsame : buckets.toList = others.toList) :
    buckets = others := by
  have hentries : buckets.entries = others.entries := by
    refine hbuckets.ascending.ext hothers.ascending fun upper => ?_
    refine Option.ext fun entry => ?_
    rw [Walk.under?_eq_some_iff hbuckets.ascending,
      Walk.under?_eq_some_iff hothers.ascending]
    exact and_congr_left fun _ =>
      ⟨hbuckets.mem_entries hothers hsame,
        hothers.mem_entries hbuckets hsame.symm⟩
  cases buckets
  cases others
  exact congrArg _ hentries

end Unique

/-! ## Operations -/

variable [Std.IsLinearOrder κ] [DecidableLT κ]

/-- An insertion adds one number, tells whether it is new, and leaves no bucket
empty. -/
theorem Filled.insert_spec (hbuckets : buckets.Filled) (number : α) :
    ((buckets.insert number).1 = true ↔ number ∉ buckets.toList) ∧
      (buckets.insert number).2.Filled ∧
      ∀ other, other ∈ (buckets.insert number).2.toList ↔
        other = number ∨ other ∈ buckets.toList := by
  obtain ⟨hcanonical, hheld⟩ :=
    hbuckets.content_spec (Digits.upper δ number : κ)
  have hown := hheld (Digits.lower κ number)
  rw [LawfulDigits.join_upper_lower] at hown
  have hfilled : (buckets.insert number).2.Filled := by
    constructor
    · exact Walk.ascending_put hbuckets.ascending
    · intro entry hentry
      rcases Walk.mem_put hentry with rfl | hentry
      · exact LawfulContent.canonical_insert hcanonical _
      · exact hbuckets.canonical entry hentry
    · intro entry hentry
      rcases Walk.mem_put hentry with rfl | hentry
      · refine List.ne_nil_of_mem (a := Digits.lower κ number) ?_
        exact (LawfulContent.mem_insert hcanonical _ _).mpr (.inl rfl)
      · exact hbuckets.nonempty entry hentry
  refine ⟨?_, hfilled, fun other => ?_⟩
  · rw [← hown]
    exact LawfulContent.insert_fst hcanonical _
  · rw [hfilled.mem_toList_iff, insert, Walk.under?_put]
    by_cases hupper : (Digits.upper δ number : κ) = Digits.upper δ other
    · have hback : Digits.join (Digits.upper δ number : κ)
          (Digits.lower κ other : δ) = other := by
        rw [hupper, LawfulDigits.join_upper_lower]
      have hlower : (Digits.lower κ other : δ) = Digits.lower κ number ↔
          other = number := by
        constructor
        · intro hlower
          rw [← hback, hlower]
          exact LawfulDigits.join_upper_lower number
        · rintro rfl
          rfl
      have hjoin := hheld (Digits.lower κ other)
      rw [hback] at hjoin
      rw [if_pos hupper, ← hlower, ← hjoin,
        ← LawfulContent.mem_insert hcanonical]
      simp
    · rw [if_neg hupper, ← hbuckets.mem_toList_iff]
      refine (or_iff_right fun heq => hupper ?_).symm
      rw [heq]

/-- A combination holds what it should, and leaves no bucket empty. -/
theorem Filled.combine_spec (hbuckets : buckets.Filled)
    (hothers : others.Filled) (how : Combination) :
    (buckets.combine how others).Filled ∧
      (∀ number, number ∈ (buckets.combine how others).toList ↔
        how.Holds (number ∈ buckets.toList) (number ∈ others.toList)) ∧
      buckets.combineInPlace how others = buckets.combine how others := by
  have hwalk := Walk.combines_inStep how
    (keepsKeys_filled (Content.combine how)) hbuckets.ascending
    hothers.ascending
  obtain ⟨hfilled, hmem⟩ := hbuckets.of_combines hothers hwalk
  have hsame : ∀ entry ∈ buckets.entries, ∀ other ∈ others.entries,
      filled (Content.combineInPlace how entry.2 other.2) entry.1 =
        filled (Content.combine how entry.2 other.2) entry.1 := by
    intro entry hentry other hother
    rw [LawfulContent.combineInPlace_eq (hbuckets.canonical entry hentry)
      (hothers.canonical other hother)]
  have hplace := Walk.combines_inPlace how
    (keepsKeys_filled (Content.combineInPlace how)) hbuckets.ascending
    hothers.ascending ?_
  · exact ⟨hfilled, hmem,
      congrArg Buckets.mk ((hplace.congr hsame).eq hwalk)⟩
  · -- A union is not empty, because its first part is not.
    rintro rfl entry hentry other hother -
    have hcanonical := hbuckets.canonical entry hentry
    have hcanonical' := hothers.canonical other hother
    obtain ⟨lower, hlower⟩ :=
      List.exists_mem_of_ne_nil _ (hbuckets.nonempty entry hentry)
    have hunion := (LawfulContent.mem_combine hcanonical hcanonical' .union
      lower).mpr (.inl hlower)
    have hcombined :=
      LawfulContent.canonical_combine hcanonical hcanonical' .union
    obtain ⟨result, hresult, -⟩ := (exists_mem_filled hcombined).mpr hunion
    rw [hsame entry hentry other hother, Option.mem_def.mp hresult]
    exact Option.some_ne_none _

instance [LE δ] [Std.IsLinearOrder δ] [Std.LawfulOrderLT δ] :
    LawfulContent (Buckets κ σ) α where
  canonical_empty := ⟨.nil, by simp [Content.empty], by simp [Content.empty]⟩
  toList_empty := rfl
  ascending := Filled.ascending_toList
  eq_of_toList := Filled.eq_of_toList
  isEmpty_iff := Filled.isEmpty_iff
  size_eq := Filled.size_eq
  max?_eq := Filled.max?_eq
  contains_iff := Filled.contains_iff
  canonical_insert hbuckets number := (hbuckets.insert_spec number).2.1
  insert_fst hbuckets number := (hbuckets.insert_spec number).1
  mem_insert hbuckets number := (hbuckets.insert_spec number).2.2
  canonical_combine hbuckets hothers how :=
    (hbuckets.combine_spec hothers how).1
  mem_combine hbuckets hothers how := (hbuckets.combine_spec hothers how).2.1
  combineInPlace_eq hbuckets hothers how :=
    (hbuckets.combine_spec hothers how).2.2

end Buckets

end SeriesIndex
