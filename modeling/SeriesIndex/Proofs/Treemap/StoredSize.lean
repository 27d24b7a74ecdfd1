import Mathlib
import SeriesIndex.Proofs.Postings
import SeriesIndex.Proofs.Treemap.Numbers

/-!
# The stored size of a set

The numbers of each bitmap and those of each container are a run of numbers that
agree above their lowest bits.  No run is empty and no two runs agree, so every
key has one run with all its numbers.  The size therefore depends on the set of
the numbers only, through the number of its keys and how many numbers each key
has.

Where postings are a plain set, its ascending numbers are cut wherever they
first differ above the lowest bits.  Numbers that agree there stand next to each
other, so that this gives the same runs.
-/

namespace SeriesIndex

/-! ## Runs -/

section Runs

variable {α κ : Type} {key : α → κ}

/-- Runs of numbers: none is empty, each has one key, and no two have the
same. -/
structure KeyedRuns (key : α → κ) (runs : List (List α)) : Prop where
  nonempty : ∀ run ∈ runs, run ≠ []
  constant : ∀ run ∈ runs, ∀ first ∈ run, ∀ other ∈ run, key first = key other
  distinct : runs.Pairwise fun run other =>
    ∀ first ∈ run, ∀ last ∈ other, key first ≠ key last

/-- The first run has a key of its own, which is that of no later number. -/
theorem KeyedRuns.of_cons {run : List α} {rest : List (List α)}
    (hruns : KeyedRuns key (run :: rest)) :
    ∃ own, (∀ a ∈ run, key a = own) ∧ own ∈ run.map key ∧
      (∀ a ∈ rest.flatten, key a ≠ own) ∧ KeyedRuns key rest := by
  obtain ⟨hsome, hnonempty⟩ := List.forall_mem_cons.mp hruns.nonempty
  obtain ⟨hsame, hconstant⟩ := List.forall_mem_cons.mp hruns.constant
  obtain ⟨hapart, hdistinct⟩ := List.pairwise_cons.mp hruns.distinct
  obtain ⟨first, hfirst⟩ := List.exists_mem_of_ne_nil run hsome
  refine ⟨key first, fun a ha => hsame a ha first hfirst,
    List.mem_map_of_mem hfirst, fun a ha => ?_,
    hnonempty, hconstant, hdistinct⟩
  obtain ⟨other, hother, ha⟩ := List.mem_flatten.mp ha
  exact (hapart other hother first hfirst a ha).symm

variable [DecidableEq κ]

theorem key_of_mem_run {first : α} {rest : List α} :
    ∀ a ∈ first :: rest.takeWhile fun a => key a == key first,
      key a = key first := by
  intro a ha
  rcases List.mem_cons.mp ha with rfl | ha
  · rfl
  · simpa using List.mem_takeWhile_imp ha

/-- The first run takes all that has the first key, up to the first other
one. -/
theorem splitBy_cons (first : α) (rest : List α) :
    (first :: rest).splitBy (fun a b => key a == key b) =
      (first :: rest.takeWhile fun a => key a == key first) ::
        (rest.dropWhile fun a => key a == key first).splitBy
          fun a b => key a == key b := by
  have hchain : (first :: rest.takeWhile fun a => key a == key first).IsChain
      fun a b => (key a == key b) = true :=
    (List.pairwise_of_forall_mem_list fun a ha b hb =>
      beq_iff_eq.mpr
        ((key_of_mem_run a ha).trans (key_of_mem_run b hb).symm)).isChain
  have hcut : ∀ a ∈
    (first :: rest.takeWhile fun a => key a == key first).getLast?,
      ∀ b ∈ (rest.dropWhile fun a => key a == key first).head?,
        (key a == key b) = false := by
    intro a ha b hb
    have hnot := List.head?_dropWhile_not (fun a => key a == key first) rest
    rw [Option.mem_def.mp hb] at hnot
    rw [key_of_mem_run a (List.mem_of_getLast? ha)]
    exact beq_false_of_ne fun heq => by simp [heq] at hnot
  calc (first :: rest).splitBy (fun a b => key a == key b)
      = ((first :: rest.takeWhile fun a => key a == key first) ++
          rest.dropWhile fun a => key a == key first).splitBy
            (fun a b => key a == key b) := by
        rw [List.cons_append, List.takeWhile_append_dropWhile]
    _ = _ := by
        rw [List.splitBy_append hcut,
          List.splitBy_of_isChain (List.cons_ne_nil _ _) hchain,
          List.singleton_append]

theorem toFinset_map_of_constant {run : List α} {own : κ}
    (hsame : ∀ a ∈ run, key a = own) (hown : own ∈ run.map key) :
    (run.map key).toFinset = {own} := by
  ext k
  rw [List.mem_toFinset, Finset.mem_singleton]
  constructor
  · intro hk
    obtain ⟨a, ha, rfl⟩ := List.mem_map.mp hk
    exact hsame a ha
  · rintro rfl
    exact hown

/-- What is summed up run by run is summed up key by key. -/
theorem KeyedRuns.sum_map {runs : List (List α)} (hruns : KeyedRuns key runs)
    (weight : ℕ → ℕ) :
    (runs.map fun run => weight run.length).sum =
      ∑ k ∈ (runs.flatten.map key).toFinset,
        weight (runs.flatten.countP fun a => key a == k) := by
  induction runs with
  | nil => rfl
  | cons run rest ih =>
      obtain ⟨own, hsame, hown, hothers, hrest⟩ := hruns.of_cons
      have hnew : own ∉ (rest.flatten.map key).toFinset := by
        rw [List.mem_toFinset, List.mem_map]
        rintro ⟨a, ha, heq⟩
        exact hothers a ha heq
      have hrun : run.countP (fun a => key a == own) = run.length :=
        List.countP_eq_length.mpr fun a ha => beq_iff_eq.mpr (hsame a ha)
      have hnone : rest.flatten.countP (fun a => key a == own) = 0 :=
        List.countP_eq_zero.mpr fun a ha => by simpa using hothers a ha
      have hlater : ∀ k ∈ (rest.flatten.map key).toFinset,
          run.countP (fun a => key a == k) = 0 := by
        intro k hk
        refine List.countP_eq_zero.mpr fun a ha hkey => ?_
        obtain rfl : own = k := (hsame a ha).symm.trans (beq_iff_eq.mp hkey)
        exact hnew hk
      have hsum : ∑ k ∈ (rest.flatten.map key).toFinset,
            weight ((run ++ rest.flatten).countP fun a => key a == k) =
          ∑ k ∈ (rest.flatten.map key).toFinset,
            weight (rest.flatten.countP fun a => key a == k) :=
        Finset.sum_congr rfl fun k hk => by
          rw [List.countP_append, hlater k hk, Nat.zero_add]
      rw [List.map_cons, List.sum_cons, List.flatten_cons, List.map_append,
        List.toFinset_append, toFinset_map_of_constant hsame hown,
        Finset.singleton_union, Finset.sum_insert hnew, hsum,
        List.countP_append, hrun, hnone, Nat.add_zero, ih hrest]

/-- There are as many runs as keys. -/
theorem KeyedRuns.length_eq {runs : List (List α)}
    (hruns : KeyedRuns key runs) :
    runs.length = (runs.flatten.map key).toFinset.card := by
  have hsum := hruns.sum_map fun _ => 1
  rwa [List.map_const', List.sum_replicate, smul_eq_mul, mul_one,
    Finset.sum_const, smul_eq_mul, mul_one] at hsum

variable [LE κ] [Std.IsPartialOrder κ]

/-- Where keys ascend, a key that is over does not come back. -/
theorem ne_of_mem_dropWhile {rest : List α} {least : κ}
    (hleast : ∀ a ∈ rest, least ≤ key a)
    (hascending : rest.Pairwise fun a b => key a ≤ key b) :
    ∀ a ∈ rest.dropWhile fun a => key a == least, least ≠ key a := by
  induction rest with
  | nil => simp
  | cons first rest ih =>
      obtain ⟨hfirst, hrest⟩ := List.pairwise_cons.mp hascending
      by_cases hkey : key first = least
      · rw [List.dropWhile_cons_of_pos (by simpa using hkey)]
        exact ih (fun a ha => hleast a (List.mem_cons_of_mem _ ha)) hrest
      · rw [List.dropWhile_cons_of_neg (by simpa using hkey)]
        intro a ha heq
        rcases List.mem_cons.mp ha with rfl | ha
        · exact hkey heq.symm
        · -- The first key lies between the least one and that of `a`.
          exact hkey
            (Std.le_antisymm (heq ▸ hfirst a ha) (hleast first (by simp)))

/-- Where keys ascend, to cut where they change makes one run for each key. -/
theorem keyedRuns_splitBy {list : List α}
    (hascending : list.Pairwise fun a b => key a ≤ key b) :
    KeyedRuns key (list.splitBy fun a b => key a == key b) := by
  induction hlength : list.length using Nat.strongRecOn generalizing list with
  | ind length ih =>
      cases list with
      | nil => exact ⟨by simp, by simp, .nil⟩
      | cons first rest =>
          obtain ⟨hfirst, hrest⟩ := List.pairwise_cons.mp hascending
          have hshorter : (rest.dropWhile fun a => key a == key first).length <
              length := by
            rw [← hlength, List.length_cons]
            exact Nat.lt_succ_of_le (List.dropWhile_suffix _).length_le
          have hlater :=
            ih _ hshorter (hrest.sublist (List.dropWhile_sublist _))
            rfl
          rw [splitBy_cons]
          refine ⟨?_, ?_, List.pairwise_cons.mpr ⟨?_, hlater.distinct⟩⟩
          · exact List.forall_mem_cons.mpr ⟨List.cons_ne_nil _ _,
              hlater.nonempty⟩
          · refine List.forall_mem_cons.mpr ⟨?_, hlater.constant⟩
            intro a ha b hb
            rw [key_of_mem_run a ha, key_of_mem_run b hb]
          · intro run hrun a ha b hb
            have hmem := List.mem_flatten.mpr ⟨run, hrun, hb⟩
            rw [List.flatten_splitBy] at hmem
            rw [key_of_mem_run a ha]
            exact ne_of_mem_dropWhile hfirst hrest b hmem

end Runs

/-! ## Sizes -/

namespace Postings

def upper (bits : UInt64) (tsid : Tsid) : UInt64 :=
  tsid >>> bits

/-- The size of a set of numbers: eight bytes, twelve for each upper half that
occurs, and for each 48 upper bits that occur eight and two more for each number
that has them, but no more than 8192 for all of these. -/
def storedSize (tsids : Finset Tsid) : ℕ :=
  8 + 12 * (tsids.image (upper 32)).card +
    ∑ key ∈ tsids.image (upper 16),
      (8 + min (2 * (tsids.filter fun tsid => upper 16 tsid = key).card) 8192)

/-- The size of a set in runs, one for each upper half and one for each 48 upper
bits. -/
theorem storedSize_of_runs {tsids : List Tsid} (hnodup : tsids.Nodup)
    {bitmaps containers : List (List Tsid)}
    (hbitmaps : KeyedRuns (upper 32) bitmaps)
    (hcontainers : KeyedRuns (upper 16) containers)
    (hall : bitmaps.flatten = tsids) (hall' : containers.flatten = tsids) :
    8 + 12 * bitmaps.length +
        (containers.map fun run => 8 + min (2 * run.length) 8192).sum =
      storedSize tsids.toFinset := by
  have hkeys (bits : UInt64) : (tsids.map (upper bits)).toFinset =
      tsids.toFinset.image (upper bits) := by
    ext key
    simp only [List.mem_toFinset, List.mem_map, Finset.mem_image]
  have hcount (key : UInt64) : tsids.countP (fun tsid => upper 16 tsid == key) =
      (tsids.toFinset.filter fun tsid => upper 16 tsid = key).card := by
    rw [List.countP_eq_length_filter,
      ← List.toFinset_card_of_nodup (hnodup.filter _)]
    congr 1
    ext tsid
    simp
  rw [hbitmaps.length_eq, hcontainers.sum_map fun count =>
    8 + min (2 * count) 8192, hall, hall', hkeys, hkeys, storedSize]
  simp only [hcount]

theorem containerBytes_eq (count : ℕ) :
    containerBytes count = 8 + min (2 * count) 8192 := by
  rw [containerBytes, arrayMost]
  split <;> omega

theorem upper_le_upper {small great : Tsid} (hless : small < great)
    (bits : UInt64) : upper bits small ≤ upper bits great := by
  rw [upper, upper, UInt64.le_iff_toNat_le, UInt64.toNat_shiftRight,
    UInt64.toNat_shiftRight, Nat.shiftRight_eq_div_pow,
    Nat.shiftRight_eq_div_pow]
  exact Nat.div_le_div_right (UInt64.lt_iff_toNat_lt.mp hless).le

theorem keyedRuns_runs {tsids : List Tsid} (hascending : tsids.Pairwise (· < ·))
    (bits : UInt64) : KeyedRuns (upper bits) (runs bits tsids) :=
  keyedRuns_splitBy (hascending.imp fun hless => upper_le_upper hless bits)

/-- The stored size is that of the set of the members. -/
theorem storedBytes_eq (postings : Postings) :
    postings.storedBytes = storedSize postings.toList.toFinset := by
  have hruns := keyedRuns_runs postings.toList_ascending
  have hsum : (runs 16 postings.toList).foldr
      (fun run bytes => containerBytes run.length + bytes) 0 =
      ((runs 16 postings.toList).map fun run =>
        8 + min (2 * run.length) 8192).sum := by
    simp only [containerBytes_eq, List.sum_eq_foldr, List.foldr_map]
  rw [storedBytes, hsum, ← storedSize_of_runs postings.nodup_toList (hruns 32)
    (hruns 16) (List.flatten_splitBy _ _) (List.flatten_splitBy _ _)]
  rfl

end Postings

namespace Treemap

open Layout (Canonical)

variable {treemap : Treemap}

theorem storedBytes_of_canonical {container : Container}
    (hcontainer : Canonical container) :
    container.storedBytes = min (2 * container.toList.length) 8192 := by
  cases container with
  | array lows =>
      have hfew : lows.size ≤ 4096 := hcontainer.2
      rw [Container.storedBytes, Container.toList, Array.length_toList]
      omega
  | bitset count bits =>
      obtain ⟨hcount, hmany⟩ := hcontainer
      rw [Container.arrayMost] at hmany
      rw [Container.storedBytes, Container.toList, ← hcount]
      omega

def bitmapRuns (treemap : Treemap) : List (List Tsid) :=
  treemap.entries.map fun entry =>
    (Buckets.toList entry.2).map (Digits.join entry.1)

def containerRuns (treemap : Treemap) : List (List Tsid) :=
  treemap.entries.flatMap fun entry => entry.2.entries.map fun inner =>
    inner.2.toList.map fun low => Digits.join entry.1 (Digits.join inner.1 low)

theorem flatten_containerRuns (treemap : Treemap) :
    (containerRuns treemap).flatten = treemap.toList := by
  rw [containerRuns, Buckets.toList, List.flatMap_def, List.flatten_flatten,
    List.map_map]
  refine congrArg List.flatten (List.map_congr_left fun entry _ => ?_)
  change (entry.2.entries.map fun inner => _).flatten =
    (entry.2.entries.flatMap fun inner => _).map _
  rw [List.map_flatMap, List.flatMap_def]
  refine congrArg List.flatten (List.map_congr_left fun inner _ => ?_)
  rw [List.map_map]
  rfl

theorem upper_32_join {upper other lower least : UInt32} :
    Postings.upper 32 (Digits.join upper lower) =
      Postings.upper 32 (Digits.join other least) ↔ upper = other := by
  have hlower := lower.toNat_lt
  have hleast := least.toNat_lt
  have hshift (tsid : Tsid) :
      (Postings.upper 32 tsid).toNat = tsid.toNat / 2 ^ 32 := by
    rw [Postings.upper, UInt64.toNat_shiftRight, Nat.shiftRight_eq_div_pow]
    rfl
  rw [← UInt64.toNat_inj, hshift, hshift, toNat_join, toNat_join,
    ← UInt32.toNat_inj]
  omega

theorem upper_16_join {upper other : UInt32}
    {middle between low least : UInt16} :
    Postings.upper 16 (Digits.join upper (Digits.join middle low : UInt32)) =
      Postings.upper 16 (Digits.join other (Digits.join between least : UInt32))
        ↔
        upper = other ∧ middle = between := by
  have hlow := low.toNat_lt
  have hleast := least.toNat_lt
  have hmiddle := middle.toNat_lt
  have hbetween := between.toNat_lt
  have hshift (tsid : Tsid) :
      (Postings.upper 16 tsid).toNat = tsid.toNat / 2 ^ 16 := by
    rw [Postings.upper, UInt64.toNat_shiftRight, Nat.shiftRight_eq_div_pow]
    rfl
  rw [← UInt64.toNat_inj, hshift, hshift, toNat_join, toNat_join,
    Bitmap.toNat_join, Bitmap.toNat_join, ← UInt32.toNat_inj,
    ← UInt16.toNat_inj]
  omega

theorem keyedRuns_bitmapRuns (htreemap : treemap.Filled) :
    KeyedRuns (Postings.upper 32) (bitmapRuns treemap) := by
  constructor
  · intro run hrun
    obtain ⟨entry, hentry, rfl⟩ := List.mem_map.mp hrun
    exact List.map_eq_nil_iff.not.mpr (htreemap.nonempty entry hentry)
  · intro run hrun first hfirst other hother
    obtain ⟨entry, -, rfl⟩ := List.mem_map.mp hrun
    obtain ⟨lower, -, rfl⟩ := List.mem_map.mp hfirst
    obtain ⟨least, -, rfl⟩ := List.mem_map.mp hother
    exact upper_32_join.mpr rfl
  · refine List.pairwise_map.mpr (htreemap.ascending.imp ?_)
    intro entry later hless first hfirst last hlast
    obtain ⟨lower, -, rfl⟩ := List.mem_map.mp hfirst
    obtain ⟨least, -, rfl⟩ := List.mem_map.mp hlast
    exact upper_32_join.not.mpr (Std.ne_of_lt hless)

/-- Each container of a treemap is the run of one upper half. -/
theorem keyedRuns_containerRuns (htreemap : treemap.Filled) :
    KeyedRuns (Postings.upper 16) (containerRuns treemap) := by
  constructor
  · intro run hrun
    obtain ⟨entry, hentry, hrun⟩ := List.mem_flatMap.mp hrun
    obtain ⟨inner, hinner, rfl⟩ := List.mem_map.mp hrun
    have hbitmap : Buckets.Filled entry.2 := htreemap.canonical entry hentry
    exact List.map_eq_nil_iff.not.mpr (hbitmap.nonempty inner hinner)
  · intro run hrun first hfirst other hother
    obtain ⟨entry, -, hrun⟩ := List.mem_flatMap.mp hrun
    obtain ⟨inner, -, rfl⟩ := List.mem_map.mp hrun
    obtain ⟨low, -, rfl⟩ := List.mem_map.mp hfirst
    obtain ⟨least, -, rfl⟩ := List.mem_map.mp hother
    exact upper_16_join.mpr ⟨rfl, rfl⟩
  · refine List.pairwise_flatMap.mpr ⟨fun entry hentry => ?_, ?_⟩
    · have hbitmap : Buckets.Filled entry.2 := htreemap.canonical entry hentry
      refine List.pairwise_map.mpr (hbitmap.ascending.imp ?_)
      intro inner later hless first hfirst last hlast
      obtain ⟨low, -, rfl⟩ := List.mem_map.mp hfirst
      obtain ⟨least, -, rfl⟩ := List.mem_map.mp hlast
      exact fun hsame => Std.ne_of_lt hless (upper_16_join.mp hsame).2
    · refine htreemap.ascending.imp fun {entry later} hless => ?_
      intro run hrun other hother first hfirst last hlast
      obtain ⟨inner, -, rfl⟩ := List.mem_map.mp hrun
      obtain ⟨after, -, rfl⟩ := List.mem_map.mp hother
      obtain ⟨low, -, rfl⟩ := List.mem_map.mp hfirst
      obtain ⟨least, -, rfl⟩ := List.mem_map.mp hlast
      exact fun hsame => Std.ne_of_lt hless (upper_16_join.mp hsame).1

theorem flatten_bitmapRuns (treemap : Treemap) :
    (bitmapRuns treemap).flatten = treemap.toList := rfl

theorem sum_containerRuns (treemap : Treemap) (weight : ℕ → ℕ) :
    ((containerRuns treemap).map fun run => weight run.length).sum =
      (treemap.entries.map fun entry => (entry.2.entries.map fun inner =>
        weight inner.2.toList.length).sum).sum := by
  rw [containerRuns, List.map_flatMap, List.flatMap_def, List.sum_flatten,
    List.map_map]
  refine congrArg List.sum (List.map_congr_left fun entry _ => ?_)
  simp [Function.comp_def]

/-- Twelve bytes come with each bitmap, and all others with its containers. -/
theorem bitmapBytes_eq (htreemap : treemap.Filled) {entry : UInt32 × Bitmap}
    (hentry : entry ∈ treemap.entries) :
    4 + Bitmap.storedBytes entry.2 = 12 + (entry.2.entries.map fun inner =>
      8 + min (2 * inner.2.toList.length) 8192).sum := by
  have hbitmap : Buckets.Filled entry.2 := htreemap.canonical entry hentry
  have hcontainers :
      entry.2.entries.map (fun inner => 8 + inner.2.storedBytes) =
      entry.2.entries.map fun inner =>
        8 + min (2 * inner.2.toList.length) 8192 :=
    List.map_congr_left fun inner hinner => by
      rw [storedBytes_of_canonical (hbitmap.canonical inner hinner)]
  rw [← hcontainers, List.sum_eq_foldr, List.foldr_map]
  exact (Nat.add_assoc 4 8 _).symm

/-- The stored size of a treemap is that of its set. -/
theorem storedBytes_eq (htreemap : treemap.Filled) :
    Treemap.storedBytes treemap =
      Postings.storedSize treemap.toList.toFinset := by
  have hnodup : treemap.toList.Nodup :=
    htreemap.ascending_toList.imp Std.ne_of_lt
  have hbytes := List.map_congr_left
    fun entry (hentry : entry ∈ treemap.entries) =>
      bitmapBytes_eq htreemap hentry
  have hsum : treemap.entries.foldr
      (fun entry bytes => 4 + Bitmap.storedBytes entry.2 + bytes) 0 =
      (treemap.entries.map fun entry =>
        4 + Bitmap.storedBytes entry.2).sum := by
    rw [List.sum_eq_foldr, List.foldr_map]
  rw [← Postings.storedSize_of_runs hnodup (keyedRuns_bitmapRuns htreemap)
    (keyedRuns_containerRuns htreemap) (flatten_bitmapRuns treemap)
    (flatten_containerRuns treemap), sum_containerRuns treemap fun count =>
      8 + min (2 * count) 8192, Treemap.storedBytes, hsum, hbytes,
    List.sum_map_add, List.map_const', List.sum_replicate, bitmapRuns,
    List.length_map]
  simp only [smul_eq_mul]
  omega

end Treemap

end SeriesIndex
