import Mathlib
import SeriesIndex.Treemap.Walk

/-!
# Walks

Lists with ascending keys are seen through their entries: such a list is known
as soon as the entry for each key is.  A walk in step and one that looks keys up
both give, for each key, what is made of the two entries of that key, and so
they give the same list.
-/

namespace SeriesIndex.Walk

variable {ε κ : Type} {key : ε → κ} {how : Combination}
variable {both : ε → ε → Option ε}

/-- What is made of two entries with one key has this key, too. -/
def KeepsKeys (key : ε → κ) (both : ε → ε → Option ε) : Prop :=
  ∀ entry other result, key entry = key other →
    both entry other = some result → key result = key entry

theorem made_key (hkeeps : KeepsKeys key both) {wanted : κ}
    {first second : Option ε} (hfirst : ∀ entry ∈ first, key entry = wanted)
    (hsecond : ∀ entry ∈ second, key entry = wanted) :
    ∀ entry ∈ made how both first second, key entry = wanted := by
  intro entry hentry
  cases first with
  | none =>
      cases second with
      | none => cases hentry
      | some other =>
          obtain ⟨-, heq⟩ := Option.ite_none_right_eq_some.mp hentry
          exact hsecond entry heq
  | some first =>
      have hwanted := hfirst first rfl
      cases second with
      | none =>
          obtain ⟨-, heq⟩ := Option.ite_none_right_eq_some.mp hentry
          exact hfirst entry heq
      | some other =>
          have hsame := hwanted.trans (hsecond other rfl).symm
          exact (hkeeps first other entry hsame hentry).trans hwanted

/-! ## Entries -/

section Entries

variable [DecidableEq κ]

theorem under?_cons (entry : ε) (entries : List ε) (wanted : κ) :
    under? key wanted (entry :: entries) =
      if key entry = wanted then some entry else under? key wanted entries := by
  rw [under?, under?, List.find?_cons]
  by_cases hkey : key entry = wanted
  · rw [beq_iff_eq.mpr hkey, if_pos hkey]
  · rw [beq_false_of_ne hkey, if_neg hkey]

theorem under?_cons_self (entry : ε) (entries : List ε) :
    under? key (key entry) (entry :: entries) = some entry := by
  rw [under?_cons, if_pos rfl]

theorem under?_cons_of_ne {entry : ε} {wanted : κ}
    (hwanted : wanted ≠ key entry) (entries : List ε) :
    under? key wanted (entry :: entries) = under? key wanted entries := by
  rw [under?_cons, if_neg hwanted.symm]

theorem under?_eq_some {wanted : κ} {entries : List ε} {entry : ε}
    (hentry : under? key wanted entries = some entry) :
    entry ∈ entries ∧ key entry = wanted := by
  refine ⟨List.mem_of_find?_eq_some hentry, ?_⟩
  simpa using List.find?_some hentry

theorem under?_eq_none {wanted : κ} {entries : List ε}
    (hkeys : ∀ entry ∈ entries, key entry ≠ wanted) :
    under? key wanted entries = none := by
  rw [under?, List.find?_eq_none]
  intro entry hentry
  simpa using hkeys entry hentry

/-- What is put in front of a list is found there, and nothing else changes. -/
theorem under?_toList_append {first : Option ε} {own : κ}
    (hfirst : ∀ entry ∈ first, key entry = own) {entries : List ε}
    (hown : under? key own entries = none) (wanted : κ) :
    under? key wanted (first.toList ++ entries) =
      if wanted = own then first else under? key wanted entries := by
  cases first with
  | none =>
      rw [Option.toList_none, List.nil_append]
      split
      · rename_i hwanted
        rw [hwanted, hown]
      · rfl
  | some entry =>
      obtain rfl := hfirst entry rfl
      rw [Option.toList_some, List.singleton_append, under?_cons]
      simp only [eq_comm]

end Entries

/-! ## Ascending lists -/

variable [LT κ]

def Ascending (key : ε → κ) (entries : List ε) : Prop :=
  entries.Pairwise fun entry other => key entry < key other

theorem ascending_filterMap {change : ε → Option ε}
    (hchange : ∀ entry, ∀ result ∈ change entry, key result = key entry)
    {entries : List ε} (hentries : Ascending key entries) :
    Ascending key (entries.filterMap change) := by
  refine List.Pairwise.filterMap change ?_ hentries
  intro entry other hless result hresult same hsame
  rwa [hchange entry result hresult, hchange other same hsame]

theorem mem_put [DecidableLT κ] {entry result : ε} {entries : List ε} :
    result ∈ put key entry entries → result = entry ∨ result ∈ entries := by
  induction entries with
  | nil => simp [put]
  | cons first rest ih =>
      rw [put]
      split
      · simp
      · split
        · intro hresult
          rcases List.mem_cons.mp hresult with rfl | hresult
          · exact .inr (by simp)
          · exact (ih hresult).imp_right (List.mem_cons_of_mem _)
        · intro hresult
          exact (List.mem_cons.mp hresult).imp_right (List.mem_cons_of_mem _)

/-- To put an entry in its place keeps the keys in order. -/
theorem ascending_put [DecidableLT κ] [LE κ] [Std.IsLinearOrder κ]
    [Std.LawfulOrderLT κ] {entry : ε} {entries : List ε}
    (hentries : Ascending key entries) :
    Ascending key (put key entry entries) := by
  induction entries with
  | nil => simp [put, Ascending]
  | cons first rest ih =>
      obtain ⟨hfirst, hrest⟩ := List.pairwise_cons.mp hentries
      rw [put]
      split
      · rename_i hless
        exact List.pairwise_cons.mpr ⟨List.forall_mem_cons.mpr ⟨hless,
          fun other hother => Std.lt_trans hless (hfirst other hother)⟩,
            hentries⟩
      · rename_i hless
        split
        · rename_i hmore
          refine List.pairwise_cons.mpr ⟨fun other hother => ?_, ih hrest⟩
          rcases mem_put hother with rfl | hother
          · exact hmore
          · exact hfirst other hother
        · rename_i hmore
          have hkey : key first = key entry :=
            Std.le_antisymm (Std.not_lt.mp hless) (Std.not_lt.mp hmore)
          exact List.pairwise_cons.mpr
            ⟨fun other hother => hkey ▸ hfirst other hother, hrest⟩

variable [DecidableEq κ]

/-- A list of all that is made of the entries of two lists, key by key. -/
structure Combines (key : ε → κ) (how : Combination)
    (both : ε → ε → Option ε) (entries others result : List ε) : Prop where
  ascending : Ascending key result
  under?_eq : ∀ wanted, under? key wanted result =
    made how both (under? key wanted entries) (under? key wanted others)

/-- Only what is made of entries of the two lists matters. -/
theorem Combines.congr {same : ε → ε → Option ε}
    {entries others result : List ε}
    (hresult : Combines key how both entries others result)
    (hsame : ∀ entry ∈ entries, ∀ other ∈ others,
      both entry other = same entry other) :
    Combines key how same entries others result := by
  refine ⟨hresult.ascending, fun wanted => ?_⟩
  rw [hresult.under?_eq]
  cases hentry : under? key wanted entries with
  | none => cases under? key wanted others <;> rfl
  | some entry =>
      cases hother : under? key wanted others with
      | none => rfl
      | some other =>
          exact hsame entry (under?_eq_some hentry).1 other
            (under?_eq_some hother).1

variable [LE κ] [Std.LawfulOrderLT κ]

theorem under?_of_lt {entries : List ε} {wanted : κ}
    (hless : ∀ entry ∈ entries, wanted < key entry) :
    under? key wanted entries = none :=
  under?_eq_none fun entry hentry => (Std.ne_of_lt (hless entry hentry)).symm

/-- Where keys ascend, an entry is found under its key. -/
theorem under?_eq_some_iff {entries : List ε}
    (hascending : Ascending key entries) {wanted : κ} {entry : ε} :
    under? key wanted entries = some entry ↔
      entry ∈ entries ∧ key entry = wanted := by
  refine ⟨under?_eq_some, ?_⟩
  rintro ⟨hentry, rfl⟩
  induction entries with
  | nil => cases hentry
  | cons first rest ih =>
      obtain ⟨hfirst, hrest⟩ := List.pairwise_cons.mp hascending
      rw [under?_cons]
      rcases List.mem_cons.mp hentry with rfl | hentry
      · rw [if_pos rfl]
      · rw [if_neg (Std.ne_of_lt (hfirst entry hentry))]
        exact ih hrest hentry

theorem under?_filterMap {change : ε → Option ε}
    (hchange : ∀ entry, ∀ result ∈ change entry, key result = key entry)
    {entries : List ε} (hentries : Ascending key entries) (wanted : κ) :
    under? key wanted (entries.filterMap change) =
      (under? key wanted entries).bind change := by
  induction entries generalizing wanted with
  | nil => rfl
  | cons first rest ih =>
      obtain ⟨hfirst, hrest⟩ := List.pairwise_cons.mp hentries
      have hnone : under? key (key first) (rest.filterMap change) = none := by
        rw [ih hrest, under?_of_lt hfirst, Option.bind_none]
      have happend : (first :: rest).filterMap change =
          (change first).toList ++ rest.filterMap change := by
        rw [List.filterMap_cons]
        cases change first <;> rfl
      rw [happend, under?_toList_append (hchange first) hnone, ih hrest,
        under?_cons]
      simp only [eq_comm (a := wanted)]
      split <;> rfl

/-! ## Combinations -/

/-- An entry of a combination comes from one list, or is made of two entries. -/
theorem Combines.of_mem {entries others result : List ε}
    (hresult : Combines key how both entries others result) {entry : ε}
    (hentry : entry ∈ result) :
    entry ∈ entries ∨ entry ∈ others ∨ ∃ first ∈ entries, ∃ second ∈ others,
      key first = key entry ∧ both first second = some entry := by
  have hmade := (under?_eq_some_iff hresult.ascending).mpr ⟨hentry, rfl⟩
  rw [hresult.under?_eq] at hmade
  cases hfirst : under? key (key entry) entries with
  | none =>
      cases hsecond : under? key (key entry) others with
      | none =>
          rw [hfirst, hsecond] at hmade
          cases hmade
      | some second =>
          rw [hfirst, hsecond] at hmade
          obtain ⟨-, heq⟩ := Option.ite_none_right_eq_some.mp hmade
          exact .inr (.inl (Option.some.inj heq ▸ (under?_eq_some hsecond).1))
  | some first =>
      obtain ⟨hmem, hkey⟩ := under?_eq_some hfirst
      cases hsecond : under? key (key entry) others with
      | none =>
          rw [hfirst, hsecond] at hmade
          obtain ⟨-, heq⟩ := Option.ite_none_right_eq_some.mp hmade
          exact .inl (Option.some.inj heq ▸ hmem)
      | some second =>
          rw [hfirst, hsecond] at hmade
          exact .inr (.inr
            ⟨first, hmem, second, (under?_eq_some hsecond).1, hkey, hmade⟩)

/-- The entries of a combination have keys of the two lists. -/
theorem Combines.lt {entries others result : List ε}
    (hresult : Combines key how both entries others result)
    {least : κ} (hentries : ∀ entry ∈ entries, least < key entry)
    (hothers : ∀ other ∈ others, least < key other) :
    ∀ entry ∈ result, least < key entry := by
  intro entry hentry
  rcases hresult.of_mem hentry with hmem | hmem | ⟨first, hmem, -, -, hkey, -⟩
  · exact hentries entry hmem
  · exact hothers entry hmem
  · exact hkey ▸ hentries first hmem

/-- What is made for the least key comes before all else. -/
theorem Combines.cons {entries others result first second : List ε} {own : κ}
    (hresult : Combines key how both entries others result)
    (hkeeps : KeepsKeys key both)
    (hentries : ∀ entry ∈ entries, own < key entry)
    (hothers : ∀ other ∈ others, own < key other)
    (hfirst : ∀ wanted, wanted ≠ own →
      under? key wanted first = under? key wanted entries)
    (hsecond : ∀ wanted, wanted ≠ own →
      under? key wanted second = under? key wanted others) :
    Combines key how both first second
      ((made how both (under? key own first) (under? key own second)).toList ++
        result) := by
  have hless := hresult.lt hentries hothers
  have hown : ∀ entry ∈ made how both (under? key own first)
      (under? key own second), key entry = own :=
    made_key hkeeps (fun entry hentry => (under?_eq_some hentry).2)
      fun entry hentry => (under?_eq_some hentry).2
  constructor
  · refine List.pairwise_append.mpr ⟨?_, hresult.ascending, ?_⟩
    · cases made how both (under? key own first) (under? key own second) <;>
        simp
    · intro entry hentry other hother
      rw [hown entry (Option.mem_toList.mp hentry)]
      exact hless other hother
  · intro wanted
    rw [under?_toList_append hown (under?_of_lt hless)]
    split
    · rename_i hwanted
      rw [hwanted]
    · rename_i hwanted
      rw [hfirst wanted hwanted, hsecond wanted hwanted, hresult.under?_eq]

/-- Where the second list alone gives nothing, its entries are looked up. -/
theorem combines_retain (hsecond : how.keepsSecond = false)
    (hkeeps : KeepsKeys key both) {entries : List ε}
    (hentries : Ascending key entries) (others : List ε) :
    Combines key how both entries others
      (retain key how both entries others) := by
  have hchange : ∀ entry, ∀ result ∈ made how both (some entry)
      (under? key (key entry) others), key result = key entry := fun entry =>
    made_key hkeeps (by simp) fun other hother => (under?_eq_some hother).2
  refine ⟨ascending_filterMap hchange hentries, fun wanted => ?_⟩
  rw [retain, under?_filterMap hchange hentries]
  cases hentry : under? key wanted entries with
  | none =>
      rw [Option.bind_none]
      cases under? key wanted others with
      | none => rfl
      | some other => rw [made, hsecond, if_neg Bool.false_ne_true]
  | some entry => rw [Option.bind_some, (under?_eq_some hentry).2]

variable [Std.IsLinearOrder κ]

/-- Ascending lists with the same entries are equal. -/
theorem Ascending.ext {entries others : List ε}
    (hentries : Ascending key entries) (hothers : Ascending key others)
    (hsame : ∀ wanted, under? key wanted entries = under? key wanted others) :
    entries = others := by
  have hirrefl : Std.Irrefl fun entry other : ε => key entry < key other :=
    ⟨fun _ => Std.lt_irrefl⟩
  have hantisymm : Std.Antisymm fun entry other : ε => key entry < key other :=
    ⟨fun _ _ hless hmore => absurd (Std.lt_trans hless hmore) Std.lt_irrefl⟩
  refine List.Pairwise.eq_of_mem_iff hentries hothers fun entry => ?_
  rw [← and_iff_left (a := entry ∈ entries) (rfl : key entry = key entry),
    ← under?_eq_some_iff hentries, hsame (key entry),
    under?_eq_some_iff hothers, and_iff_left rfl]

/-- Two lists have one combination. -/
theorem Combines.eq {entries others result same : List ε}
    (hresult : Combines key how both entries others result)
    (hsame : Combines key how both entries others same) : result = same :=
  hresult.ascending.ext hsame.ascending fun wanted =>
    (hresult.under?_eq wanted).trans (hsame.under?_eq wanted).symm

variable [DecidableLT κ]

/-- Walking along both lists in step combines them key by key. -/
theorem combines_inStep (how : Combination) (hkeeps : KeepsKeys key both)
    {entries others : List ε} (hentries : Ascending key entries)
    (hothers : Ascending key others) :
    Combines key how both entries others
      (inStep key how both entries others) := by
  induction entries, others using inStep.induct key with
  | case1 others =>
      have hchange : ∀ other, ∀ result ∈ made how both none (some other),
          key result = key other := fun other =>
        made_key hkeeps (by simp) (by simp)
      rw [inStep]
      refine ⟨ascending_filterMap hchange hothers, fun wanted => ?_⟩
      rw [under?_filterMap hchange hothers]
      cases under? key wanted others <;> rfl
  | case2 entries hsome =>
      have hchange : ∀ entry, ∀ result ∈ made how both (some entry) none,
          key result = key entry := fun entry =>
        made_key hkeeps (by simp) (by simp)
      rw [inStep]
      · refine ⟨ascending_filterMap hchange hentries, fun wanted => ?_⟩
        rw [under?_filterMap hchange hentries]
        cases under? key wanted entries <;> rfl
      · exact hsome
  | case3 entry entries other others hless ih =>
      obtain ⟨hentry, hrest⟩ := List.pairwise_cons.mp hentries
      obtain ⟨hother, -⟩ := List.pairwise_cons.mp hothers
      have hmore : ∀ later ∈ other :: others, key entry < key later :=
        List.forall_mem_cons.mpr
          ⟨hless, fun later hlater => Std.lt_trans hless (hother later hlater)⟩
      have hcons := (ih hrest hothers).cons hkeeps hentry hmore
        (fun wanted hwanted => under?_cons_of_ne hwanted entries)
        fun _ _ => rfl
      rw [under?_cons_self, under?_of_lt hmore] at hcons
      rwa [inStep, if_pos hless]
  | case4 entry entries other others hless hmore ih =>
      obtain ⟨hentry, -⟩ := List.pairwise_cons.mp hentries
      obtain ⟨hother, hrest⟩ := List.pairwise_cons.mp hothers
      have hgreater : ∀ later ∈ entry :: entries, key other < key later :=
        List.forall_mem_cons.mpr
          ⟨hmore, fun later hlater => Std.lt_trans hmore (hentry later hlater)⟩
      have hcons := (ih hentries hrest).cons hkeeps hgreater hother
        (fun _ _ => rfl)
        fun wanted hwanted => under?_cons_of_ne hwanted others
      rw [under?_cons_self, under?_of_lt hgreater] at hcons
      rwa [inStep, if_neg hless, if_pos hmore]
  | case5 entry entries other others hless hmore ih =>
      obtain ⟨hentry, hrest⟩ := List.pairwise_cons.mp hentries
      obtain ⟨hother, hlater⟩ := List.pairwise_cons.mp hothers
      have hkey : key other = key entry :=
        Std.le_antisymm (Std.not_lt.mp hless) (Std.not_lt.mp hmore)
      have hcons := (ih hrest hlater).cons hkeeps hentry
        (fun later hmem => hkey ▸ hother later hmem)
        (fun wanted hwanted => under?_cons_of_ne hwanted entries)
        fun wanted hwanted => under?_cons_of_ne (hkey ▸ hwanted) others
      rw [under?_cons_self, ← hkey, under?_cons_self] at hcons
      rwa [inStep, if_neg hless, if_neg hmore]

/-! ## In place -/

theorem under?_put (entry : ε) (entries : List ε) (wanted : κ) :
    under? key wanted (put key entry entries) =
      if key entry = wanted then some entry else under? key wanted entries := by
  induction entries with
  | nil => rw [put, under?_cons]
  | cons first rest ih =>
      rw [put]
      split
      · rw [under?_cons]
      · rename_i hless
        split
        · rename_i hmore
          rw [under?_cons, ih, under?_cons]
          by_cases hfirst : key first = wanted
          · subst hfirst
            rw [if_pos rfl, if_pos rfl, if_neg (Std.ne_of_lt hmore).symm]
          · rw [if_neg hfirst, if_neg hfirst]
        · rename_i hmore
          have hkey : key first = key entry :=
            Std.le_antisymm (Std.not_lt.mp hless) (Std.not_lt.mp hmore)
          rw [under?_cons, under?_cons, hkey]
          split <;> rfl

/-- Where something is made of any two entries with one key, putting in all
entries of the second list gives the combination. -/
theorem combines_absorb (hkeeps : KeepsKeys key both) {entries others : List ε}
    (hentries : Ascending key entries) (hothers : Ascending key others)
    (hboth : ∀ entry ∈ entries, ∀ other ∈ others, key entry = key other →
      both entry other ≠ none) :
    Combines key .union both entries others
      (absorb key .union both entries others) := by
  induction others generalizing entries with
  | nil =>
      refine ⟨hentries, fun wanted => ?_⟩
      rw [absorb, List.foldl_nil]
      cases under? key wanted entries <;> rfl
  | cons other rest ih =>
      obtain ⟨hother, hrest⟩ := List.pairwise_cons.mp hothers
      obtain ⟨result, hresult⟩ : ∃ result, made .union both
          (under? key (key other) entries) (some other) = some result := by
        cases hentry : under? key (key other) entries with
        | none => exact ⟨other, rfl⟩
        | some entry =>
            obtain ⟨hmem, hkey⟩ := under?_eq_some hentry
            exact Option.ne_none_iff_exists'.mp
              (hboth entry hmem other (by simp) hkey)
      have hkey : key result = key other :=
        made_key hkeeps (fun entry hentry => (under?_eq_some hentry).2)
          (by simp) result hresult
      have hstep : absorb key .union both entries (other :: rest) =
          absorb key .union both (put key result entries) rest := by
        rw [absorb, List.foldl_cons, hresult]
        rfl
      have hlater : Combines key .union both (put key result entries) rest
          (absorb key .union both (put key result entries) rest) := by
        refine ih (ascending_put hentries) hrest ?_
        intro entry hentry later hmem hsame
        rcases mem_put hentry with rfl | hentry
        · rw [hkey] at hsame
          exact absurd hsame (Std.ne_of_lt (hother later hmem))
        · exact hboth entry hentry later (List.mem_cons_of_mem _ hmem) hsame
      refine ⟨hstep ▸ hlater.ascending, fun wanted => ?_⟩
      rw [hstep, hlater.under?_eq, under?_put, hkey]
      by_cases hwanted : wanted = key other
      · subst hwanted
        rw [if_pos rfl, under?_of_lt hother, under?_cons_self, hresult]
        rfl
      · rw [if_neg (Ne.symm hwanted), under?_cons_of_ne hwanted]

/-- So does changing the first list in place. -/
theorem combines_inPlace (how : Combination) (hkeeps : KeepsKeys key both)
    {entries others : List ε} (hentries : Ascending key entries)
    (hothers : Ascending key others)
    (hboth : how = .union → ∀ entry ∈ entries, ∀ other ∈ others,
      key entry = key other → both entry other ≠ none) :
    Combines key how both entries others
      (inPlace key how both entries others) := by
  cases how with
  | inter => exact combines_retain rfl hkeeps hentries others
  | union => exact combines_absorb hkeeps hentries hothers (hboth rfl)
  | diff => exact combines_retain rfl hkeeps hentries others

end SeriesIndex.Walk
