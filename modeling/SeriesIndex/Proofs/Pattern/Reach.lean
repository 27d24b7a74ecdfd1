import SeriesIndex.Pattern.Run

/-!
# What a run decides

`Regex.matches?` reads a text once; `Regex.Spans` says between which places a
match goes.  The main statement is `Regex.matches?_iff`: a run finds a match
exactly where there is one.

In between stands `Regex.Reaches`: the places at which what waits in a state can
end.  `Regex.completes_iff` tells from it whether the character read completes a
match, and `Regex.reaches_shift_iff` says what a shift does to it; both have one
lemma for each form of an expression.  The rest follows along the text.
-/

namespace SeriesIndex.Pattern

open Unicode

/-! ## Repetitions -/

/-- Whether a repetition can end at `j` that has `done` copies complete at
`i`. -/
def Goes (step : Nat → Nat → Prop) (least most done i j : Nat) : Prop :=
  ∃ count, least ≤ done + count ∧ done + count ≤ most ∧ Steps step count i j

/-- Whether a repetition can end at `j` if one more copy ends at one of the
places in `ends`. -/
def GoesVia (step : Nat → Nat → Prop) (least most : Nat) (ends : Nat → Prop)
    (done j : Nat) : Prop :=
  ∃ k, ends k ∧ Goes step least most (done + 1) k j

namespace Steps

variable {step : Nat → Nat → Prop}

theorem append {m n i j k : Nat} (hfirst : Steps step m i j)
    (hrest : Steps step n j k) : Steps step (m + n) i k := by
  induction m generalizing i with
  | zero =>
      cases hfirst
      simpa using hrest
  | succ m ih =>
      obtain ⟨l, hstep, hsteps⟩ := hfirst
      rw [Nat.succ_add]
      exact ⟨l, hstep, ih hsteps⟩

theorem stay {i : Nat} (hstep : step i i) (n : Nat) : Steps step n i i := by
  induction n with
  | zero => rfl
  | succ n ih => exact ⟨i, hstep, ih⟩

theorem le {n i j : Nat} (hordered : ∀ {i j}, step i j → i ≤ j)
    (hsteps : Steps step n i j) : i ≤ j := by
  induction n generalizing i with
  | zero => exact Nat.le_of_eq hsteps
  | succ n ih =>
      obtain ⟨k, hstep, hrest⟩ := hsteps
      exact Nat.le_trans (hordered hstep) (ih hrest)

/-- Steps that get anywhere stay where they are for a while and then go on. -/
theorem moves {n i j : Nat} (hordered : ∀ {i j}, step i j → i ≤ j)
    (hsteps : Steps step n i j) (hmoved : i < j) :
    ∃ idle rest k, n = idle + 1 + rest ∧ (idle ≠ 0 → step i i) ∧ i < k ∧
      step i k ∧ Steps step rest k j := by
  induction n with
  | zero =>
      cases hsteps
      omega
  | succ n ih =>
      obtain ⟨k, hstep, hrest⟩ := hsteps
      rcases Nat.lt_or_ge i k with hk | hk
      · exact ⟨0, n, k, by omega, by simp, hk, hstep, hrest⟩
      · have hsame : k = i := Nat.le_antisymm hk (hordered hstep)
        subst hsame
        obtain ⟨idle, count, k', hn, -, hk', hsecond, hothers⟩ := ih hrest
        exact ⟨idle + 1, count, k', by omega, fun _ => hstep, hk', hsecond,
          hothers⟩

end Steps

theorem mem_begun {most c : Nat} {skips : Bool} {counts : List Nat} :
    c ∈ begun most skips counts ↔
      c < most ∧
        if skips = true then ∃ low ∈ counts, low ≤ c else c ∈ counts := by
  unfold begun
  split
  · split
    · rename_i low hlow
      obtain ⟨hmem, hleast⟩ := List.min?_eq_some_iff.1 hlow
      simp only [List.mem_range'_1]
      constructor
      · rintro ⟨hle, hlt⟩
        exact ⟨by omega, low, hmem, hle⟩
      · rintro ⟨hlt, other, hother, hle⟩
        have hlow := hleast other hother
        omega
    · rename_i hnone
      rw [List.min?_eq_none_iff] at hnone
      simp [hnone]
  · simp [and_comm]

section Goes

variable {step : Nat → Nat → Prop} (hordered : ∀ {i j}, step i j → i ≤ j)
variable {least most : Nat}

include hordered

theorem Goes.le {count i j : Nat} (hgoes : Goes step least most count i j) :
    i ≤ j := by
  obtain ⟨more, -, -, hsteps⟩ := hgoes
  exact hsteps.le hordered

/-- A repetition can end where it is. -/
theorem goes_self_iff {count p : Nat} :
    Goes step least most count p p ↔
      count ≤ most ∧ (least ≤ count ∨ (least ≤ most ∧ step p p)) := by
  constructor
  · rintro ⟨more, henough, hfew, hsteps⟩
    refine ⟨by omega, ?_⟩
    cases more with
    | zero => exact .inl henough
    | succ more =>
        obtain ⟨k, hstep, hrest⟩ := hsteps
        have hsame : k = p :=
          Nat.le_antisymm (hrest.le hordered) (hordered hstep)
        exact .inr ⟨by omega, hsame ▸ hstep⟩
  · rintro ⟨hfew, henough | ⟨hbounds, hstay⟩⟩
    · exact ⟨0, henough, hfew, rfl⟩
    · exact ⟨least - count, by omega, by omega, Steps.stay hstay _⟩

/-- The numbers that are `begun` stand for all ways to go on. -/
theorem goes_iff_begun {p j : Nat} (hmoved : p < j) {skips : Bool}
    {counts : List Nat} (hstays : counts ≠ [] → (skips = true ↔ step p p)) :
    (∃ c ∈ counts, Goes step least most c p j) ↔
      ∃ c ∈ begun most skips counts,
        GoesVia step least most (fun m => p < m ∧ step p m) c j := by
  constructor
  · rintro ⟨c, hmem, count, henough, hfew, hsteps⟩
    obtain ⟨idle, rest, m, hcount, hidle, hm, hstep, hrest⟩ :=
      hsteps.moves hordered hmoved
    refine ⟨c + idle, mem_begun.2 ⟨by omega, ?_⟩, m, ⟨hm, hstep⟩, rest,
      by omega, by omega, hrest⟩
    split
    · exact ⟨c, hmem, by omega⟩
    · rename_i hskips
      rcases Nat.eq_zero_or_pos idle with hnone | hsome
      · simpa [hnone] using hmem
      · have hstay := hidle (by omega)
        exact absurd ((hstays (List.ne_nil_of_mem hmem)).2 hstay) hskips
  · rintro ⟨c, hmem, m, ⟨-, hstep⟩, count, henough, hfew, hsteps⟩
    obtain ⟨hlt, hmem⟩ := mem_begun.1 hmem
    split at hmem
    · rename_i hskips
      obtain ⟨low, hmem, hle⟩ := hmem
      have hstay := (hstays (List.ne_nil_of_mem hmem)).1 hskips
      refine ⟨low, hmem, (c - low) + (count + 1), by omega, by omega, ?_⟩
      exact (Steps.stay hstay _).append ⟨m, hstep, hsteps⟩
    · exact ⟨c, hmem, count + 1, by omega, by omega, m, hstep, hsteps⟩

end Goes

/-! ## States -/

/-- What `shiftCopies` makes of the copies, said through any property of copies
that `shift` keeps for what waits and gains for what is entered. -/
theorem exists_shiftCopies {shift : State → Bool → State}
    (after before : Nat → State → Prop) {entered : Nat → Prop}
    (hshift : ∀ number s enters, after number (shift s enters) ↔
      before number s ∨ (enters = true ∧ entered number))
    (hidle : ∀ number, ¬ before number .idle) (numbers : List Nat)
    (live : List (Nat × State)) :
    (∃ copy ∈ shiftCopies shift numbers live, after copy.1 copy.2) ↔
      (∃ copy ∈ live, before copy.1 copy.2) ∨
        ∃ number ∈ numbers, entered number := by
  induction numbers generalizing live with
  | nil =>
      simp only [shiftCopies, List.mem_map]
      constructor
      · rintro ⟨_, ⟨copy, hmem, rfl⟩, hafter⟩
        exact .inl ⟨copy, hmem, by simpa [hshift] using hafter⟩
      · rintro (⟨copy, hmem, hbefore⟩ | ⟨_, hmem, -⟩)
        · exact ⟨_, ⟨copy, hmem, rfl⟩, by simpa [hshift] using hbefore⟩
        · cases hmem
  | cons number numbers ih =>
      rw [shiftCopies]
      induction live with
      | nil =>
          simp [shiftCopies.insert, or_and_right, exists_or, ih, hshift, hidle]
      | cons copy live ihLive =>
          obtain ⟨other, s⟩ := copy
          rw [shiftCopies.insert]
          split
          · simp [or_and_right, exists_or, ih, hshift, hidle]
            grind
          · split
            · rename_i hsame
              subst hsame
              simp [or_and_right, exists_or, ih, hshift]
              grind
            · simp [or_and_right, exists_or, ihLive, hshift]
              grind

namespace State

@[simp]
theorem both_first (s t : State) : (both s t).first = s := by
  unfold both
  split <;> rfl

@[simp]
theorem both_second (s t : State) : (both s t).second = t := by
  unfold both
  split <;> rfl

theorem live_ofLive (copies : List (Nat × State)) :
    (ofLive copies).live = copies.filter fun (_, s) => !s.isIdle := by
  unfold ofLive
  split
  · rename_i hnone
    exact hnone.symm
  · rfl

theorem eq_idle_of_isIdle {s : State} (hidle : s.isIdle = true) :
    s = .idle := by
  cases s <;> simp_all [isIdle]

/-- Idle copies that are left out are not missed where nothing is asked of
them. -/
theorem exists_live_ofLive {copies : List (Nat × State)}
    (holds : Nat → State → Prop) (hidle : ∀ number, ¬ holds number .idle) :
    (∃ copy ∈ (ofLive copies).live, holds copy.1 copy.2) ↔
      ∃ copy ∈ copies, holds copy.1 copy.2 := by
  simp only [live_ofLive, List.mem_filter]
  constructor
  · rintro ⟨copy, ⟨hmem, -⟩, hholds⟩
    exact ⟨copy, hmem, hholds⟩
  · rintro ⟨copy, hmem, hholds⟩
    refine ⟨copy, ⟨hmem, ?_⟩, hholds⟩
    cases hwaits : copy.2.isIdle with
    | false => rfl
    | true =>
        rw [eq_idle_of_isIdle hwaits] at hholds
        exact absurd hholds (hidle _)

end State

namespace Regex

/-! ## Spans -/

attribute [local simp] isEmptyAt Spans

theorem Spans.le {text : Array Char} {r : Regex} {i j : Nat}
    (hspans : r.Spans text i j) : i ≤ j := by
  induction r generalizing i j with
  | empty => exact Nat.le_of_eq hspans
  | set chars => exact hspans.1 ▸ Nat.le_succ i
  | look l => exact Nat.le_of_eq hspans.1
  | cat a b iha ihb =>
      obtain ⟨k, ha, hb⟩ := hspans
      exact Nat.le_trans (iha ha) (ihb hb)
  | alt a b iha ihb => exact hspans.elim iha ihb
  | plus body ih =>
      obtain ⟨count, hsteps⟩ := hspans
      exact hsteps.le ih
  | times least most body ih =>
      obtain ⟨count, -, -, hsteps⟩ := hspans
      exact hsteps.le ih

theorem isEmptyAt_iff (text : Array Char) (place : Nat) (r : Regex) :
    r.isEmptyAt text place = true ↔ r.Spans text place place := by
  induction r with
  | empty => simp
  | set chars => simp
  | look l => simp
  | cat a b iha ihb =>
      simp only [isEmptyAt, Spans, Bool.and_eq_true, iha, ihb]
      constructor
      · rintro ⟨ha, hb⟩
        exact ⟨place, ha, hb⟩
      · rintro ⟨k, ha, hb⟩
        have hsame : k = place := Nat.le_antisymm hb.le ha.le
        subst hsame
        exact ⟨ha, hb⟩
  | alt a b iha ihb => simp [iha, ihb]
  | plus body ih =>
      simp only [isEmptyAt, Spans, ih]
      constructor
      · intro hspans
        exact ⟨0, Steps.stay hspans 1⟩
      · rintro ⟨count, k, hfirst, hrest⟩
        have hsame : k = place := Nat.le_antisymm (hrest.le Spans.le) hfirst.le
        exact hsame ▸ hfirst
  | times least most body ih =>
      have hspans : (times least most body).Spans text place place ↔
          Goes (body.Spans text) least most 0 place place := by
        simp [Goes]
      rw [hspans, goes_self_iff Spans.le, isEmptyAt, Bool.and_eq_true,
        Bool.or_eq_true, ih, decide_eq_true_eq, beq_iff_eq]
      grind

/-! ## What waits -/

/-- The places at which a match can end that goes through what waits in a state,
where the character read is in the sets that `hit` names and ends at `place`. -/
def Reaches (text : Array Char) (hit : Table → Prop) (place : Nat) :
    Regex → State → Nat → Prop
  | empty, _, _ | look _, _, _ => False
  | set chars, s, j => s.isIdle = false ∧ hit chars ∧ j = place
  | cat a b, s, j =>
    (∃ k, a.Reaches text hit place s.first k ∧ b.Spans text k j)
      ∨ b.Reaches text hit place s.second j
  | alt a b, s, j =>
    a.Reaches text hit place s.first j ∨ b.Reaches text hit place s.second j
  | plus body, s, j =>
    ∃ k, body.Reaches text hit place s k
      ∧ ∃ count, Steps (body.Spans text) count k j
  | times least most body, s, j =>
    ∃ copy ∈ s.live, ∃ k, body.Reaches text hit place copy.2 k
      ∧ Goes (body.Spans text) least most (copy.1 + 1) k j

attribute [local simp] Reaches

variable {text : Array Char} {hit : Table → Prop} {place : Nat}

theorem Reaches.le {r : Regex} {s : State} {j : Nat}
    (hreaches : r.Reaches text hit place s j) : place ≤ j := by
  induction r generalizing s j with
  | empty => cases hreaches
  | look l => cases hreaches
  | set chars => exact Nat.le_of_eq hreaches.2.2.symm
  | cat a b iha ihb =>
      rcases hreaches with ⟨k, ha, hb⟩ | hb
      · exact Nat.le_trans (iha ha) hb.le
      · exact ihb hb
  | alt a b iha ihb => exact hreaches.elim iha ihb
  | plus body ih =>
      obtain ⟨k, hbody, count, hsteps⟩ := hreaches
      exact Nat.le_trans (ih hbody) (hsteps.le Spans.le)
  | times least most body ih =>
      obtain ⟨copy, -, k, hbody, hgoes⟩ := hreaches
      exact Nat.le_trans (ih hbody) (hgoes.le Spans.le)

/-- An idle state reaches nothing. -/
theorem not_reaches_idle (r : Regex) (j : Nat) :
    ¬ r.Reaches text hit place .idle j := by
  induction r generalizing j with
  | empty => simp
  | look l => simp
  | set chars => simp [State.isIdle]
  | cat a b iha ihb => simp [State.first, State.second, iha, ihb]
  | alt a b iha ihb => simp [State.first, State.second, iha, ihb]
  | plus body ih => simp [ih]
  | times least most body ih => simp [State.live]

/-- What waits for a character has one to read. -/
theorem Reaches.exists_hit {r : Regex} {s : State} {j : Nat}
    (hreaches : r.Reaches text hit place s j) : ∃ chars, hit chars := by
  induction r generalizing s j with
  | empty => cases hreaches
  | look l => cases hreaches
  | set chars => exact ⟨chars, hreaches.2.1⟩
  | cat a b iha ihb =>
      rcases hreaches with ⟨k, ha, -⟩ | hb
      · exact iha ha
      · exact ihb hb
  | alt a b iha ihb => exact hreaches.elim iha ihb
  | plus body ih =>
      obtain ⟨k, hbody, -⟩ := hreaches
      exact ih hbody
  | times least most body ih =>
      obtain ⟨copy, -, k, hbody, -⟩ := hreaches
      exact ih hbody

/-! ## Completion -/

attribute [local simp] completes

variable {hits : Table → Bool}

@[simp]
theorem completes_idle (r : Regex) :
    r.completes text hits place .idle = false := by
  cases r <;> rfl

theorem completes_cat (a b : Regex) (s : State) :
    (cat a b).completes text hits place s =
      (b.completes text hits place s.second
        || (a.completes text hits place s.first
          && b.isEmptyAt text place)) := by
  cases s <;> simp [State.first, State.second]

theorem completes_alt (a b : Regex) (s : State) :
    (alt a b).completes text hits place s =
      (a.completes text hits place s.first
        || b.completes text hits place s.second) := by
  cases s <;> simp [State.first, State.second]

theorem completes_plus (body : Regex) (s : State) :
    (plus body).completes text hits place s =
      body.completes text hits place s := by
  cases s <;> simp

/-- Repetitions are complete once enough copies are, or none is needed. -/
theorem completes_times (least most : Nat) (body : Regex) (s : State) :
    (times least most body).completes text hits place s =
      ((counts most (body.completes text hits place) s.live).any (least ≤ ·)
        || (!(counts most (body.completes text hits place) s.live).isEmpty
          && least ≤ most && body.isEmptyAt text place)) := by
  cases s <;> simp [counts, State.live]

/-- A copy that is complete counts one more. -/
theorem mem_counts {most count : Nat} {complete : State → Bool}
    {live : List (Nat × State)} :
    count ∈ counts most complete live ↔
      ∃ copy ∈ live,
        copy.1 < most ∧ complete copy.2 = true ∧ count = copy.1 + 1 := by
  simp only [counts, List.mem_filterMap]
  constructor
  · rintro ⟨copy, hmem, hcount⟩
    split at hcount
    · rename_i hboth
      simp only [Bool.and_eq_true, decide_eq_true_eq] at hboth
      exact ⟨copy, hmem, hboth.1, hboth.2, by simpa using hcount.symm⟩
    · cases hcount
  · rintro ⟨copy, hmem, hlt, hcomplete, rfl⟩
    exact ⟨copy, hmem, by simp [hlt, hcomplete]⟩

/-- Some copies are complete, and a repetition can end there or goes on from
there. -/
theorem exists_goes_iff_counts {step : Nat → Nat → Prop}
    {complete : State → Bool} {least most p j : Nat}
    {live : List (Nat × State)} :
    (∃ count ∈ counts most complete live, Goes step least most count p j) ↔
      ∃ copy ∈ live,
        complete copy.2 = true ∧ Goes step least most (copy.1 + 1) p j := by
  simp only [mem_counts]
  constructor
  · rintro ⟨_, ⟨copy, hmem, -, hcomplete, rfl⟩, hgoes⟩
    exact ⟨copy, hmem, hcomplete, hgoes⟩
  · rintro ⟨copy, hmem, hcomplete, hgoes⟩
    obtain ⟨count, henough, hfew, hsteps⟩ := hgoes
    exact ⟨_, ⟨copy, hmem, by omega, hcomplete, rfl⟩, count, henough, hfew,
      hsteps⟩

/-- A repetition is complete if it can end where some of its copies are. -/
theorem completes_times_iff (least most : Nat) (body : Regex) (s : State) :
    (times least most body).completes text hits place s = true ↔
      ∃ copy ∈ s.live, body.completes text hits place copy.2 = true ∧
        Goes (body.Spans text) least most (copy.1 + 1) place place := by
  have hbound : ∀ count ∈ counts most (body.completes text hits place) s.live,
      count ≤ most := by
    intro count hmem
    obtain ⟨copy, -, hlt, -, rfl⟩ := mem_counts.1 hmem
    exact hlt
  rw [← exists_goes_iff_counts, completes_times]
  simp only [Bool.or_eq_true, Bool.and_eq_true, List.any_eq_true,
    decide_eq_true_eq, Bool.not_eq_true', List.isEmpty_eq_false_iff_exists_mem,
    isEmptyAt_iff, goes_self_iff Spans.le]
  constructor
  · rintro (⟨count, hmem, henough⟩ | ⟨⟨⟨count, hmem⟩, hbounds⟩, hstays⟩)
    · exact ⟨count, hmem, hbound count hmem, .inl henough⟩
    · exact ⟨count, hmem, hbound count hmem, .inr ⟨hbounds, hstays⟩⟩
  · rintro ⟨count, hmem, -, henough | ⟨hbounds, hstays⟩⟩
    · exact .inl ⟨count, hmem, henough⟩
    · exact .inr ⟨⟨⟨count, hmem⟩, hbounds⟩, hstays⟩

/-- A match is complete where what waits can end with the character read. -/
theorem completes_iff (r : Regex) (s : State) :
    r.completes text hits place s = true ↔
      r.Reaches text (fun chars => hits chars = true) place s place := by
  induction r generalizing s with
  | empty => cases s <;> simp
  | look l => cases s <;> simp
  | set chars => cases s <;> simp [State.isIdle]
  | cat a b iha ihb =>
      rw [completes_cat, Bool.or_eq_true, Bool.and_eq_true, iha, ihb,
        isEmptyAt_iff, Reaches]
      constructor
      · rintro (hb | ⟨ha, hb⟩)
        · exact .inr hb
        · exact .inl ⟨place, ha, hb⟩
      · rintro (⟨k, ha, hb⟩ | hb)
        · have hsame : k = place := Nat.le_antisymm hb.le ha.le
          subst hsame
          exact .inr ⟨ha, hb⟩
        · exact .inl hb
  | alt a b iha ihb =>
      rw [completes_alt, Bool.or_eq_true, iha, ihb]
      rfl
  | plus body ih =>
      rw [completes_plus, ih, Reaches]
      constructor
      · intro hbody
        exact ⟨place, hbody, 0, rfl⟩
      · rintro ⟨k, hbody, count, hsteps⟩
        have hsame : k = place :=
          Nat.le_antisymm (hsteps.le Spans.le) hbody.le
        exact hsame ▸ hbody
  | times least most body ih =>
      rw [completes_times_iff, Reaches]
      constructor
      · rintro ⟨copy, hmem, hcomplete, hgoes⟩
        exact ⟨copy, hmem, place, (ih _).1 hcomplete, hgoes⟩
      · rintro ⟨copy, hmem, k, hreaches, hgoes⟩
        have hsame : k = place :=
          Nat.le_antisymm (hgoes.le Spans.le) hreaches.le
        subst hsame
        exact ⟨copy, hmem, (ih _).2 hreaches, hgoes⟩

/-! ## Shifts -/

attribute [local simp] shift

@[simp]
theorem shift_idle (r : Regex) :
    r.shift text hits place .idle false = .idle := by
  cases r <;> rfl

theorem shift_set (chars : Table) (s : State) (enters : Bool) :
    (set chars).shift text hits place s enters =
      if enters = true then .waiting else .idle := by
  cases s <;> cases enters <;> rfl

theorem shift_cat (a b : Regex) (s : State) (enters : Bool) :
    (cat a b).shift text hits place s enters =
      .both (a.shift text hits place s.first enters)
        (b.shift text hits place s.second
          (a.completes text hits place s.first
            || (enters && a.isEmptyAt text place))) := by
  cases s <;> cases enters <;> simp [State.first, State.second, State.both]

theorem shift_alt (a b : Regex) (s : State) (enters : Bool) :
    (alt a b).shift text hits place s enters =
      .both (a.shift text hits place s.first enters)
        (b.shift text hits place s.second enters) := by
  cases s <;> cases enters <;> simp [State.first, State.second, State.both]

theorem shift_plus (body : Regex) (s : State) (enters : Bool) :
    (plus body).shift text hits place s enters =
      body.shift text hits place s
        (enters || body.completes text hits place s) := by
  cases s <;> cases enters <;> simp

/-- The numbers of copies that are complete at a place. -/
def starts (text : Array Char) (hits : Table → Bool) (place most : Nat)
    (body : Regex) (s : State) (enters : Bool) : List Nat :=
  let found := counts most (body.completes text hits place) s.live
  if enters = true then 0 :: found else found

/-- The numbers of copies that begin at a place. -/
def begins (text : Array Char) (hits : Table → Bool) (place most : Nat)
    (body : Regex) (s : State) (enters : Bool) : List Nat :=
  let counts := starts text hits place most body s enters
  begun most (!counts.isEmpty && body.isEmptyAt text place) counts

/-- Every living copy is shifted, and so are those that begin. -/
theorem shift_times (least most : Nat) (body : Regex) (s : State)
    (enters : Bool) :
    (times least most body).shift text hits place s enters =
      .ofLive (shiftCopies (body.shift text hits place)
        (begins text hits place most body s enters) s.live) := by
  cases s <;> cases enters <;> rfl

/-- Copies are complete at a place if the repetition starts there, or if one of
the live copies ends there. -/
theorem exists_starts_iff {least most : Nat} {body : Regex} {s : State}
    {enters : Bool} {j : Nat} :
    (∃ count ∈ starts text hits place most body s enters,
        Goes (body.Spans text) least most count place j) ↔
      (enters = true ∧ (times least most body).Spans text place j) ∨
        ∃ copy ∈ s.live,
          body.Reaches text (fun chars => hits chars = true) place copy.2
              place ∧
            Goes (body.Spans text) least most (copy.1 + 1) place j := by
  simp only [← completes_iff]
  rw [← exists_goes_iff_counts]
  cases enters <;> simp [starts, Goes]

/-- The copies that begin at a place stand for all ways to go on from it. -/
theorem exists_begins_iff {least most : Nat} {body : Regex} {s : State}
    {enters : Bool} {j : Nat} (hmoved : place < j) :
    (∃ number ∈ begins text hits place most body s enters,
        GoesVia (body.Spans text) least most
          (fun k => place < k ∧ body.Spans text place k) number j) ↔
      (enters = true ∧ (times least most body).Spans text place j) ∨
        ∃ copy ∈ s.live,
          body.Reaches text (fun chars => hits chars = true) place copy.2
              place ∧
            Goes (body.Spans text) least most (copy.1 + 1) place j := by
  rw [← exists_starts_iff, goes_iff_begun Spans.le hmoved]
  · rfl
  · intro hsome
    simp [hsome, isEmptyAt_iff]

/-- A shift over a character keeps what can still go on, and adds what starts
behind it. -/
def Shifts (text : Array Char) (hits : Table → Bool) (next : Table → Prop)
    (place : Nat) (r : Regex) : Prop :=
  ∀ s enters j,
    r.Reaches text next (place + 1) (r.shift text hits place s enters) j ↔
      place < j ∧ (r.Reaches text (fun chars => hits chars = true) place s j
        ∨ (enters = true ∧ r.Spans text place j))

variable {next : Table → Prop}

theorem shifts_empty : Shifts text hits next place empty := by
  intro s enters j
  simp only [Reaches, Spans, false_or, false_iff]
  omega

theorem shifts_look (l : Look) : Shifts text hits next place (look l) := by
  intro s enters j
  simp only [Reaches, Spans, false_or, false_iff]
  rintro ⟨hmoved, -, hsame, -⟩
  omega

theorem shifts_set (hreads : ∀ chars, next chars ↔
      ∃ c, text[place]? = some c ∧ chars.contains c = true) (chars : Table) :
    Shifts text hits next place (set chars) := by
  intro s enters j
  rw [shift_set]
  simp only [Reaches, Spans, hreads]
  cases enters with
  | false =>
      simp only [State.isIdle, Bool.false_eq_true, if_false, false_and,
        or_false, false_iff, reduceCtorEq]
      omega
  | true =>
      simp only [State.isIdle, if_true, true_and]
      constructor
      · rintro ⟨hmem, rfl⟩
        exact ⟨by omega, .inr ⟨rfl, hmem⟩⟩
      · rintro ⟨hmoved, ⟨-, -, rfl⟩ | ⟨rfl, hmem⟩⟩
        · omega
        · exact ⟨hmem, rfl⟩

/-- The second part of a sequence goes on from where the first is complete. -/
theorem shifts_cat {a b : Regex} (ha : Shifts text hits next place a)
    (hb : Shifts text hits next place b) :
    Shifts text hits next place (cat a b) := by
  intro s enters j
  rw [shift_cat]
  simp only [Reaches, State.both_first, State.both_second, ha _ _ _, hb _ _ _,
    Bool.or_eq_true, Bool.and_eq_true, completes_iff, isEmptyAt_iff, Spans]
  constructor
  · rintro (⟨k, ⟨hmoved, hfirst⟩, hsecond⟩ | ⟨hmoved, hsecond⟩)
    · refine ⟨Nat.lt_of_lt_of_le hmoved hsecond.le, ?_⟩
      rcases hfirst with hfirst | ⟨henters, hfirst⟩
      · exact .inl (.inl ⟨k, hfirst, hsecond⟩)
      · exact .inr ⟨henters, k, hfirst, hsecond⟩
    · refine ⟨hmoved, ?_⟩
      rcases hsecond with hsecond | ⟨hfirst | ⟨henters, hfirst⟩, hsecond⟩
      · exact .inl (.inr hsecond)
      · exact .inl (.inl ⟨place, hfirst, hsecond⟩)
      · exact .inr ⟨henters, place, hfirst, hsecond⟩
  · rintro ⟨hmoved, (⟨k, hfirst, hsecond⟩ | hsecond) |
      ⟨henters, k, hfirst, hsecond⟩⟩
    · rcases Nat.eq_or_lt_of_le hfirst.le with hsame | hahead
      · subst hsame
        exact .inr ⟨hmoved, .inr ⟨.inl hfirst, hsecond⟩⟩
      · exact .inl ⟨k, ⟨hahead, .inl hfirst⟩, hsecond⟩
    · exact .inr ⟨hmoved, .inl hsecond⟩
    · rcases Nat.eq_or_lt_of_le hfirst.le with hsame | hahead
      · subst hsame
        exact .inr ⟨hmoved, .inr ⟨.inr ⟨henters, hfirst⟩, hsecond⟩⟩
      · exact .inl ⟨k, ⟨hahead, .inr ⟨henters, hfirst⟩⟩, hsecond⟩

/-- Alternatives go on side by side. -/
theorem shifts_alt {a b : Regex} (ha : Shifts text hits next place a)
    (hb : Shifts text hits next place b) :
    Shifts text hits next place (alt a b) := by
  intro s enters j
  rw [shift_alt]
  simp only [Reaches, State.both_first, State.both_second, ha _ _ _, hb _ _ _,
    Spans]
  grind

/-- A body that is complete begins again. -/
theorem shifts_plus {body : Regex} (hbody : Shifts text hits next place body) :
    Shifts text hits next place (plus body) := by
  intro s enters j
  rw [shift_plus]
  simp only [Reaches, hbody _ _ _, Bool.or_eq_true, completes_iff, Spans]
  constructor
  · rintro ⟨k, ⟨hahead, hreaches⟩, count, hsteps⟩
    refine ⟨Nat.lt_of_lt_of_le hahead (hsteps.le Spans.le), ?_⟩
    rcases hreaches with hreaches | ⟨henters | hreaches, hfirst⟩
    · exact .inl ⟨k, hreaches, count, hsteps⟩
    · exact .inr ⟨henters, count, k, hfirst, hsteps⟩
    · exact .inl ⟨place, hreaches, count + 1, k, hfirst, hsteps⟩
  · rintro ⟨hmoved, ⟨k, hreaches, count, hsteps⟩ | ⟨henters, count, hsteps⟩⟩
    · rcases Nat.eq_or_lt_of_le hreaches.le with hsame | hahead
      · subst hsame
        obtain ⟨-, rest, k, -, -, hahead, hfirst, hrest⟩ :=
          hsteps.moves Spans.le hmoved
        exact ⟨k, ⟨hahead, .inr ⟨.inr hreaches, hfirst⟩⟩, rest, hrest⟩
      · exact ⟨k, ⟨hahead, .inl hreaches⟩, count, hsteps⟩
    · obtain ⟨-, rest, k, -, -, hahead, hfirst, hrest⟩ :=
        hsteps.moves Spans.le hmoved
      exact ⟨k, ⟨hahead, .inr ⟨.inl henters, hfirst⟩⟩, rest, hrest⟩

/-- Whether a repetition can end at `j` that goes through what waits in the
state of a copy with `done` copies before it. -/
def Carries (text : Array Char) (hit : Table → Prop) (place least most : Nat)
    (body : Regex) (j done : Nat) (s : State) : Prop :=
  GoesVia (body.Spans text) least most (body.Reaches text hit place s) done j

/-- The same, if it leaves the place behind. -/
def CarriesOn (text : Array Char) (hit : Table → Prop) (place least most : Nat)
    (body : Regex) (j done : Nat) (s : State) : Prop :=
  GoesVia (body.Spans text) least most
    (fun k => place < k ∧ body.Reaches text hit place s k) done j

theorem not_carries_idle {least most j : Nat} {body : Regex} (done : Nat) :
    ¬ Carries text hit place least most body j done .idle := by
  rintro ⟨k, hreaches, -⟩
  exact not_reaches_idle _ _ hreaches

theorem not_carriesOn_idle {least most j : Nat} {body : Regex} (done : Nat) :
    ¬ CarriesOn text hit place least most body j done .idle := by
  rintro ⟨k, ⟨-, hreaches⟩, -⟩
  exact not_reaches_idle _ _ hreaches

/-- A copy that is shifted carries on from where it was, or from where it
entered. -/
theorem carries_shift_iff {body : Regex}
    (hbody : Shifts text hits next place body) {least most j : Nat}
    (done : Nat) (s : State) (enters : Bool) :
    Carries text next (place + 1) least most body j done
        (body.shift text hits place s enters) ↔
      CarriesOn text (fun chars => hits chars = true) place least most body j
          done s ∨
        (enters = true ∧ GoesVia (body.Spans text) least most
          (fun k => place < k ∧ body.Spans text place k) done j) := by
  simp only [Carries, CarriesOn, GoesVia, hbody _ _ _]
  grind

/-- What can be reached behind the character goes through a copy that was live
before it, or through one that begins there. -/
theorem reaches_shift_times_iff {body : Regex}
    (hbody : Shifts text hits next place body) {least most : Nat} {s : State}
    {enters : Bool} {j : Nat} :
    (times least most body).Reaches text next (place + 1)
        ((times least most body).shift text hits place s enters) j ↔
      (∃ copy ∈ s.live, CarriesOn text (fun chars => hits chars = true) place
        least most body j copy.1 copy.2) ∨
        ∃ number ∈ begins text hits place most body s enters,
          GoesVia (body.Spans text) least most
            (fun k => place < k ∧ body.Spans text place k) number j := by
  rw [← exists_shiftCopies _ _ (carries_shift_iff hbody) not_carriesOn_idle,
    shift_times]
  exact State.exists_live_ofLive
    (Carries text next (place + 1) least most body j) not_carries_idle

/-- Repetitions go on copy by copy. -/
theorem shifts_times (least most : Nat) {body : Regex}
    (hbody : Shifts text hits next place body) :
    Shifts text hits next place (times least most body) := by
  intro s enters j
  rw [reaches_shift_times_iff hbody]
  constructor
  · intro hreaches
    have hmoved : place < j := by
      rcases hreaches with ⟨copy, -, k, ⟨hahead, -⟩, hgoes⟩ |
        ⟨number, -, k, ⟨hahead, -⟩, hgoes⟩
      all_goals exact Nat.lt_of_lt_of_le hahead (hgoes.le Spans.le)
    refine ⟨hmoved, ?_⟩
    rw [exists_begins_iff hmoved] at hreaches
    rcases hreaches with ⟨copy, hmem, k, ⟨-, hcopy⟩, hgoes⟩ | henters |
      ⟨copy, hmem, hcopy, hgoes⟩
    · exact .inl ⟨copy, hmem, k, hcopy, hgoes⟩
    · exact .inr henters
    · exact .inl ⟨copy, hmem, place, hcopy, hgoes⟩
  · rintro ⟨hmoved, hreaches⟩
    rw [exists_begins_iff hmoved]
    rcases hreaches with ⟨copy, hmem, k, hcopy, hgoes⟩ | henters
    · rcases Nat.eq_or_lt_of_le hcopy.le with hsame | hahead
      · subst hsame
        exact .inr (.inr ⟨copy, hmem, hcopy, hgoes⟩)
      · exact .inl ⟨copy, hmem, k, ⟨hahead, hcopy⟩, hgoes⟩
    · exact .inr (.inl henters)

/-- Every shift keeps what can still go on, and adds what starts behind the
character: one case for each form of an expression. -/
theorem reaches_shift_iff
    (hreads : ∀ chars, next chars ↔
      ∃ c, text[place]? = some c ∧ chars.contains c = true)
    (r : Regex) : Shifts text hits next place r := by
  induction r with
  | empty => exact shifts_empty
  | set chars => exact shifts_set hreads chars
  | look l => exact shifts_look l
  | cat a b ha hb => exact shifts_cat ha hb
  | alt a b ha hb => exact shifts_alt ha hb
  | plus body hbody => exact shifts_plus hbody
  | times least most body hbody => exact shifts_times least most hbody

/-! ## Runs -/

/-- The sets that the character behind a place is in. -/
def Next (text : Array Char) (place : Nat) (chars : Table) : Prop :=
  ∃ c, text[place]? = some c ∧ chars.contains c = true

theorem reaches_next_iff (r : Regex) (s : State) (enters : Bool) (j : Nat) :
    r.Reaches text (Next text place) (place + 1)
        (r.shift text hits place s enters) j ↔
      place < j ∧ (r.Reaches text (fun chars => hits chars = true) place s j
        ∨ (enters = true ∧ r.Spans text place j)) :=
  reaches_shift_iff (fun _ => .rfl) r s enters j

/-- A run finds a match if one can still end that goes through what waits, or if
there is one that starts later. -/
theorem run_iff (regex : Regex) (rest : List Char) (s : State)
    (hrest : rest = text.toList.drop place) (hplace : place ≤ text.size) :
    regex.run text rest place s = true ↔
      (∃ j, regex.Reaches text (Next text place) (place + 1) s j)
        ∨ ∃ i j, place < i ∧ i ≤ text.size ∧ regex.Spans text i j := by
  induction rest generalizing place s with
  | nil =>
      have hsize : text.size ≤ place := by
        have hlength := congrArg List.length hrest
        simp at hlength
        omega
      simp only [run, Bool.false_eq_true, false_iff]
      rintro (⟨j, hreaches⟩ | ⟨i, j, hlater, hwithin, -⟩)
      · obtain ⟨chars, c, hread, -⟩ := hreaches.exists_hit
        have hlt := (Array.getElem?_eq_some_iff.1 hread).1
        omega
      · omega
  | cons c rest ih =>
      have hbelow : place < text.size := by
        have hlength := congrArg List.length hrest
        simp at hlength
        omega
      have hread : text[place]? = some c := by
        have hhead := congrArg (·[0]?) hrest
        simpa using hhead.symm
      have hnext : Next text place = fun chars => chars.contains c = true := by
        funext chars
        simp [Next, hread]
      have hothers : rest = text.toList.drop (place + 1) := by
        have htail := congrArg List.tail hrest
        simpa using htail
      rw [run, Bool.or_eq_true, Bool.or_eq_true, ih _ hothers hbelow,
        completes_iff, isEmptyAt_iff, hnext]
      simp only [reaches_next_iff, true_and]
      constructor
      · rintro ((hends | hempty) | ⟨j, -, hreaches | hspans⟩ |
          ⟨i, j, hlater, hspans⟩)
        · exact .inl ⟨_, hends⟩
        · exact .inr ⟨_, _, Nat.lt_succ_self _, hbelow, hempty⟩
        · exact .inl ⟨j, hreaches⟩
        · exact .inr ⟨_, j, Nat.lt_succ_self _, hbelow, hspans⟩
        · exact .inr ⟨i, j, Nat.lt_of_succ_lt hlater, hspans⟩
      · rintro (⟨j, hreaches⟩ | ⟨i, j, hlater, hwithin, hspans⟩)
        · rcases Nat.eq_or_lt_of_le hreaches.le with hsame | hahead
          · subst hsame
            exact .inl (.inl hreaches)
          · exact .inr (.inl ⟨j, hahead, .inl hreaches⟩)
        · rcases Nat.eq_or_lt_of_le hlater with hsame | hahead
          · subst hsame
            rcases Nat.eq_or_lt_of_le hspans.le with hsame | hahead
            · subst hsame
              exact .inl (.inr hspans)
            · exact .inr (.inl ⟨j, hahead, .inr hspans⟩)
          · exact .inr (.inr ⟨i, j, hahead, hwithin, hspans⟩)

/-- A run finds a match exactly where there is one. -/
theorem matches?_iff (regex : Regex) (text : String) :
    regex.matches? text = true ↔
      ∃ i j, i ≤ text.length ∧ regex.Spans text.toList.toArray i j := by
  have hsize : text.toList.toArray.size = text.length := by
    simp [String.length_toList]
  rw [matches?, Bool.or_eq_true, run_iff regex _ _ (by simp) (Nat.zero_le _),
    isEmptyAt_iff, hsize]
  simp only [reaches_next_iff, not_reaches_idle, false_or, true_and]
  constructor
  · rintro (hspans | ⟨j, -, hspans⟩ | ⟨i, j, -, hspans⟩)
    · exact ⟨0, 0, Nat.zero_le _, hspans⟩
    · exact ⟨0, j, Nat.zero_le _, hspans⟩
    · exact ⟨i, j, hspans⟩
  · rintro ⟨i, j, hwithin, hspans⟩
    rcases Nat.eq_zero_or_pos i with rfl | hlater
    · rcases Nat.eq_zero_or_pos j with rfl | hmoved
      · exact .inl hspans
      · exact .inr (.inl ⟨j, hmoved, hspans⟩)
    · exact .inr (.inr ⟨i, j, hlater, hwithin, hspans⟩)

end Regex

end SeriesIndex.Pattern
