import Mathlib
import SeriesIndex.Pattern.Anchored
import SeriesIndex.Proofs.Pattern.Moves

/-!
# Patterns inside a group

A pattern that is well formed by itself is read in the same way inside a group:
the reader goes through it as it would alone, with the groups around it below
its own.  At its end the closing parenthesis ends the group that was opened
before it, unless the pattern ends in a comment.
-/

namespace SeriesIndex.Pattern

def Reader.within (r : Reader) (outer : List Frame) : Reader :=
  { r with groups := r.groups ++ outer }

variable {r last : Reader} {steps : Nat} {text rest back : List Char}

/-- What is done at some level is done in the same way inside further groups. -/
theorem Move.apply_within {move : Move} (happly : move.apply r = some last)
    (outer : List Frame) :
    move.apply (r.within outer) = some (last.within outer) := by
  cases move with
  | push part =>
      cases happly
      rfl
  | bar =>
      cases happly
      rfl
  | enter remembered changes =>
      cases happly
      rfl
  | setFlags changes =>
      cases happly
      rfl
  | enterNamed name =>
      rw [apply, Reader.enterNamed] at happly
      split at happly
      · cases happly
      · rename_i hnew
        cases happly
        exact if_neg hnew
  | leave =>
      obtain ⟨verbose, parts, branches, groups, names⟩ := r
      cases groups with
      | nil => cases happly
      | cons frame groups =>
          cases happly
          rfl
  | repeatLast least most reluctant =>
      obtain ⟨verbose, parts, branches, groups, names⟩ := r
      cases parts with
      | nil => cases happly
      | cons part parts =>
          cases part
          case empty => cases happly
          case flags => cases happly
          all_goals
            cases happly
            rfl

theorem run_succ (steps : Nat) (r : Reader) (text : List Char) :
    Reader.run (steps + 1) r text =
      match skip r.verbose text with
      | [] => some r
      | c :: rest =>
        (r.takes (move? r.verbose c rest)).bind fun (r, rest) =>
          Reader.run steps r rest := by
  rw [Reader.run]
  cases skip r.verbose text with
  | nil => rfl
  | cons c rest =>
      dsimp only
      rw [step_eq]
      cases r.takes (move? r.verbose c rest) <;> rfl

theorem run_of_skip_eq_nil (hskip : skip r.verbose text = []) :
    Reader.run (steps + 1) r text = some r := by
  rw [run_succ, hskip]

theorem run_congr {other : List Char}
    (hskip : skip r.verbose text = skip r.verbose other) :
    Reader.run (steps + 1) r text = Reader.run (steps + 1) r other := by
  rw [run_succ, run_succ, hskip]

/-- At the end of the text more steps make no difference. -/
theorem run_nil (hrun : Reader.run steps r [] = some last) (more : Nat)
    (outer : List Frame) :
    Reader.run (steps + more) (r.within outer) [] =
      some (last.within outer) := by
  cases steps with
  | zero => cases hrun
  | succ steps =>
      rw [run_of_skip_eq_nil (skip_nil _)] at hrun
      cases hrun
      rw [Nat.succ_add]
      exact run_of_skip_eq_nil (skip_nil _)

/-- Another part is read, and the reader goes on behind it. -/
theorem run_step {c : Char} {move : Move} {next : Reader} {left : List Char}
    (hskip : skip r.verbose text = c :: rest)
    (hmove : move? r.verbose c rest = some (move, left))
    (happly : move.apply r = some next) :
    Reader.run (steps + 1) r text = Reader.run steps next left := by
  rw [run_succ, hskip]
  dsimp only
  rw [hmove, Reader.takes, Option.bind_some]
  dsimp only
  rw [happly, Option.map_some, Option.bind_some]

/-- A run that has something to read makes a move first. -/
theorem exists_move_of_run {c : Char} (hskip : skip r.verbose text = c :: rest)
    (hrun : Reader.run (steps + 1) r text = some last) :
    ∃ move next left, move? r.verbose c rest = some (move, left) ∧
      move.apply r = some next ∧ Reader.run steps next left = some last := by
  rw [run_succ, hskip] at hrun
  obtain ⟨⟨next, left⟩, htakes, hrun⟩ := Option.bind_eq_some_iff.mp hrun
  obtain ⟨⟨move, after⟩, hmove, hmoved⟩ := Option.bind_eq_some_iff.mp htakes
  obtain ⟨found, happly, hsame⟩ := Option.map_eq_some_iff.mp hmoved
  cases hsame
  exact ⟨move, next, left, hmove, happly, hrun⟩

/-- The reader comes to the closing that is put behind the text where it came to
the end of the text, or it comes to the end of all. -/
theorem run_append (hrun : Reader.run steps r text = some last) :
    (∃ left, ∀ outer more back, Closing back →
      Reader.run (steps + more) (r.within outer) (text ++ back) =
        Reader.run (left + more + 1) (last.within outer) back) ∨
    ∀ outer more back, Closing back →
      Reader.run (steps + more) (r.within outer) (text ++ back) =
        some (last.within outer) := by
  -- The induction follows the parts of the text.  Once the closing is lost in a
  -- comment, nothing is left of the text to read.
  induction steps generalizing r text with
  | zero => cases hrun
  | succ steps ih =>
      simp only [Nat.succ_add]
      cases hskip : skip r.verbose text with
      | nil =>
          rw [run_of_skip_eq_nil hskip] at hrun
          obtain rfl := Option.some.inj hrun
          rcases skip_append r.verbose text with hkept | ⟨-, hlost⟩
          · refine .inl ⟨steps, fun outer more back hclosing => run_congr ?_⟩
            rw [hskip] at hkept
            exact (hkept back hclosing).trans (skip_closing hclosing).symm
          · exact .inr fun outer more back hclosing =>
              run_of_skip_eq_nil (hlost back hclosing)
      | cons c rest =>
          obtain ⟨move, next, left, hmove, happly, hrun⟩ :=
            exists_move_of_run hskip hrun
          have hstep {outer back after}
              (hmove : move? r.verbose c (rest ++ back) = some (move, after))
              (steps : Nat) :
              Reader.run (steps + 1) (r.within outer) (text ++ back) =
                Reader.run steps (next.within outer) after :=
            run_step (skip_append_of_eq_cons hskip back) hmove
              (Move.apply_within happly outer)
          rcases goesOn_move? r.verbose c rest move left hmove with
            hkept | ⟨rfl, hlost⟩
          · refine (ih hrun).imp ?_ ?_
            · rintro ⟨left, hleft⟩
              exact ⟨left, fun outer more back hclosing =>
                (hstep (hkept back hclosing) _).trans
                  (hleft outer more back hclosing)⟩
            · exact fun hlost outer more back hclosing =>
                (hstep (hkept back hclosing) _).trans
                  (hlost outer more back hclosing)
          · exact .inr fun outer more back hclosing =>
              (hstep (hlost back hclosing) _).trans (run_nil hrun more outer)

/-! ## Anchors -/

/-- A pattern is read if its run ends with all groups closed and not too deep.
-/
theorem parse?_eq_some_iff {tree : Syntax} :
    parse? text = some tree ↔
      ∃ r, Reader.run (text.length + 1) .start text = some r ∧
        r.groups = [] ∧ tree.depth ≤ depthLimit ∧ r.level = tree := by
  rw [parse?, Option.bind_eq_bind, Option.bind_eq_some_iff]
  refine exists_congr fun r => and_congr_right fun _ => ?_
  split
  case isTrue hwhole =>
    rw [Bool.and_eq_true, List.isEmpty_iff, decide_eq_true_eq] at hwhole
    constructor
    · intro hlevel
      obtain rfl := Option.some.inj hlevel
      exact ⟨hwhole.1, hwhole.2, rfl⟩
    · rintro ⟨-, -, rfl⟩
      rfl
  case isFalse hpart =>
    rw [Bool.and_eq_true, List.isEmpty_iff, decide_eq_true_eq] at hpart
    constructor
    · exact nofun
    · rintro ⟨hgroups, hdepth, rfl⟩
      exact absurd ⟨hgroups, hdepth⟩ hpart

/-- The text ends in a comment, so that a parenthesis behind it is a part of the
comment.  This is said of texts that are well formed. -/
def EndsInComment (text : List Char) : Prop :=
  (parse? (text ++ [')'])).isSome

instance (text : List Char) : Decidable (EndsInComment text) :=
  inferInstanceAs (Decidable (_ = true))

example : EndsInComment "(?x)a # b".toList := by decide

def Syntax.anchored (tree : Syntax) : Syntax :=
  .concat [.place .lineStart, .group false [] tree, .place .lineEnd]

theorem depth_anchored (tree : Syntax) :
    tree.anchored.depth = tree.depth + 2 := by
  simp [Syntax.anchored, Syntax.depth, Syntax.depthAll]

/-- The group that is opened in front of a pattern. -/
def anchoring : Frame :=
  ⟨false, [], [.place .lineStart], [], false⟩

/-- To read an anchored pattern is to read the pattern inside a group. -/
theorem run_anchored (pattern : String) :
    Reader.run ((anchored pattern).length + 1) .start (anchored pattern) =
      Reader.run (pattern.toList.length + 1 + 4)
        (Reader.start.within [anchoring]) (pattern.toList ++ [')', '$']) := by
  have hlength : (anchored pattern).length + 1 =
      pattern.toList.length + 1 + 4 + 1 + 1 := by
    simp only [anchored, List.length_append, List.length_cons, List.length_nil]
    omega
  rw [hlength]
  have hfirst : (Move.push (.place .lineStart)).apply .start =
      some (Reader.start.push (.place .lineStart)) := rfl
  exact (run_step rfl rfl hfirst).trans (run_step rfl rfl rfl)

/-- Without a group that is open a closing parenthesis is refused. -/
theorem run_alone (hgroups : last.groups = []) (steps : Nat) :
    Reader.run (steps + 1) (last.within []) [')'] = none := by
  rw [run_succ, skip_closing .alone]
  change (Option.map _ (last.within []).leave).bind _ = none
  rw [Reader.leave]
  simp only [Reader.within, hgroups, List.append_nil]
  rfl

/-- The closing ends the group that was opened in front of the pattern. -/
theorem run_anchoring (hgroups : last.groups = []) (steps : Nat) :
    Reader.run (steps + 2 + 1) (last.within [anchoring]) [')', '$'] =
      some ⟨false, [.place .lineEnd, .group false [] last.level,
        .place .lineStart], [], [], last.names⟩ := by
  obtain ⟨verbose, parts, branches, groups, names⟩ := last
  obtain rfl : groups = [] := hgroups
  refine (run_step (skip_closing .anchored) rfl rfl).trans ?_
  exact (run_step rfl rfl rfl).trans (run_of_skip_eq_nil rfl)

/-- A pattern ends in a comment if the closing sign is not seen behind it. -/
theorem endsInComment_iff :
    EndsInComment text ↔
      ∃ r, Reader.run (text.length + 1 + 1) .start (text ++ [')']) = some r ∧
        r.groups = [] ∧ r.level.depth ≤ depthLimit := by
  rw [EndsInComment, Option.isSome_iff_exists]
  simp only [parse?_eq_some_iff, List.length_append, List.length_singleton]
  constructor
  · rintro ⟨tree, r, hrun, hgroups, hdepth, rfl⟩
    exact ⟨r, hrun, hgroups, hdepth⟩
  · rintro ⟨r, hrun, hgroups, hdepth⟩
    exact ⟨r.level, r, hrun, hgroups, hdepth, rfl⟩

theorem parse?_eq_none (hrun : ∀ r, Reader.run (text.length + 1) .start text =
    some r → r.groups ≠ [] ∨ depthLimit < r.level.depth) :
    parse? text = none := by
  rw [Option.eq_none_iff_forall_ne_some]
  intro tree hparse
  obtain ⟨r, hread, hgroups, hdepth, rfl⟩ := parse?_eq_some_iff.mp hparse
  rcases hrun r hread with hopen | hdeep
  · exact hopen hgroups
  · omega

/-- A well-formed pattern is read between its anchors as it is read alone, if it
does not end in a comment and leaves room for two more levels. -/
theorem parse?_anchored {pattern : String} {tree : Syntax}
    (hparse : parse? pattern.toList = some tree) :
    parse? (anchored pattern) =
      if EndsInComment pattern.toList ∨ depthLimit < tree.depth + 2 then none
      else some tree.anchored := by
  obtain ⟨last, hrun, hgroups, hdepth, rfl⟩ := parse?_eq_some_iff.mp hparse
  have hread := run_anchored pattern
  -- One run decides about both texts: what becomes of the closing does not
  -- depend on the groups around the pattern.
  rcases run_append hrun with ⟨left, hkept⟩ | hlost
  · rw [hkept [anchoring] 4 _ .anchored, run_anchoring hgroups] at hread
    have hends : ¬ EndsInComment pattern.toList := by
      rw [endsInComment_iff]
      rintro ⟨r, hclosed, -⟩
      have hclose := hkept [] 1 _ .alone
      rw [run_alone hgroups] at hclose
      exact nomatch hclosed.symm.trans hclose
    by_cases hdeep : depthLimit < last.level.depth + 2
    · rw [if_pos (.inr hdeep)]
      refine parse?_eq_none fun r hfound => .inr ?_
      obtain rfl := Option.some.inj (hread.symm.trans hfound)
      exact hdeep.trans_eq (depth_anchored last.level).symm
    · rw [if_neg (not_or.mpr ⟨hends, hdeep⟩)]
      refine parse?_eq_some_iff.mpr ⟨_, hread, rfl, ?_, rfl⟩
      exact (depth_anchored last.level).trans_le (Nat.not_lt.mp hdeep)
  · rw [hlost [anchoring] 4 _ .anchored] at hread
    have hends : EndsInComment pattern.toList :=
      endsInComment_iff.mpr
        ⟨_, hlost [] 1 _ .alone, by simp [Reader.within, hgroups], hdepth⟩
    rw [if_pos (.inl hends)]
    refine parse?_eq_none fun r hfound => .inl ?_
    obtain rfl := Option.some.inj (hread.symm.trans hfound)
    simp [Reader.within]

end SeriesIndex.Pattern
