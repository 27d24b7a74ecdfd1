import Mathlib
import SeriesIndex.Proofs.Pattern.Brackets

/-!
# What a step reads

A step of the reader reads a part of the text and does something with it.  The
two can be told apart: what is read depends on the text and on whether blanks
are dropped, and only what is done with it depends on the groups that are open.
So it is enough to know of the reading that it goes on in front of a closing
parenthesis.
-/

namespace SeriesIndex.Pattern

/-- What a step does with the part it has read. -/
inductive Move where
  | push (part : Syntax)
  | bar
  | enter (remembered : Bool) (changes : FlagChanges)
  | enterNamed (name : List Char)
  | setFlags (changes : FlagChanges)
  | leave
  | repeatLast (least : Nat) (most : Option Nat) (reluctant : Bool)

def Move.apply (r : Reader) : Move → Option Reader
  | push part => some (r.push part)
  | bar => some r.bar
  | enter remembered changes => some (r.enter remembered changes)
  | enterNamed name => r.enterNamed name
  | setFlags changes => some (r.setFlags changes)
  | leave => r.leave
  | repeatLast least most reluctant => r.repeatLast least most reluctant

/-- The part that an escape stands for. -/
def Atom.part : Atom → Syntax
  | .literal l => .literal l
  | .place p => .place p
  | .charClass inner => .charClass inner

/-- The reader after a move and what is left of the text. -/
def Reader.takes (r : Reader) (read : Option (Move × List Char)) :
    Option (Reader × List Char) :=
  read.bind fun (move, rest) => (move.apply r).map (·, rest)

variable {verbose : Bool} {text rest back : List Char}

/-! ## Groups -/

namespace Group

def named? (text : List Char) : Option (Move × List Char) :=
  (name? text).map fun (name, rest) => (.enterNamed name, rest)

def flagged? (text : List Char) : Option (Move × List Char) :=
  (flags? true false [] text).bind fun (changes, isGroup, rest) =>
    if isGroup then some (.enter false changes, rest)
    else if changes.isEmpty then none
    else some (.setFlags changes, rest)

def question? : List Char → Option (Move × List Char)
  | '=' :: _ | '!' :: _ | '<' :: '=' :: _ | '<' :: '!' :: _ => none
  | 'P' :: '<' :: rest | '<' :: rest => named? rest
  | rest => flagged? rest

def opening? : List Char → Option (Move × List Char)
  | '?' :: rest => question? rest
  | rest => some (.enter true [], rest)

theorem takes_named? (r : Reader) (text : List Char) :
    r.takes (named? text) = (do
      let (name, rest) ← name? text
      return (← r.enterNamed name, rest)) := by
  rw [Reader.takes, named?]
  cases name? text with
  | none => rfl
  | some read => cases h : r.enterNamed read.1 <;> simp [h, Move.apply]

theorem takes_flagged? (r : Reader) (text : List Char) :
    r.takes (flagged? text) = (do
      let (changes, isGroup, rest) ← flags? true false [] text
      if isGroup then return (r.enter false changes, rest)
      else if changes.isEmpty then none
      else return (r.setFlags changes, rest)) := by
  rw [Reader.takes, flagged?]
  cases flags? true false [] text with
  | none => rfl
  | some read =>
      obtain ⟨changes, isGroup, rest⟩ := read
      cases isGroup <;> cases changes <;> rfl

theorem opening_eq (r : Reader) (text : List Char) :
    opening r text = r.takes (opening? (skip r.verbose text)) := by
  unfold opening
  split
  case h_8 hne =>
    rw [opening?]
    · rfl
    · exact hne
  all_goals
    rename_i hskip
    rw [hskip]
  case h_5 => exact (takes_named? r _).symm
  case h_6 =>
    rw [opening?, question?]
    · exact (takes_named? r _).symm
    all_goals assumption
  case h_7 =>
    rw [opening?, question?]
    · exact (takes_flagged? r _).symm
    all_goals assumption
  all_goals rfl

theorem name?_append {name : List Char}
    (hread : name? text = some (name, rest)) (back : List Char) :
    name? (text ++ back) = some (name, rest ++ back) := by
  rw [name?] at hread
  split at hread
  case h_1 first others c after htake hdrop =>
    rw [name?, takeWhile_append_of_dropWhile hdrop,
      dropWhile_append_of_eq_cons hdrop, htake]
    dsimp only
    split at hread
    case isTrue hname =>
      cases hread
      rw [if_pos hname]
    case isFalse => cases hread
  case h_2 => cases hread

theorem keeps_named? (text : List Char) :
    Keeps (named? text) fun back => named? (text ++ back) := by
  intro move rest hread back _
  obtain ⟨⟨name, left⟩, hname, hsame⟩ := Option.map_eq_some_iff.mp hread
  cases hsame
  exact Option.map_eq_some_iff.mpr ⟨_, name?_append hname back, rfl⟩

theorem flags?_append {on dangling isGroup : Bool}
    {changes read : FlagChanges}
    (hread : flags? on dangling changes text = some (read, isGroup, rest))
    (back : List Char) :
    flags? on dangling changes (text ++ back) =
      some (read, isGroup, rest ++ back) := by
  induction text generalizing on dangling changes with
  | nil => cases hread
  | cons c text ih =>
      simp only [List.cons_append, flags?] at hread ⊢
      by_cases hends : (c == ':' || c == ')') = true
      · simp only [hends, if_true] at hread ⊢
        cases dangling with
        | true => cases hread
        | false =>
            cases hread
            rfl
      · by_cases hhyphen : (c == '-') = true
        · simp only [hends, hhyphen, if_true] at hread ⊢
          cases on with
          | true => exact ih hread
          | false => cases hread
        · simp only [hends, hhyphen] at hread ⊢
          cases hletter : Flag.ofLetter? c with
          | none =>
              rw [hletter] at hread
              cases hread
          | some flag =>
              simp only [hletter] at hread ⊢
              by_cases hagain : (changes.setting? flag).isSome = true
              · rw [if_pos hagain] at hread
                cases hread
              · rw [if_neg hagain] at hread ⊢
                exact ih hread

theorem keeps_flagged? (text : List Char) :
    Keeps (flagged? text) fun back => flagged? (text ++ back) := by
  intro move rest hread back _
  obtain ⟨⟨changes, isGroup, left⟩, hflags, hmove⟩ :=
    Option.bind_eq_some_iff.mp hread
  refine Option.bind_eq_some_iff.mpr ⟨_, flags?_append hflags back, ?_⟩
  cases isGroup with
  | true =>
      cases hmove
      rfl
  | false =>
      cases changes with
      | nil => cases hmove
      | cons change changes =>
          cases hmove
          rfl

theorem question?_of_angle (hlook : ∀ rest, text ≠ '=' :: rest)
    (hnot : ∀ rest, text ≠ '!' :: rest) :
    question? ('<' :: text) = named? text := by
  rw [question?]
  · exact hlook
  · exact hnot

theorem keeps_question? (text : List Char) :
    Keeps (question? text) fun back => question? (text ++ back) := by
  fun_cases question? text
  case case1 => exact nofun
  case case2 => exact nofun
  case case3 => exact nofun
  case case4 => exact nofun
  case case5 rest => exact keeps_named? rest
  case case6 rest hlook hnot =>
    intro move left hread back hclosing
    refine Eq.trans ?_ (keeps_named? rest move left hread back hclosing)
    exact question?_of_angle (hclosing.append_ne_cons (by decide) hlook)
      (hclosing.append_ne_cons (by decide) hnot)
  case case7 hyes hno hlook hnot hsign hname =>
    intro move left hread back hclosing
    refine Eq.trans ?_ (keeps_flagged? text move left hread back hclosing)
    dsimp only
    rw [question?]
    · exact hclosing.append_ne_cons (by decide) hyes
    · exact hclosing.append_ne_cons (by decide) hno
    · exact hclosing.append_ne_cons_cons (by decide) (by decide) hlook
    · exact hclosing.append_ne_cons_cons (by decide) (by decide) hnot
    · exact hclosing.append_ne_cons_cons (by decide) (by decide) hsign
    · exact hclosing.append_ne_cons (by decide) hname

/-- The opening of a group is read alike with a closing behind the text. -/
theorem goesOn_opening? (text : List Char) :
    GoesOn (opening? text) fun back => opening? (text ++ back) := by
  refine GoesOn.of_sign '?' opening? (fun text => some (.enter true [], text))
    (by decide) (fun rest => (keeps_question? rest).goesOn)
    (fun text => (keeps_some _ text).goesOn) ?_ text
  intro text hne
  rw [opening?]
  exact hne

end Group

/-! ## Repetitions -/

namespace Repetition

/-- The number that digits write, if there are any and it is not too large. -/
def value? (digits : List Char) : Option Nat :=
  let value := digits.foldl
    (fun value c => value * 10 + (c.toNat - '0'.toNat)) 0
  if digits.isEmpty || countBound ≤ value then none else some value

theorem count_eq (verbose : Bool) (text : List Char) :
    count verbose text =
      (some (digitRun verbose false (text.dropWhile isBlank))).bind
        fun (digits, rest) =>
          (value? digits).map (·, rest.dropWhile isBlank) := by
  unfold count value?
  dsimp only [Option.bind_some]
  split <;> rfl

theorem goesOn_count (verbose : Bool) (text : List Char) :
    GoesOn (count verbose text) fun back => count verbose (text ++ back) := by
  simp only [count_eq]
  refine GoesOn.bind ?_ ?_ ?_
  · refine (goesOn_digitRun verbose false _).congr fun back hclosing => ?_
    rw [dropBlanks_append hclosing]
  · intro digits rest
    dsimp only
    cases value? digits with
    | none => exact goesOn_none
    | some value =>
        refine (keeps_some value _).goesOn.congr fun back hclosing => ?_
        rw [dropBlanks_append hclosing]
        rfl
  · intro digits value rest hread
    obtain ⟨found, -, hsame⟩ := Option.map_eq_some_iff.mp hread
    cases hsame
    rfl

def most? (verbose : Bool) : List Char → Option (Option Nat × List Char)
  | '}' :: rest => some (none, '}' :: rest)
  | text => (count verbose text).map fun (most, rest) => (some most, rest)

def upper? (verbose : Bool) (least : Nat) :
    List Char → Option (Option Nat × List Char)
  | ',' :: rest => most? verbose (skip verbose rest)
  | text => some (some least, text)

/-- Reads the question mark that may follow on a sign of repetition. -/
def repeated (least : Nat) (most : Option Nat) (text : List Char) :
    Move × List Char :=
  (.repeatLast least most (reluctance text).1, (reluctance text).2)

/-- Reads the brace that ends the counts. -/
def ended? (verbose : Bool) (least : Nat) (most : Option Nat) :
    List Char → Option (Nat × Option Nat × List Char)
  | '\x7d' :: rest =>
    if most.all (least ≤ ·) then some (least, most, skip verbose rest) else none
  | _ => none

theorem counts_eq (verbose : Bool) (text : List Char) :
    counts verbose text =
      (count verbose (skip verbose text)).bind fun (least, rest) =>
        (upper? verbose least rest).bind fun (most, rest) =>
          ended? verbose least most rest := by
  unfold counts
  cases count verbose (skip verbose text) with
  | none => rfl
  | some read =>
      obtain ⟨least, rest⟩ := read
      simp only [Option.bind_eq_bind, Option.bind_some]
      split
      · rename_i after
        rw [upper?]
        split
        · rename_i hbrace
          rw [hbrace, most?, Option.bind_some]
          rfl
        · rename_i hbrace
          rw [most?]
          · cases count verbose (skip verbose after) with
            | none => rfl
            | some read => rfl
          · exact hbrace
      · rename_i hcomma
        rw [upper?]
        · rfl
        · exact hcomma

theorem goesOn_most? (verbose : Bool) (text : List Char) :
    GoesOn (most? verbose text) fun back => most? verbose (text ++ back) := by
  refine GoesOn.of_sign '\x7d' (most? verbose)
    (fun text => (count verbose text).map fun (most, rest) => (some most, rest))
    (by decide) (fun rest => (keeps_some none _).goesOn)
    (fun text => (goesOn_count verbose text).map) ?_ text
  intro text hne
  rw [most?]
  exact hne

theorem goesOn_upper? (verbose : Bool) (least : Nat) (text : List Char) :
    GoesOn (upper? verbose least text)
      fun back => upper? verbose least (text ++ back) := by
  refine GoesOn.of_sign ',' (upper? verbose least)
    (fun text => some (some least, text)) (by decide)
    (fun rest => .skip _ (goesOn_most? verbose) nofun verbose rest)
    (fun text => (keeps_some _ text).goesOn) ?_ text
  intro text hne
  rw [upper?]
  exact hne

theorem goesOn_repeated (least : Nat) (most : Option Nat) (text : List Char) :
    GoesOn (some (repeated least most text))
      fun back => some (repeated least most (text ++ back)) := by
  refine GoesOn.of_sign '?' (fun text => some (repeated least most text))
    (fun text => some (.repeatLast least most false, text)) (by decide)
    (fun rest => (keeps_some (Move.repeatLast least most true) rest).goesOn)
    (fun text => (keeps_some _ text).goesOn) ?_ text
  intro text hne
  rw [repeated, reluctance]
  exact hne

def counted? (verbose : Bool) (text : List Char) :
    Option (Move × List Char) :=
  (counts verbose text).map fun (least, most, rest) => repeated least most rest

theorem goesOn_ended? (verbose : Bool) (least : Nat) (most : Option Nat)
    (text : List Char) :
    GoesOn
      ((ended? verbose least most text).map fun (least, most, rest) =>
        repeated least most rest)
      fun back =>
        (ended? verbose least most (text ++ back)).map
          fun (least, most, rest) => repeated least most rest := by
  refine GoesOn.of_sign '\x7d' (fun text =>
      (ended? verbose least most text).map fun (least, most, rest) =>
        repeated least most rest)
    (fun _ => none) (by decide) ?_ (fun _ => goesOn_none) ?_ text
  · intro rest
    simp only [ended?]
    cases most.all (least ≤ ·) with
    | false => exact goesOn_none
    | true =>
        refine .skip (fun text => some (repeated least most text))
          (goesOn_repeated least most) ?_ verbose rest
        intro move rest hread
        cases hread
        rfl
  · intro text hne
    rw [ended?]
    · rfl
    · exact hne

/-- A counted repetition is read alike with a closing behind the text. -/
theorem goesOn_counted? (verbose : Bool) (text : List Char) :
    GoesOn (counted? verbose text)
      fun back => counted? verbose (text ++ back) := by
  simp only [counted?, counts_eq, Option.map_bind]
  refine GoesOn.bind ?_ ?_ ?_
  · exact .skip _ (goesOn_count verbose) nofun verbose text
  · intro least rest
    simp only [Function.comp_def, Option.map_bind]
    refine GoesOn.bind (goesOn_upper? verbose least rest) ?_ ?_
    · exact fun most rest => goesOn_ended? verbose least most rest
    · exact nofun
  · exact nofun

theorem takes_counted? (r : Reader) (text : List Char) :
    r.takes (counted? r.verbose text) = (do
      let (least, most, rest) ← counts r.verbose text
      r.repetition least most rest) := by
  rw [Reader.takes, counted?]
  cases counts r.verbose text <;> rfl

end Repetition

/-! ## Steps -/

/-- Reads the next part of a text that does not start with blanks. -/
def move? (verbose : Bool) (c : Char) (rest : List Char) :
    Option (Move × List Char) :=
  match c with
  | '(' => Group.opening? (skip verbose rest)
  | ')' => some (.leave, rest)
  | '|' => some (.bar, rest)
  | '[' => (bracket verbose rest).map fun (inner, rest) =>
      (.push (.charClass inner), rest)
  | '?' => some (Repetition.repeated 0 (some 1) rest)
  | '*' => some (Repetition.repeated 0 none rest)
  | '+' => some (Repetition.repeated 1 none rest)
  | '\x7b' => Repetition.counted? verbose rest
  | '\\' => (escape verbose rest).map fun (atom, rest) =>
      (.push atom.part, rest)
  | '.' => some (.push .dot, rest)
  | '^' => some (.push (.place .lineStart), rest)
  | '$' => some (.push (.place .lineEnd), rest)
  | c => some (.push (.literal ⟨c, false⟩), rest)

/-- The signs that do not stand for themselves. -/
def signs : List Char :=
  ['(', ')', '|', '[', '?', '*', '+', '\x7b', '\\', '.', '^', '$']

theorem step_of_not_sign {c : Char} (hplain : c ∉ signs) (r : Reader)
    (rest : List Char) :
    r.step c rest = some (r.push (.literal ⟨c, false⟩), rest) := by
  unfold Reader.step
  split
  iterate 12
    · exact absurd (by decide) hplain
  · rfl

theorem move?_of_not_sign {c : Char} (hplain : c ∉ signs) (verbose : Bool)
    (rest : List Char) :
    move? verbose c rest = some (.push (.literal ⟨c, false⟩), rest) := by
  unfold move?
  split
  iterate 12
    · exact absurd (by decide) hplain
  · rfl

/-- A step does what it reads. -/
theorem step_eq (r : Reader) (c : Char) (rest : List Char) :
    r.step c rest = r.takes (move? r.verbose c rest) := by
  by_cases hsign : c ∈ signs
  · simp only [signs, List.mem_cons, List.not_mem_nil, or_false] at hsign
    rcases hsign with rfl | rfl | rfl | rfl | rfl | rfl | rfl | rfl | rfl |
      rfl | rfl | rfl
    · exact Group.opening_eq r rest
    · rfl
    · rfl
    · change (bracket r.verbose rest).map _ = r.takes (Option.map _ _)
      cases bracket r.verbose rest <;> rfl
    · rfl
    · rfl
    · rfl
    · exact (Repetition.takes_counted? r rest).symm
    · change (escape r.verbose rest).bind _ = r.takes (Option.map _ _)
      cases escape r.verbose rest with
      | none => rfl
      | some read =>
          obtain ⟨atom, left⟩ := read
          cases atom <;> rfl
    · rfl
    · rfl
    · rfl
  · rw [step_of_not_sign hsign, move?_of_not_sign hsign]
    rfl

/-- Every move of the reader is read alike. -/
theorem goesOn_move? (verbose : Bool) (c : Char) (rest : List Char) :
    GoesOn (move? verbose c rest)
      fun back => move? verbose c (rest ++ back) := by
  by_cases hsign : c ∈ signs
  · simp only [signs, List.mem_cons, List.not_mem_nil, or_false] at hsign
    rcases hsign with rfl | rfl | rfl | rfl | rfl | rfl | rfl | rfl | rfl |
      rfl | rfl | rfl
    · refine .skip _ Group.goesOn_opening? ?_ verbose rest
      intro move left hread
      cases hread
      rfl
    · exact (keeps_some _ rest).goesOn
    · exact (keeps_some _ rest).goesOn
    · exact (keeps_bracket verbose rest).goesOn.map
        (f := fun inner => Move.push (.charClass inner))
    · exact Repetition.goesOn_repeated 0 (some 1) rest
    · exact Repetition.goesOn_repeated 0 none rest
    · exact Repetition.goesOn_repeated 1 none rest
    · exact Repetition.goesOn_counted? verbose rest
    · exact (Escape.goesOn_escape verbose rest).map
        (f := fun atom => Move.push atom.part)
    · exact (keeps_some _ rest).goesOn
    · exact (keeps_some _ rest).goesOn
    · exact (keeps_some _ rest).goesOn
  · simp only [move?_of_not_sign hsign]
    exact (keeps_some _ rest).goesOn

end SeriesIndex.Pattern
