import Mathlib
import SeriesIndex.Pattern.Parser

/-!
# Reading in front of a closing parenthesis

A pattern is read in parts, and what is read of a part does not depend on what
stands behind it.  Where a text ends, however, the reader may be in the midst of
a comment, and then a closing parenthesis that is put behind the text belongs to
the comment.  There is no third way: every reader goes on as if nothing had been
put there, or loses all of it.
-/

namespace SeriesIndex.Pattern

/-- What is put behind a pattern: a closing parenthesis, alone or before the
sign for the end. -/
inductive Closing : List Char → Prop where
  | alone : Closing [')']
  | anchored : Closing [')', '$']

theorem Closing.eq_cons {back : List Char} (hclosing : Closing back) :
    ∃ tail, back = ')' :: tail := by
  cases hclosing with
  | alone => exact ⟨[], rfl⟩
  | anchored => exact ⟨['$'], rfl⟩

variable {α β : Type} {verbose inComment : Bool} {text rest back : List Char}

/-- Whatever closing is put behind the text, it is left over. -/
def Keeps (own : Option (α × List Char))
    (longer : List Char → Option (α × List Char)) : Prop :=
  ∀ result rest, own = some (result, rest) →
    ∀ back, Closing back → longer back = some (result, rest ++ back)

/-- A closing that is put behind the text is left over, or is lost in a comment
at the end of the text. -/
def GoesOn (own : Option (α × List Char))
    (longer : List Char → Option (α × List Char)) : Prop :=
  ∀ result rest, own = some (result, rest) →
    (∀ back, Closing back → longer back = some (result, rest ++ back)) ∨
    rest = [] ∧ ∀ back, Closing back → longer back = some (result, [])

section Laws

variable {own : Option (α × List Char)}
  {longer : List Char → Option (α × List Char)}
  {next further : α × List Char → Option (β × List Char)}

/-- A reader that keeps its results goes on. -/
theorem Keeps.goesOn (hkeeps : Keeps own longer) : GoesOn own longer :=
  fun result rest hread => .inl (hkeeps result rest hread)

theorem GoesOn.congr {other : List Char → Option (α × List Char)}
    (hown : GoesOn own longer)
    (hsame : ∀ back, Closing back → other back = longer back) :
    GoesOn own other := by
  intro result rest hread
  rcases hown result rest hread with hkept | ⟨rfl, hlost⟩
  · exact .inl fun back hclosing =>
      (hsame back hclosing).trans (hkept back hclosing)
  · exact .inr ⟨rfl, fun back hclosing =>
      (hsame back hclosing).trans (hlost back hclosing)⟩

theorem goesOn_none : GoesOn (none : Option (α × List Char)) longer :=
  nofun

theorem keeps_some (result : α) (rest : List Char) :
    Keeps (some (result, rest)) fun back => some (result, rest ++ back) := by
  intro result rest hread back _
  cases hread
  rfl

/-- One reading after another goes as both do. -/
theorem GoesOn.bind (hown : GoesOn own longer)
    (hnext : ∀ result rest, GoesOn (next (result, rest))
      fun back => next (result, rest ++ back))
    (hnil : ∀ result last rest, next (result, []) = some (last, rest) →
      rest = []) :
    GoesOn (own.bind next) fun back => (longer back).bind next := by
  intro last rest hread
  obtain ⟨⟨result, middle⟩, hfirst, hsecond⟩ := Option.bind_eq_some_iff.mp hread
  rcases hown result middle hfirst with hkept | ⟨rfl, hlost⟩
  · rcases hnext result middle last rest hsecond with hmore | ⟨rfl, hmore⟩
    · exact .inl fun back hclosing =>
        (congrArg (·.bind next) (hkept back hclosing)).trans
          (hmore back hclosing)
    · exact .inr ⟨rfl, fun back hclosing =>
        (congrArg (·.bind next) (hkept back hclosing)).trans
          (hmore back hclosing)⟩
  · obtain rfl := hnil result last rest hsecond
    exact .inr ⟨rfl, fun back hclosing =>
      (congrArg (·.bind next) (hlost back hclosing)).trans hsecond⟩

/-- What is read next finds something, so nothing was lost before it. -/
theorem GoesOn.keeps_bind (hown : GoesOn own longer)
    (hnext : ∀ result rest, Keeps (next (result, rest))
      fun back => further (result, rest ++ back))
    (hnil : ∀ result, next (result, []) = none) :
    Keeps (own.bind next) fun back => (longer back).bind further := by
  intro last rest hread back hclosing
  obtain ⟨⟨result, middle⟩, hfirst, hsecond⟩ := Option.bind_eq_some_iff.mp hread
  rcases hown result middle hfirst with hkept | ⟨rfl, -⟩
  · exact (congrArg (·.bind further) (hkept back hclosing)).trans
      (hnext result middle last rest hsecond back hclosing)
  · rw [hnil] at hsecond
    cases hsecond

theorem GoesOn.map {f : α → β} (hown : GoesOn own longer) :
    GoesOn (own.map fun (result, rest) => (f result, rest))
      fun back => (longer back).map fun (result, rest) => (f result, rest) := by
  intro last rest hread
  obtain ⟨⟨result, rest⟩, hfirst, hsame⟩ := Option.map_eq_some_iff.mp hread
  cases hsame
  rcases hown result rest hfirst with hkept | ⟨rfl, hlost⟩
  · exact .inl fun back hclosing => Option.map_eq_some_iff.mpr
      ⟨_, hkept back hclosing, rfl⟩
  · exact .inr ⟨rfl, fun back hclosing => Option.map_eq_some_iff.mpr
      ⟨_, hlost back hclosing, rfl⟩⟩

/-- What can be made of a part of the text does not depend on what is behind
it. -/
theorem GoesOn.check {γ : Type} {f : α → Option γ} {g : γ → β}
    (hown : GoesOn own longer) :
    GoesOn
      (own.bind fun (result, rest) =>
        (f result).bind fun found => some (g found, rest))
      fun back => (longer back).bind fun (result, rest) =>
        (f result).bind fun found => some (g found, rest) := by
  refine hown.bind (fun result rest => ?_) fun result last rest hread => ?_
  · dsimp only
    cases f result with
    | none => exact goesOn_none
    | some found => exact (keeps_some (g found) rest).goesOn
  · obtain ⟨found, -, hsame⟩ := Option.bind_eq_some_iff.mp hread
    cases hsame
    rfl

end Laws

/-! ## Blanks and comments -/

/-- What becomes of a character on the way to the next part: it is dropped, and
then a comment is open or not, or it stays. -/
def dropped? (verbose inComment : Bool) (c : Char) : Option Bool :=
  if inComment then some (c != '\n')
  else if verbose && isBlank c then some false
  else if verbose && c == '#' then some true
  else none

theorem skipVerbose_cons (inComment : Bool) (c : Char) (text : List Char) :
    skipVerbose inComment (c :: text) =
      match dropped? true inComment c with
      | some opened => skipVerbose opened text
      | none => c :: text := by
  rw [skipVerbose, dropped?, Bool.true_and, Bool.true_and]
  split
  · rfl
  · split
    · rfl
    · split <;> rfl

theorem untilBrace_cons (verbose inComment : Bool) (c : Char)
    (text : List Char) :
    untilBrace verbose inComment (c :: text) =
      match dropped? verbose inComment c with
      | some opened => untilBrace verbose opened text
      | none =>
        if c == '}' then some ([], text)
        else (untilBrace verbose false text).map
          fun (body, rest) => (c :: body, rest) := by
  rw [untilBrace, dropped?]
  split
  · rfl
  · split
    · rfl
    · split <;> rfl

theorem digitRun_cons (verbose inComment : Bool) (c : Char)
    (text : List Char) :
    digitRun verbose inComment (c :: text) =
      match dropped? verbose inComment c with
      | some opened => digitRun verbose opened text
      | none =>
        if c.isDigit then
          (c :: (digitRun verbose false text).1,
            (digitRun verbose false text).2)
        else ([], c :: text) := by
  rw [digitRun, dropped?]
  split
  · rfl
  · split
    · rfl
    · split <;> rfl

/-- What is skipped before a character is skipped if the text goes on. -/
theorem skipVerbose_append_of_eq_cons {c : Char}
    (hskip : skipVerbose inComment text = c :: rest) (back : List Char) :
    skipVerbose inComment (text ++ back) = c :: (rest ++ back) := by
  induction text generalizing inComment with
  | nil => cases hskip
  | cons first text ih =>
      rw [List.cons_append, skipVerbose_cons]
      rw [skipVerbose_cons] at hskip
      cases hdropped : dropped? true inComment first with
      | some opened =>
          rw [hdropped] at hskip
          exact ih hskip
      | none =>
          rw [hdropped] at hskip
          cases hskip
          rfl

theorem skipVerbose_closing (hclosing : Closing back) :
    skipVerbose inComment back = if inComment then [] else back := by
  cases hclosing with
  | alone => cases inComment <;> decide
  | anchored => cases inComment <;> decide

/-- Where all is skipped, either no comment is open, or it takes in the closing
sign. -/
theorem skipVerbose_append_of_eq_nil
    (hskip : skipVerbose inComment text = []) :
    (∀ back, Closing back → skipVerbose inComment (text ++ back) = back) ∨
      ∀ back, Closing back → skipVerbose inComment (text ++ back) = [] := by
  induction text generalizing inComment with
  | nil =>
      cases inComment with
      | false => exact .inl fun back hclosing => skipVerbose_closing hclosing
      | true => exact .inr fun back hclosing => skipVerbose_closing hclosing
  | cons first text ih =>
      simp only [List.cons_append, skipVerbose_cons]
      rw [skipVerbose_cons] at hskip
      cases hdropped : dropped? true inComment first with
      | some opened =>
          rw [hdropped] at hskip
          exact ih hskip
      | none =>
          rw [hdropped] at hskip
          cases hskip

theorem skip_append_of_eq_cons {c : Char}
    (hskip : skip verbose text = c :: rest) (back : List Char) :
    skip verbose (text ++ back) = c :: (rest ++ back) := by
  cases verbose with
  | false =>
      cases hskip
      rfl
  | true => exact skipVerbose_append_of_eq_cons hskip back

theorem skip_closing (hclosing : Closing back) :
    skip verbose back = back := by
  cases verbose with
  | false => rfl
  | true => exact skipVerbose_closing hclosing

theorem length_skip_le (verbose : Bool) (text : List Char) :
    (skip verbose text).length ≤ text.length := by
  have hverbose (inComment : Bool) :
      (skipVerbose inComment text).length ≤ text.length := by
    induction text generalizing inComment with
    | nil => exact Nat.le_refl _
    | cons c text ih =>
        rw [skipVerbose_cons]
        split
        · exact (ih _).trans (Nat.le_succ _)
        · exact Nat.le_refl _
  cases verbose with
  | false => exact Nat.le_refl _
  | true => exact hverbose false

theorem skip_nil (verbose : Bool) : skip verbose [] = [] := by
  cases verbose <;> rfl

/-- Nothing but a parenthesis can come to the front of an empty text. -/
theorem Closing.append_ne_cons (hclosing : Closing back) {c : Char}
    (hne : c ≠ ')') (htext : ∀ rest, text ≠ c :: rest) (rest : List Char) :
    text ++ back ≠ c :: rest := by
  obtain ⟨tail, rfl⟩ := hclosing.eq_cons
  cases text with
  | nil =>
      intro hsame
      exact hne (List.cons.inj hsame).1.symm
  | cons first text =>
      intro hsame
      exact htext text (congrArg (· :: text) (List.cons.inj hsame).1)

theorem Closing.append_ne_cons_cons (hclosing : Closing back) {c d : Char}
    (hfirst : c ≠ ')') (hsecond : d ≠ ')')
    (htext : ∀ rest, text ≠ c :: d :: rest) (rest : List Char) :
    text ++ back ≠ c :: d :: rest := by
  cases text with
  | nil => exact hclosing.append_ne_cons hfirst (by simp) _
  | cons first text =>
      intro hsame
      obtain ⟨rfl, hbehind⟩ := List.cons.inj hsame
      exact hclosing.append_ne_cons hsecond
        (fun left hleft => htext left (congrArg _ hleft)) rest hbehind

/-- A reader that looks for a sign first goes on if it does so behind the sign
and where the sign is not there. -/
theorem GoesOn.of_sign (c : Char)
    (read other : List Char → Option (α × List Char)) (hne : c ≠ ')')
    (hsign : ∀ rest, GoesOn (read (c :: rest))
      fun back => read (c :: (rest ++ back)))
    (hother : ∀ text, GoesOn (other text) fun back => other (text ++ back))
    (hread : ∀ text, (∀ rest, text ≠ c :: rest) → read text = other text)
    (text : List Char) :
    GoesOn (read text) fun back => read (text ++ back) := by
  by_cases hfirst : ∃ rest, text = c :: rest
  · obtain ⟨rest, rfl⟩ := hfirst
    exact hsign rest
  · push Not at hfirst
    rw [hread text hfirst]
    exact (hother text).congr fun back hclosing =>
      hread _ (hclosing.append_ne_cons hne hfirst)

/-- What is left behind the blanks goes on with the closing, or nothing is left
and the closing is lost as well. -/
theorem skip_append (verbose : Bool) (text : List Char) :
    (∀ back, Closing back →
      skip verbose (text ++ back) = skip verbose text ++ back) ∨
    skip verbose text = [] ∧
      ∀ back, Closing back → skip verbose (text ++ back) = [] := by
  cases hskip : skip verbose text with
  | nil =>
      cases verbose with
      | false =>
          cases hskip
          exact .inl fun back _ => rfl
      | true =>
          exact (skipVerbose_append_of_eq_nil hskip).imp_right
            fun hlost => ⟨rfl, hlost⟩
  | cons c rest =>
      exact .inl fun back _ => skip_append_of_eq_cons hskip back

/-- What is read up to a brace does not depend on what is behind the brace. -/
theorem untilBrace_append {body : List Char}
    (hread : untilBrace verbose inComment text = some (body, rest))
    (back : List Char) :
    untilBrace verbose inComment (text ++ back) =
      some (body, rest ++ back) := by
  induction text generalizing inComment body with
  | nil => cases hread
  | cons c text ih =>
      rw [List.cons_append, untilBrace_cons]
      rw [untilBrace_cons] at hread
      cases hdropped : dropped? verbose inComment c with
      | some opened =>
          rw [hdropped] at hread
          exact ih hread
      | none =>
          simp only [hdropped] at hread ⊢
          by_cases hbrace : (c == '}') = true
          · rw [if_pos hbrace] at hread ⊢
            cases hread
            rfl
          · rw [if_neg hbrace] at hread ⊢
            obtain ⟨⟨inner, left⟩, hinner, hsame⟩ :=
              Option.map_eq_some_iff.mp hread
            cases hsame
            rw [ih hinner]
            rfl

theorem digitRun_closing (hclosing : Closing back) :
    digitRun verbose inComment back = ([], if inComment then [] else back) := by
  cases hclosing with
  | alone => cases verbose <;> cases inComment <;> decide
  | anchored => cases verbose <;> cases inComment <;> decide

/-- A run of digits is read alike with a closing behind the text. -/
theorem goesOn_digitRun (verbose inComment : Bool) (text : List Char) :
    GoesOn (some (digitRun verbose inComment text))
      fun back => some (digitRun verbose inComment (text ++ back)) := by
  induction text generalizing inComment with
  | nil =>
      intro digits rest hread
      cases hread
      cases inComment with
      | false =>
          exact .inl fun back hclosing =>
            congrArg some (digitRun_closing hclosing)
      | true =>
          exact .inr ⟨rfl, fun back hclosing =>
            congrArg some (digitRun_closing hclosing)⟩
  | cons c text ih =>
      simp only [List.cons_append, digitRun_cons]
      cases dropped? verbose inComment c with
      | some opened => exact ih opened
      | none =>
          cases c.isDigit with
          | true => exact (ih false).map
          | false => exact (keeps_some [] (c :: text)).goesOn

theorem dropBlanks_append (hclosing : Closing back) (text : List Char) :
    (text ++ back).dropWhile isBlank = text.dropWhile isBlank ++ back := by
  have hback : back.dropWhile isBlank = back := by
    cases hclosing <;> decide
  rw [List.dropWhile_append, hback]
  cases text.dropWhile isBlank <;> rfl

theorem head?_append (hclosing : Closing back) {c : Char} (hne : c ≠ ')') :
    ((text ++ back).head? == some c) = (text.head? == some c) := by
  obtain ⟨tail, rfl⟩ := hclosing.eq_cons
  cases text with
  | nil => simp [hne.symm]
  | cons first text => rfl

/-- A look ahead comes upon the closing only where it would come upon
nothing. -/
theorem peek_append (hclosing : Closing back) (verbose : Bool)
    (text : List Char) {c : Char} (hne : c ≠ ')') :
    (peek verbose (text ++ back) == some c) =
      (peek verbose text == some c) := by
  cases verbose with
  | false => exact head?_append hclosing hne
  | true =>
      simp only [peek, if_true, dropBlanks_append hclosing]
      cases hblank : text.dropWhile isBlank with
      | nil =>
          obtain ⟨tail, rfl⟩ := hclosing.eq_cons
          simp [hne.symm]
      | cons first rest =>
          by_cases hsign : first = '#'
          · subst hsign
            simp only [List.cons_append, dropBlanks_append hclosing]
            exact head?_append hclosing hne
          · simp [hsign]

theorem dropWhile_append_of_eq_cons {keeps : Char → Bool} {c : Char}
    (hdrop : text.dropWhile keeps = c :: rest) (back : List Char) :
    (text ++ back).dropWhile keeps = c :: (rest ++ back) := by
  rw [List.dropWhile_append, hdrop]
  rfl

theorem takeWhile_append_of_dropWhile {keeps : Char → Bool} {c : Char}
    (hdrop : text.dropWhile keeps = c :: rest) (back : List Char) :
    (text ++ back).takeWhile keeps = text.takeWhile keeps := by
  have hlength := congrArg List.length
    (List.takeWhile_append_dropWhile (p := keeps) (l := text))
  rw [List.length_append, hdrop, List.length_cons] at hlength
  rw [List.takeWhile_append, if_neg (by omega)]

/-! ## Escapes -/

/-- What is read behind blanks goes as it would by itself. -/
theorem GoesOn.skip (read : List Char → Option (α × List Char))
    (hread : ∀ text, GoesOn (read text) fun back => read (text ++ back))
    (hnil : ∀ result rest, read [] = some (result, rest) → rest = [])
    (verbose : Bool) (text : List Char) :
    GoesOn (read (skip verbose text))
      fun back => read (skip verbose (text ++ back)) := by
  intro result rest hown
  rcases skip_append verbose text with hkept | ⟨hempty, hlost⟩
  · rcases hread _ result rest hown with hmore | ⟨rfl, hmore⟩
    · exact .inl fun back hclosing =>
        (congrArg read (hkept back hclosing)).trans (hmore back hclosing)
    · exact .inr ⟨rfl, fun back hclosing =>
        (congrArg read (hkept back hclosing)).trans (hmore back hclosing)⟩
  · rw [hempty] at hown
    obtain rfl := hnil result rest hown
    exact .inr ⟨rfl, fun back hclosing =>
      (congrArg read (hlost back hclosing)).trans hown⟩

namespace Escape

theorem eq_nil_of_fixedDigits {count value result : Nat}
    (hread : fixedDigits verbose count value [] = some (result, rest)) :
    rest = [] := by
  cases count with
  | zero =>
      cases hread
      rfl
  | succ count => cases hread

/-- Digits of a fixed count are read alike with a closing behind the text. -/
theorem goesOn_fixedDigits (verbose : Bool) (count value : Nat)
    (text : List Char) :
    GoesOn (fixedDigits verbose count value text)
      fun back => fixedDigits verbose count value (text ++ back) := by
  induction count generalizing value text with
  | zero => exact (keeps_some value text).goesOn
  | succ count ih =>
      cases text with
      | nil => exact goesOn_none
      | cons c text =>
          simp only [List.cons_append, fixedDigits, Option.bind_eq_bind]
          cases Text.Hexadecimal.digit? c with
          | none => exact goesOn_none
          | some digit =>
              exact .skip _ (ih _) (fun _ _ => eq_nil_of_fixedDigits)
                verbose text

def digitsOnly (verbose : Bool) (count : Nat) (text : List Char) :
    Option (Literal × List Char) := do
  let (value, rest) ← fixedDigits verbose count 0 text
  let c ← Text.Hexadecimal.charOf? value
  return (⟨c, count == 2⟩, rest)

theorem eq_nil_of_digitsOnly {count : Nat} {literal : Literal}
    (hread : digitsOnly verbose count [] = some (literal, rest)) :
    rest = [] := by
  obtain ⟨⟨value, left⟩, hdigits, hmade⟩ := Option.bind_eq_some_iff.mp hread
  obtain ⟨c, -, hsame⟩ := Option.bind_eq_some_iff.mp hmade
  cases hsame
  exact eq_nil_of_fixedDigits hdigits

theorem goesOn_digitsOnly (verbose : Bool) (count : Nat) (text : List Char) :
    GoesOn (digitsOnly verbose count text)
      fun back => digitsOnly verbose count (text ++ back) :=
  (goesOn_fixedDigits verbose count 0 text).check
    (f := Text.Hexadecimal.charOf?) (g := fun c => Literal.mk c (count == 2))

def hexadecimalAt (verbose : Bool) (count : Nat) :
    List Char → Option (Literal × List Char)
  | '{' :: rest => do
    let (digits, rest) ← untilBrace verbose false rest
    let c ← Text.Hexadecimal.char? digits
    return (⟨c, false⟩, rest)
  | text => digitsOnly verbose count text

theorem hexadecimalAt_of_ne {count : Nat} (hne : ∀ rest, text ≠ '{' :: rest) :
    hexadecimalAt verbose count text = digitsOnly verbose count text := by
  rw [hexadecimalAt]
  exact hne

theorem keeps_untilBrace (verbose inComment : Bool) (text : List Char) :
    Keeps (untilBrace verbose inComment text)
      fun back => untilBrace verbose inComment (text ++ back) :=
  fun _ _ hread back _ => untilBrace_append hread back

theorem goesOn_hexadecimalAt (verbose : Bool) (count : Nat) (text : List Char) :
    GoesOn (hexadecimalAt verbose count text)
      fun back => hexadecimalAt verbose count (text ++ back) := by
  refine GoesOn.of_sign '\x7b' (hexadecimalAt verbose count)
    (digitsOnly verbose count) (by decide) ?_ (goesOn_digitsOnly verbose count)
    (fun _ => hexadecimalAt_of_ne) text
  exact fun rest => (keeps_untilBrace verbose false rest).goesOn.check
    (f := Text.Hexadecimal.char?) (g := fun c => Literal.mk c false)

/-- Hexadecimal numbers are read alike. -/
theorem goesOn_hexadecimal (verbose : Bool) (count : Nat) (text : List Char) :
    GoesOn (hexadecimal verbose count text)
      fun back => hexadecimal verbose count (text ++ back) :=
  .skip _ (goesOn_hexadecimalAt verbose count)
    (fun _ _ => eq_nil_of_digitsOnly) verbose text

def propertyAt (verbose negated : Bool) :
    List Char → Option (ClassSyntax × List Char)
  | [] => none
  | '{' :: rest => do
    let (name, rest) ← untilBrace verbose false rest
    return (propertyClass negated name, rest)
  | c :: rest =>
    if c == '\\' then none
    else some (.property (.single (String.singleton c)) negated, rest)

theorem goesOn_propertyAt (verbose negated : Bool) (text : List Char) :
    GoesOn (propertyAt verbose negated text)
      fun back => propertyAt verbose negated (text ++ back) := by
  cases text with
  | nil => exact goesOn_none
  | cons c rest =>
      by_cases hbrace : c = '{'
      · subst hbrace
        refine GoesOn.bind (keeps_untilBrace verbose false rest).goesOn ?_ ?_
        · exact fun name rest => (keeps_some _ rest).goesOn
        · intro name result rest hread
          cases hread
          rfl
      · simp only [List.cons_append, propertyAt]
        cases c == '\\' with
        | true => exact goesOn_none
        | false => exact (keeps_some _ rest).goesOn

/-- Properties are read alike. -/
theorem goesOn_property (verbose negated : Bool) (text : List Char) :
    GoesOn (property verbose negated text)
      fun back => property verbose negated (text ++ back) :=
  .skip (propertyAt verbose negated) (goesOn_propertyAt verbose negated) nofun
    verbose text

theorem wordPlace_of_ne (hne : ∀ rest, text ≠ '{' :: rest) :
    wordPlace verbose text = some (.wordEdge, text) := by
  rw [wordPlace]
  exact hne

theorem wordPlace_brace (verbose : Bool) (text : List Char) :
    wordPlace verbose ('{' :: text) =
      match skip verbose text with
      | [] => none
      | c :: _ =>
        if c.isAlpha || c == '-' then
          (untilBrace verbose false text).bind fun (name, rest) =>
            (placeNamed? name).bind fun place => some (place, rest)
        else some (.wordEdge, '{' :: text) :=
  rfl

/-- The places of words are read alike. -/
theorem goesOn_wordPlace (verbose : Bool) (text : List Char) :
    GoesOn (wordPlace verbose text)
      fun back => wordPlace verbose (text ++ back) := by
  refine GoesOn.of_sign '\x7b' (wordPlace verbose)
    (fun text => some (.wordEdge, text)) (by decide) ?_
    (fun text => (keeps_some _ text).goesOn) (fun _ => wordPlace_of_ne) text
  intro rest
  rw [wordPlace_brace]
  cases hskip : skip verbose rest with
  | nil => exact goesOn_none
  | cons c more =>
      simp only [wordPlace_brace, skip_append_of_eq_cons hskip]
      cases c.isAlpha || c == '-' with
      | false => exact (keeps_some _ _).goesOn
      | true =>
          exact (keeps_untilBrace verbose false rest).goesOn.check (g := id)

/-- The letters behind which an escape goes on. -/
def continued : List Char := ['x', 'u', 'U', 'p', 'P', 'b']

def plain? (c : Char) : Option Atom :=
  if isLiteralSign c then some (.literal ⟨c, false⟩)
  else
    match control? c, shorthand? c, place? c with
    | some control, _, _ => some (.literal ⟨control, false⟩)
    | _, some inner, _ => some (.charClass inner)
    | _, _, some place => some (.place place)
    | none, none, none => none

theorem escape_of_not_continued {c : Char} (hplain : c ∉ continued)
    (rest : List Char) :
    escape verbose (c :: rest) = (plain? c).map (·, rest) := by
  unfold escape plain?
  dsimp only
  split
  · rfl
  · split
    iterate 6
      · exact absurd (by decide) hplain
    · cases control? c
      · cases shorthand? c
        · cases place? c <;> rfl
        · rfl
      · rfl

/-- Escapes of all kinds are read alike. -/
theorem goesOn_escape (verbose : Bool) (text : List Char) :
    GoesOn (escape verbose text) fun back => escape verbose (text ++ back) := by
  cases text with
  | nil => exact goesOn_none
  | cons c rest =>
      by_cases hletter : c ∈ continued
      · simp only [continued, List.mem_cons, List.not_mem_nil, or_false]
          at hletter
        rcases hletter with rfl | rfl | rfl | rfl | rfl | rfl
        · exact (goesOn_hexadecimal verbose 2 rest).map
        · exact (goesOn_hexadecimal verbose 4 rest).map
        · exact (goesOn_hexadecimal verbose 8 rest).map
        · exact (goesOn_property verbose false rest).map
        · exact (goesOn_property verbose true rest).map
        · exact (goesOn_wordPlace verbose rest).map
      · simp only [List.cons_append, escape_of_not_continued hletter]
        cases plain? c with
        | none => exact goesOn_none
        | some atom => exact (keeps_some atom rest).goesOn

end Escape

end SeriesIndex.Pattern
