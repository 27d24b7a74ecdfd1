import Mathlib
import SeriesIndex.Proofs.Pattern.Closing

/-!
# Classes in front of a closing parenthesis

A class in brackets ends with a bracket, so a reader that comes to its end has
not come to the end of the text.  Whatever closing is put behind the text is
therefore left over.  The rounds that a reader may take are counted by the
length of the text; more of them make no difference.
-/

namespace SeriesIndex.Pattern

namespace Bracket

variable {verbose : Bool} {text rest back : List Char}

/-! ## Names -/

def behindName? : List Char → Option (List Char)
  | ':' :: ']' :: after => some after
  | _ => none

theorem behindName?_append (hclosing : Closing back) (text : List Char) :
    behindName? (text ++ back) = (behindName? text).map (· ++ back) := by
  obtain ⟨tail, rfl⟩ := hclosing.eq_cons
  match text with
  | [] => rfl
  | [c] => simp [behindName?]
  | c :: d :: after =>
      by_cases hends : c = ':' ∧ d = ']'
      · obtain ⟨rfl, rfl⟩ := hends
        rfl
      · have hnone (left : List Char) :
            behindName? (c :: d :: left) = none := by
          rw [behindName?]
          rintro after hsame
          exact hends ⟨(List.cons.inj hsame).1,
            (List.cons.inj (List.cons.inj hsame).2).1⟩
        rw [hnone]
        exact hnone _

def named? (negated : Bool) (text : List Char) :
    Option (ClassSyntax × List Char) :=
  (behindName? (text.dropWhile (· != ':'))).bind fun after =>
    (asciiRanges? (text.takeWhile (· != ':'))).map fun ranges =>
      (.ascii ranges negated, after)

theorem match_eq_named? (negated : Bool) (text : List Char) :
    (match text.dropWhile (· != ':') with
      | ':' :: ']' :: after =>
        (asciiRanges? (text.takeWhile (· != ':'))).map fun ranges =>
          (ClassSyntax.ascii ranges negated, after)
      | _ => none) = named? negated text := by
  rw [named?]
  split
  · rename_i after hdrop
    rw [hdrop]
    rfl
  · rename_i hends
    rw [behindName?]
    · rfl
    · exact hends

theorem asciiClass?_of_ne (hne : ∀ rest, text ≠ ':' :: rest) :
    asciiClass? text = none := by
  rw [asciiClass?]
  exact hne

theorem asciiClass?_of_caret (rest : List Char) :
    asciiClass? (':' :: '^' :: rest) = named? true rest :=
  match_eq_named? true rest

theorem asciiClass?_of_not_caret (hne : ∀ rest, text ≠ '^' :: rest) :
    asciiClass? (':' :: text) = named? false text := by
  rw [asciiClass?]
  · exact match_eq_named? false text
  · exact hne

/-- A name of a class is read alike with a closing behind the text. -/
theorem named?_append (hclosing : Closing back) (negated : Bool)
    (text : List Char) :
    named? negated (text ++ back) =
      (named? negated text).map fun (read, rest) => (read, rest ++ back) := by
  rw [named?, named?]
  cases hdrop : text.dropWhile (· != ':') with
  | nil =>
      have hback : back.dropWhile (· != ':') = [] := by
        cases hclosing <;> decide
      rw [List.dropWhile_append, hdrop, List.isEmpty_nil, if_pos rfl, hback]
      rfl
  | cons c more =>
      rw [dropWhile_append_of_eq_cons hdrop,
        takeWhile_append_of_dropWhile hdrop, ← List.cons_append,
        behindName?_append hclosing]
      cases behindName? (c :: more) with
      | none => rfl
      | some after =>
          cases asciiRanges? (text.takeWhile (· != ':')) <;> rfl

theorem asciiClass?_append (hclosing : Closing back) (text : List Char) :
    asciiClass? (text ++ back) =
      (asciiClass? text).map fun (read, rest) => (read, rest ++ back) := by
  by_cases hcolon : ∃ rest, text = ':' :: rest
  · obtain ⟨rest, rfl⟩ := hcolon
    by_cases hcaret : ∃ name, rest = '^' :: name
    · obtain ⟨name, rfl⟩ := hcaret
      rw [asciiClass?_of_caret, ← named?_append hclosing]
      exact asciiClass?_of_caret (name ++ back)
    · push Not at hcaret
      rw [asciiClass?_of_not_caret hcaret, ← named?_append hclosing]
      exact asciiClass?_of_not_caret
        (hclosing.append_ne_cons (by decide) hcaret)
  · push Not at hcolon
    rw [asciiClass?_of_ne hcolon]
    exact asciiClass?_of_ne (hclosing.append_ne_cons (by decide) hcolon)

/-! ## Items -/

/-- One character of a class is read alike with a closing behind the text. -/
theorem goesOn_atom (verbose : Bool) (text : List Char) :
    GoesOn (atom verbose text) fun back => atom verbose (text ++ back) := by
  cases text with
  | nil => exact goesOn_none
  | cons c rest =>
      by_cases hescape : c = '\\'
      · subst hescape
        exact Escape.goesOn_escape verbose rest
      · have hatom (left : List Char) :
            atom verbose (c :: left) = some (.literal ⟨c, false⟩, left) := by
          rw [atom]
          exact hescape
        simp only [List.cons_append, hatom]
        exact (keeps_some _ rest).goesOn

/-- What is made of two atoms with a hyphen between them. -/
def range? : Atom → Atom → Option ClassSyntax
  | .literal first, .literal last =>
    if first.char ≤ last.char then some (.range first last) else none
  | _, _ => none

def behindHyphen (verbose : Bool) (first : Atom) (after : List Char) :
    Option (ClassSyntax × List Char) :=
  if peek verbose after == some ']' || peek verbose after == some '-' then
    (single first).map (·, '-' :: after)
  else
    (atom verbose (skip verbose after)).bind fun (last, rest) =>
      (range? first last).bind fun range => some (range, rest)

def itemAt (verbose : Bool) (first : Atom) :
    List Char → Option (ClassSyntax × List Char)
  | [] => none
  | '-' :: after => behindHyphen verbose first after
  | rest => (single first).map (·, rest)

theorem itemAt_of_ne {c : Char} (hne : c ≠ '-') (verbose : Bool)
    (first : Atom) (rest : List Char) :
    itemAt verbose first (c :: rest) = (single first).map (·, c :: rest) := by
  rw [itemAt]
  · exact nofun
  · exact fun after hsame => hne (List.cons.inj hsame).1

theorem item_eq (verbose : Bool) (text : List Char) :
    item verbose text =
      (atom verbose text).bind fun (first, rest) =>
        itemAt verbose first (skip verbose rest) := by
  rw [item]
  cases atom verbose text with
  | none => rfl
  | some read =>
      obtain ⟨first, rest⟩ := read
      simp only [Option.bind_eq_bind, Option.bind_some]
      cases skip verbose rest with
      | nil => rfl
      | cons c after =>
          by_cases hhyphen : c = '-'
          · subst hhyphen
            change (if peek verbose after == some ']' ||
              peek verbose after == some '-' then _ else _) =
                behindHyphen verbose first after
            rw [behindHyphen]
            split
            · cases single first <;> rfl
            · cases atom verbose (skip verbose after) with
              | none => rfl
              | some read =>
                  obtain ⟨last, left⟩ := read
                  cases first <;> cases last
                  any_goals rfl
                  simp only [Option.bind_some, range?]
                  split <;> rfl
          · rw [itemAt_of_ne hhyphen]
            cases single first <;> simp [hhyphen]

theorem goesOn_single (first : Atom) (text : List Char) :
    GoesOn ((single first).map (·, text))
      fun back => (single first).map (·, text ++ back) := by
  cases single first with
  | none => exact goesOn_none
  | some read => exact (keeps_some read text).goesOn

theorem goesOn_range (first : Atom) (verbose : Bool) (text : List Char) :
    GoesOn
      ((atom verbose text).bind fun (last, rest) =>
        (range? first last).bind fun range => some (range, rest))
      fun back => (atom verbose (text ++ back)).bind fun (last, rest) =>
        (range? first last).bind fun range => some (range, rest) :=
  (goesOn_atom verbose text).check (g := id)

theorem goesOn_behindHyphen (verbose : Bool) (first : Atom)
    (after : List Char) :
    GoesOn (behindHyphen verbose first after)
      fun back => behindHyphen verbose first (after ++ back) := by
  cases hahead : peek verbose after == some ']' ||
    peek verbose after == some '-' with
  | true =>
      rw [behindHyphen, hahead, if_pos rfl]
      refine (goesOn_single first ('-' :: after)).congr fun back hclosing => ?_
      rw [behindHyphen, peek_append hclosing verbose after (by decide),
        peek_append hclosing verbose after (by decide), hahead, if_pos rfl]
      rfl
  | false =>
      rw [behindHyphen, hahead, if_neg Bool.false_ne_true]
      have hrange := GoesOn.skip _ (goesOn_range first verbose) nofun
        verbose after
      refine hrange.congr fun back hclosing => ?_
      rw [behindHyphen, peek_append hclosing verbose after (by decide),
        peek_append hclosing verbose after (by decide), hahead,
        if_neg Bool.false_ne_true]

theorem goesOn_itemAt (verbose : Bool) (first : Atom) (text : List Char) :
    GoesOn (itemAt verbose first text)
      fun back => itemAt verbose first (text ++ back) := by
  cases text with
  | nil => exact goesOn_none
  | cons c after =>
      by_cases hhyphen : c = '-'
      · subst hhyphen
        exact goesOn_behindHyphen verbose first after
      · simp only [List.cons_append, itemAt_of_ne hhyphen]
        exact goesOn_single first (c :: after)

/-- One item of a class is read alike with a closing behind the text. -/
theorem goesOn_item (verbose : Bool) (text : List Char) :
    GoesOn (item verbose text) fun back => item verbose (text ++ back) := by
  simp only [item_eq]
  refine GoesOn.bind (goesOn_atom verbose text) ?_ ?_
  · intro first rest
    exact .skip _ (goesOn_itemAt verbose first) nofun verbose rest
  · intro first read rest hread
    rw [skip_nil] at hread
    cases hread

/-! ## Fronts -/

theorem hyphens_of_ne {rounds : Nat} {items : List ClassSyntax}
    (hne : ∀ rest, text ≠ '-' :: rest) :
    hyphens verbose rounds items text = (items, text) := by
  rw [hyphens]
  exact fun rounds rest _ hsame => hne rest hsame

theorem hyphens_nil (verbose : Bool) (rounds : Nat)
    (items : List ClassSyntax) :
    hyphens verbose rounds items [] = (items, []) :=
  hyphens_of_ne nofun

/-- With rounds enough, the hyphens that are read do not depend on how many
rounds there are. -/
theorem hyphens_append {rounds : Nat} {items read : List ClassSyntax} {c : Char}
    (hrounds : text.length ≤ rounds)
    (hread : hyphens verbose rounds items text = (read, c :: rest))
    (more : Nat) (back : List Char) :
    hyphens verbose (rounds + more) items (text ++ back) =
      (read, c :: (rest ++ back)) := by
  induction rounds generalizing items text with
  | zero =>
      rw [List.length_eq_zero_iff.mp (Nat.le_zero.mp hrounds), hyphens_nil]
        at hread
      cases hread
  | succ rounds ih =>
      by_cases hhyphen : ∃ after, text = '-' :: after
      · obtain ⟨after, rfl⟩ := hhyphen
        have hread : hyphens verbose rounds (.literal ⟨'-', false⟩ :: items)
            (skip verbose after) = (read, c :: rest) := hread
        cases hskip : skip verbose after with
        | nil =>
            rw [hskip, hyphens_nil] at hread
            cases hread
        | cons d others =>
            have hlength := length_skip_le verbose after
            rw [List.length_cons] at hrounds
            rw [hskip] at hread hlength
            have hmore := ih (hlength.trans (by omega)) hread
            rw [Nat.succ_add, List.cons_append, hyphens,
              skip_append_of_eq_cons hskip]
            exact hmore
      · push Not at hhyphen
        rw [hyphens_of_ne hhyphen] at hread
        obtain ⟨rfl, rfl⟩ := Prod.mk.inj hread
        rw [hyphens_of_ne]
        · rfl
        · exact fun after hsame =>
            hhyphen rest (congrArg (· :: rest) (List.cons.inj hsame).1)

/-- What follows on the caret that negates a class, if there is one. -/
def negation (verbose : Bool) : List Char → Bool × List Char
  | '^' :: rest => (true, skip verbose rest)
  | text => (false, text)

theorem negation_of_ne (hne : ∀ rest, text ≠ '^' :: rest) :
    negation verbose text = (false, text) := by
  rw [negation]
  exact hne

theorem negation_append {negated : Bool} {c : Char}
    (hread : negation verbose text = (negated, c :: rest)) (back : List Char) :
    negation verbose (text ++ back) = (negated, c :: (rest ++ back)) := by
  by_cases hcaret : ∃ after, text = '^' :: after
  · obtain ⟨after, rfl⟩ := hcaret
    obtain ⟨rfl, hskip⟩ := Prod.mk.inj hread
    exact congrArg (true, ·) (skip_append_of_eq_cons hskip back)
  · push Not at hcaret
    rw [negation_of_ne hcaret] at hread
    obtain ⟨rfl, rfl⟩ := Prod.mk.inj hread
    exact negation_of_ne fun after hsame =>
      hcaret rest (congrArg (· :: rest) (List.cons.inj hsame).1)

/-- A bracket that comes first stands for itself. -/
def leading (verbose : Bool) :
    List ClassSyntax × List Char → List ClassSyntax × List Char
  | ([], ']' :: rest) => ([.literal ⟨']', false⟩], skip verbose rest)
  | (items, text) => (items, text)

theorem leading_of_ne {items : List ClassSyntax}
    (hne : ∀ rest, items = [] → text ≠ ']' :: rest) :
    leading verbose (items, text) = (items, text) := by
  rw [leading]
  exact fun rest hitems htext => hne rest hitems htext

theorem front_eq (verbose : Bool) (text : List Char) :
    front verbose text =
      ((negation verbose (skip verbose text)).1,
        leading verbose
          (hyphens verbose (negation verbose (skip verbose text)).2.length []
            (negation verbose (skip verbose text)).2)) := by
  change (match hyphens verbose
      (negation verbose (skip verbose text)).2.length []
      (negation verbose (skip verbose text)).2 with
    | ([], ']' :: rest) =>
      ((negation verbose (skip verbose text)).1,
        [ClassSyntax.literal ⟨']', false⟩], skip verbose rest)
    | (items, text') =>
      ((negation verbose (skip verbose text)).1, items, text')) = _
  generalize negation verbose (skip verbose text) = read
  split
  · rename_i hread
    rw [hread]
    rfl
  · rename_i items left hne hread
    rw [hread, leading_of_ne hne]

theorem leading_append {items read : List ClassSyntax} {c : Char}
    (hread : leading verbose (items, text) = (read, c :: rest))
    (back : List Char) :
    ∃ d after, text = d :: after ∧
      leading verbose (items, d :: (after ++ back)) =
        (read, c :: (rest ++ back)) := by
  by_cases hfirst : items = [] ∧ ∃ after, text = ']' :: after
  · obtain ⟨rfl, after, rfl⟩ := hfirst
    obtain ⟨hread, hskip⟩ := Prod.mk.inj hread
    refine ⟨']', after, rfl, ?_⟩
    rw [← hread, ← skip_append_of_eq_cons hskip back]
    rfl
  · push Not at hfirst
    rw [leading_of_ne fun rest hitems => hfirst hitems rest] at hread
    obtain ⟨rfl, rfl⟩ := Prod.mk.inj hread
    refine ⟨c, rest, rfl, leading_of_ne fun after hitems hsame => ?_⟩
    exact hfirst hitems rest (congrArg (· :: rest) (List.cons.inj hsame).1)

theorem negation_skip_append {negated : Bool} {c : Char}
    (hread : negation verbose (skip verbose text) = (negated, c :: rest))
    (back : List Char) :
    negation verbose (skip verbose (text ++ back)) =
      (negated, c :: (rest ++ back)) := by
  cases hskip : skip verbose text with
  | nil =>
      rw [hskip] at hread
      cases hread
  | cons d after =>
      rw [hskip] at hread
      rw [skip_append_of_eq_cons hskip]
      exact negation_append hread back

/-- The front of a bracket that leaves something to read is not changed by what
follows. -/
theorem front_append {negated : Bool} {read : List ClassSyntax} {c : Char}
    (hread : front verbose text = (negated, read, c :: rest))
    (back : List Char) :
    front verbose (text ++ back) = (negated, read, c :: (rest ++ back)) := by
  rw [front_eq] at hread ⊢
  cases hnegation : negation verbose (skip verbose text) with
  | mk sign inner =>
      rw [hnegation] at hread
      have hsign : sign = negated := (Prod.mk.inj hread).1
      have hleading : leading verbose (hyphens verbose inner.length [] inner) =
          (read, c :: rest) := (Prod.mk.inj hread).2
      subst hsign
      cases inner with
      | nil =>
          rw [hyphens_nil] at hleading
          cases hleading
      | cons e inner =>
          rw [negation_skip_append hnegation]
          cases hhyphens : hyphens verbose (e :: inner).length []
            (e :: inner) with
          | mk items left =>
              rw [hhyphens] at hleading
              obtain ⟨d, after, rfl, hmatch⟩ := leading_append hleading back
              have hmore := hyphens_append (Nat.le_refl _) hhyphens
                back.length back
              rw [← List.length_append] at hmore
              rw [← List.cons_append, hmore, hmatch]

/-! ## Classes -/

def operation? : Char → Option SetOperator
  | '&' => some .intersection
  | '-' => some .difference
  | '~' => some .symmetricDifference
  | _ => none

def operator? : List Char → Option (SetOperator × List Char)
  | c :: d :: rest => if c = d then (operation? c).map (·, rest) else none
  | _ => none

/-- Operators are read alike. -/
theorem operator?_append (hclosing : Closing back) (text : List Char) :
    operator? (text ++ back) =
      (operator? text).map fun (read, rest) => (read, rest ++ back) := by
  match text with
  | [] => cases hclosing <;> rfl
  | [c] =>
      obtain ⟨tail, rfl⟩ := hclosing.eq_cons
      change (if c = ')' then (operation? c).map (·, tail) else none) = none
      split
      · subst_vars
        rfl
      · rfl
  | c :: d :: after =>
      simp only [List.cons_append, operator?]
      split
      · cases operation? c <;> rfl
      · rfl

section Inside

variable {rounds : Nat} {pending : Option (SetOperator × ClassSyntax)}
  {items : List ClassSyntax}

/-- A round goes by what stands behind blanks. -/
theorem inside_succ :
    inside verbose (rounds + 1) pending items text =
      match skip verbose text with
      | [] => none
      | '[' :: rest =>
        match asciiClass? rest with
        | some (named, rest) =>
          inside verbose rounds pending (named :: items) rest
        | none =>
          let (negated, first, rest) := front verbose rest
          match inside verbose rounds none first rest with
          | some (inner, rest) =>
            inside verbose rounds pending (.bracket negated inner :: items) rest
          | none => none
      | ']' :: rest => some (settle pending items, rest)
      | '&' :: '&' :: rest =>
        inside verbose rounds (some (.intersection, settle pending items)) []
          rest
      | '-' :: '-' :: rest =>
        inside verbose rounds (some (.difference, settle pending items)) [] rest
      | '~' :: '~' :: rest =>
        inside verbose rounds
          (some (.symmetricDifference, settle pending items)) [] rest
      | text =>
        match item verbose text with
        | some (next, rest) =>
          inside verbose rounds pending (next :: items) rest
        | none => none :=
  rfl

/-- The text may not end inside a class. -/
theorem inside_nil (verbose : Bool) (rounds : Nat)
    (pending : Option (SetOperator × ClassSyntax))
    (items : List ClassSyntax) :
    inside verbose rounds pending items [] = none := by
  cases rounds with
  | zero => rfl
  | succ rounds => rw [inside_succ, skip_nil]

theorem inside_of_named {named : ClassSyntax}
    (hskip : skip verbose text = '[' :: rest) {left : List Char}
    (hnamed : asciiClass? rest = some (named, left)) :
    inside verbose (rounds + 1) pending items text =
      inside verbose rounds pending (named :: items) left := by
  rw [inside_succ, hskip]
  simp only [hnamed]

theorem inside_of_open (hskip : skip verbose text = '[' :: rest)
    (hnamed : asciiClass? rest = none) :
    inside verbose (rounds + 1) pending items text =
      (inside verbose rounds none (front verbose rest).2.1
        (front verbose rest).2.2).bind fun (inner, left) =>
          inside verbose rounds pending
            (.bracket (front verbose rest).1 inner :: items) left := by
  rw [inside_succ, hskip]
  simp only [hnamed]
  cases inside verbose rounds none (front verbose rest).2.1
    (front verbose rest).2.2 <;> rfl

theorem inside_of_close (hskip : skip verbose text = ']' :: rest) :
    inside verbose (rounds + 1) pending items text =
      some (settle pending items, rest) := by
  rw [inside_succ, hskip]
  rfl

theorem eq_of_operator? {operator : SetOperator}
    (hoperator : operator? text = some (operator, rest)) :
    ∃ c, text = c :: c :: rest ∧ operation? c = some operator := by
  match text with
  | [] => cases hoperator
  | [c] => cases hoperator
  | c :: d :: after =>
      rw [operator?] at hoperator
      split at hoperator
      · rename_i htwice
        subst htwice
        obtain ⟨found, hfound, hsame⟩ := Option.map_eq_some_iff.mp hoperator
        cases hsame
        exact ⟨c, rfl, hfound⟩
      · cases hoperator

theorem inside_of_operator {operator : SetOperator}
    (hoperator : operator? (skip verbose text) = some (operator, rest)) :
    inside verbose (rounds + 1) pending items text =
      inside verbose rounds (some (operator, settle pending items)) []
        rest := by
  obtain ⟨c, hskip, hoperation⟩ := eq_of_operator? hoperator
  rw [operation?.eq_def] at hoperation
  rw [inside_succ, hskip]
  split at hoperation
  case h_4 => cases hoperation
  all_goals
    cases hoperation
    rfl

theorem inside_of_item {c : Char} (hskip : skip verbose text = c :: rest)
    (hopen : c ≠ '[') (hclose : c ≠ ']')
    (hoperator : operator? (c :: rest) = none) :
    inside verbose (rounds + 1) pending items text =
      (item verbose (c :: rest)).bind fun (next, left) =>
        inside verbose rounds pending (next :: items) left := by
  rw [inside_succ, hskip]
  split
  case h_1 hsame => cases hsame
  case h_2 hsame => exact absurd (List.cons.inj hsame).1 hopen
  case h_3 hsame => exact absurd (List.cons.inj hsame).1 hclose
  case h_7 =>
    cases item verbose (c :: rest) <;> rfl
  all_goals
    rename_i hsame
    cases hsame
    cases hoperator

/-- A round reads a class up to the bracket that ends it, whatever closing is
put behind the text. -/
def KeepsRound (verbose : Bool) (rounds more : Nat) : Prop :=
  ∀ pending items text, Keeps (inside verbose rounds pending items text)
    fun back => inside verbose (rounds + more) pending items (text ++ back)

/-- A bracket inside is read by the rounds that are left: it is a named class,
or a class of its own with what stands behind it. -/
theorem keeps_open {more : Nat} (hround : KeepsRound verbose rounds more)
    (hskip : skip verbose text = '[' :: rest) :
    Keeps (inside verbose (rounds + 1) pending items text) fun back =>
      inside verbose (rounds + more + 1) pending items (text ++ back) := by
  intro read left hread back hclosing
  have hlonger := skip_append_of_eq_cons hskip back
  have hclass := asciiClass?_append hclosing rest
  cases hnamed : asciiClass? rest with
  | some found =>
      obtain ⟨named, after⟩ := found
      rw [hnamed] at hclass
      rw [inside_of_named hskip hnamed] at hread
      dsimp only
      rw [inside_of_named hlonger hclass]
      exact hround _ _ _ read left hread back hclosing
  | none =>
      rw [hnamed] at hclass
      rw [inside_of_open hskip hnamed] at hread
      dsimp only
      rw [inside_of_open hlonger hclass]
      obtain ⟨⟨inner, after⟩, hinner, hread⟩ :=
        Option.bind_eq_some_iff.mp hread
      rcases hfront : front verbose rest with ⟨negated, first, body⟩
      rw [hfront] at hinner hread
      cases body with
      | nil =>
          rw [inside_nil] at hinner
          cases hinner
      | cons d body =>
          rw [front_append hfront back]
          exact Option.bind_eq_some_iff.mpr ⟨_,
            hround _ _ _ inner after hinner back hclosing,
            hround _ _ _ read left hread back hclosing⟩

end Inside

/-- A class is read up to the bracket that ends it in every round. -/
theorem keeps_inside (verbose : Bool) (rounds more : Nat) :
    KeepsRound verbose rounds more := by
  induction rounds with
  | zero => exact fun pending items text => nofun
  | succ rounds ih =>
      intro pending items text read rest hread back hclosing
      dsimp only
      rw [Nat.succ_add]
      cases hskip : skip verbose text with
      | nil =>
          rw [inside_succ, hskip] at hread
          cases hread
      | cons c after =>
          have hlonger := skip_append_of_eq_cons hskip back
          by_cases hopen : c = '['
          · subst hopen
            exact keeps_open ih hskip read rest hread back hclosing
          by_cases hclose : c = ']'
          · subst hclose
            rw [inside_of_close hskip] at hread
            cases hread
            exact inside_of_close hlonger
          have hsign := operator?_append hclosing (c :: after)
          cases hoperator : operator? (c :: after) with
          | some found =>
              obtain ⟨operator, left⟩ := found
              rw [hoperator] at hsign
              rw [inside_of_operator (hskip ▸ hoperator)] at hread
              rw [inside_of_operator (by rw [hlonger]; exact hsign)]
              exact ih _ _ _ read rest hread back hclosing
          | none =>
              rw [hoperator] at hsign
              rw [inside_of_item hskip hopen hclose hoperator] at hread
              rw [inside_of_item hlonger hopen hclose hsign]
              exact (goesOn_item verbose (c :: after)).keeps_bind
                (fun next left => ih _ _ _) (fun next => inside_nil _ _ _ _)
                read rest hread back hclosing

end Bracket

/-- A bracket is its front, and what stands inside. -/
theorem bracket_of_front {verbose negated : Bool} {text body : List Char}
    {first : List ClassSyntax}
    (hfront : Bracket.front verbose text = (negated, first, body)) :
    bracket verbose text =
      (Bracket.inside verbose (body.length + 1) none first body).map
        fun (inner, rest) => (.bracket negated inner, rest) := by
  rw [bracket, hfront]

/-- A bracket that is read at the end of a pattern is read alike before the
closing sign. -/
theorem keeps_bracket (verbose : Bool) (text : List Char) :
    Keeps (bracket verbose text)
      fun back => bracket verbose (text ++ back) := by
  intro read rest hread back hclosing
  rcases hfront : Bracket.front verbose text with ⟨negated, first, body⟩
  rw [bracket_of_front hfront] at hread
  obtain ⟨⟨inner, left⟩, hinner, hsame⟩ := Option.map_eq_some_iff.mp hread
  cases hsame
  cases body with
  | nil =>
      rw [Bracket.inside_nil] at hinner
      cases hinner
  | cons c body =>
      refine (bracket_of_front (Bracket.front_append hfront back)).trans ?_
      refine Option.map_eq_some_iff.mpr ⟨(inner, rest ++ back), ?_, rfl⟩
      have hlonger := Bracket.keeps_inside verbose _ back.length none first _
        inner rest hinner back hclosing
      have hrounds : (c :: body).length + 1 + back.length =
          (c :: (body ++ back)).length + 1 := by
        simp only [List.length_cons, List.length_append]
        omega
      rw [hrounds] at hlonger
      exact hlonger

end SeriesIndex.Pattern
