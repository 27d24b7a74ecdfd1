import Mathlib
import SeriesIndex.Proofs.Toml.Integers
import SeriesIndex.Toml.Document

/-!
# Documents that list integers

A document may list names with integers line by line, with blanks around the
parts of a line, with comments behind them, and with empty lines between.  It is
read as the table of these names, in the order of the lines, as long as no name
comes twice.
-/

namespace SeriesIndex.Toml

/-! ## Layout -/

def IsBlanks (text : List Char) : Prop :=
  ∀ c ∈ text, isBlank c = true

def IsRemark (text : List Char) : Prop :=
  text = [] ∨ ∃ words, text = '#' :: words ∧
    ∀ c ∈ words, isCommentChar c = true

/-- A line is closed by blanks, a comment or none, and a line end, before
`rest`.  The last line of a text needs no line end. -/
def Closes (text rest : List Char) : Prop :=
  ∃ blanks remark stop, text = blanks ++ (remark ++ stop) ∧
    IsBlanks blanks ∧ IsRemark remark ∧
    (stop = '\n' :: rest ∨ stop = '\r' :: '\n' :: rest ∨
      stop = [] ∧ rest = [])

/-- A name that can stand as a key without quotes. -/
def IsBare (name : String) : Prop :=
  name.toList ≠ [] ∧ ∀ c ∈ name.toList, isBareChar c = true

/-- A text lists names with integers: line by line, a name, an equals sign and
the digits of the number, with blanks around them, and lines without a name in
between. -/
inductive Lists : List (String × ℕ) → List Char → Prop
  | nil : Lists [] []
  | gap {items text rest} (hclosed : Closes text rest)
      (hrest : Lists items rest) : Lists items text
  | entry {name number items before between after text rest}
      (hbefore : IsBlanks before) (hbetween : IsBlanks between)
      (hafter : IsBlanks after) (hname : IsBare name)
      (hnumber : number ≤ 0x7fffffffffffffff) (hclosed : Closes text rest)
      (hrest : Lists items rest) :
      Lists ((name, number) :: items)
        (before ++ (name.toList ++ (between ++
          '=' :: (after ++ (Nat.toDigits 10 number ++ text)))))

/-! ## Parts of a line -/

theorem skipBlanks_append {blanks text : List Char}
    (hblanks : IsBlanks blanks) :
    skipBlanks (blanks ++ text) = skipBlanks text :=
  List.dropWhile_append_of_pos hblanks

theorem skipBlanks_cons {c : Char} {text : List Char} (hc : isBlank c = false) :
    skipBlanks (c :: text) = c :: text := by
  rw [skipBlanks, List.dropWhile_cons_of_neg (by simp [hc])]

/-- What closes a line stands where blanks and a comment are over. -/
theorem Closes.skipComment {text rest : List Char}
    (hclosed : Closes text rest) :
    skipComment (skipBlanks text) = '\n' :: rest ∨
      skipComment (skipBlanks text) = '\r' :: '\n' :: rest ∨
        skipComment (skipBlanks text) = [] ∧ rest = [] := by
  obtain ⟨blanks, remark, stop, rfl, hblanks, hremark, hstop⟩ := hclosed
  rw [skipBlanks_append hblanks]
  rcases hremark with rfl | ⟨words, rfl, hwords⟩
  · rcases hstop with rfl | rfl | ⟨rfl, rfl⟩
    · exact .inl rfl
    · exact .inr (.inl rfl)
    · exact .inr (.inr ⟨rfl, rfl⟩)
  · rw [List.cons_append, skipBlanks_cons rfl, Toml.skipComment,
      List.dropWhile_append_of_pos hwords]
    rcases hstop with rfl | rfl | ⟨rfl, rfl⟩
    · exact .inl rfl
    · exact .inr (.inl rfl)
    · exact .inr (.inr ⟨rfl, rfl⟩)

theorem Closes.lineEnd? {text rest : List Char} (hclosed : Closes text rest) :
    lineEnd? text = some rest := by
  rw [Toml.lineEnd?]
  rcases hclosed.skipComment with hstop | hstop | ⟨hstop, rfl⟩ <;>
    rw [hstop] <;> rfl

theorem Closes.ends {text rest : List Char} (hclosed : Closes text rest) :
    Ends text := by
  obtain ⟨blanks, remark, stop, rfl, hblanks, hremark, hstop⟩ := hclosed
  intro c hc
  cases blanks with
  | cons first blanks =>
      obtain rfl : first = c := by simpa using hc
      have hblank : first = ' ' ∨ first = '\t' := by
        simpa [isBlank] using hblanks first (by simp)
      rcases hblank with rfl | rfl <;> decide
  | nil =>
      rcases hremark with rfl | ⟨words, rfl, -⟩
      · rcases hstop with rfl | rfl | ⟨rfl, -⟩
        · obtain rfl : '\n' = c := by simpa using hc
          decide
        · obtain rfl : '\r' = c := by simpa using hc
          decide
        · cases hc
      · obtain rfl : '#' = c := by simpa using hc
        decide

/-! ## Keys and values -/

theorem isBareChar_ne {c sign : Char} (hc : isBareChar c = true)
    (hsign : isBareChar sign = false) : c ≠ sign := by
  rintro rfl
  rw [hsign] at hc
  cases hc

theorem isBareChar_of_isDigit {c : Char} (hc : c.isDigit = true) :
    isBareChar c = true := by
  simp [isBareChar, Char.isAlphanum, hc]

theorem isBlank_of_isBareChar {c : Char} (hc : isBareChar c = true) :
    isBlank c = false := by
  have hspace : c ≠ ' ' := isBareChar_ne hc rfl
  have htab : c ≠ '\t' := isBareChar_ne hc rfl
  simp [isBlank, hspace, htab]

theorem isBareChar_of_isBlank {c : Char} (hc : isBlank c = true) :
    isBareChar c = false := by
  cases hbare : isBareChar c with
  | false => rfl
  | true =>
      rw [isBlank_of_isBareChar hbare] at hc
      cases hc

theorem IsBare.toList_eq {name : String} (hname : IsBare name) :
    ∃ first others,
      name.toList = first :: others ∧ isBareChar first = true := by
  obtain ⟨first, others, hfirst⟩ := List.exists_cons_of_ne_nil hname.1
  exact ⟨first, others, hfirst, hname.2 first (by simp [hfirst])⟩

/-- Names and numbers do not start with a blank. -/
theorem skipBlanks_of_bare {run : List Char} (hsome : run ≠ [])
    (hbare : ∀ c ∈ run, isBareChar c = true) (rest : List Char) :
    skipBlanks (run ++ rest) = run ++ rest := by
  obtain ⟨first, others, rfl⟩ := List.exists_cons_of_ne_nil hsome
  have hfirst : isBareChar first = true := hbare first (by simp)
  rw [List.cons_append, skipBlanks_cons (isBlank_of_isBareChar hfirst)]

/-- Behind a name there is a character that cannot be part of it. -/
theorem keyPart_bare {name : String} (hname : IsBare name) {c : Char}
    {rest : List Char} (hc : isBareChar c = false) :
    keyPart (name.toList ++ c :: rest) = some (name, c :: rest) := by
  obtain ⟨first, others, hfirst, hplain⟩ := hname.toList_eq
  obtain ⟨hsome, hbare⟩ := hname
  have htake :
      (name.toList ++ c :: rest).takeWhile isBareChar = name.toList := by
    rw [List.takeWhile_append_of_pos hbare,
      List.takeWhile_cons_of_neg (by simp [hc]), List.append_nil]
  have hdrop : (name.toList ++ c :: rest).dropWhile isBareChar = c :: rest := by
    rw [List.dropWhile_append_of_pos hbare,
      List.dropWhile_cons_of_neg (by simp [hc])]
  rw [keyPart.eq_def]
  split
  · rename_i text htext
    rw [hfirst, List.cons_append] at htext
    exact absurd (List.cons.inj htext).1 (isBareChar_ne hplain rfl)
  · rename_i text htext
    rw [hfirst, List.cons_append] at htext
    exact absurd (List.cons.inj htext).1 (isBareChar_ne hplain rfl)
  · rw [htake, hdrop]
    split
    · exact absurd ‹_› hsome
    · rw [String.ofList_toList]

/-- A name and an equals sign are a key of one part, and what comes after it. -/
theorem key_bare {name : String} (hname : IsBare name) {between : List Char}
    (hbetween : IsBlanks between) (rest : List Char) :
    key (name.toList ++ (between ++ '=' :: rest)) =
      some ([name], '=' :: rest) := by
  have hpart : keyPart (name.toList ++ (between ++ '=' :: rest)) =
      some (name, between ++ '=' :: rest) := by
    cases between with
    | nil => exact keyPart_bare hname rfl
    | cons c between =>
        exact keyPart_bare hname (isBareChar_of_isBlank (hbetween c (by simp)))
  have hskip : skipBlanks (between ++ '=' :: rest) = '=' :: rest := by
    rw [skipBlanks_append hbetween, skipBlanks_cons rfl]
  rw [key, depthBound, keyParts, skipBlanks_of_bare hname.1 hname.2, hpart]
  simp [hskip]

theorem value_toDigits (depth steps : ℕ) {number : ℕ} {rest : List Char}
    (hnumber : number ≤ 0x7fffffffffffffff) (hends : Ends rest) :
    value depth (steps + 1) (Nat.toDigits 10 number ++ rest) =
      some (.value (.integer number), rest) := by
  have hread := Scalar.read_toDigits hnumber hends
  have hdigital := Scalar.digital_toDigits number hends
  generalize Nat.toDigits 10 number ++ rest = text at hread hdigital ⊢
  unfold value
  -- Texts, arrays and inline tables start with a sign that is no digit.
  split
  · exact absurd hdigital (Scalar.not_digital_cons rfl (by decide))
  · exact absurd hdigital (Scalar.not_digital_cons rfl (by decide))
  · exact absurd hdigital (Scalar.not_digital_cons rfl (by decide))
  · exact absurd hdigital (Scalar.not_digital_cons rfl (by decide))
  · exact absurd hdigital (Scalar.not_digital_cons rfl (by decide))
  · exact absurd hdigital (Scalar.not_digital_cons rfl (by decide))
  · rw [hread]
    rfl

/-! ## Tables -/

def integers (items : List (String × ℕ)) : Entries :=
  items.map fun item => (item.1, .value (.integer item.2))

namespace Entries

variable {entries : Entries} {name : String} {node : Node}

theorem get?_eq_none (hname : name ∉ entries.map Prod.fst) :
    entries.get? name = none := by
  rw [get?, List.lookup_eq_none_iff]
  intro entry hentry
  simp only [bne_iff_ne, ne_eq]
  rintro rfl
  exact hname (List.mem_map_of_mem hentry)

theorem put_of_not_mem (hname : name ∉ entries.map Prod.fst) :
    entries.put name node = entries ++ [(name, node)] := by
  induction entries with
  | nil => rfl
  | cons entry rest ih =>
      obtain ⟨hne, hrest⟩ : name ≠ entry.1 ∧ name ∉ rest.map Prod.fst := by
        simpa using hname
      rw [put, if_neg (Ne.symm hne), ih hrest, List.cons_append]

/-- A name that is free is put behind all others. -/
theorem addDotted_of_not_mem (hname : name ∉ entries.map Prod.fst) :
    entries.addDotted node [name] = some (entries ++ [(name, node)]) := by
  rw [addDotted, add, get?_eq_none hname, put_of_not_mem hname]
  rfl

end Entries

/-! ## Lines -/

namespace Document

theorem pair_entry {entries : Entries} {name : String} {number : ℕ}
    {between after text rest : List Char} (hbetween : IsBlanks between)
    (hafter : IsBlanks after) (hname : IsBare name)
    (hnumber : number ≤ 0x7fffffffffffffff) (hclosed : Closes text rest)
    (hfree : name ∉ entries.map Prod.fst) :
    pair { root := entries } (name.toList ++ (between ++
      '=' :: (after ++ (Nat.toDigits 10 number ++ text)))) = some
        ({ root := entries ++ [(name, .value (.integer number))] }, rest) := by
  have hvalue (steps : ℕ) : value (depthBound - 1) (2 * steps + 2)
      (skipBlanks (after ++ (Nat.toDigits 10 number ++ text))) =
        some (.value (.integer number), text) := by
    rw [skipBlanks_append hafter,
      skipBlanks_of_bare (Scalar.toDigits_ne_nil number) fun c hc =>
        isBareChar_of_isDigit (Scalar.isDigit_of_mem_toDigits number c hc)]
    exact value_toDigits _ _ hnumber hclosed.ends
  rw [pair, key_bare hname hbetween]
  simp [hvalue, hclosed.lineEnd?, Entries.within,
    Entries.addDotted_of_not_mem hfree]

theorem lines_entry {entries : Entries} {name : String} {number steps : ℕ}
    {before between after text rest : List Char} (hbefore : IsBlanks before)
    (hbetween : IsBlanks between) (hafter : IsBlanks after)
    (hname : IsBare name) (hnumber : number ≤ 0x7fffffffffffffff)
    (hclosed : Closes text rest) (hfree : name ∉ entries.map Prod.fst) :
    lines (steps + 1) { root := entries } (before ++ (name.toList ++ (between ++
      '=' :: (after ++ (Nat.toDigits 10 number ++ text))))) =
      lines steps { root := entries ++ [(name, .value (.integer number))] }
        rest := by
  have hpair := pair_entry hbetween hafter hname hnumber hclosed hfree
  have hskip := skipBlanks_of_bare hname.1 hname.2
    (between ++ '=' :: (after ++ (Nat.toDigits 10 number ++ text)))
  obtain ⟨first, others, hfirst, hplain⟩ := hname.toList_eq
  have hopening : first ≠ '[' := isBareChar_ne hplain rfl
  have hremark : first ≠ '#' := isBareChar_ne hplain rfl
  have hline : first ≠ '\n' := isBareChar_ne hplain rfl
  have hreturn : first ≠ '\r' := isBareChar_ne hplain rfl
  rw [lines, skipBlanks_append hbefore, hskip]
  rw [hfirst, List.cons_append] at hpair ⊢
  simp [hopening, hremark, hline, hreturn, hpair]

theorem lines_gap {document : Document} {text rest : List Char} {steps : ℕ}
    (hclosed : Closes text rest) :
    lines (steps + 2) document text = lines (steps + 1) document rest := by
  obtain ⟨blanks, remark, stop, rfl, hblanks, hremark, hstop⟩ := hclosed
  rw [lines, skipBlanks_append hblanks]
  rcases hremark with rfl | ⟨words, rfl, hwords⟩
  · rcases hstop with rfl | rfl | ⟨rfl, rfl⟩
    · rfl
    · rfl
    · rfl
  · have hend : lineEnd? ('#' :: words ++ stop) = some rest :=
      Closes.lineEnd? ⟨[], '#' :: words, stop, rfl, by simp [IsBlanks],
        .inr ⟨words, rfl, hwords⟩, hstop⟩
    rw [List.cons_append, skipBlanks_cons rfl]
    rw [List.cons_append] at hend
    simp [hend]

end Document

theorem Closes.length_lt {text rest : List Char} (hclosed : Closes text rest) :
    rest.length < text.length ∨ text = [] ∧ rest = [] := by
  obtain ⟨blanks, remark, stop, rfl, -, -, rfl | rfl | ⟨rfl, rfl⟩⟩ := hclosed
  · left
    simp
    omega
  · left
    simp
    omega
  · cases blanks <;> cases remark <;> simp

/-- What lines list is put into the table, behind what is there. -/
theorem Lists.lines_eq {items : List (String × ℕ)} {text : List Char}
    (hlists : Lists items text) {entries : Entries} {steps : ℕ}
    (hsteps : text.length < steps)
    (hdistinct : (entries.map Prod.fst ++ items.map Prod.fst).Nodup) :
    Document.lines steps { root := entries } text =
      some { root := entries ++ integers items } := by
  induction hlists generalizing entries steps with
  | nil =>
      obtain ⟨steps, rfl⟩ :=
        Nat.exists_eq_succ_of_ne_zero (by omega : steps ≠ 0)
      rw [integers, List.map_nil, List.append_nil]
      rfl
  | @gap items text rest hclosed hrest ih =>
      -- A line that takes nothing from the text stands at its end.
      rcases hclosed.length_lt with hless | ⟨rfl, rfl⟩
      · obtain ⟨steps, rfl⟩ := Nat.exists_eq_add_of_le' (by omega : 2 ≤ steps)
        rw [Document.lines_gap hclosed]
        exact ih (by omega) hdistinct
      · exact ih hsteps hdistinct
  | @entry name number items before between after text rest hbefore hbetween
      hafter hname hnumber hclosed hrest ih =>
      have hless : rest.length ≤ text.length := by
        rcases hclosed.length_lt with hless | ⟨rfl, rfl⟩
        · exact hless.le
        · exact le_rfl
      simp only [List.length_append, List.length_cons] at hsteps
      obtain ⟨steps, rfl⟩ :=
        Nat.exists_eq_succ_of_ne_zero (by omega : steps ≠ 0)
      rw [List.map_cons] at hdistinct
      have hfree : name ∉ entries.map Prod.fst := fun hmem =>
        (List.nodup_append.mp hdistinct).2.2 name hmem name (by simp) rfl
      rw [Document.lines_entry hbefore hbetween hafter hname hnumber hclosed
        hfree, ih (by omega) (by simpa using hdistinct), List.append_assoc]
      rfl

theorem Lists.head?_ne {items : List (String × ℕ)} {text : List Char}
    (hlists : Lists items text) : text.head? ≠ some '\ufeff' := by
  induction hlists with
  | nil => simp
  | @gap items text rest hclosed hrest ih =>
      intro hmark
      exact absurd (hclosed.ends _ hmark) (by decide)
  | @entry name number items before between after text rest hbefore hbetween
      hafter hname hnumber hclosed hrest ih =>
      intro hmark
      obtain ⟨first, others, hfirst, hplain⟩ := hname.toList_eq
      cases before with
      | nil =>
          have hmark : first = '\ufeff' := by simpa [hfirst] using hmark
          exact isBareChar_ne hplain rfl hmark
      | cons c before =>
          have hmark : c = '\ufeff' := by simpa using hmark
          have hblank := hbefore c (by simp)
          rw [hmark] at hblank
          cases hblank

/-- A text that lists distinct names with integers is the table of these. -/
theorem Lists.parse?_eq {items : List (String × ℕ)} {text : String}
    (hlists : Lists items text.toList)
    (hdistinct : (items.map Prod.fst).Nodup) :
    Document.parse? text = some (integers items) := by
  have hlines : Document.lines (text.toList.length + 1) {} text.toList =
      some { root := [] ++ integers items } :=
    hlists.lines_eq (Nat.lt_succ_self _) (by simpa using hdistinct)
  have hmark : ∀ rest, text.toList ≠ '\ufeff' :: rest := by
    intro rest hrest
    exact hlists.head?_ne (by rw [hrest, List.head?_cons])
  rw [Document.parse?]
  simp [hlines]

end SeriesIndex.Toml
