import Mathlib
import SeriesIndex.Text.Hexadecimal
import SeriesIndex.Text.Quoted

/-!
# Quoted texts are read back

Each character is written so that a reader finds out where its writing ends: as
itself, as a backslash and a letter, or as a code point up to the closing brace.
Read from the left, a quoted text therefore ends at the first double quote that
stands for none of its characters.  Every double quote that does stand for one
follows a backslash, so that a quoted text is as well found from the right,
behind any character but a backslash.
-/

namespace SeriesIndex.Text

/-! ## Hexadecimal numbers -/

namespace Hexadecimal

theorem digit?_digitChar {digit : ℕ} (hdigit : digit < 16) :
    digit? digit.digitChar = some digit := by
  interval_cases digit <;> rfl

theorem value?_append_digitChar {digits : List Char} {value digit : ℕ}
    (hvalue : value? digits = some value) (hdigit : digit < 16) :
    value? (digits ++ [digit.digitChar]) = some (16 * value + digit) := by
  rw [value?] at hvalue ⊢
  split at hvalue
  · cases hvalue
  · rw [if_neg (by simp), List.foldlM_append, hvalue]
    simp [digit?_digitChar hdigit, Nat.mul_comm]

/-- The digits of a number write that number. -/
theorem value?_toDigits (number : ℕ) :
    value? (Nat.toDigits 16 number) = some number := by
  induction number using Nat.strongRecOn with
  | ind number ih =>
      rcases Nat.lt_or_ge number 16 with hsmall | hgreat
      · rw [Nat.toDigits_of_lt_base hsmall, ← List.nil_append [_]]
        simp [value?, digit?_digitChar hsmall]
      · have hrest : 0 < number / 16 := Nat.div_pos hgreat (by decide)
        have hdigit : number % 16 < 16 := Nat.mod_lt _ (by decide)
        have happend :=
          value?_append_digitChar (ih (number / 16) (by omega)) hdigit
        rwa [← Nat.toDigits_of_lt_base hdigit,
          Nat.toDigits_append_toDigits (by decide) hrest hdigit,
          Nat.div_add_mod] at happend

theorem isSome_digit?_of_foldlM {digits : List Char} {start value : ℕ}
    (hvalue : digits.foldlM
      (fun value c => (digit? c).map (value * 16 + ·)) start = some value) :
    ∀ c ∈ digits, (digit? c).isSome = true := by
  induction digits generalizing start with
  | nil => simp
  | cons first rest ih =>
      rw [List.foldlM_cons] at hvalue
      obtain ⟨next, hnext, hrest⟩ := Option.bind_eq_some_iff.mp hvalue
      obtain ⟨digit, hdigit, -⟩ := Option.map_eq_some_iff.mp hnext
      intro c hc
      rcases List.mem_cons.mp hc with rfl | hc
      · exact Option.isSome_iff_exists.mpr ⟨digit, hdigit⟩
      · exact ih hrest c hc

/-- What is no digit is not among the digits of a number. -/
theorem ne_of_mem_toDigits {number : ℕ} {c sign : Char}
    (hc : c ∈ Nat.toDigits 16 number) (hsign : digit? sign = none) :
    c ≠ sign := by
  rintro rfl
  have hvalue := value?_toDigits number
  rw [value?] at hvalue
  split at hvalue
  · cases hvalue
  · have hsome := isSome_digit?_of_foldlM hvalue c hc
    rw [hsign] at hsome
    cases hsome

/-- The digits of a code point name the character with it. -/
theorem char?_toDigits (c : Char) :
    char? (Nat.toDigits 16 c.toNat) = some c := by
  have hvalid : c.toNat.isValidChar := c.valid
  rw [char?, value?_toDigits, Option.bind_some, charOf?, if_pos hvalid,
    Char.ofNat_toNat]

end Hexadecimal

namespace Quoted

/-! ## Characters -/

def short? : Char → Option Char
  | '0' => some '\x00'
  | 't' => some '\t'
  | 'n' => some '\n'
  | 'r' => some '\r'
  | '\"' => some '\"'
  | '\\' => some '\\'
  | _ => none

def readPoint? (written : List Char) : Option (Char × List Char) :=
  (Hexadecimal.char? (written.takeWhile (· ≠ '\x7d'))).map fun c =>
    (c, (written.dropWhile (· ≠ '\x7d')).tail)

def readEscape? : List Char → Option (Char × List Char)
  | 'u' :: '\x7b' :: written => readPoint? written
  | letter :: written => (short? letter).map (·, written)
  | [] => none

/-- Reads the writing of one character, and gives what comes after it. -/
def readChar? : List Char → Option (Char × List Char)
  | [] => none
  | c :: written =>
    if c = '\"' then none
    else if c = '\\' then readEscape? written
    else some (c, written)

/-- The ways in which a character is written. -/
theorem encodeChar_cases (c : Char) :
    (∃ letter, encodeChar c = ['\\', letter] ∧ short? letter = some c) ∨
      (encodeChar c = [c] ∧ c ≠ '\"' ∧ c ≠ '\\') ∨
        encodeChar c =
          '\\' :: 'u' :: '\x7b' :: (Nat.toDigits 16 c.toNat ++ ['\x7d']) := by
  rw [encodeChar]
  split_ifs with hnull htab hline hreturn hquote hslash hplain
  · exact .inl ⟨_, rfl, congrArg some hnull.symm⟩
  · exact .inl ⟨_, rfl, congrArg some htab.symm⟩
  · exact .inl ⟨_, rfl, congrArg some hline.symm⟩
  · exact .inl ⟨_, rfl, congrArg some hreturn.symm⟩
  · exact .inl ⟨_, rfl, congrArg some hquote.symm⟩
  · exact .inl ⟨_, rfl, congrArg some hslash.symm⟩
  · exact .inr (.inl ⟨rfl, hquote, hslash⟩)
  · exact .inr (.inr rfl)

theorem readPoint?_append (c : Char) (rest : List Char) :
    readPoint? (Nat.toDigits 16 c.toNat ++ '\x7d' :: rest) =
      some (c, rest) := by
  have hdigits : ∀ digit ∈ Nat.toDigits 16 c.toNat,
      decide (digit ≠ '\x7d') = true := fun _ hdigit =>
    decide_eq_true (Hexadecimal.ne_of_mem_toDigits hdigit rfl)
  rw [readPoint?, List.takeWhile_append_of_pos hdigits,
    List.dropWhile_append_of_pos hdigits]
  simp [Hexadecimal.char?_toDigits]

/-- The writing of a character is read back, whatever comes after it. -/
theorem readChar?_encodeChar (c : Char) (rest : List Char) :
    readChar? (encodeChar c ++ rest) = some (c, rest) := by
  rcases encodeChar_cases c with
    ⟨letter, hwritten, hletter⟩ | ⟨hwritten, hquote, hslash⟩ | hwritten
  · have hpoint : letter ≠ 'u' := by
      rintro rfl
      cases hletter
    rw [hwritten]
    simp [readChar?, readEscape?, hpoint, hletter]
  · rw [hwritten]
    simp [readChar?, hquote, hslash]
  · rw [hwritten]
    simpa [readChar?, readEscape?] using readPoint?_append c rest

/-- No writing starts with a double quote. -/
theorem encodeChar_append_ne (c : Char) (rest other : List Char) :
    encodeChar c ++ rest ≠ '\"' :: other := by
  intro hsame
  have hread := readChar?_encodeChar c rest
  rw [hsame] at hread
  cases hread

theorem encodeChar_append_inj {left right : Char} {rest other : List Char}
    (hsame : encodeChar left ++ rest = encodeChar right ++ other) :
    left = right ∧ rest = other := by
  have hread := readChar?_encodeChar left rest
  rw [hsame, readChar?_encodeChar] at hread
  cases hread
  exact ⟨rfl, rfl⟩

/-! ## Read from the left -/

/-- A text, written between quotes, ends at its closing quote. -/
theorem flatMap_encodeChar_inj {left right rest other : List Char}
    (hsame : left.flatMap encodeChar ++ '\"' :: rest =
      right.flatMap encodeChar ++ '\"' :: other) :
    left = right ∧ rest = other := by
  induction left generalizing right with
  | nil =>
      cases right with
      | nil => exact ⟨rfl, List.tail_eq_of_cons_eq hsame⟩
      | cons last right =>
          rw [List.flatMap_cons, List.append_assoc] at hsame
          exact absurd hsame.symm (encodeChar_append_ne _ _ _)
  | cons first left ih =>
      rw [List.flatMap_cons, List.append_assoc] at hsame
      cases right with
      | nil => exact absurd hsame (encodeChar_append_ne _ _ _)
      | cons last right =>
          rw [List.flatMap_cons, List.append_assoc] at hsame
          obtain ⟨rfl, hrest⟩ := encodeChar_append_inj hsame
          obtain ⟨rfl, hother⟩ := ih hrest
          exact ⟨rfl, hother⟩

theorem toList_encode (text : String) :
    (encode text).toList =
      '\"' :: (text.toList.flatMap encodeChar ++ ['\"']) :=
  String.toList_ofList

/-- Whatever comes after two quoted texts, they are of one text if they are read
from one place. -/
theorem encode_append_inj {left right : String} {rest other : List Char}
    (hsame : (encode left).toList ++ rest = (encode right).toList ++ other) :
    left = right ∧ rest = other := by
  simp only [toList_encode, List.cons_append, List.append_assoc,
    List.nil_append, List.cons.injEq, true_and] at hsame
  obtain ⟨htext, hrest⟩ := flatMap_encodeChar_inj hsame
  exact ⟨String.toList_inj.mp htext, hrest⟩

theorem encode_injective : Function.Injective encode := by
  intro left right hsame
  have hlists : (encode left).toList ++ [] = (encode right).toList ++ [] := by
    rw [hsame]
  exact (encode_append_inj hlists).1

/-! ## Read from the right -/

/-- A double quote comes after a backslash only. -/
def Guards (before after : Char) : Prop :=
  after = '\"' → before = '\\'

theorem isChain_guards_of_forall_ne {signs : List Char}
    (hsigns : ∀ sign ∈ signs, sign ≠ '\"') : signs.IsChain Guards :=
  (List.pairwise_of_forall_mem_list fun _ _ after hafter hquote =>
    absurd hquote (hsigns after hafter)).isChain

theorem isChain_guards_encodeChar (c : Char) :
    (encodeChar c).IsChain Guards := by
  rcases encodeChar_cases c with
    ⟨letter, hwritten, -⟩ | ⟨hwritten, -⟩ | hwritten
  · rw [hwritten]
    exact List.isChain_pair.mpr fun _ => rfl
  · rw [hwritten]
    exact .singleton _
  · have hdigits : ∀ digit ∈ Nat.toDigits 16 c.toNat, digit ≠ '\"' :=
      fun _ hdigit => Hexadecimal.ne_of_mem_toDigits hdigit rfl
    rw [hwritten]
    refine isChain_guards_of_forall_ne ?_
    simpa [or_imp, forall_and] using hdigits

theorem head?_flatMap_encodeChar_ne {text : List Char} {first : Char}
    (hfirst : first ∈ (text.flatMap encodeChar).head?) : first ≠ '\"' := by
  rintro rfl
  obtain ⟨others, hothers⟩ := List.head?_eq_some_iff.mp hfirst
  cases text with
  | nil => cases hothers
  | cons first rest =>
      rw [List.flatMap_cons] at hothers
      exact encodeChar_append_ne _ _ _ hothers

theorem isChain_guards_flatMap (text : List Char) :
    (text.flatMap encodeChar).IsChain Guards := by
  induction text with
  | nil => exact .nil
  | cons first rest ih =>
      rw [List.flatMap_cons]
      exact List.isChain_append.mpr ⟨isChain_guards_encodeChar first, ih,
        fun _ _ _ hafter hquote =>
          absurd hquote (head?_flatMap_encodeChar_ne hafter)⟩

/-- Inside a quoted text no double quote stands behind any other character than
a backslash, so that no other quoted text starts there. -/
theorem toList_encode_ne {left right : String} {inner : List Char}
    {after : Char} (hafter : after ≠ '\\') :
    (encode left).toList ≠ inner ++ after :: (encode right).toList := by
  intro hsame
  have hopened : '\"' :: left.toList.flatMap encodeChar =
      inner ++ after :: '\"' :: right.toList.flatMap encodeChar := by
    rw [toList_encode, toList_encode] at hsame
    apply List.append_cancel_right
    simpa only [List.cons_append, List.append_assoc] using hsame
  have hchain : ('\"' :: left.toList.flatMap encodeChar).IsChain Guards :=
    List.isChain_cons.mpr
      ⟨fun _ hnext hquote => absurd hquote (head?_flatMap_encodeChar_ne hnext),
        isChain_guards_flatMap _⟩
  rw [hopened] at hchain
  have hguards := (List.isChain_append.mp hchain).2.1
  exact hafter ((List.isChain_cons_cons.mp hguards).1 rfl)

/-- Behind a character that is no backslash, a quoted text is found from the
right. -/
theorem append_encode_inj {left right : String} {head other : List Char}
    {before after : Char} (hbefore : before ≠ '\\') (hafter : after ≠ '\\')
    (hsame : head ++ before :: (encode left).toList =
      other ++ after :: (encode right).toList) :
    head = other ∧ before = after ∧ left = right := by
  rcases List.append_eq_append_iff.mp hsame with
    ⟨_ | ⟨_, inner⟩, rfl, hrest⟩ | ⟨_ | ⟨_, inner⟩, rfl, hrest⟩
  · obtain ⟨rfl, htext⟩ := List.cons.inj hrest
    exact ⟨(List.append_nil _).symm, rfl,
      encode_injective (String.toList_inj.mp htext)⟩
  · exact absurd (List.cons.inj hrest).2 (toList_encode_ne hafter)
  · obtain ⟨rfl, htext⟩ := List.cons.inj hrest
    exact ⟨List.append_nil _, rfl,
      encode_injective (String.toList_inj.mp htext.symm)⟩
  · exact absurd (List.cons.inj hrest).2 (toList_encode_ne hbefore)

end Quoted

end SeriesIndex.Text
