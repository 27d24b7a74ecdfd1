import Mathlib
import SeriesIndex.Toml.Scalar

/-!
# Integers are read back

A decimal integer ends where a blank, a comment, a line end or the end of the
text follows it.  None of these goes on with the number, so that it is read in
full; and as they are not what follows a year or an hour, no number is taken for
the beginning of a date or of a time, however many digits it has.
-/

namespace SeriesIndex.Toml

/-- What may follow a value on its line: a blank, a comment or a line end,
unless the text ends there. -/
def Ends (rest : List Char) : Prop :=
  ∀ c ∈ rest.head?, c ∈ [' ', '\t', '#', '\n', '\r']

theorem Ends.of_cons {c : Char} {rest : List Char} (hends : Ends (c :: rest)) :
    c ∈ [' ', '\t', '#', '\n', '\r'] :=
  hends c rfl

/-- A character that does not end a value does not come after it. -/
theorem Ends.ne {c : Char} {rest : List Char} (hends : Ends (c :: rest))
    {sign : Char} (hsign : sign ∉ [' ', '\t', '#', '\n', '\r']) : c ≠ sign :=
  fun heq => hsign (heq ▸ hends.of_cons)

theorem Ends.not_isDigit {c : Char} {rest : List Char}
    (hends : Ends (c :: rest)) : c.isDigit = false := by
  have hc := hends.of_cons
  simp only [List.mem_cons, List.not_mem_nil, or_false] at hc
  rcases hc with rfl | rfl | rfl | rfl | rfl <;> rfl

namespace Scalar

/-! ## Digits -/

theorem moreDigits_cons {isDigit : Char → Bool} {c : Char} {rest : List Char}
    (hc : c ≠ '_') :
    moreDigits isDigit (c :: rest) =
      if isDigit c then
        (moreDigits isDigit rest).map fun (digits, rest) => (c :: digits, rest)
      else some ([], c :: rest) := by
  rw [moreDigits]
  · simp [hc]
  · exact fun _ _ hmark _ => hc hmark

theorem isDigit_ne {c sign : Char} (hc : c.isDigit = true)
    (hsign : sign.isDigit = false) : c ≠ sign := by
  rintro rfl
  rw [hsign] at hc
  cases hc

theorem moreDigits_append {run rest : List Char}
    (hrun : ∀ c ∈ run, c.isDigit = true) (hends : Ends rest) :
    moreDigits Char.isDigit (run ++ rest) = some (run, rest) := by
  induction run with
  | nil =>
      cases rest with
      | nil => rfl
      | cons c rest =>
          rw [List.nil_append, moreDigits_cons (hends.ne (by decide)),
            hends.not_isDigit]
          rfl
  | cons c run ih =>
      obtain ⟨hc, hrun⟩ := List.forall_mem_cons.mp hrun
      rw [List.cons_append, moreDigits_cons (isDigit_ne hc rfl), ih hrun,
        if_pos hc]
      rfl

theorem digits_append {run rest : List Char} (hsome : run ≠ [])
    (hrun : ∀ c ∈ run, c.isDigit = true) (hends : Ends rest) :
    digits Char.isDigit (run ++ rest) = some (run, rest) := by
  obtain ⟨c, run, rfl⟩ := List.exists_cons_of_ne_nil hsome
  obtain ⟨hc, hrun⟩ := List.forall_mem_cons.mp hrun
  rw [List.cons_append, digits, if_pos hc, moreDigits_append hrun hends]
  rfl

/-! ## The digits of a number -/

theorem isDigit_of_mem_toDigits (number : ℕ) :
    ∀ c ∈ Nat.toDigits 10 number, c.isDigit = true := fun _ hc =>
  Nat.isDigit_of_mem_toDigits (by decide) (by decide) hc

theorem toDigits_ne_nil (number : ℕ) : Nat.toDigits 10 number ≠ [] := by
  rw [Nat.toDigits_eq_if (by decide)]
  split <;> simp

/-- To add up digits from the left is to read them in base ten. -/
theorem decimal_eq_ofDigitChars (run : List Char) :
    decimal run = Nat.ofDigitChars 10 run 0 := by
  simp only [decimal, Nat.ofDigitChars_eq_foldl, Nat.mul_comm 10]

/-- The digits of a number write that number. -/
theorem decimal_toDigits (number : ℕ) :
    decimal (Nat.toDigits 10 number) = number := by
  rw [decimal_eq_ofDigitChars]
  exact Nat.ofDigitChars_toDigits (by decide) (by decide)

/-- Only zero starts with a zero. -/
theorem eq_zero_of_toDigits {number : ℕ} {run : List Char}
    (hdigits : Nat.toDigits 10 number = '0' :: run) : number = 0 := by
  induction number using Nat.strongRecOn generalizing run with
  | ind number ih =>
      rw [Nat.toDigits_eq_if (by decide)] at hdigits
      split at hdigits
      · have hfirst := (List.cons.inj hdigits).1
        interval_cases number <;> first | rfl | cases hfirst
      · -- The first digit is also that of the number without its last digit.
        obtain ⟨first, others, hfirst⟩ :=
          List.exists_cons_of_ne_nil (toDigits_ne_nil (number / 10))
        rw [hfirst, List.cons_append] at hdigits
        obtain ⟨rfl, -⟩ := List.cons.inj hdigits
        have hquotient := ih (number / 10) (by omega) hfirst
        omega

/-- A number is zero, or its digits do not start with a zero. -/
theorem toDigits_cases (number : ℕ) :
    Nat.toDigits 10 number = ['0'] ∨
      ∃ first run, Nat.toDigits 10 number = first :: run ∧ first ≠ '0' := by
  obtain ⟨first, run, hrun⟩ :=
    List.exists_cons_of_ne_nil (toDigits_ne_nil number)
  by_cases hfirst : first = '0'
  · subst hfirst
    obtain rfl := eq_zero_of_toDigits hrun
    exact .inl rfl
  · exact .inr ⟨first, run, hrun, hfirst⟩

/-! ## Integers -/

theorem exponent?_of_ends {rest : List Char} (hends : Ends rest) :
    exponent? rest = some (none, rest) := by
  cases rest with
  | nil => rfl
  | cons c rest =>
      have hsmall : c ≠ 'e' := hends.ne (by decide)
      have hgreat : c ≠ 'E' := hends.ne (by decide)
      simp [exponent?, hsmall, hgreat]

theorem number_toDigits {number : ℕ} {rest : List Char}
    (hnumber : number ≤ 0x7fffffffffffffff) (hends : Ends rest) :
    Scalar.number false (Nat.toDigits 10 number ++ rest) =
      some (.integer number, rest) := by
  have hinteger : integer? (number : ℤ) = some (.integer number) := by
    rw [integer?, if_pos]
    constructor
    · exact (by decide : Int64.minValue.toInt ≤ 0).trans (Int.natCast_nonneg _)
    · exact (Int.ofNat_le.mpr hnumber).trans (by decide)
  have hfraction : ∀ tail, rest ≠ '.' :: tail := by
    rintro tail rfl
    exact (hends.ne (by decide) : '.' ≠ '.') rfl
  have hread := digits_append (toDigits_ne_nil number)
    (isDigit_of_mem_toDigits number) hends
  unfold Scalar.number
  rcases toDigits_cases number with hzero | ⟨first, run, hrun, hfirst⟩
  · rw [hzero, List.singleton_append]
    have hdecimal := decimal_toDigits number
    rw [hzero] at hdecimal
    simp [exponent?_of_ends hends, hdecimal, hinteger]
  · rw [hrun, List.cons_append] at hread ⊢
    have hdecimal := decimal_toDigits number
    rw [hrun] at hdecimal
    simp [hfirst, hread, exponent?_of_ends hends, hdecimal, hinteger]

/-- Digits, and then what may follow a value on its line. -/
def Digital (text : List Char) : Prop :=
  ∃ run rest, text = run ++ rest ∧ (∀ c ∈ run, c.isDigit = true) ∧ Ends rest

theorem digital_toDigits (number : ℕ) {rest : List Char} (hends : Ends rest) :
    Digital (Nat.toDigits 10 number ++ rest) :=
  ⟨_, rest, rfl, isDigit_of_mem_toDigits number, hends⟩

theorem Digital.tail {c : Char} {text : List Char} (htext : Digital (c :: text))
    (hc : c.isDigit = true) : Digital text := by
  obtain ⟨run, rest, hsplit, hrun, hends⟩ := htext
  cases run with
  | nil =>
      subst hsplit
      rw [hends.not_isDigit] at hc
      cases hc
  | cons first run =>
      exact ⟨run, rest, (List.cons.inj hsplit).2,
        (List.forall_mem_cons.mp hrun).2, hends⟩

theorem not_digital_cons {sign : Char} {text : List Char}
    (hdigit : sign.isDigit = false)
    (hsign : sign ∉ [' ', '\t', '#', '\n', '\r']) :
    ¬ Digital (sign :: text) := by
  rintro ⟨run, rest, hsplit, hrun, hends⟩
  cases run with
  | nil =>
      subst hsplit
      exact hsign hends.of_cons
  | cons first run =>
      obtain ⟨rfl, -⟩ := List.cons.inj hsplit
      rw [hrun sign (by simp)] at hdigit
      cases hdigit

/-- What is left after some digits is digits again. -/
theorem Digital.of_fixedDigits {text left : List Char} {count start value : ℕ}
    (htext : Digital text)
    (hread : fixedDigits.go start count text = some (value, left)) :
    Digital left := by
  induction count generalizing start text with
  | zero =>
      cases hread
      exact htext
  | succ count ih =>
      cases text with
      | nil => cases hread
      | cons c text =>
          rw [fixedDigits.go] at hread
          split at hread
          · rename_i hc
            exact ih (htext.tail hc) hread
          · cases hread

theorem Digital.of_pair {text left : List Char} {least most value : ℕ}
    (htext : Digital text) (hread : pair least most text = some (value, left)) :
    Digital left := by
  rw [pair] at hread
  split at hread
  · rename_i found rest hfound
    obtain ⟨-, hvalue⟩ := Option.ite_none_right_eq_some.mp hread
    cases hvalue
    exact htext.of_fixedDigits hfound
  · cases hread

theorem signed_of_digital {text : List Char} (htext : Digital text) :
    signed false text = number false text := by
  rw [signed.eq_def]
  split
  · exact absurd htext (not_digital_cons rfl (by decide))
  · exact absurd htext (not_digital_cons rfl (by decide))
  · rfl

/-- Digits at the end of a line are read as a number, and not as a date, as a
time, or in another base. -/
theorem read_of_digital {text : List Char} (htext : Digital text) :
    read text = number false text := by
  rw [read.eq_def]
  -- Truth values start with a letter and the other bases have one behind a
  -- zero; dates and times go on with a sign behind their digits.
  split
  · exact absurd htext (not_digital_cons rfl (by decide))
  · exact absurd htext (not_digital_cons rfl (by decide))
  · exact absurd (htext.tail rfl) (not_digital_cons rfl (by decide))
  · exact absurd (htext.tail rfl) (not_digital_cons rfl (by decide))
  · exact absurd (htext.tail rfl) (not_digital_cons rfl (by decide))
  · exact absurd htext (not_digital_cons rfl (by decide))
  · exact absurd htext (not_digital_cons rfl (by decide))
  · split
    · rename_i year rest hdate
      exact absurd (htext.of_fixedDigits hdate)
        (not_digital_cons rfl (by decide))
    · rename_i hour rest htime _
      exact absurd (htext.of_pair htime) (not_digital_cons rfl (by decide))
    · exact signed_of_digital htext

/-- A number at the end of a line is read as this number. -/
theorem read_toDigits {number : ℕ} {rest : List Char}
    (hnumber : number ≤ 0x7fffffffffffffff) (hends : Ends rest) :
    read (Nat.toDigits 10 number ++ rest) = some (.integer number, rest) := by
  rw [read_of_digital (digital_toDigits number hends),
    number_toDigits hnumber hends]

end Scalar

end SeriesIndex.Toml
