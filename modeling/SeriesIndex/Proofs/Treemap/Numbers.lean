import Mathlib
import SeriesIndex.Proofs.Treemap.Buckets
import SeriesIndex.Treemap

/-!
# Numbers in two halves

A word is its upper half, shifted, and its lower half.  As a number it is the
upper half times a power of two plus the lower half, so that words are ordered
by their upper halves first.
-/

namespace SeriesIndex

/-- Halves are put together by a sum, as their bits do not meet. -/
theorem or_eq_add (upper : ℕ) {lower bits : ℕ} (hlower : lower < 2 ^ bits) :
    upper <<< bits ||| lower = upper * 2 ^ bits + lower := by
  rw [← Nat.shiftLeft_add_eq_or_of_lt hlower, Nat.shiftLeft_eq]

theorem mul_add_lt_iff {base upper other lower least : ℕ}
    (hlower : lower < base) (hleast : least < base) :
    upper * base + lower < other * base + least ↔
      upper < other ∨ upper = other ∧ lower < least := by
  rcases Nat.lt_trichotomy upper other with hless | rfl | hmore
  · have hnext : (upper + 1) * base ≤ other * base :=
      Nat.mul_le_mul_right base hless
    rw [Nat.succ_mul] at hnext
    exact iff_of_true (by omega) (.inl hless)
  · simp
  · have hnext : (other + 1) * base ≤ upper * base :=
      Nat.mul_le_mul_right base hmore
    rw [Nat.succ_mul] at hnext
    exact iff_of_false (by omega) (by omega)

/-- Quotients and remainders are the parts of a number. -/
theorem lawfulDigits_of_values {α κ δ : Type} [LT α] [LT κ] [LT δ]
    [Digits α κ δ] {base : ℕ} (value : α → ℕ) (first : κ → ℕ) (second : δ → ℕ)
    (hvalue : Function.Injective value) (hfirst : Function.Injective first)
    (hsecond : Function.Injective second)
    (hless : ∀ number other, number < other ↔ value number < value other)
    (hless' : ∀ upper other, upper < other ↔ first upper < first other)
    (hless'' : ∀ lower least, lower < least ↔ second lower < second least)
    (hbase : ∀ lower, second lower < base)
    (hupper : ∀ number, first (Digits.upper δ number) = value number / base)
    (hlower : ∀ number, second (Digits.lower κ number) = value number % base)
    (hjoin : ∀ upper lower,
      value (Digits.join upper lower) = first upper * base + second lower) :
    LawfulDigits α κ δ where
  join_upper_lower number := hvalue <| by
    rw [hjoin, hupper, hlower, Nat.div_add_mod']
  upper_join upper lower := hfirst <| by
    have hpositive : 0 < base := (Nat.zero_le _).trans_lt (hbase lower)
    rw [hupper, hjoin, Nat.mul_comm, Nat.mul_add_div hpositive,
      Nat.div_eq_of_lt (hbase lower), Nat.add_zero]
  lower_join upper lower := hsecond <| by
    rw [hlower, hjoin, Nat.mul_add_mod_self_right,
      Nat.mod_eq_of_lt (hbase lower)]
  join_lt_iff upper other lower least := by
    rw [hless, hjoin, hjoin, mul_add_lt_iff (hbase lower) (hbase least),
      hless', hless'', hfirst.eq_iff]

namespace Bitmap

theorem toNat_upper (number : UInt32) :
    (Digits.upper UInt16 number : UInt16).toNat = number.toNat / 2 ^ 16 := by
  have hnumber := number.toNat_lt
  have hshift : (number >>> 16).toNat = number.toNat / 2 ^ 16 := by
    rw [UInt32.toNat_shiftRight, Nat.shiftRight_eq_div_pow]
    rfl
  change (number >>> 16).toUInt16.toNat = _
  rw [UInt32.toNat_toUInt16, hshift]
  omega

theorem toNat_lower (number : UInt32) :
    (Digits.lower UInt16 number : UInt16).toNat = number.toNat % 2 ^ 16 :=
  UInt32.toNat_toUInt16 number

theorem toNat_join (upper lower : UInt16) :
    (Digits.join upper lower : UInt32).toNat =
      upper.toNat * 2 ^ 16 + lower.toNat := by
  have hupper := upper.toNat_lt
  have hshift : (upper.toUInt32 <<< 16).toNat = upper.toNat <<< 16 := by
    rw [UInt32.toNat_shiftLeft, UInt16.toNat_toUInt32, Nat.shiftLeft_eq,
      Nat.shiftLeft_eq]
    change upper.toNat * 2 ^ 16 % 2 ^ 32 = _
    omega
  change (upper.toUInt32 <<< 16 ||| lower.toUInt32).toNat = _
  rw [UInt32.toNat_or, hshift, UInt16.toNat_toUInt32,
    or_eq_add _ lower.toNat_lt]

instance : LawfulDigits UInt32 UInt16 UInt16 :=
  lawfulDigits_of_values UInt32.toNat UInt16.toNat UInt16.toNat
    (fun _ _ => UInt32.toNat_inj.mp) (fun _ _ => UInt16.toNat_inj.mp)
    (fun _ _ => UInt16.toNat_inj.mp) (fun _ _ => UInt32.lt_iff_toNat_lt)
    (fun _ _ => UInt16.lt_iff_toNat_lt) (fun _ _ => UInt16.lt_iff_toNat_lt)
    UInt16.toNat_lt toNat_upper toNat_lower toNat_join

end Bitmap

namespace Treemap

theorem toNat_upper (tsid : Tsid) :
    (Digits.upper UInt32 tsid : UInt32).toNat = tsid.toNat / 2 ^ 32 := by
  have htsid := tsid.toNat_lt
  have hshift : (tsid >>> 32).toNat = tsid.toNat / 2 ^ 32 := by
    rw [UInt64.toNat_shiftRight, Nat.shiftRight_eq_div_pow]
    rfl
  change (tsid >>> 32).toUInt32.toNat = _
  rw [UInt64.toNat_toUInt32, hshift]
  omega

theorem toNat_lower (tsid : Tsid) :
    (Digits.lower UInt32 tsid : UInt32).toNat = tsid.toNat % 2 ^ 32 :=
  UInt64.toNat_toUInt32 tsid

theorem toNat_join (upper lower : UInt32) :
    (Digits.join upper lower : Tsid).toNat =
      upper.toNat * 2 ^ 32 + lower.toNat := by
  have hupper := upper.toNat_lt
  have hshift : (upper.toUInt64 <<< 32).toNat = upper.toNat <<< 32 := by
    rw [UInt64.toNat_shiftLeft, UInt32.toNat_toUInt64, Nat.shiftLeft_eq,
      Nat.shiftLeft_eq]
    change upper.toNat * 2 ^ 32 % 2 ^ 64 = _
    omega
  change (upper.toUInt64 <<< 32 ||| lower.toUInt64).toNat = _
  rw [UInt64.toNat_or, hshift, UInt32.toNat_toUInt64,
    or_eq_add _ lower.toNat_lt]

instance : LawfulDigits Tsid UInt32 UInt32 :=
  lawfulDigits_of_values UInt64.toNat UInt32.toNat UInt32.toNat
    (fun _ _ => UInt64.toNat_inj.mp) (fun _ _ => UInt32.toNat_inj.mp)
    (fun _ _ => UInt32.toNat_inj.mp) (fun _ _ => UInt64.lt_iff_toNat_lt)
    (fun _ _ => UInt32.lt_iff_toNat_lt) (fun _ _ => UInt32.lt_iff_toNat_lt)
    UInt32.toNat_lt toNat_upper toNat_lower toNat_join

end Treemap

end SeriesIndex
