import Mathlib
import SeriesIndex.Label
import SeriesIndex.Proofs.Text.Bytes

/-!
# Fingerprints tell label sets apart as far as the digest does

The byte string of a label set holds its names and values in turn, each closed
by the end mark.  No text holds that byte, so the first end mark ends the first
name, the second one its value, and label by label the whole set is read back,
however many labels there are and even if values are empty.  What is done to the
digest afterwards loses nothing either: a multiplication by an odd number has an
inverse among the words, and a word that is combined with its own upper half
gives back the upper half at once, and by it the lower one.
-/

namespace SeriesIndex

/-! ## Texts and the end mark -/

namespace Text

/-- The first byte of a character says how many there are, by at most five bits
that are set; the others start with a single one. -/
theorem toNat_lt_of_mem_encodeChar {c : Char} {byte : UInt8}
    (hbyte : byte ∈ String.utf8EncodeChar c) : byte.toNat < 0xf8 := by
  rw [String.utf8EncodeChar] at hbyte
  generalize c.val.toNat = value at hbyte
  split_ifs at hbyte <;>
    simp only [List.mem_cons, List.not_mem_nil, or_false] at hbyte <;>
    rcases hbyte with rfl | rfl | rfl | rfl <;>
    simp only [UInt8.toNat_ofNat'] <;> omega

/-- No text holds the byte that closes texts. -/
theorem endMark_not_mem (text : String) :
    Hash.endMark ∉ text.toUTF8.toList := by
  intro hmark
  rw [toList_toUTF8] at hmark
  obtain ⟨c, -, hbyte⟩ := List.mem_flatMap.mp hmark
  exact absurd (toNat_lt_of_mem_encodeChar hbyte) (by decide)

theorem eq_of_bytes_eq {left right : String}
    (hbytes : left.toUTF8.toList = right.toUTF8.toList) : left = right :=
  String.le_antisymm (le_iff_bytes_le.mpr (hbytes ▸ List.le_refl _))
    (le_iff_bytes_le.mpr (hbytes ▸ List.le_refl _))

end Text

/-! ## Byte strings -/

namespace Hash

/-- What ends at its first mark is told apart from what comes after it. -/
theorem eq_of_append_mark {mark : UInt8} {head other rest tail : List UInt8}
    (hhead : mark ∉ head) (hother : mark ∉ other)
    (hsame : head ++ mark :: rest = other ++ mark :: tail) :
    head = other ∧ rest = tail := by
  rcases List.append_eq_append_iff.mp hsame with
    ⟨_ | ⟨first, middle⟩, rfl, hmiddle⟩ | ⟨_ | ⟨first, middle⟩, rfl, hmiddle⟩
  · exact ⟨(List.append_nil head).symm, (List.cons.inj hmiddle).2⟩
  · obtain ⟨rfl, -⟩ := List.cons.inj hmiddle
    exact absurd (by simp) hother
  · exact ⟨List.append_nil other, (List.cons.inj hmiddle).2.symm⟩
  · obtain ⟨rfl, -⟩ := List.cons.inj hmiddle
    exact absurd (by simp) hhead

/-- A text is read back from its bytes, whatever comes after its end mark. -/
theorem textBytes_append_inj {left right : String} {rest tail : List UInt8}
    (hsame : textBytes left ++ rest = textBytes right ++ tail) :
    left = right ∧ rest = tail := by
  simp only [textBytes, List.append_assoc, List.singleton_append] at hsame
  obtain ⟨hbytes, hrest⟩ := eq_of_append_mark (Text.endMark_not_mem left)
    (Text.endMark_not_mem right) hsame
  exact ⟨Text.eq_of_bytes_eq hbytes, hrest⟩

theorem textBytes_ne_nil (text : String) : textBytes text ≠ [] := by
  simp [textBytes]

end Hash

namespace Label

/-- The part of a label in the byte string of a label set. -/
def bytes (label : Label) : List UInt8 :=
  Hash.textBytes label.name ++ Hash.textBytes label.value

/-- The bytes of a label show where they end. -/
theorem bytes_append_inj {label other : Label} {rest tail : List UInt8}
    (hsame : label.bytes ++ rest = other.bytes ++ tail) :
    label = other ∧ rest = tail := by
  simp only [bytes, List.append_assoc] at hsame
  obtain ⟨hname, hsame⟩ := Hash.textBytes_append_inj hsame
  obtain ⟨hvalue, hrest⟩ := Hash.textBytes_append_inj hsame
  cases label
  cases other
  exact ⟨congrArg₂ Label.mk hname hvalue, hrest⟩

theorem bytes_append_ne_nil (label : Label) (rest : List UInt8) :
    label.bytes ++ rest ≠ [] := by
  simp [bytes, Hash.textBytes_ne_nil]

/-- Labels are read back one by one from their bytes, and where they end. -/
theorem flatMap_bytes_inj {labels others : List Label}
    (hsame : labels.flatMap bytes = others.flatMap bytes) :
    labels = others := by
  induction labels generalizing others with
  | nil =>
      cases others with
      | nil => rfl
      | cons last others => exact absurd hsame.symm (bytes_append_ne_nil _ _)
  | cons first labels ih =>
      cases others with
      | nil => exact absurd hsame (bytes_append_ne_nil _ _)
      | cons last others =>
          obtain ⟨rfl, hrest⟩ := bytes_append_inj hsame
          rw [ih hrest]

end Label

namespace LabelSet

/-- The bytes that are hashed tell label sets apart. -/
theorem stream_inj {left right : LabelSet} :
    left.stream = right.stream ↔ left = right := by
  constructor
  · intro hsame
    exact ext (Label.flatMap_bytes_inj hsame)
  · rintro rfl
    rfl

/-! ## The bits of a digest -/

/-- The number by which the factor of `mix` is undone. -/
def unmixFactor : UInt64 := 0x2040003d780970bd

/-- Gathers the bits of a digest that `mix` spread. -/
def unmix (mixed : UInt64) : UInt64 :=
  (mixed ^^^ (mixed >>> 32)) * unmixFactor

theorem shiftRight_half_twice (word : UInt64) : (word >>> 32) >>> 32 = 0 := by
  have hword := word.toNat_lt
  rw [← UInt64.toNat_inj, UInt64.toNat_shiftRight, UInt64.toNat_shiftRight,
    Nat.shiftRight_eq_div_pow, Nat.shiftRight_eq_div_pow,
    Nat.div_div_eq_div_mul]
  exact Nat.div_eq_of_lt hword

/-- To combine a word with its upper half a second time undoes the first. -/
theorem xor_shiftRight_half_twice (word : UInt64) :
    (word ^^^ (word >>> 32)) ^^^ ((word ^^^ (word >>> 32)) >>> 32) = word := by
  rw [UInt64.shiftRight_xor, shiftRight_half_twice, UInt64.xor_zero,
    UInt64.xor_assoc, UInt64.xor_self, UInt64.xor_zero]

/-- Mixing can be undone. -/
theorem unmix_mix (digest : UInt64) : unmix (mix digest) = digest := by
  have hone : (0x517cc1b727220a95 : UInt64) * unmixFactor = 1 := by decide
  rw [unmix, mix, xor_shiftRight_half_twice, UInt64.mul_assoc, hone,
    UInt64.mul_one]

theorem mix_injective : Function.Injective mix :=
  Function.LeftInverse.injective unmix_mix

/-- The byte string of a label set is that of no other one, whatever the number
of its labels and however long or short its texts are, and no two digests are
spread to the same number.  So fingerprints agree exactly if the digests of the
byte strings do. -/
theorem fingerprint_separates :
    (∀ left right : LabelSet, left.stream = right.stream ↔ left = right) ∧
    Function.Injective mix ∧
    ∀ left right : LabelSet, left.fingerprint = right.fingerprint ↔
      Hash.Sip.digest left.stream = Hash.Sip.digest right.stream :=
  ⟨fun _ _ => stream_inj, mix_injective, fun _ _ => mix_injective.eq_iff⟩

end LabelSet

end SeriesIndex
