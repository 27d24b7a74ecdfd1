import Mathlib

/-!
# Texts in the order of their bytes

Texts are compared character by character.  A character is encoded by one to
four bytes, and of two characters the greater one has the greater byte where
their encodings first differ: a longer encoding starts with a greater byte, and
encodings of one length write the code point digit by digit.  To compare the
bytes of two texts is therefore the same as to compare the texts.
-/

namespace SeriesIndex.Text

/-! ## Bytes -/

theorem loop_toList (bytes : ByteArray) (place : Nat) (read : List UInt8) :
    ByteArray.toList.loop bytes place read =
      read.reverse ++ bytes.data.toList.drop place := by
  fun_induction ByteArray.toList.loop bytes place read with
  | case1 place read hplace ih =>
      have hlength : place < bytes.data.toList.length := hplace
      have hbyte : bytes.get! place = bytes.data.toList[place] :=
        getElem!_pos bytes.data place hplace
      rw [ih, List.drop_eq_getElem_cons hlength, hbyte, List.reverse_cons,
        List.append_assoc, List.singleton_append]
  | case2 place read hplace =>
      have hlength : bytes.data.toList.length ≤ place := Nat.le_of_not_lt hplace
      rw [List.drop_eq_nil_of_le hlength, List.append_nil]

/-- The bytes of a text are those of its characters. -/
theorem toList_toUTF8 (text : String) :
    text.toUTF8.toList = text.toList.flatMap String.utf8EncodeChar := by
  have hencode : text.toUTF8 = text.toList.utf8Encode :=
    String.utf8Encode_toList.symm
  rw [hencode, ByteArray.toList, loop_toList, List.utf8Encode,
    List.data_toByteArray]
  rfl

/-! ## Characters -/

/-- A smaller number has a smaller digit where the two first differ. -/
theorem digits_lt {small great : Nat} (hless : small < great) :
    small / 262144 < great / 262144 ∨
      small / 262144 = great / 262144 ∧
        (small / 4096 < great / 4096 ∨
          small / 4096 = great / 4096 ∧
            (small / 64 < great / 64 ∨
              small / 64 = great / 64 ∧ small % 64 < great % 64)) := by
  omega

/-- A smaller character comes first by its bytes, whatever follows it. -/
theorem encodeChar_append_lt {small great : Char} (hless : small < great)
    (rest other : List UInt8) :
    String.utf8EncodeChar small ++ rest <
      String.utf8EncodeChar great ++ other := by
  have hvalue : small.val.toNat < great.val.toNat := hless
  have hbound : great.val.toNat < 1114112 := by
    rcases great.valid with hlow | ⟨-, hhigh⟩
    · exact hlow.trans (by decide)
    · exact hhigh
  have hdigits := digits_lt hvalue
  simp only [String.utf8EncodeChar]
  generalize small.val.toNat = low at *
  generalize great.val.toNat = high at *
  -- The cases are the pairs of lengths, and then the first digit that differs.
  split_ifs <;>
    simp only [List.cons_append, List.nil_append, List.cons_lt_cons_iff,
      UInt8.lt_iff_toNat_lt, ← UInt8.toNat_inj, UInt8.toNat_ofNat'] <;>
    rcases hdigits with
      hless | ⟨hfirst, hless | ⟨hsecond, hless | ⟨hthird, hless⟩⟩⟩ <;>
    omega

theorem encodeChar_ne_nil (c : Char) : String.utf8EncodeChar c ≠ [] := by
  rw [String.utf8EncodeChar]
  split_ifs <;> exact List.cons_ne_nil _ _

/-! ## Texts -/

theorem flatMap_encodeChar_lt {small great : List Char}
    (hless : small < great) :
    small.flatMap String.utf8EncodeChar <
      great.flatMap String.utf8EncodeChar := by
  induction small generalizing great with
  | nil =>
      cases great with
      | nil => exact absurd hless (List.lt_irrefl _)
      | cons last rest =>
          obtain ⟨byte, bytes, hbytes⟩ :=
            List.exists_cons_of_ne_nil (encodeChar_ne_nil last)
          rw [List.flatMap_cons, hbytes]
          exact List.nil_lt_cons _ _
  | cons first rest ih =>
      cases great with
      | nil => exact absurd hless (List.not_lt_nil _)
      | cons other others =>
          rw [List.flatMap_cons, List.flatMap_cons]
          rcases List.cons_lt_cons_iff.mp hless with hchar | ⟨rfl, hrest⟩
          · exact encodeChar_append_lt hchar _ _
          · exact List.append_left_lt (ih hrest)

/-- Texts are in the order of their bytes. -/
theorem lt_iff_bytes_lt {left right : String} :
    left < right ↔ left.toUTF8.toList < right.toUTF8.toList := by
  rw [toList_toUTF8, toList_toUTF8, String.lt_iff_toList_lt]
  constructor
  · exact flatMap_encodeChar_lt
  · intro hbytes
    rcases lt_trichotomy left.toList right.toList with hless | hsame | hgreater
    · exact hless
    · rw [hsame] at hbytes
      exact absurd hbytes (List.lt_irrefl _)
    · exact absurd hbytes (List.lt_asymm (flatMap_encodeChar_lt hgreater))

theorem le_iff_bytes_le {left right : String} :
    left ≤ right ↔ left.toUTF8.toList ≤ right.toUTF8.toList := by
  rw [← String.not_lt, ← List.not_lt, lt_iff_bytes_lt]

theorem pairwise_bytes {texts : List String}
    (hascending : texts.Pairwise (· < ·)) :
    (texts.map fun text => text.toUTF8.toList).Pairwise (· < ·) :=
  List.pairwise_map.mpr (hascending.imp lt_iff_bytes_lt.mp)

end SeriesIndex.Text
