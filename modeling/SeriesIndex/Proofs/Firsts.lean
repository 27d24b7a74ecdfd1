import Mathlib

/-!
# First occurrences

`List.eraseDups` keeps the first occurrence of each member of a list.  What a
list goes on with can only append to its first occurrences: a member that is
there already changes nothing, and a new one comes last.
-/

namespace SeriesIndex

variable {α : Type*} [BEq α] [LawfulBEq α] {list other : List α} {a : α}

theorem eraseDups_concat_of_mem (hmem : a ∈ list) :
    (list ++ [a]).eraseDups = list.eraseDups := by
  have hnone : [a].removeAll list = [] := by simp [List.removeAll, hmem]
  rw [List.eraseDups_append, hnone, List.eraseDups_nil, List.append_nil]

theorem eraseDups_concat_of_not_mem (hnot : a ∉ list) :
    (list ++ [a]).eraseDups = list.eraseDups ++ [a] := by
  have hself : [a].removeAll list = [a] := by simp [List.removeAll, hnot]
  have hsingle : [a].eraseDups = [a] := by simp [List.eraseDups_cons]
  rw [List.eraseDups_append, hself, hsingle]

theorem nodup_eraseDups (list : List α) : list.eraseDups.Nodup := by
  induction list using List.reverseRecOn with
  | nil => exact .nil
  | append_singleton list a ih =>
      by_cases hmem : a ∈ list
      · rw [eraseDups_concat_of_mem hmem]
        exact ih
      · rw [eraseDups_concat_of_not_mem hmem, ← List.concat_eq_append]
        exact ih.concat (mt List.mem_eraseDups.mp hmem)

/-- The first occurrences of a beginning are a beginning of the first
occurrences. -/
theorem eraseDups_prefix_eraseDups (hbegins : list <+: other) :
    list.eraseDups <+: other.eraseDups := by
  obtain ⟨rest, rfl⟩ := hbegins
  rw [List.eraseDups_append]
  exact List.prefix_append _ _

omit [BEq α] [LawfulBEq α] in
theorem getElem?_concat_eq_some_iff {place : Nat} {b : α} :
    (list ++ [a])[place]? = some b ↔
      list[place]? = some b ∨ place = list.length ∧ a = b := by
  rcases Nat.lt_trichotomy place list.length with hlt | rfl | hgt
  · rw [List.getElem?_append_left hlt,
      or_iff_left fun hlast => Nat.ne_of_lt hlt hlast.1]
  · simp
  · have hbeyond : (list ++ [a])[place]? = none :=
      List.getElem?_eq_none (by simpa using hgt)
    rw [hbeyond, List.getElem?_eq_none (Nat.le_of_lt hgt)]
    simp [Nat.ne_of_gt hgt]

omit [BEq α] [LawfulBEq α] in
theorem getElem?_of_begins {place : Nat} (hbegins : list <+: other)
    (hplace : list[place]? = some a) : other[place]? = some a := by
  obtain ⟨rest, rfl⟩ := hbegins
  obtain ⟨hlt, -⟩ := List.getElem?_eq_some_iff.mp hplace
  rw [List.getElem?_append_left hlt]
  exact hplace

/-- An earlier first occurrence is met before a later one. -/
theorem mem_of_getElem?_eraseDups {b : α} {earlier later : Nat}
    (hbegins : list ++ [a] <+: other)
    (hlater : other.eraseDups[later]? = some a)
    (hearlier : other.eraseDups[earlier]? = some b) (hlt : earlier < later) :
    b ∈ list := by
  have hfirsts := eraseDups_prefix_eraseDups hbegins
  have hsame {place : Nat} (hplace : other.eraseDups[place]? = some a) :
      later = place := by
    obtain ⟨hbound, -⟩ := List.getElem?_eq_some_iff.mp hlater
    exact (List.getElem?_inj hbound (nodup_eraseDups other)).mp
      (hlater.trans hplace.symm)
  -- the later one is among the first occurrences of the beginning, or next
  have hreach : later ≤ list.eraseDups.length := by
    by_cases hmem : a ∈ list
    · rw [eraseDups_concat_of_mem hmem] at hfirsts
      obtain ⟨place, hplace⟩ :=
        List.mem_iff_getElem?.mp (List.mem_eraseDups.mpr hmem)
      rw [hsame (getElem?_of_begins hfirsts hplace)]
      exact Nat.le_of_lt (List.getElem?_eq_some_iff.mp hplace).1
    · rw [eraseDups_concat_of_not_mem hmem] at hfirsts
      exact Nat.le_of_eq
        (hsame (getElem?_of_begins hfirsts List.getElem?_concat_length))
  have hbefore : earlier < list.eraseDups.length :=
    Nat.lt_of_lt_of_le hlt hreach
  have hown : list.eraseDups <+: other.eraseDups :=
    eraseDups_prefix_eraseDups ((List.prefix_append _ _).trans hbegins)
  have hget := List.getElem?_eq_getElem hbefore
  rw [getElem?_of_begins hown hget, Option.some_inj] at hearlier
  rw [← List.mem_eraseDups, ← hearlier]
  exact List.getElem_mem hbefore

theorem perm_eraseDups (hperm : list.Perm other) :
    list.eraseDups.Perm other.eraseDups := by
  rw [List.perm_ext_iff_of_nodup (nodup_eraseDups list) (nodup_eraseDups other)]
  intro a
  rw [List.mem_eraseDups, List.mem_eraseDups, hperm.mem_iff]

end SeriesIndex
