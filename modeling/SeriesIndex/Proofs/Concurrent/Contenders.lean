import Mathlib
import SeriesIndex.Concurrent.Race
import SeriesIndex.Proofs.Concurrent.Sound
import SeriesIndex.Proofs.Firsts

/-!
# Who takes part in a race

The label sets that the settings allow compete for the places of the index, in
the order in which they come up first.  Every thread comes to the label sets in
this order, so a thread that is at one of them has dealt with all contenders
before it.
-/

namespace SeriesIndex.Concurrent

/-! ## Contenders -/

/-- The label sets that the settings allow, each where it comes up first. -/
def contenders (settings : Settings) (sets : List LabelSet) : List LabelSet :=
  (sets.filter fun labels => (settings.checkLabels labels).isOk).eraseDups

/-- How many series an index has room for: there is an end to the numbers, and
perhaps a limit. -/
def capacity (settings : Settings) : Nat :=
  if settings.seriesLimit = 0 then Tsid.last.toNat - 1
  else min settings.seriesLimit (Tsid.last.toNat - 1)

/-- The contenders that there is room for. -/
def winners (settings : Settings) (sets : List LabelSet) : List LabelSet :=
  (contenders settings sets).take (capacity settings)

variable {settings : Settings} {sets : List LabelSet} {labels other : LabelSet}
  {place rank earlier later : Nat}

/-- To contend is to be among the label sets and to pass their check. -/
theorem mem_contenders_iff :
    labels ∈ contenders settings sets ↔
      labels ∈ sets ∧ (settings.checkLabels labels).isOk = true := by
  rw [contenders, List.mem_eraseDups, List.mem_filter]

theorem lt_capacity_iff :
    rank < capacity settings ↔
      (settings.seriesLimit = 0 ∨ rank < settings.seriesLimit) ∧
        rank + 1 < Tsid.last.toNat := by
  rw [capacity]
  split <;> omega

/-- Winners are the contenders for whom there is a place. -/
theorem getElem?_winners_eq_some_iff :
    (winners settings sets)[rank]? = some labels ↔
      rank < capacity settings ∧
        (contenders settings sets)[rank]? = some labels := by
  rw [winners, List.getElem?_take, Option.ite_none_right_eq_some]

/-- No label set wins twice. -/
theorem nodup_winners (settings : Settings) (sets : List LabelSet) :
    (winners settings sets).Nodup :=
  (nodup_eraseDups _).sublist (List.take_sublist _ _)

/-- A label set has one place among the winners. -/
theorem rank_eq_of_getElem?_winners
    (hearlier : (winners settings sets)[earlier]? = some labels)
    (hlater : (winners settings sets)[later]? = some labels) :
    earlier = later :=
  (List.getElem?_inj (List.getElem?_eq_some_iff.mp hearlier).1
    (nodup_winners settings sets)).mp (hearlier.trans hlater.symm)

theorem isOk_of_mem_winners (hwinner : labels ∈ winners settings sets) :
    (settings.checkLabels labels).isOk = true :=
  (mem_contenders_iff.mp (List.mem_of_mem_take hwinner)).2

theorem mem_sets_of_mem_winners (hwinner : labels ∈ winners settings sets) :
    labels ∈ sets :=
  (mem_contenders_iff.mp (List.mem_of_mem_take hwinner)).1

/-- With fewer contenders than numbers only the limit counts. -/
theorem winners_eq (hnumbers : (contenders settings sets).length <
    Tsid.last.toNat) :
    winners settings sets =
      if settings.seriesLimit = 0 then contenders settings sets
      else (contenders settings sets).take settings.seriesLimit := by
  rw [winners, capacity]
  split
  · exact List.take_of_length_le (by omega)
  · rw [List.take_eq_take_iff]
    omega

/-- Whoever is at a contender has passed those before it. -/
theorem mem_take_of_contenders (hplace : sets[place]? = some labels)
    (hlater : (contenders settings sets)[later]? = some labels)
    (hearlier : (contenders settings sets)[earlier]? = some other)
    (hlt : earlier < later) : other ∈ sets.take place := by
  let allowed : LabelSet → Bool :=
    fun labels => (settings.checkLabels labels).isOk
  have htake : sets.take (place + 1) = sets.take place ++ [labels] := by
    rw [List.take_add_one, hplace, Option.toList_some]
  have hallowed : allowed labels = true :=
    (mem_contenders_iff.mp (List.mem_of_getElem? hlater)).2
  have hlast : [labels].filter allowed = [labels] := by
    rw [List.filter_cons_of_pos hallowed, List.filter_nil]
  have hbegins : (sets.take place).filter allowed ++ [labels] <+:
      sets.filter allowed := by
    have hfilter := (List.take_prefix (place + 1) sets).filter allowed
    rw [htake, List.filter_append, hlast] at hfilter
    exact hfilter
  exact List.mem_of_mem_filter
    (mem_of_getElem?_eraseDups hbegins hlater hearlier hlt)

end SeriesIndex.Concurrent
