import Mathlib
import SeriesIndex.Proofs.Concurrent.Agreement
import SeriesIndex.Proofs.Concurrent.Contenders
import SeriesIndex.Proofs.Concurrent.Racing
import SeriesIndex.Proofs.Concurrent.Tallies

/-!
# The contest for numbers

Threads that reserve places at the same time could take them from each other:
one that gives its place back later may have had another one refused before.  In
a race it cannot happen.  Each thread comes to a contender only when it has
dealt with those before it, so numbers are given out in the order of the
contenders, and whenever a thread is at a winner that has no number, this winner
is the next one and no other thread holds a place.
-/

namespace SeriesIndex.Concurrent

/-! ## Places without a number -/

/-- The places that a task has taken for series that have no number. -/
def Task.unnumbered : Task → Nat
  | allocate _ _ => 1
  | giveBack _ => 1
  | _ => 0

def Next.unnumbered : Next → Nat
  | goOn task => task.unnumbered
  | finish _ => 0

def Thread.unnumbered (thread : Thread) : Nat :=
  thread.task.elim 0 Task.unnumbered

def World.unnumbered (world : World) : Nat :=
  (world.threads.map Thread.unnumbered).sum

/-! ## What is decided -/

/-- What is told at a place of the list: a label set is new only where it comes
up first, and no winner is refused. -/
def Decides (settings : Settings) (sets : List LabelSet) (place : Nat) :
    Except Fault Store.Registration → Prop
  | .ok registration => registration.isNew = true →
      ∀ labels, sets[place]? = some labels → labels ∉ sets.take place
  | .error _ => ∀ labels, sets[place]? = some labels →
      labels ∉ winners settings sets

/-- A task at a place of the list takes part in the contest. -/
def Task.Contends (settings : Settings) (sets : List LabelSet) (place : Nat) :
    Task → Prop
  | find _ labels => labels ∈ contenders settings sets
  | take _ labels => labels ∈ contenders settings sets
  | recheck _ labels => labels ∈ contenders settings sets
  | reserve _ labels => labels ∈ contenders settings sets
  | allocate _ labels => labels ∈ contenders settings sets
  | giveBack labels =>
      labels ∈ contenders settings sets ∧ labels ∉ winners settings sets
  | enroll _ series none => series.labels ∉ sets.take place
  | count outcome => Decides settings sets place outcome
  | _ => True

def Next.Contends (settings : Settings) (sets : List LabelSet) (place : Nat) :
    Next → Prop
  | goOn task => task.Contends settings sets place
  | finish answer => ∀ outcome, answer = .registered outcome →
      Decides settings sets place outcome

structure Thread.Contends (settings : Settings) (sets : List LabelSet)
    (thread : Thread) : Prop where
  answered : ∀ (place : Nat) (outcome : Except Fault Store.Registration),
    thread.answers[place]? = some (.registered outcome) →
    Decides settings sets place outcome
  busy : ∀ task : Task, thread.task = some task →
    task.Contends settings sets thread.answers.length

/-- Numbers were given out in the order of the winners, and the count of series
runs ahead of them by the places that are held without a number. -/
structure World.Contest (settings : Settings) (sets : List LabelSet)
    (world : World) : Prop where
  settings_eq : world.shared.index.settings = settings
  limit_eq : world.shared.store.catalog.limit = settings.seriesLimit
  allocated_iff : ∀ labels tsid, world.Allocated labels tsid ↔
    ∃ rank, (winners settings sets)[rank]? = some labels ∧
      tsid.toNat = rank + 1 ∧ tsid < world.shared.store.catalog.nextTsid
  next_le : world.shared.store.catalog.nextTsid.toNat ≤
    (winners settings sets).length + 1
  balance : world.shared.store.catalog.seriesCount + 1 =
    world.shared.store.catalog.nextTsid.toNat + world.unnumbered
  threads : ∀ (number : Nat) (thread : Thread),
    world.threads[number]? = some thread → thread.Contends settings sets

variable {settings : Settings} {sets : List LabelSet} {threads : Nat}
  {world : World} {number other place rank earlier : Nat} {labels : LabelSet}
  {timestamp : Timestamp} {task : Task} {thread otherThread : Thread}

/-- An error decides against what is no winner. -/
theorem decides_error (hplace : sets[place]? = some labels)
    (hloses : labels ∉ winners settings sets) (fault : Fault) :
    Decides settings sets place (.error fault) := by
  intro own hown
  rw [hplace, Option.some_inj] at hown
  rw [← hown]
  exact hloses

/-- The first request for a label set may find it new. -/
theorem decides_new (settings : Settings)
    (hplace : sets[place]? = some labels) (hfirst : labels ∉ sets.take place)
    (tsid : Tsid) :
    Decides settings sets place (.ok ⟨tsid, true⟩) := by
  intro _ own hown
  rw [hplace, Option.some_inj] at hown
  rw [← hown]
  exact hfirst

/-! ## Who is next -/

namespace World.Contest

/-- A winner before the next number has one. -/
theorem allocated_of_lt (hcontest : world.Contest settings sets)
    (hwinner : (winners settings sets)[rank]? = some labels)
    (hlt : rank + 1 < world.shared.store.catalog.nextTsid.toNat) :
    ∃ tsid, world.Allocated labels tsid := by
  have hbound := world.shared.store.catalog.nextTsid.toNat_lt_size
  have hnumber : (UInt64.ofNat (rank + 1)).toNat = rank + 1 :=
    UInt64.toNat_ofNat_of_lt' (Nat.lt_trans hlt hbound)
  refine ⟨.ofNat (rank + 1), (hcontest.allocated_iff _ _).mpr ?_⟩
  refine ⟨rank, hwinner, hnumber, ?_⟩
  rw [UInt64.lt_iff_toNat_lt, hnumber]
  exact hlt

/-- A thread has registered the winners that it has passed. -/
theorem key_of_mem_take (hcontest : world.Contest settings sets)
    (hsound : world.Sound (Race.given threads sets))
    (hthread : world.threads[number]? = some thread)
    (hmem : labels ∈ sets.take thread.answers.length)
    (hwinner : labels ∈ winners settings sets) :
    ∃ tsid, world.shared.store.catalog.lookup? labels = some tsid := by
  obtain ⟨place, hbound, hplace⟩ := List.mem_take_iff_getElem.mp hmem
  rw [lt_min_iff] at hbound
  have hlabels : sets[place]? = some labels :=
    List.getElem?_eq_some_iff.mpr ⟨hbound.2, hplace⟩
  have hanswer := List.getElem?_eq_getElem hbound.1
  obtain ⟨own, outcome, hown, hregistered, hkey⟩ :=
    (hsound.races hthread).answered place _ hanswer
  rw [hlabels] at hown
  cases hown
  rw [hregistered] at hanswer
  have hdecides := (hcontest.threads number thread hthread).answered place
    outcome hanswer
  cases outcome with
  | ok registration => exact ⟨_, hkey registration rfl⟩
  | error fault => exact absurd hwinner (hdecides labels hlabels)

/-- The winners before a contender have their numbers when a thread is at
it. -/
theorem lt_next_of_earlier (hcontest : world.Contest settings sets)
    (hsound : world.Sound (Race.given threads sets))
    (hthread : world.threads[number]? = some thread)
    (hplace : sets[thread.answers.length]? = some labels)
    (hrank : (contenders settings sets)[rank]? = some labels)
    (hlt : earlier < rank) (hroom : earlier < capacity settings) :
    earlier + 1 < world.shared.store.catalog.nextTsid.toNat := by
  have hbound := (List.getElem?_eq_some_iff.mp hrank).1
  have hbefore := List.getElem?_eq_getElem (Nat.lt_trans hlt hbound)
  have hwinner := getElem?_winners_eq_some_iff.mpr ⟨hroom, hbefore⟩
  obtain ⟨tsid, hkey⟩ := hcontest.key_of_mem_take hsound hthread
    (mem_take_of_contenders hplace hrank hbefore hlt)
    (List.mem_of_getElem? hwinner)
  obtain ⟨other, hother, hnumber, hnext⟩ :=
    (hcontest.allocated_iff _ _).mp (hsound.allocated_of_key hkey)
  rw [rank_eq_of_getElem?_winners hwinner hother, ← hnumber]
  exact UInt64.lt_iff_toNat_lt.mp hnext

/-- A winner that a thread is at and that has no number is the next one. -/
theorem next_of_winner (hcontest : world.Contest settings sets)
    (hsound : world.Sound (Race.given threads sets))
    (hthread : world.threads[number]? = some thread)
    (hplace : sets[thread.answers.length]? = some labels)
    (hwinner : (winners settings sets)[rank]? = some labels)
    (hnone : ∀ tsid, ¬world.Allocated labels tsid) :
    world.shared.store.catalog.nextTsid.toNat = rank + 1 := by
  obtain ⟨hroom, hrank⟩ := getElem?_winners_eq_some_iff.mp hwinner
  have hpos := UInt64.pos_iff_ne_zero.mpr hsound.consistent.next_ne
  rw [UInt64.lt_iff_toNat_lt, UInt64.toNat_zero] at hpos
  apply Nat.le_antisymm
  · by_contra hlt
    obtain ⟨tsid, hallocated⟩ :=
      hcontest.allocated_of_lt hwinner (Nat.not_le.mp hlt)
    exact hnone tsid hallocated
  · by_contra hlt
    -- otherwise the one whose turn it is comes before and has its number
    have hturn : world.shared.store.catalog.nextTsid.toNat - 1 + 1 <
        world.shared.store.catalog.nextTsid.toNat :=
      hcontest.lt_next_of_earlier hsound hthread hplace hrank (by omega)
        (by omega)
    omega

/-- While a thread is at a winner that has no number, no other thread is at a
contender that is going to have one: the winners before have their numbers, and
those after it are not reached. -/
theorem labels_eq_of_contends (hcontest : world.Contest settings sets)
    (hsound : world.Sound (Race.given threads sets))
    (hthread : world.threads[number]? = some thread)
    (hplace : sets[thread.answers.length]? = some labels)
    (hwinner : (winners settings sets)[rank]? = some labels)
    (hnone : ∀ tsid, ¬world.Allocated labels tsid)
    (hother : world.threads[other]? = some otherThread)
    {otherLabels : LabelSet}
    (hotherPlace : sets[otherThread.answers.length]? = some otherLabels)
    (hcontends : otherLabels ∈ contenders settings sets)
    (hotherNone : otherLabels ∈ winners settings sets →
      ∀ tsid, ¬world.Allocated otherLabels tsid) :
    otherLabels = labels := by
  have hnext := hcontest.next_of_winner hsound hthread hplace hwinner hnone
  obtain ⟨hroom, hrank⟩ := getElem?_winners_eq_some_iff.mp hwinner
  obtain ⟨otherRank, hotherRank⟩ := List.mem_iff_getElem?.mp hcontends
  rcases Nat.lt_trichotomy otherRank rank with hlt | rfl | hgt
  · have hotherWinner := getElem?_winners_eq_some_iff.mpr
      ⟨Nat.lt_trans hlt hroom, hotherRank⟩
    obtain ⟨tsid, hallocated⟩ :=
      hcontest.allocated_of_lt hotherWinner (by omega)
    exact absurd hallocated
      (hotherNone (List.mem_of_getElem? hotherWinner) tsid)
  · rw [hrank, Option.some_inj] at hotherRank
    exact hotherRank.symm
  · have hlt := hcontest.lt_next_of_earlier hsound hother hotherPlace
      hotherRank hgt hroom
    omega

/-- While a thread is at a winner that has no number and owns its stripe, no
other thread holds a place without a number. -/
theorem unnumbered_eq_zero_of_ne (hcontest : world.Contest settings sets)
    (hsound : world.Sound (Race.given threads sets))
    (hthread : world.threads[number]? = some thread)
    (htask : thread.task = some task)
    (hplace : sets[thread.answers.length]? = some labels)
    (howns : task.Owns world.shared (world.shared.slotOf labels))
    (hwinner : (winners settings sets)[rank]? = some labels)
    (hnone : ∀ tsid, ¬world.Allocated labels tsid)
    (hother : world.threads[other]? = some otherThread)
    (hne : other ≠ number) : otherThread.unnumbered = 0 := by
  rw [Thread.unnumbered]
  cases hotherTask : otherThread.task with
  | none => rfl
  | some otherTask =>
      have hcurrent := (task?_of_getElem? hother).trans hotherTask
      have hcontends := (hcontest.threads other otherThread hother).busy
        otherTask hotherTask
      obtain ⟨otherLabels, hotherPlace, -, hvalid⟩ :=
        (hsound.races hother).busy otherTask hotherTask
      -- it would own the stripe of its label set, which is the same one
      have hapart (hmember : otherLabels ∈ contenders settings sets)
          (hotherNone : otherLabels ∈ winners settings sets →
            ∀ tsid, ¬world.Allocated otherLabels tsid) :
          ¬otherTask.Owns world.shared (world.shared.slotOf otherLabels) := by
        intro hotherOwns
        rw [hcontest.labels_eq_of_contends hsound hthread hplace hwinner hnone
          hother hotherPlace hmember hotherNone] at hotherOwns
        exact hne (hsound.locked.eq_of_owns hcurrent
          ((task?_of_getElem? hthread).trans htask) hotherOwns howns)
      cases otherTask with
      | allocate timestamp own =>
          obtain ⟨hrequest, hfree⟩ := hvalid
          cases hrequest
          have hotherNone := hsound.not_allocated hcurrent rfl rfl hfree
          exact absurd rfl (hapart hcontends fun _ => hotherNone)
      | giveBack own =>
          obtain ⟨timestamp, hrequest⟩ := hvalid
          cases hrequest
          exact absurd rfl (hapart hcontends.1
            fun hwins => absurd hwins hcontends.2)
      | _ => rfl

/-- No winner is refused for lack of room. -/
theorem not_winner_of_full (hcontest : world.Contest settings sets)
    (hsound : world.Sound (Race.given threads sets))
    (hthread : world.threads[number]? = some thread)
    (htask : thread.task = some (.reserve timestamp labels))
    (hplace : sets[thread.answers.length]? = some labels)
    (hfree : world.shared.store.catalog.Free labels)
    (hfull : world.shared.store.catalog.hasRoom 1 = false) :
    labels ∉ winners settings sets := by
  intro hmem
  obtain ⟨rank, hwinner⟩ := List.mem_iff_getElem?.mp hmem
  have hnone := hsound.not_allocated
    ((task?_of_getElem? hthread).trans htask) rfl rfl hfree
  have hnext := hcontest.next_of_winner hsound hthread hplace hwinner hnone
  have hplaces : world.unnumbered = 0 := by
    apply List.sum_eq_zero
    intro count hcount
    obtain ⟨otherThread, hmem, rfl⟩ := List.mem_map.mp hcount
    obtain ⟨other, hother⟩ := List.mem_iff_getElem?.mp hmem
    by_cases hne : other = number
    · subst hne
      rw [hthread] at hother
      cases hother
      rw [Thread.unnumbered, htask]
      rfl
    · exact hcontest.unnumbered_eq_zero_of_ne hsound hthread htask hplace rfl
        hwinner hnone hother hne
  have hbalance := hcontest.balance
  have hroom :=
    (lt_capacity_iff.mp (getElem?_winners_eq_some_iff.mp hwinner).1).1
  rw [← Bool.not_eq_true, Store.hasRoom_iff, hcontest.limit_eq] at hfull
  omega

/-- Whoever is given a number is the next winner. -/
theorem winner_of_allocate (hcontest : world.Contest settings sets)
    (hsound : world.Sound (Race.given threads sets))
    (hthread : world.threads[number]? = some thread)
    (htask : thread.task = some (.allocate timestamp labels))
    (hplace : sets[thread.answers.length]? = some labels)
    (hfree : world.shared.store.catalog.Free labels)
    (hlast : world.shared.store.catalog.nextTsid ≠ Tsid.last) :
    ∃ rank, (winners settings sets)[rank]? = some labels ∧
      world.shared.store.catalog.nextTsid.toNat = rank + 1 := by
  obtain ⟨rank, hrank⟩ := List.mem_iff_getElem?.mp
    ((hcontest.threads number thread hthread).busy _ htask)
  have hnone := hsound.not_allocated
    ((task?_of_getElem? hthread).trans htask) rfl rfl hfree
  -- the place that the thread holds lies within the limit
  have hturn : world.shared.store.catalog.nextTsid.toNat - 1 <
      capacity settings := by
    have hown : thread.unnumbered = 1 := by
      rw [Thread.unnumbered, htask]
      rfl
    have hle : thread.unnumbered ≤ world.unnumbered :=
      List.le_sum_of_mem (List.mem_map_of_mem (List.mem_of_getElem? hthread))
    have hbalance := hcontest.balance
    have hwithin := hsound.within
    have hnext := Tsid.ne_last_iff.mp hlast
    have hbound : Tsid.last.toNat = 18446744073709551615 := rfl
    rw [hcontest.limit_eq] at hwithin
    rw [lt_capacity_iff]
    omega
  have hle : rank ≤ world.shared.store.catalog.nextTsid.toNat - 1 := by
    by_contra hlt
    have hearlier := hcontest.lt_next_of_earlier hsound hthread hplace hrank
      (Nat.not_le.mp hlt) hturn
    omega
  have hwinner := getElem?_winners_eq_some_iff.mpr
    ⟨Nat.lt_of_le_of_lt hle hturn, hrank⟩
  exact ⟨rank, hwinner,
    hcontest.next_of_winner hsound hthread hplace hwinner hnone⟩

/-- No winner is left without a number. -/
theorem not_winner_of_exhausted (hcontest : world.Contest settings sets)
    (hsound : world.Sound (Race.given threads sets))
    (hthread : world.threads[number]? = some thread)
    (htask : thread.task = some (.allocate timestamp labels))
    (hplace : sets[thread.answers.length]? = some labels)
    (hfree : world.shared.store.catalog.Free labels)
    (hlast : world.shared.store.catalog.nextTsid = Tsid.last) :
    labels ∉ winners settings sets := by
  intro hmem
  obtain ⟨rank, hwinner⟩ := List.mem_iff_getElem?.mp hmem
  have hnone := hsound.not_allocated
    ((task?_of_getElem? hthread).trans htask) rfl rfl hfree
  have hnext := hcontest.next_of_winner hsound hthread hplace hwinner hnone
  have hroom :=
    (lt_capacity_iff.mp (getElem?_winners_eq_some_iff.mp hwinner).1).2
  rw [hlast] at hnext
  omega

/-- A label set is given a number where it comes up first. -/
theorem not_mem_take_of_allocate (hcontest : world.Contest settings sets)
    (hsound : world.Sound (Race.given threads sets))
    (hthread : world.threads[number]? = some thread)
    (htask : thread.task = some (.allocate timestamp labels))
    (hplace : sets[thread.answers.length]? = some labels)
    (hfree : world.shared.store.catalog.Free labels)
    (hlast : world.shared.store.catalog.nextTsid ≠ Tsid.last) :
    labels ∉ sets.take thread.answers.length := by
  intro hmem
  obtain ⟨rank, hwinner, -⟩ := hcontest.winner_of_allocate hsound hthread htask
    hplace hfree hlast
  obtain ⟨tsid, hkey⟩ := hcontest.key_of_mem_take hsound hthread hmem
    (List.mem_of_getElem? hwinner)
  obtain ⟨series, hseries, hlabels⟩ :=
    hsound.consistent.key_labels labels tsid hkey
  exact hfree tsid series hseries hlabels

end World.Contest

end SeriesIndex.Concurrent
