import Mathlib
import SeriesIndex.Proofs.Concurrent.Verdict

/-!
# The outcome of a race

What is told of a race is computed from the run in which each thread waits for
those before it.  It is the same for every schedule on which the race ends: what
is decided leaves open which call of a winner was the first, and this is not
told.
-/

namespace SeriesIndex

theorem mem_take_of_lt {α : Type*} {list : List α} {place count : Nat} {a : α}
    (hplace : list[place]? = some a) (hlt : place < count) :
    a ∈ list.take count := by
  rw [← List.getElem?_take_of_lt hlt] at hplace
  exact List.mem_of_getElem? hplace

/-- A member that occurs at one place is counted once. -/
theorem countP_eq_one {α : Type*} {list : List α} {told : α → Bool}
    {place : Nat} {a : α} (hplace : list[place]? = some a)
    (htold : told a = true)
    (hunique : ∀ other b, list[other]? = some b → told b = true →
      other = place) : list.countP told = 1 := by
  induction list generalizing place with
  | nil => cases hplace
  | cons first rest ih =>
      cases place with
      | zero =>
          cases hplace
          have hrest : rest.countP told = 0 := by
            rw [List.countP_eq_zero]
            intro b hmem hb
            obtain ⟨other, hother⟩ := List.mem_iff_getElem?.mp hmem
            exact absurd (hunique (other + 1) b hother hb) (Nat.succ_ne_zero _)
          rw [List.countP_cons_of_pos htold, hrest]
      | succ place =>
          have hfirst : ¬told first = true := fun hb =>
            absurd (hunique 0 first rfl hb).symm (Nat.succ_ne_zero _)
          rw [List.countP_cons_of_neg hfirst]
          apply ih hplace
          intro other b hother hb
          exact Nat.succ_injective (hunique (other + 1) b hother hb)

namespace Concurrent

variable {settings : Settings} {threads place : Nat} {sets : List LabelSet}
  {world left right : World} {labels : LabelSet} {tsid : Tsid}
  {registration : Store.Registration}

/-! ## One label set -/

/-- What a thread registered at a place of the list. -/
def Thread.registration? (place : Nat) (thread : Thread) :
    Option Store.Registration :=
  thread.answers[place]?.bind fun answer =>
    match answer with
    | .registered (.ok registration) => some registration
    | _ => none

theorem Thread.registration?_eq_some_iff {thread : Thread} :
    thread.registration? place = some registration ↔
      thread.answers[place]? = some (.registered (.ok registration)) := by
  rw [registration?, Option.bind_eq_some_iff]
  constructor
  · intro ⟨answer, hanswer, hsome⟩
    cases answer with
    | registered outcome =>
        cases outcome with
        | ok own =>
            cases hsome
            exact hanswer
        | error fault => cases hsome
    | _ => cases hsome
  · exact fun hanswer => ⟨_, hanswer, rfl⟩

theorem World.answer?_eq_registered_iff {number : Nat} :
    world.answer? number place = some (.registered (.ok registration)) ↔
      ∃ thread, world.threads[number]? = some thread ∧
        thread.registration? place = some registration := by
  simp only [answer?, Option.bind_eq_some_iff,
    Thread.registration?_eq_some_iff]

theorem Race.registrationsAt_eq (world : World) (place : Nat) :
    Race.registrationsAt world place =
      world.threads.filterMap (Thread.registration? place) := rfl

/-- What was answered at a place is what some thread was answered there. -/
theorem mem_registrationsAt_iff :
    registration ∈ Race.registrationsAt world place ↔
      ∃ number, world.answer? number place =
        some (.registered (.ok registration)) := by
  simp only [Race.registrationsAt_eq, List.mem_filterMap,
    World.answer?_eq_registered_iff]
  constructor
  · rintro ⟨thread, hmem, hsome⟩
    obtain ⟨number, hthread⟩ := List.mem_iff_getElem?.mp hmem
    exact ⟨number, thread, hthread, hsome⟩
  · rintro ⟨number, thread, hthread, hsome⟩
    exact ⟨thread, List.mem_of_getElem? hthread, hsome⟩

namespace World.Ended

theorem lt_of_answer? (hended : world.Ended settings threads sets)
    {number : Nat} {answer : Answer}
    (hanswer : world.answer? number place = some answer) :
    number < threads := by
  obtain ⟨thread, hthread, -⟩ := Option.bind_eq_some_iff.mp hanswer
  exact hended.sound.number_lt hthread

/-- The registrations of a label set are told its number, if it is a winner. -/
theorem mem_registrationsAt (hended : world.Ended settings threads sets)
    (hpos : 0 < threads) (hplace : sets[place]? = some labels)
    (hmem : registration ∈ Race.registrationsAt world place) :
    ∃ rank, (winners settings sets)[rank]? = some labels ∧
      registration.tsid.toNat = rank + 1 := by
  obtain ⟨number, hanswer⟩ := mem_registrationsAt_iff.mp hmem
  have hregistered := hended.registered_iff.mpr
    ⟨hended.lt_of_answer? hanswer, hplace, hanswer⟩
  exact (hended.key_iff hpos).mp (hended.sound.key_of_registered hregistered)

/-- Once all is over, the numbers seen at a place are those of the winner there.
-/
theorem mem_tsids_finisher_iff (hended : world.Ended settings threads sets)
    (hpos : 0 < threads) (hplace : sets[place]? = some labels) :
    tsid ∈ (Race.finisher world place).tsids ↔
      ∃ rank, (winners settings sets)[rank]? = some labels ∧
        tsid.toNat = rank + 1 := by
  rw [Race.finisher, Postings.mem_extend,
    or_iff_right Std.ExtTreeSet.not_mem_empty, List.mem_map]
  constructor
  · rintro ⟨registration, hmem, rfl⟩
    exact hended.mem_registrationsAt hpos hplace hmem
  · rintro ⟨rank, hwinner, htsid⟩
    obtain ⟨registration, hanswer, hown⟩ :=
      hended.accepted hpos hpos hplace hwinner
    refine ⟨registration, mem_registrationsAt_iff.mpr ⟨0, hanswer⟩, ?_⟩
    rw [← UInt64.toNat_inj, hown, htsid]

/-- The interval seen at a place is the span of the race, if its label set wins.
-/
theorem activity_finisher (hended : world.Ended settings threads sets)
    (hpos : 0 < threads) (hplace : sets[place]? = some labels) :
    (Race.finisher world place).activity =
      if labels ∈ winners settings sets then some (Race.span threads)
      else none := by
  rw [Race.finisher]
  cases hhead : (Race.registrationsAt world place).head? with
  | none =>
      rw [List.head?_eq_none_iff] at hhead
      rw [Option.bind_none, if_neg]
      intro hmem
      obtain ⟨rank, hwinner⟩ := List.mem_iff_getElem?.mp hmem
      obtain ⟨registration, hanswer, -⟩ :=
        hended.accepted hpos hpos hplace hwinner
      have hsome := mem_registrationsAt_iff.mpr ⟨0, hanswer⟩
      rw [hhead] at hsome
      cases hsome
  | some registration =>
      obtain ⟨rank, hwinner, htsid⟩ :=
        hended.mem_registrationsAt hpos hplace (List.mem_of_head? hhead)
      have hbound := (List.getElem?_eq_some_iff.mp hwinner).1
      rw [Option.bind_some, if_pos (List.mem_of_getElem? hwinner),
        hended.activity_eq hpos (by omega) (by omega)]
      rfl

/-- Only winners are new, and only where they come up first. -/
theorem first_of_isNew (hended : world.Ended settings threads sets)
    (hpos : 0 < threads) (hplace : sets[place]? = some labels)
    (hmem : registration ∈ Race.registrationsAt world place)
    (hnew : registration.isNew = true) :
    labels ∈ winners settings sets ∧ labels ∉ sets.take place := by
  obtain ⟨rank, hwinner, -⟩ := hended.mem_registrationsAt hpos hplace hmem
  refine ⟨List.mem_of_getElem? hwinner, ?_⟩
  obtain ⟨number, hanswer⟩ := mem_registrationsAt_iff.mp hmem
  obtain ⟨thread, hthread, hsome⟩ := answer?_eq_registered_iff.mp hanswer
  exact (hended.contest.threads number thread hthread).answered place _
    (Thread.registration?_eq_some_iff.mp hsome) hnew labels hplace

/-- One number is given at a place, if its label set wins and was not given at
an earlier place. -/
theorem allocations_finisher (hended : world.Ended settings threads sets)
    (hpos : 0 < threads) (hplace : sets[place]? = some labels) :
    (Race.finisher world place).allocations =
      if labels ∈ winners settings sets ∧ labels ∉ sets.take place then 1
      else 0 := by
  rw [Race.finisher]
  split
  · rename_i hfirst
    obtain ⟨number, -, founded, tsid, hfounded, hnot, hanswer, hunique⟩ :=
      hended.founder hpos hfirst.1
    -- the founder is where the label set comes up first, and that is here
    have hsame : founded = place := by
      apply Nat.le_antisymm
      · by_contra hlt
        exact hnot (mem_take_of_lt hplace (Nat.not_le.mp hlt))
      · by_contra hlt
        exact hfirst.2 (mem_take_of_lt hfounded (Nat.not_le.mp hlt))
    subst hsame
    obtain ⟨thread, hthread, hsome⟩ := answer?_eq_registered_iff.mp hanswer
    rw [Race.registrationsAt_eq, List.countP_filterMap]
    refine countP_eq_one hthread (by rw [hsome]; rfl) ?_
    intro other otherThread hother htold
    cases hotherSome : otherThread.registration? founded with
    | none =>
        rw [hotherSome] at htold
        cases htold
    | some registration =>
        rw [hotherSome] at htold
        obtain ⟨otherTsid, isNew⟩ := registration
        cases htold
        have hotherAnswer := answer?_eq_registered_iff.mpr
          ⟨otherThread, hother, hotherSome⟩
        exact (hunique other founded otherTsid
          (hended.lt_of_answer? hotherAnswer) hplace hotherAnswer).1
  · rename_i hnot
    rw [List.countP_eq_zero]
    intro registration hmem hnew
    exact hnot (hended.first_of_isNew hpos hplace hmem hnew)

end World.Ended

/-! ## All of them -/

theorem World.Ended.finisher_eq (hleft : left.Ended settings threads sets)
    (hright : right.Ended settings threads sets) (hpos : 0 < threads)
    (hplace : sets[place]? = some labels) :
    Race.finisher left place = Race.finisher right place := by
  have htsids : (Race.finisher left place).tsids =
      (Race.finisher right place).tsids := by
    apply Std.ExtTreeSet.ext_mem
    intro tsid
    rw [hleft.mem_tsids_finisher_iff hpos hplace,
      hright.mem_tsids_finisher_iff hpos hplace]
  have hallocations : (Race.finisher left place).allocations =
      (Race.finisher right place).allocations := by
    rw [hleft.allocations_finisher hpos hplace,
      hright.allocations_finisher hpos hplace]
  have hactivity : (Race.finisher left place).activity =
      (Race.finisher right place).activity := by
    rw [hleft.activity_finisher hpos hplace,
      hright.activity_finisher hpos hplace]
  cases hfirst : Race.finisher left place
  cases hsecond : Race.finisher right place
  rw [hfirst, hsecond] at htsids hallocations hactivity
  rw [Finisher.mk.injEq]
  exact ⟨htsids, hallocations, hactivity⟩

/-- The same is told of a race wherever it has ended. -/
theorem World.Ended.ofWorld_eq (hleft : left.Ended settings threads sets)
    (hright : right.Ended settings threads sets) (hpos : 0 < threads) :
    Race.ofWorld left sets = Race.ofWorld right sets := by
  have hfinishers : (List.range sets.length).map (Race.finisher left) =
      (List.range sets.length).map (Race.finisher right) := by
    apply List.map_congr_left
    intro place hplace
    exact hleft.finisher_eq hright hpos
      (List.getElem?_eq_getElem (List.mem_range.mp hplace))
  have hpublished : left.shared.store.catalog.published =
      right.shared.store.catalog.published := by
    apply Std.ExtTreeSet.ext_mem
    intro tsid
    rw [hleft.published_iff hpos, hright.published_iff hpos]
  have hleftDecided := hleft.decided hpos
  have hrightDecided := hright.decided hpos
  rw [Race.ofWorld, Race.ofWorld, Race.mk.injEq]
  refine ⟨hfinishers, congrArg Std.ExtTreeSet.toList hpublished, ?_, ?_, ?_⟩
  · rw [hleftDecided.seriesCount_eq, hrightDecided.seriesCount_eq]
  · rw [hleftDecided.registrations_eq, hrightDecided.registrations_eq]
  · rw [hleftDecided.rejected_eq, hrightDecided.rejected_eq]

/-- A race that is over has ended as it should. -/
theorem World.ended_run (settings : Settings) (sets : List LabelSet)
    (hthreads : threads ≤ 2 ^ 63) {schedule : List Nat}
    (hfinished : ((Race.start (Index.empty settings) threads sets).run
      schedule).isFinished = true) :
    ((Race.start (Index.empty settings) threads sets).run schedule).Ended
      settings threads sets where
  sound := (World.credited_run settings (Race.given threads sets) schedule).1
  credited := (World.credited_run settings (Race.given threads sets) schedule).2
  contest := World.contest_run settings threads sets schedule
  covered := World.covered_run settings hthreads sets schedule
  tallied := World.tallied_run settings (Race.given threads sets) schedule
  length_eq := by
    rw [World.length_threads_run, Race.length_threads_start]
  finished := hfinished

/-- Whatever the schedule, a race on an empty index ends if no thread is
neglected, and with one outcome, that of the threads running one after another.
Some thread can take a step until then.  The first contenders that there is room
for are registered, under the numbers from one on.  A thread registers at its
number, so there are no more threads than timestamps from zero on. -/
theorem race_decided (settings : Settings) (sets : List LabelSet)
    {threads : Nat} (hpos : 0 < threads) (hthreads : threads ≤ 2 ^ 63) :
    let start := Race.start (Index.empty settings) threads sets
    (∀ schedule : Nat → Nat,
      (∀ number < threads, ∀ count, ∃ gap, schedule (count + gap) = number) →
      ∃ count, (start.run (World.upTo schedule count)).isFinished = true) ∧
    (∀ schedule, (start.run schedule).isFinished = true ∨
      ∃ number, ((start.run schedule).step number).isSome = true) ∧
    (∀ schedule, (start.run schedule).isFinished = true →
      (start.run schedule).Decided settings threads sets ∧
      Race.ofWorld (start.run schedule) sets =
        Race.run (Index.empty settings) threads sets) ∧
    ((contenders settings sets).length < Tsid.last.toNat →
      winners settings sets =
        if settings.seriesLimit = 0 then contenders settings sets
        else (contenders settings sets).take settings.seriesLimit) := by
  intro start
  have hsound : start.Sound (Race.given threads sets) :=
    World.sound_ofIndex (Store.settled_empty _ _ _) _
  obtain ⟨⟨order, horder⟩, hlast⟩ :=
    hsound.runInOrder (effort_start_le (Index.empty settings) threads sets)
  have hturns : (start.run order).isFinished = true := horder ▸ hlast
  refine ⟨fun schedule hfair => hsound.finishes hfair 0, fun schedule => ?_,
    fun schedule hfinished => ?_, winners_eq⟩
  · cases hfinished : (start.run schedule).isFinished with
    | true => exact .inl rfl
    | false => exact .inr ((hsound.run schedule).exists_step hfinished)
  · have hended := World.ended_run settings sets hthreads hfinished
    refine ⟨hended.decided hpos, ?_⟩
    rw [Race.run, horder]
    exact hended.ofWorld_eq (World.ended_run settings sets hthreads hturns) hpos

/-- Two threads in turn race for one place, each with two label sets. -/
theorem race_decided_in_turn :
    let settings : Settings := { seriesLimit := 1 }
    let sets : List LabelSet :=
      [.empty, ⟨[⟨"job", "api"⟩], List.pairwise_singleton _ _, by simp⟩]
    let start := Race.start (Index.empty settings) 2 sets
    (0 < 2 ∧ 2 ≤ 2 ^ 63) ∧
      (∀ number < 2, ∀ count, ∃ gap, (count + gap) % 2 = number) ∧
      winners settings sets = [.empty] ∧
      ∃ count,
        (start.run (World.upTo (· % 2) count)).isFinished = true ∧
        (start.run (World.upTo (· % 2) count)).Decided settings 2 sets := by
  intro settings sets start
  have hbounds : 0 < 2 ∧ 2 ≤ 2 ^ 63 := by decide
  have hfair : ∀ number < 2, ∀ count, ∃ gap, (count + gap) % 2 = number := by
    intro number hnumber count
    refine ⟨(count + number) % 2, ?_⟩
    omega
  obtain ⟨hends, -, hdecided, -⟩ :=
    race_decided settings sets hbounds.1 hbounds.2
  obtain ⟨count, hfinished⟩ := hends (· % 2) hfair
  refine ⟨hbounds, hfair, ?_, count, hfinished, (hdecided _ hfinished).1⟩
  decide +kernel

end Concurrent

end SeriesIndex
