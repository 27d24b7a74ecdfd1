import Mathlib
import SeriesIndex.Proofs.Concurrent.Completion
import SeriesIndex.Proofs.Concurrent.Coverage
import SeriesIndex.Proofs.Concurrent.Numbering

/-!
# How a race ends

When a race has ended, every thread has passed every label set.  So each winner
was registered by every thread, under the number that its turn gives it, and the
timestamps of all threads are in its interval.  The calls for all other label
sets were refused.
-/

namespace SeriesIndex.Concurrent

/-- The answer to the call of a thread for the label set at a place. -/
def World.answer? (world : World) (number place : Nat) : Option Answer :=
  world.threads[number]?.bind fun thread => thread.answers[place]?

/-- What is so in every world in which a race has ended. -/
structure World.Decided (settings : Settings) (threads : Nat)
    (sets : List LabelSet) (world : World) : Prop where
  /-- Exactly the winners are registered, under the numbers from one on. -/
  key_iff : ∀ labels tsid,
    world.shared.index.lookup? labels = some tsid ↔
      ∃ rank, (winners settings sets)[rank]? = some labels ∧
        tsid.toNat = rank + 1
  published_iff : ∀ tsid,
    tsid ∈ world.shared.index.store.catalog.published ↔
      0 < tsid.toNat ∧ tsid.toNat ≤ (winners settings sets).length
  seriesCount_eq :
    world.shared.index.seriesCount = (winners settings sets).length
  /-- Each call for a winner is told its number. -/
  accepted : ∀ number < threads, ∀ place labels rank,
    sets[place]? = some labels →
    (winners settings sets)[rank]? = some labels →
      ∃ registration, world.answer? number place =
          some (.registered (.ok registration)) ∧
        registration.tsid.toNat = rank + 1
  /-- All other calls are refused. -/
  refused : ∀ number < threads, ∀ place labels,
    sets[place]? = some labels → labels ∉ winners settings sets →
      ∃ fault, world.answer? number place = some (.registered (.error fault))
  /-- One call in all is told that a winner is new, where it comes up first. -/
  founder : ∀ labels ∈ winners settings sets, ∃ number < threads,
    ∃ place tsid, sets[place]? = some labels ∧ labels ∉ sets.take place ∧
      world.answer? number place = some (.registered (.ok ⟨tsid, true⟩)) ∧
      ∀ other otherPlace otherTsid, other < threads →
        sets[otherPlace]? = some labels →
        world.answer? other otherPlace =
          some (.registered (.ok ⟨otherTsid, true⟩)) →
        other = number ∧ otherPlace = place
  /-- The intervals reach from the first timestamp to the last. -/
  activity_eq : ∀ tsid, 0 < tsid.toNat →
    tsid.toNat ≤ (winners settings sets).length →
      world.shared.index.activity tsid = .ok (Race.span threads)
  registrations_eq : world.shared.index.counters.registrations =
    threads * sets.countP fun labels => labels ∈ winners settings sets
  rejected_eq : world.shared.index.counters.rejected =
    threads * sets.countP fun labels => labels ∉ winners settings sets

/-- A race has ended. -/
structure World.Ended (settings : Settings) (threads : Nat)
    (sets : List LabelSet) (world : World) : Prop where
  sound : world.Sound (Race.given threads sets)
  credited : world.Credited (Race.given threads sets)
  contest : world.Contest settings sets
  covered : world.Covered threads
  tallied : world.Tallied
  length_eq : world.threads.length = threads
  finished : world.isFinished = true

variable {settings : Settings} {threads number place rank : Nat}
  {sets : List LabelSet} {world : World} {thread : Thread}
  {labels : LabelSet} {tsid : Tsid}

namespace World.Ended

theorem isQuiet (hended : world.Ended settings threads sets) :
    world.isQuiet = true := by
  have hfinished := hended.finished
  rw [isFinished, List.all_eq_true] at hfinished
  rw [World.isQuiet, List.all_eq_true]
  intro thread hthread
  exact ((Bool.and_eq_true _ _).mp (hfinished thread hthread)).1

theorem exists_thread (hended : world.Ended settings threads sets)
    (hnumber : number < threads) :
    ∃ thread, world.threads[number]? = some thread := by
  rw [← hended.length_eq] at hnumber
  exact ⟨_, List.getElem?_eq_getElem hnumber⟩

/-- Each thread has an answer for each label set. -/
theorem length_answers (hended : world.Ended settings threads sets)
    (hthread : world.threads[number]? = some thread) :
    thread.answers.length = sets.length := by
  have hfinished := hended.finished
  rw [isFinished, List.all_eq_true] at hfinished
  have hmem := hfinished thread (List.mem_of_getElem? hthread)
  rw [Bool.and_eq_true, Option.isNone_iff_eq_none, List.isEmpty_iff] at hmem
  have hraces := hended.sound.races hthread
  apply Nat.le_antisymm
  · by_contra hlt
    have hanswer := List.getElem?_eq_getElem (Nat.not_le.mp hlt)
    obtain ⟨labels, outcome, hlabels, -⟩ := hraces.answered _ _ hanswer
    exact Nat.lt_irrefl _ (List.getElem?_eq_some_iff.mp hlabels).1
  · have hdrop := hraces.idle hmem.1
    rw [hmem.2, eq_comm, List.drop_eq_nil_iff, Race.requests,
      List.length_map] at hdrop
    exact hdrop

/-- The answer to a call: a winner is registered, and all others are not. -/
theorem answered (hended : world.Ended settings threads sets)
    (hthread : world.threads[number]? = some thread)
    (hplace : sets[place]? = some labels) :
    ∃ outcome, thread.answers[place]? = some (.registered outcome) ∧
      Decides settings sets place outcome ∧
      ∀ registration, outcome = .ok registration →
        world.shared.store.catalog.lookup? labels = some registration.tsid := by
  have hbound := (List.getElem?_eq_some_iff.mp hplace).1
  rw [← hended.length_answers hthread] at hbound
  have hanswer := List.getElem?_eq_getElem hbound
  obtain ⟨own, outcome, hown, hregistered, hkey⟩ :=
    (hended.sound.races hthread).answered place _ hanswer
  rw [hplace] at hown
  cases hown
  rw [hregistered] at hanswer
  exact ⟨outcome, hanswer,
    (hended.contest.threads number thread hthread).answered place outcome
      hanswer, hkey⟩

theorem key_of_winner (hended : world.Ended settings threads sets)
    (hpos : 0 < threads) (hwinner : labels ∈ winners settings sets) :
    ∃ tsid, world.shared.store.catalog.lookup? labels = some tsid := by
  obtain ⟨thread, hthread⟩ := hended.exists_thread hpos
  apply hended.contest.key_of_mem_take hended.sound hthread _ hwinner
  rw [hended.length_answers hthread, List.take_length]
  exact mem_sets_of_mem_winners hwinner

/-- In the end, the winners are findable under their ranks. -/
theorem key_iff (hended : world.Ended settings threads sets)
    (hpos : 0 < threads) :
    world.shared.store.catalog.lookup? labels = some tsid ↔
      ∃ rank, (winners settings sets)[rank]? = some labels ∧
        tsid.toNat = rank + 1 := by
  have hrank {tsid : Tsid}
      (hkey : world.shared.store.catalog.lookup? labels = some tsid) :
      ∃ rank, (winners settings sets)[rank]? = some labels ∧
        tsid.toNat = rank + 1 := by
    obtain ⟨rank, hwinner, htsid, -⟩ := (hended.contest.allocated_iff _ _).mp
      (hended.sound.allocated_of_key hkey)
    exact ⟨rank, hwinner, htsid⟩
  constructor
  · exact hrank
  · rintro ⟨rank, hwinner, htsid⟩
    obtain ⟨found, hkey⟩ :=
      hended.key_of_winner hpos (List.mem_of_getElem? hwinner)
    obtain ⟨other, hother, hfound⟩ := hrank hkey
    rw [rank_eq_of_getElem?_winners hwinner hother, ← hfound,
      UInt64.toNat_inj] at htsid
    rw [htsid]
    exact hkey

/-- Published are the numbers up to that of the last winner. -/
theorem published_iff (hended : world.Ended settings threads sets)
    (hpos : 0 < threads) :
    tsid ∈ world.shared.store.catalog.published ↔
      0 < tsid.toNat ∧ tsid.toNat ≤ (winners settings sets).length := by
  have hcomplete := hended.sound.complete hended.isQuiet
  rw [hcomplete.mem_published_iff]
  constructor
  · rintro ⟨series, hseries⟩
    obtain ⟨rank, hwinner, htsid⟩ :=
      (hended.key_iff hpos).mp (hcomplete.keyed tsid series hseries)
    have hbound := (List.getElem?_eq_some_iff.mp hwinner).1
    omega
  · rintro ⟨hfirst, hlast⟩
    have hwinner := List.getElem?_eq_getElem
      (Nat.lt_of_lt_of_le (Nat.sub_lt hfirst Nat.one_pos) hlast)
    have hkey := (hended.key_iff hpos).mpr
      ⟨_, hwinner, (Nat.sub_add_cancel hfirst).symm⟩
    obtain ⟨series, hseries, -⟩ := hcomplete.key_labels _ tsid hkey
    exact ⟨series, hseries⟩

theorem unnumbered_eq_zero (hended : world.Ended settings threads sets) :
    world.unnumbered = 0 := by
  apply sum_of_isQuiet hended.isQuiet
  intro thread hnone
  rw [Thread.unnumbered, hnone, Option.elim_none]

/-- There are as many series as winners. -/
theorem seriesCount_eq (hended : world.Ended settings threads sets)
    (hpos : 0 < threads) :
    world.shared.store.catalog.seriesCount =
      (winners settings sets).length := by
  have hbalance := hended.contest.balance
  have hle := hended.contest.next_le
  have hfirst := UInt64.pos_iff_ne_zero.mpr hended.sound.consistent.next_ne
  rw [UInt64.lt_iff_toNat_lt, UInt64.toNat_zero] at hfirst
  rw [hended.unnumbered_eq_zero] at hbalance
  -- the last winner has its number, so the next one is past it
  have hge : (winners settings sets).length <
      world.shared.store.catalog.nextTsid.toNat := by
    rcases Nat.eq_zero_or_pos (winners settings sets).length with hnone | hsome
    · rw [hnone]
      exact hfirst
    · have hwinner := List.getElem?_eq_getElem (Nat.sub_lt hsome Nat.one_pos)
      obtain ⟨tsid, hkey⟩ :=
        hended.key_of_winner hpos (List.mem_of_getElem? hwinner)
      obtain ⟨rank, hrank, htsid, hlt⟩ := (hended.contest.allocated_iff _ _).mp
        (hended.sound.allocated_of_key hkey)
      have hsame := rank_eq_of_getElem?_winners hwinner hrank
      have hnext := UInt64.lt_iff_toNat_lt.mp hlt
      omega
  omega

/-- Every thread that asks for a winner is told its number. -/
theorem accepted (hended : world.Ended settings threads sets)
    (hpos : 0 < threads) (hnumber : number < threads)
    (hplace : sets[place]? = some labels)
    (hwinner : (winners settings sets)[rank]? = some labels) :
    ∃ registration, world.answer? number place =
        some (.registered (.ok registration)) ∧
      registration.tsid.toNat = rank + 1 := by
  obtain ⟨thread, hthread⟩ := hended.exists_thread hnumber
  obtain ⟨outcome, hanswer, hdecides, hkey⟩ := hended.answered hthread hplace
  cases outcome with
  | ok registration =>
      refine ⟨registration, ?_, ?_⟩
      · rw [answer?, hthread, Option.bind_some, hanswer]
      · obtain ⟨other, hother, htsid⟩ :=
          (hended.key_iff hpos).mp (hkey registration rfl)
        rw [rank_eq_of_getElem?_winners hwinner hother]
        exact htsid
  | error fault =>
      exact absurd (List.mem_of_getElem? hwinner) (hdecides labels hplace)

/-- Every thread that asks for another label set is refused. -/
theorem refused (hended : world.Ended settings threads sets)
    (hpos : 0 < threads) (hnumber : number < threads)
    (hplace : sets[place]? = some labels)
    (hloses : labels ∉ winners settings sets) :
    ∃ fault, world.answer? number place =
      some (.registered (.error fault)) := by
  obtain ⟨thread, hthread⟩ := hended.exists_thread hnumber
  obtain ⟨outcome, hanswer, -, hkey⟩ := hended.answered hthread hplace
  cases outcome with
  | ok registration =>
      obtain ⟨rank, hwinner, -⟩ :=
        (hended.key_iff hpos).mp (hkey registration rfl)
      exact absurd (List.mem_of_getElem? hwinner) hloses
  | error fault =>
      refine ⟨fault, ?_⟩
      rw [answer?, hthread, Option.bind_some, hanswer]

theorem registered_iff (hended : world.Ended settings threads sets)
    {registration : Store.Registration} :
    world.Registered (Race.given threads sets) number place labels
        registration ↔
      number < threads ∧ sets[place]? = some labels ∧
        world.answer? number place =
          some (.registered (.ok registration)) := by
  constructor
  · rintro ⟨timestamp, given, thread, hgiven, hthread, hrequest, hanswer⟩
    obtain ⟨hnumber, rfl⟩ := getElem?_given_eq_some_iff.mp hgiven
    obtain ⟨own, hplace, hsame⟩ := getElem?_requests_eq_some_iff.mp hrequest
    cases hsame
    refine ⟨hnumber, hplace, ?_⟩
    rw [answer?, hthread, Option.bind_some, hanswer]
  · rintro ⟨hnumber, hplace, hanswer⟩
    obtain ⟨thread, hthread⟩ := hended.exists_thread hnumber
    rw [answer?, hthread, Option.bind_some] at hanswer
    exact ⟨Int64.ofNat number, _, thread,
      getElem?_given_eq_some_iff.mpr ⟨hnumber, rfl⟩, hthread,
      getElem?_requests_eq_some_iff.mpr ⟨labels, hplace, rfl⟩, hanswer⟩

theorem not_imported (place : Nat) :
    ¬world.Imported (Race.given threads sets) number place labels tsid := by
  rintro ⟨entries, ⟨given, thread, hgiven, -, hrequest, -⟩, -⟩
  obtain ⟨-, rfl⟩ := getElem?_given_eq_some_iff.mp hgiven
  obtain ⟨own, -, hsame⟩ := getElem?_requests_eq_some_iff.mp hrequest
  cases hsame

/-- Each winner is new to one thread only, where it is asked for first. -/
theorem founder (hended : world.Ended settings threads sets)
    (hpos : 0 < threads) (hwinner : labels ∈ winners settings sets) :
    ∃ number < threads, ∃ place tsid, sets[place]? = some labels ∧
      labels ∉ sets.take place ∧
      world.answer? number place = some (.registered (.ok ⟨tsid, true⟩)) ∧
      ∀ other otherPlace otherTsid, other < threads →
        sets[otherPlace]? = some labels →
        world.answer? other otherPlace =
          some (.registered (.ok ⟨otherTsid, true⟩)) →
        other = number ∧ otherPlace = place := by
  have hagrees := hended.sound.agrees hended.credited
  obtain ⟨tsid, hkey⟩ := hended.key_of_winner hpos hwinner
  rcases hagrees.new_or_imported labels tsid hended.isQuiet hkey with
    ⟨number, place, hregistered⟩ | ⟨number, place, himported⟩
  · obtain ⟨hnumber, hplace, hanswer⟩ := hended.registered_iff.mp hregistered
    refine ⟨number, hnumber, place, tsid, hplace, ?_, hanswer, ?_⟩
    · obtain ⟨thread, hthread⟩ := hended.exists_thread hnumber
      rw [answer?, hthread, Option.bind_some] at hanswer
      exact (hended.contest.threads number thread hthread).answered place _
        hanswer rfl labels hplace
    · intro other otherPlace otherTsid hother hotherPlace hotherAnswer
      exact hagrees.new_unique other otherPlace number place labels otherTsid
        tsid (hended.registered_iff.mpr ⟨hother, hotherPlace, hotherAnswer⟩)
        hregistered
  · exact absurd himported (not_imported place)

theorem covers (hended : world.Ended settings threads sets)
    (hpos : 0 < threads) (hnumber : number < threads)
    (hkey : world.shared.store.catalog.lookup? labels = some tsid) :
    world.shared.store.Covers tsid (Int64.ofNat number) := by
  obtain ⟨rank, hwinner, htsid⟩ := (hended.key_iff hpos).mp hkey
  obtain ⟨place, hplace⟩ := List.mem_iff_getElem?.mp
    (mem_sets_of_mem_winners (List.mem_of_getElem? hwinner))
  obtain ⟨registration, hanswer, hown⟩ :=
    hended.accepted hpos hnumber hplace hwinner
  obtain ⟨thread, hthread⟩ := hended.exists_thread hnumber
  rw [answer?, hthread, Option.bind_some] at hanswer
  have hcovers := (hended.covered.threads number thread hthread).answered _
    (List.mem_of_getElem? hanswer) registration rfl
  rw [← htsid, UInt64.toNat_inj] at hown
  rw [← hown]
  exact hcovers

/-- Every winner was seen by all threads. -/
theorem activity_eq (hended : world.Ended settings threads sets)
    (hpos : 0 < threads) (hpublished : 0 < tsid.toNat)
    (hlast : tsid.toNat ≤ (winners settings sets).length) :
    world.shared.index.activity tsid = .ok (Race.span threads) := by
  have hcomplete := hended.sound.complete hended.isQuiet
  obtain ⟨series, hseries⟩ := hcomplete.mem_published_iff.mp
    ((hended.published_iff hpos).mpr ⟨hpublished, hlast⟩)
  have hkey := hcomplete.keyed tsid series hseries
  have hwithin := hended.covered.within tsid series hseries
  have hcovers {number : Nat} (hnumber : number < threads) :
      (Activity.single (Int64.ofNat number)).Within series.activity := by
    obtain ⟨found, hfound, hcovered⟩ := hended.covers hpos hnumber hkey
    rw [hseries] at hfound
    cases hfound
    exact hcovered
  have hspan : series.activity = Race.span threads := by
    cases hactivity : series.activity with
    | mk earliest latest =>
        rw [hactivity] at hwithin hcovers
        rw [Race.span, Activity.mk.injEq]
        exact ⟨Int64.le_antisymm (hcovers hpos).1 hwithin.1,
          Int64.le_antisymm hwithin.2
            (hcovers (Nat.sub_lt hpos Nat.one_pos)).2⟩
  have hok := hcomplete.publishedSeries_eq_ok_iff.mpr hseries
  rw [Index.activity, show world.shared.index.store = world.shared.store from
    rfl, hok, ← hspan]
  rfl

/-- If the kind of an answer is told by its label set, all threads have equally
many answers of the kind. -/
theorem tally_eq (hended : world.Ended settings threads sets)
    {kind : Answer → Bool} {told : LabelSet → Bool}
    (hkind : ∀ number < threads, ∀ place labels outcome,
      sets[place]? = some labels →
      world.answer? number place = some (.registered outcome) →
      kind (.registered outcome) = told labels) :
    world.tally kind = threads * sets.countP told := by
  have hcount : ∀ count ∈
      world.threads.map fun thread => thread.answers.countP kind,
      count = sets.countP told := by
    intro count hcount
    obtain ⟨thread, hmem, rfl⟩ := List.mem_map.mp hcount
    obtain ⟨number, hthread⟩ := List.mem_iff_getElem?.mp hmem
    have hmap : thread.answers.map kind = sets.map told := by
      apply List.ext_getElem?
      intro place
      rw [List.getElem?_map, List.getElem?_map]
      cases hplace : sets[place]? with
      | none =>
          rw [List.getElem?_eq_none_iff,
            ← hended.length_answers hthread] at hplace
          rw [List.getElem?_eq_none hplace, Option.map_none, Option.map_none]
      | some labels =>
          obtain ⟨outcome, hanswer, -⟩ := hended.answered hthread hplace
          have hsome : world.answer? number place =
              some (.registered outcome) := by
            rw [answer?, hthread, Option.bind_some, hanswer]
          rw [hanswer, Option.map_some, Option.map_some,
            hkind number (hended.sound.number_lt hthread) place labels outcome
              hplace hsome]
    calc thread.answers.countP kind
        = (thread.answers.map kind).countP id := by rw [List.countP_map]; rfl
      _ = (sets.map told).countP id := by rw [hmap]
      _ = sets.countP told := by rw [List.countP_map]; rfl
  rw [tally, List.sum_eq_card_nsmul _ _ hcount, List.length_map,
    hended.length_eq, smul_eq_mul]

theorem isOk_eq (hended : world.Ended settings threads sets)
    (hpos : 0 < threads) (hnumber : number < threads)
    (hplace : sets[place]? = some labels)
    {outcome : Except Fault Store.Registration}
    (hanswer : world.answer? number place = some (.registered outcome)) :
    outcome.isOk = decide (labels ∈ winners settings sets) := by
  by_cases hwinner : labels ∈ winners settings sets
  · obtain ⟨rank, hrank⟩ := List.mem_iff_getElem?.mp hwinner
    obtain ⟨registration, hok, -⟩ := hended.accepted hpos hnumber hplace hrank
    rw [hanswer] at hok
    cases hok
    exact (decide_eq_true hwinner).symm
  · obtain ⟨fault, herror⟩ := hended.refused hpos hnumber hplace hwinner
    rw [hanswer] at herror
    cases herror
    exact (decide_eq_false hwinner).symm

/-- A race that has ended is decided. -/
theorem decided (hended : world.Ended settings threads sets)
    (hpos : 0 < threads) : world.Decided settings threads sets where
  key_iff labels tsid := hended.key_iff hpos
  published_iff tsid := hended.published_iff hpos
  seriesCount_eq := hended.seriesCount_eq hpos
  accepted number hnumber place labels rank := hended.accepted hpos hnumber
  refused number hnumber place labels := hended.refused hpos hnumber
  founder labels := hended.founder hpos
  activity_eq tsid := hended.activity_eq hpos
  registrations_eq := by
    rw [hended.tallied.accepted]
    apply hended.tally_eq
    intro number hnumber place labels outcome hplace hanswer
    exact hended.isOk_eq hpos hnumber hplace hanswer
  rejected_eq := by
    rw [hended.tallied.rejected]
    apply hended.tally_eq
    intro number hnumber place labels outcome hplace hanswer
    rw [Answer.isRejected, hended.isOk_eq hpos hnumber hplace hanswer,
      decide_not]

end World.Ended

end SeriesIndex.Concurrent
