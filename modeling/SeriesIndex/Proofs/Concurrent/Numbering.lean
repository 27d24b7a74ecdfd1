import Mathlib
import SeriesIndex.Proofs.Concurrent.Contest

/-!
# Numbers in turn

Every step of a race keeps what is known of the contest: the number that it
gives out goes to the winner whose turn it is, its answer refuses no winner, and
the places that are counted stay in balance with the numbers given out.  So on
every schedule the winners are numbered in the order of the list.
-/

namespace SeriesIndex.Concurrent

variable {settings : Settings} {sets : List LabelSet} {threads : Nat}
  {world : World} {number place : Nat} {labels : LabelSet}
  {timestamp : Timestamp} {task : Task} {next : Next} {thread : Thread}
  {shared new : Shared}

namespace World.Contest

/-! ## Steps -/

/-- A registration contends with its own label set when it begins. -/
theorem contends_start (hcontest : world.Contest settings sets)
    (hplace : sets[place]? = some labels) :
    (Task.start world.shared (.register timestamp labels)).Contends settings
      sets place := by
  rw [Task.start, hcontest.settings_eq]
  cases hcheck : settings.checkLabels labels with
  | ok =>
      apply mem_contenders_iff.mpr
      rw [hcheck]
      exact ⟨List.mem_of_getElem? hplace, rfl⟩
  | error cause =>
      refine decides_error hplace ?_ (.labels cause)
      intro hwinner
      have hallowed := isOk_of_mem_winners hwinner
      rw [hcheck] at hallowed
      cases hallowed

/-- A registration contends with its own label set after every move. -/
theorem contends_next (hcontest : world.Contest settings sets)
    (hsound : world.Sound (Race.given threads sets))
    (hthread : world.threads[number]? = some thread)
    (htask : thread.task = some task)
    (hmoves : Moves world.shared number task new next) :
    next.Contends settings sets thread.answers.length := by
  have hcontends := (hcontest.threads number thread hthread).busy task htask
  obtain ⟨labels, hplace, -, hvalid⟩ := (hsound.races hthread).busy task htask
  have hregisters := hvalid.registers
  cases hmoves with
  | found | overtaken | widenDown => trivial
  | missed | take | absent | reserve => exact hcontends
  | full hfull =>
      obtain ⟨hrequest, hfree⟩ := hvalid
      cases hrequest
      exact decides_error hplace
        (hcontest.not_winner_of_full hsound hthread htask hplace hfree hfull)
        (.seriesLimit world.shared.catalog.limit)
  | allocate hlast =>
      obtain ⟨hrequest, hfree⟩ := hvalid
      cases hrequest
      exact hcontest.not_mem_take_of_allocate hsound hthread htask hplace hfree
        hlast
  | exhausted hlast =>
      obtain ⟨hrequest, hfree⟩ := hvalid
      cases hrequest
      exact ⟨hcontends, hcontest.not_winner_of_exhausted hsound hthread htask
        hplace hfree hlast⟩
  | giveBack =>
      obtain ⟨timestamp, hrequest⟩ := hvalid
      cases hrequest
      exact decides_error hplace hcontends.2 (.internal .tsidsExhausted)
  | @enroll stage series batch =>
      cases hregisters
      obtain ⟨⟨timestamp, hrequest⟩, -⟩ := hvalid
      cases hrequest
      cases stage with
      | key => exact decides_new settings hplace hcontends series.tsid
      | _ => exact hcontends
  | orphaned hnone =>
      obtain ⟨own, -, hkey⟩ := hvalid
      obtain ⟨series, hseries, -⟩ :=
        hsound.consistent.key_labels own _ hkey
      rw [Shared.catalog_eq, hseries] at hnone
      cases hnone
  | widenUp => exact fun hnew => nomatch hnew
  | count =>
      intro outcome houtcome
      cases houtcome
      exact hcontends
  | query hqueries => exact absurd hregisters hqueries.not_registers
  | _ => exact absurd hregisters id

end World.Contest

theorem Thread.Contends.start (hcontends : thread.Contends settings sets)
    {requests : List Request}
    (htask : task.Contends settings sets thread.answers.length) :
    Thread.Contends settings sets
      { thread with requests := requests, task := some task } where
  answered := hcontends.answered
  busy later hlater := by
    cases hlater
    exact htask

theorem Thread.Contends.after (hcontends : thread.Contends settings sets)
    (hnext : next.Contends settings sets thread.answers.length) :
    (thread.after next).Contends settings sets := by
  cases next with
  | goOn later =>
      constructor
      · exact hcontends.answered
      · intro found hfound
        cases hfound
        exact hnext
  | finish answer =>
      constructor
      · intro place outcome hanswer
        rcases getElem?_concat_eq_some_iff.mp hanswer with hold | ⟨rfl, hnew⟩
        · exact hcontends.answered place outcome hold
        · exact hnext outcome hnew
      · exact fun later hlater => nomatch hlater

theorem Moves.settings_eq (hmoves : Moves shared number task new next) :
    new.index.settings = shared.index.settings := by
  rcases hmoves.index_cases with ⟨outcome, -, hindex⟩ | ⟨hindex, -⟩
  · rw [hindex]
  · rw [hindex]

/-- A step of a registration gives the next number out, or no number. -/
theorem Moves.numbers (hmoves : Moves shared number task new next)
    (hregisters : task.Registers) :
    (∃ timestamp labels, task = .allocate timestamp labels ∧
      shared.store.catalog.nextTsid ≠ Tsid.last ∧
      new.store.catalog.nextTsid = shared.store.catalog.nextTsid + 1) ∨
    (new.store.catalog.nextTsid = shared.store.catalog.nextTsid ∧
      ∀ labels tsid, ¬task.Grants shared.store labels tsid) := by
  cases hmoves with
  | allocate hlast => exact .inl ⟨_, _, rfl, hlast, rfl⟩
  | exhausted hlast => exact .inr ⟨rfl, fun _ _ hgrants => hgrants.1 hlast⟩
  | enroll =>
      cases hregisters
      rename_i stage series
      cases stage with
      | key => exact .inr ⟨Catalog.nextTsid_addKey _ _ _, fun _ _ => id⟩
      | _ => exact .inr ⟨rfl, fun _ _ => id⟩
  | query hqueries => exact absurd hregisters hqueries.not_registers
  | raiseNext | raiseCount => exact absurd hregisters id
  | _ => exact .inr ⟨rfl, fun _ _ => id⟩

/-- A step of a registration keeps the balance between the places that are
counted, the numbers given out and the places without a number. -/
theorem Moves.balance (hmoves : Moves shared number task new next)
    (hregisters : task.Registers)
    (hle : task.unnumbered ≤ shared.store.catalog.seriesCount) :
    new.store.catalog.seriesCount + shared.store.catalog.nextTsid.toNat +
        task.unnumbered =
      shared.store.catalog.seriesCount + new.store.catalog.nextTsid.toNat +
        next.unnumbered := by
  cases hmoves with
  | reserve hroom =>
      simp only [Shared.store_mapCatalog, Task.unnumbered, Next.unnumbered]
      omega
  | allocate hlast =>
      rw [Shared.catalog_eq] at hlast
      simp only [Shared.store_mapCatalog, Task.unnumbered, Next.unnumbered,
        Tsid.toNat_add_one hlast]
      omega
  | giveBack =>
      simp only [Task.unnumbered] at hle
      simp only [Shared.store_free, Shared.store_mapCatalog, Task.unnumbered,
        Next.unnumbered, Catalog.release]
      omega
  | enroll =>
      cases hregisters
      rename_i stage series
      cases stage with
      | key =>
          simp only [Task.stepEnroll, Shared.store_free,
            Shared.store_mapCatalog, Catalog.seriesCount_addKey,
            Catalog.nextTsid_addKey, Task.unnumbered, Next.unnumbered]
      | _ => rfl
  | query hqueries => exact absurd hregisters hqueries.not_registers
  | raiseNext | raiseCount | takeNext | sound | unsound | untaken | free |
      taken | room | crowded => exact absurd hregisters id
  | _ => rfl

variable {after : World}

/-- Only the thread that takes the step can come by a place without a number. -/
theorem World.unnumbered_of_set {updated : Thread}
    (hthread : world.threads[number]? = some thread)
    (hafter : after.threads = world.threads.set number updated) :
    after.unnumbered + thread.unnumbered =
      world.unnumbered + updated.unnumbered := by
  rw [unnumbered, unnumbered, hafter]
  exact sum_map_set hthread

theorem unnumbered_start (shared : Shared) (request : Request) :
    (Task.start shared request).unnumbered = 0 := by
  cases request with
  | register timestamp labels =>
      rw [Task.start]
      split <;> rfl
  | importBatch entries => rfl
  | resolve matchers window => cases matchers <;> rfl

/-- The contest goes on as a thread begins a call. -/
theorem World.Contest.start (hcontest : world.Contest settings sets)
    (hsound : world.Sound (Race.given threads sets))
    (hsteps : world.Steps number after) {request : Request}
    {requests : List Request}
    (hthread : world.threads[number]? = some thread)
    (hidle : thread.task = none)
    (hrequests : thread.requests = request :: requests)
    (hshared : after.shared = world.shared)
    (hafter : after.threads = world.threads.set number
      { thread with
        requests := requests
        task := some (Task.start world.shared request) }) :
    after.Contest settings sets where
  settings_eq := by
    rw [hshared]
    exact hcontest.settings_eq
  limit_eq := by
    rw [hshared]
    exact hcontest.limit_eq
  allocated_iff labels tsid := by
    rw [allocated_start hsteps hthread hidle hshared hafter rfl, hshared]
    exact hcontest.allocated_iff labels tsid
  next_le := by
    rw [hshared]
    exact hcontest.next_le
  balance := by
    have hplaces := unnumbered_of_set hthread hafter
    simp only [Thread.unnumbered, hidle, Option.elim_none, Option.elim_some,
      unnumbered_start] at hplaces
    rw [hshared, hcontest.balance]
    omega
  threads := by
    obtain ⟨labels, hplace, rfl⟩ := (hsound.races hthread).next hidle hrequests
    exact forall_threads_of_set hthread hafter
      ((hcontest.threads number thread hthread).start
        (hcontest.contends_start hplace))
      fun other found _ => hcontest.threads other found

/-- The next number is given to the winner whose turn it is. -/
theorem World.Contest.allocated_step (hcontest : world.Contest settings sets)
    (hsound : world.Sound (Race.given threads sets))
    (hsteps : world.Steps number after)
    (hthread : world.threads[number]? = some thread)
    (htask : thread.task = some task)
    (hmoves : Moves world.shared number task after.shared next)
    (hafter : after.threads = world.threads.set number (thread.after next)) :
    (∀ labels tsid, after.Allocated labels tsid ↔
      ∃ rank, (winners settings sets)[rank]? = some labels ∧
        tsid.toNat = rank + 1 ∧ tsid < after.shared.store.catalog.nextTsid) ∧
    after.shared.store.catalog.nextTsid.toNat ≤
      (winners settings sets).length + 1 := by
  obtain ⟨own, hplace, -, hvalid⟩ := (hsound.races hthread).busy task htask
  have hallocated (labels : LabelSet) (tsid : Tsid) :
      after.Allocated labels tsid ↔ world.Allocated labels tsid ∨
        task.Grants world.shared.store labels tsid :=
    hsound.allocated_iff hsteps hthread htask hmoves.effect
      (hmoves.effect.grows hsound.consistent hvalid) (hmoves.carries hvalid)
      hafter
  rcases hmoves.numbers hvalid.registers with
    ⟨timestamp, labels, rfl, hlast, hnext⟩ | ⟨hnext, hnone⟩
  · obtain ⟨hrequest, hfree⟩ := hvalid
    cases hrequest
    obtain ⟨rank, hwinner, hturn⟩ := hcontest.winner_of_allocate hsound hthread
      htask hplace hfree hlast
    have hnumber := Tsid.toNat_add_one hlast
    have hbound := (List.getElem?_eq_some_iff.mp hwinner).1
    rw [hnext]
    constructor
    · intro labels tsid
      simp only [hallocated, hcontest.allocated_iff, UInt64.lt_iff_toNat_lt,
        Task.Grants, hnumber]
      constructor
      · rintro (⟨other, hother, htsid, hlt⟩ | ⟨-, rfl, rfl⟩)
        · exact ⟨other, hother, htsid, by omega⟩
        · exact ⟨rank, hwinner, hturn, by omega⟩
      · rintro ⟨other, hother, htsid, hlt⟩
        by_cases hsame : other = rank
        · subst hsame
          rw [hwinner, Option.some_inj] at hother
          refine .inr ⟨hlast, hother, ?_⟩
          rw [← UInt64.toNat_inj, htsid, hturn]
        · exact .inl ⟨other, hother, htsid, by omega⟩
    · omega
  · rw [hnext]
    refine ⟨fun labels tsid => ?_, hcontest.next_le⟩
    rw [hallocated, or_iff_left (hnone labels tsid)]
    exact hcontest.allocated_iff labels tsid

/-- The contest goes on as a thread takes a step within a call. -/
theorem World.Contest.work (hcontest : world.Contest settings sets)
    (hsound : world.Sound (Race.given threads sets))
    (hsteps : world.Steps number after)
    (hthread : world.threads[number]? = some thread)
    (htask : thread.task = some task)
    (hmoves : Moves world.shared number task after.shared next)
    (hafter : after.threads = world.threads.set number (thread.after next)) :
    after.Contest settings sets := by
  obtain ⟨own, hplace, -, hvalid⟩ := (hsound.races hthread).busy task htask
  have hregisters := hvalid.registers
  obtain ⟨hallocated, hbound⟩ :=
    hcontest.allocated_step hsound hsteps hthread htask hmoves hafter
  constructor
  case settings_eq => exact hmoves.settings_eq.trans hcontest.settings_eq
  case limit_eq => exact hmoves.effect.limit.trans hcontest.limit_eq
  case allocated_iff => exact hallocated
  case next_le => exact hbound
  case balance =>
    have hplaces := unnumbered_of_set hthread hafter
    have htaskPlaces : thread.unnumbered = task.unnumbered := by
      rw [Thread.unnumbered, htask, Option.elim_some]
    have hnextPlaces : (thread.after next).unnumbered = next.unnumbered := by
      rw [Thread.unnumbered, Thread.task_after]
      cases next <;> rfl
    have hle : thread.unnumbered ≤ world.unnumbered :=
      List.le_sum_of_mem (List.mem_map_of_mem (List.mem_of_getElem? hthread))
    have hpos := UInt64.pos_iff_ne_zero.mpr hsound.consistent.next_ne
    rw [UInt64.lt_iff_toNat_lt, UInt64.toNat_zero] at hpos
    have hbefore := hcontest.balance
    have hbalance := hmoves.balance hregisters (by omega)
    omega
  case threads =>
    exact forall_threads_of_set hthread hafter
      ((hcontest.threads number thread hthread).after
        (hcontest.contends_next hsound hthread htask hmoves))
      fun other found _ => hcontest.threads other found

theorem World.Contest.step (hcontest : world.Contest settings sets)
    (hsound : world.Sound (Race.given threads sets))
    (hstep : world.step number = some after) :
    after.Contest settings sets := by
  have hsteps := World.steps_of_step hstep
  cases World.steps_of_step hstep with
  | start thread request requests hthread hidle hrequests hshared hafter =>
      exact hcontest.start hsound hsteps hthread hidle hrequests hshared hafter
  | work thread task next hthread htask hmoves hafter =>
      exact hcontest.work hsound hsteps hthread htask hmoves hafter

/-! ## Runs -/

theorem World.contest_start (settings : Settings) (threads : Nat)
    (sets : List LabelSet) :
    (Race.start (Index.empty settings) threads sets).Contest settings sets where
  settings_eq := rfl
  limit_eq := rfl
  allocated_iff labels tsid := by
    constructor
    · rintro (⟨series, hseries, -⟩ | ⟨number, task, htask, -⟩)
      · cases hseries.symm.trans Std.ExtTreeMap.getElem?_empty
      · rw [Race.start, World.task?_ofIndex] at htask
        cases htask
    · rintro ⟨rank, -, htsid, hlt⟩
      have hbelow : tsid.toNat < 1 := UInt64.lt_iff_toNat_lt.mp hlt
      omega
  next_le := Nat.le_add_left 1 _
  balance := by
    have hplaces :
        (Race.start (Index.empty settings) threads sets).unnumbered = 0 :=
      World.sum_ofIndex _ (Race.given threads sets) fun _ => rfl
    rw [hplaces]
    rfl
  threads number thread hthread := by
    obtain ⟨hidle, hnone⟩ := World.idle_ofIndex hthread
    constructor
    · intro place outcome hanswer
      rw [hnone, List.getElem?_nil] at hanswer
      cases hanswer
    · rw [hidle]
      intro task htask
      cases htask

/-- On every schedule, numbers are given out in the order of the winners. -/
theorem World.contest_run (settings : Settings) (threads : Nat)
    (sets : List LabelSet) (schedule : List Nat) :
    ((Race.start (Index.empty settings) threads sets).run schedule).Contest
      settings sets := by
  let keeps : World → Prop := fun world =>
    world.Sound (Race.given threads sets) ∧ world.Contest settings sets
  have hstep : ∀ world number after, keeps world →
      world.step number = some after → keeps after := by
    rintro world number after ⟨hsound, hcontest⟩ hstep
    exact ⟨hsound.step hstep, hcontest.step hsound hstep⟩
  exact (World.run_induction hstep schedule
    ⟨World.sound_ofIndex (Store.settled_empty _ _ _) _,
      World.contest_start settings threads sets⟩).2

end SeriesIndex.Concurrent
