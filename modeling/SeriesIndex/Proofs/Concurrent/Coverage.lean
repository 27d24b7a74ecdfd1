import Mathlib
import SeriesIndex.Proofs.Concurrent.Racing
import SeriesIndex.Proofs.Concurrent.Resolution

/-!
# Intervals in a race

A registration widens an interval in two steps, and other threads widen the same
interval between them.  Nothing is lost: each step moves a bound outwards only,
so a thread finds the bound that it has moved where it left it or further out.
No interval grows beyond the timestamps of the threads either.
-/

namespace SeriesIndex

/-- The series under a number was seen at a timestamp. -/
def Store.Covers (store : Store) (tsid : Tsid) (timestamp : Timestamp) : Prop :=
  ∃ series, store.catalog.series? tsid = some series ∧
    (Activity.single timestamp).Within series.activity

/-- What an interval covers it goes on to cover. -/
theorem Store.Covers.grows {old new : Store} {tsid : Tsid}
    {timestamp : Timestamp} (hcovers : old.Covers tsid timestamp)
    (hgrows : old.Grows new) : new.Covers tsid timestamp := by
  obtain ⟨series, hseries, hwithin⟩ := hcovers
  obtain ⟨found, hfound, -, hwider⟩ := hgrows.series tsid series hseries
  exact ⟨found, hfound, hwithin.trans hwider⟩

namespace Concurrent

/-- The series that a thread was told of was seen at its timestamp. -/
def Answer.Covers (store : Store) (timestamp : Timestamp) : Answer → Prop
  | registered outcome => ∀ registration, outcome = .ok registration →
      store.Covers registration.tsid timestamp
  | _ => True

/-- As far as a task has got, its series was seen at the timestamp. -/
def Task.Covers (store : Store) (timestamp : Timestamp) : Task → Prop
  | enroll .store series none => series.activity = .single timestamp
  | enroll _ series none => store.Covers series.tsid timestamp
  | widenUp tsid _ => ∃ series, store.catalog.series? tsid = some series ∧
      series.activity.earliest ≤ timestamp
  | count outcome => (Answer.registered outcome).Covers store timestamp
  | _ => True

def Next.Covers (store : Store) (timestamp : Timestamp) : Next → Prop
  | goOn task => task.Covers store timestamp
  | finish answer => answer.Covers store timestamp

structure Thread.Covers (store : Store) (timestamp : Timestamp)
    (thread : Thread) : Prop where
  answered : ∀ answer ∈ thread.answers, answer.Covers store timestamp
  busy : ∀ task : Task, thread.task = some task → task.Covers store timestamp

/-- The interval of the timestamps of a race. -/
def Race.span (threads : Nat) : Activity :=
  ⟨0, Int64.ofNat (threads - 1)⟩

/-- In a race, intervals cover the timestamps at which their series were seen,
and nothing else. -/
structure World.Covered (threads : Nat) (world : World) : Prop where
  within : ∀ tsid series,
    world.shared.store.catalog.series? tsid = some series →
      series.activity.Within (Race.span threads)
  threads : ∀ (number : Nat) (thread : Thread),
    world.threads[number]? = some thread →
      thread.Covers world.shared.store (Int64.ofNat number)

variable {old new : Store} {timestamp : Timestamp} {labels : LabelSet}
  {task : Task} {next : Next} {thread : Thread} {answer : Answer}
  {shared later : Shared} {number threads : Nat} {sets : List LabelSet}

/-! ## Steps of other threads -/

theorem Answer.Covers.grows (hcovers : answer.Covers old timestamp)
    (hgrows : old.Grows new) : answer.Covers new timestamp := by
  cases answer with
  | registered outcome =>
      exact fun registration hok => (hcovers registration hok).grows hgrows
  | _ => trivial

theorem Task.Covers.grows (hcovers : task.Covers old timestamp)
    (hgrows : old.Grows new) : task.Covers new timestamp := by
  cases task with
  | enroll stage series batch =>
      cases batch with
      | none =>
          cases stage with
          | store => exact hcovers
          | _ => exact Store.Covers.grows hcovers hgrows
      | some rest => cases stage <;> trivial
  | widenUp tsid own =>
      obtain ⟨series, hseries, hearliest⟩ := hcovers
      obtain ⟨found, hfound, -, hwider⟩ := hgrows.series tsid series hseries
      exact ⟨found, hfound, Int64.le_trans hwider.1 hearliest⟩
  | count outcome =>
      have hold : (Answer.registered outcome).Covers old timestamp := hcovers
      exact hold.grows hgrows
  | _ => trivial

theorem Thread.Covers.grows (hcovers : thread.Covers old timestamp)
    (hgrows : old.Grows new) : thread.Covers new timestamp where
  answered answer hanswer := (hcovers.answered answer hanswer).grows hgrows
  busy task htask := (hcovers.busy task htask).grows hgrows

/-! ## Own steps -/

theorem covers_start (store : Store) (request : Request) :
    (Task.start shared request).Covers store timestamp := by
  cases request with
  | register own labels =>
      rw [Task.start]
      split
      · trivial
      · intro registration hok
        cases hok
  | importBatch entries => trivial
  | resolve matchers window => cases matchers <;> trivial

/-- A series enters with the timestamp of its registration. -/
theorem Task.Covers.enroll {stage : Stage} {series : Series}
    (hcovers : (Task.enroll stage series none).Covers shared.store timestamp)
    (hgrows : shared.store.Grows
      (Task.stepEnroll shared number stage series none).1.store) :
    (Task.stepEnroll shared number stage series none).2.Covers
      (Task.stepEnroll shared number stage series none).1.store timestamp := by
  have hlater {rest : List Label} {store : Store}
      (hseries : store.Covers series.tsid timestamp) :
      (Task.enroll (.ofLabels rest) series none).Covers store timestamp := by
    cases rest with
    | nil => exact hseries
    | cons first rest => exact hseries
  cases stage with
  | store =>
      apply hlater
      refine ⟨series, ?_, ?_⟩
      · rw [Task.stepEnroll, Shared.store_mapCatalog, Catalog.series?_store,
          if_pos rfl]
      · rw [show series.activity = .single timestamp from hcovers]
  | label first rest => exact hlater (Store.Covers.grows hcovers hgrows)
  | publish => exact Store.Covers.grows hcovers hgrows
  | key =>
      intro registration hok
      cases hok
      exact Store.Covers.grows hcovers hgrows

/-- Every move of a registration keeps its timestamp in sight. -/
theorem Moves.covers (hmoves : Moves shared number task later next)
    (hcons : shared.store.Consistent)
    (hvalid : task.Valid shared.store (.register timestamp labels))
    (hgrows : shared.store.Grows later.store)
    (hcovers : task.Covers shared.store timestamp) :
    next.Covers later.store timestamp := by
  have hregisters := hvalid.registers
  cases hmoves with
  | allocate hlast =>
      obtain ⟨hrequest, -⟩ := hvalid
      cases hrequest
      rfl
  | enroll =>
      cases hregisters
      exact hcovers.enroll hgrows
  | @widenDown tsid own =>
      obtain ⟨labels, hrequest, hkey⟩ := hvalid
      cases hrequest
      obtain ⟨series, hseries, -⟩ := hcons.key_labels labels tsid hkey
      refine ⟨{ series with activity := series.activity.widenDown timestamp },
        ?_, Timestamp.min_le_right _ _⟩
      rw [Shared.store_mapCatalog, Catalog.series?_modifyActivity, if_pos rfl,
        hseries, Option.map_some]
  | @widenUp tsid own =>
      obtain ⟨labels, hrequest, -⟩ := hvalid
      cases hrequest
      obtain ⟨series, hseries, hearliest⟩ := hcovers
      intro registration hok
      cases hok
      refine ⟨{ series with activity := series.activity.widenUp timestamp },
        ?_, hearliest, Timestamp.le_max_right _ _⟩
      rw [Shared.store_mapCatalog, Catalog.series?_modifyActivity, if_pos rfl,
        hseries, Option.map_some]
  | full | giveBack | orphaned => exact fun registration hok => nomatch hok
  | @count outcome =>
      have hold : (Answer.registered outcome).Covers shared.store timestamp :=
        hcovers
      exact hold.grows hgrows
  | query hqueries => exact absurd hregisters hqueries.not_registers
  | takeNext | sound | unsound | untaken | free | taken | room | crowded |
      raiseNext | raiseCount => exact absurd hregisters id
  | _ => trivial

/-- A step of a registration widens no interval beyond its timestamp. -/
theorem Effect.within_span {outer : Activity} (heffect : Effect task old new)
    (hvalid : task.Valid old (.register timestamp labels))
    (hcovers : task.Covers old timestamp)
    (htimestamp : (Activity.single timestamp).Within outer)
    (hwithin : ∀ tsid series, old.catalog.series? tsid = some series →
      series.activity.Within outer)
    {tsid : Tsid} {series : Series}
    (hseries : new.catalog.series? tsid = some series) :
    series.activity.Within outer := by
  have hregisters := hvalid.registers
  cases heffect with
  | store =>
      cases hregisters
      rw [Catalog.series?_store] at hseries
      split at hseries
      · cases hseries
        rw [show series.activity = .single timestamp from hcovers]
        exact htimestamp
      · exact hwithin tsid series hseries
  | key =>
      rw [Catalog.series?_addKey] at hseries
      exact hwithin tsid series hseries
  | widenDown =>
      obtain ⟨labels, hrequest, -⟩ := hvalid
      cases hrequest
      obtain ⟨found, hfound, -, -, hsame | hwidened⟩ :=
        Catalog.exists_of_series?_modifyActivity hseries
      · rw [hsame]
        exact hwithin tsid found hfound
      · rw [hwidened]
        exact (hwithin tsid found hfound).widenDown htimestamp
  | widenUp =>
      obtain ⟨labels, hrequest, -⟩ := hvalid
      cases hrequest
      obtain ⟨found, hfound, -, -, hsame | hwidened⟩ :=
        Catalog.exists_of_series?_modifyActivity hseries
      · rw [hsame]
        exact hwithin tsid found hfound
      · rw [hwidened]
        exact (hwithin tsid found hfound).widenUp htimestamp
  | _ => exact hwithin tsid series hseries

theorem Thread.Covers.after
    (hcovers : thread.Covers old timestamp) (hgrows : old.Grows new)
    (hnext : next.Covers new timestamp) :
    (thread.after next).Covers new timestamp := by
  cases next with
  | goOn found =>
      constructor
      · exact (hcovers.grows hgrows).answered
      · intro task htask
        cases htask
        exact hnext
  | finish answer =>
      constructor
      · intro found hfound
        rcases List.mem_append.mp hfound with hold | hlast
        · exact (hcovers.grows hgrows).answered found hold
        · rw [List.mem_singleton.mp hlast]
          exact hnext
      · exact fun task htask => nomatch htask

/-! ## Runs -/

/-- The timestamp of every thread lies within the span of the race. -/
theorem single_within_span (hthreads : threads ≤ 2 ^ 63)
    (hnumber : number < threads) :
    (Activity.single (Int64.ofNat number)).Within (Race.span threads) := by
  have hfirst : (0 : Int64).toInt = 0 := rfl
  have hown : (Int64.ofNat number).toInt = number :=
    Int64.toInt_ofNat_of_lt (by omega)
  have hlast : (Int64.ofNat (threads - 1)).toInt = (threads - 1 : Nat) :=
    Int64.toInt_ofNat_of_lt (by omega)
  rw [Activity.Within, Activity.single, Race.span, Int64.le_iff_toInt_le,
    Int64.le_iff_toInt_le, hfirst, hown, hlast]
  omega

variable {world after : World}

/-- A step neither loses a timestamp nor brings one in that no thread has. -/
theorem World.Covered.step (hcovered : world.Covered threads)
    (hsound : world.Sound (Race.given threads sets))
    (hthreads : threads ≤ 2 ^ 63) (hstep : world.step number = some after) :
    after.Covered threads := by
  have hgrows := hsound.grows_step hstep
  cases World.steps_of_step hstep with
  | start thread request requests hthread hidle hrequests hshared hafter =>
      constructor
      · rw [hshared]
        exact hcovered.within
      · rw [hshared]
        refine forall_threads_of_set hthread hafter ?_
          fun other found _ => hcovered.threads other found
        constructor
        · exact (hcovered.threads number thread hthread).answered
        · intro task htask
          cases htask
          exact covers_start _ request
  | work thread task next hthread htask hmoves hafter =>
      obtain ⟨labels, hplace, -, hvalid⟩ :=
        (hsound.races hthread).busy task htask
      have hown := hcovered.threads number thread hthread
      have hcovers := hown.busy task htask
      constructor
      · intro tsid series hseries
        exact hmoves.effect.within_span hvalid hcovers
          (single_within_span hthreads (hsound.number_lt hthread))
          hcovered.within hseries
      · refine forall_threads_of_set hthread hafter ?_
          fun other found _ hfound =>
            (hcovered.threads other found hfound).grows hgrows
        exact hown.after hgrows
          (hmoves.covers hsound.consistent hvalid hgrows hcovers)

theorem World.covered_run (settings : Settings) {threads : Nat}
    (hthreads : threads ≤ 2 ^ 63) (sets : List LabelSet)
    (schedule : List Nat) :
    ((Race.start (Index.empty settings) threads sets).run schedule).Covered
      threads := by
  let keeps : World → Prop := fun world =>
    world.Sound (Race.given threads sets) ∧ world.Covered threads
  have hstep : ∀ world number after, keeps world →
      world.step number = some after → keeps after := by
    rintro world number after ⟨hsound, hcovered⟩ hstep
    exact ⟨hsound.step hstep, hcovered.step hsound hthreads hstep⟩
  have hstart :
      (Race.start (Index.empty settings) threads sets).Covered threads := by
    constructor
    · intro tsid series hseries
      cases hseries.symm.trans Std.ExtTreeMap.getElem?_empty
    · intro number thread hthread
      obtain ⟨hidle, hnone⟩ := World.idle_ofIndex hthread
      constructor
      · rw [hnone]
        exact fun answer hanswer => absurd hanswer List.not_mem_nil
      · rw [hidle]
        exact fun task htask => nomatch htask
  exact (World.run_induction hstep schedule
    ⟨World.sound_ofIndex (Store.settled_empty _ _ _) _, hstart⟩).2

end Concurrent

end SeriesIndex
