import Mathlib
import SeriesIndex.Proofs.Concurrent.Founders

/-!
# One founder for each number

A label set has a number as soon as a step gives it one, be it pending or
stored.  Numbers are given only to label sets that have none, and none is given
twice or taken back.  Each label set with a number therefore has exactly one
call that gave it.
-/

namespace SeriesIndex.Concurrent

/-- The label set has the number: a series with both is stored or pending. -/
def World.Allocated (world : World) (labels : LabelSet) (tsid : Tsid) : Prop :=
  (∃ series, world.shared.store.catalog.series? tsid = some series ∧
    series.labels = labels) ∨
  ∃ number, ∃ task : Task, world.task? number = some task ∧
    ∃ series ∈ task.pending, series.labels = labels ∧ series.tsid = tsid

/-- The request at a place of a thread has given the number to the label set. -/
def Thread.Founds (given : List Request) (thread : Thread) (place : Nat)
    (labels : LabelSet) (tsid : Tsid) : Prop :=
  ∃ request, given[place]? = some request ∧
    ((∃ answer, thread.answers[place]? = some answer ∧
        answer.Founds request labels tsid) ∨
      (place = thread.answers.length ∧
        ∃ task, thread.task = some task ∧ task.Founds request labels tsid))

def World.Founded (all : List (List Request)) (world : World)
    (number place : Nat) (labels : LabelSet) (tsid : Tsid) : Prop :=
  ∃ (given : List Request) (thread : Thread), all[number]? = some given ∧
    world.threads[number]? = some thread ∧
    thread.Founds given place labels tsid

/-- The label sets that have a number are those that a call has given one, and
for each of them there is one such call. -/
structure World.Credited (all : List (List Request)) (world : World) :
    Prop where
  founded : ∀ labels tsid, world.Allocated labels tsid →
    ∃ number place, world.Founded all number place labels tsid
  allocated : ∀ number place labels tsid,
    world.Founded all number place labels tsid → world.Allocated labels tsid
  unique : ∀ number place other otherPlace labels tsid otherTsid,
    world.Founded all number place labels tsid →
    world.Founded all other otherPlace labels otherTsid →
    number = other ∧ place = otherPlace

variable {all : List (List Request)} {world after : World}
  {number other : Nat} {thread : Thread} {task : Task} {next : Next}
  {labels : LabelSet} {tsid : Tsid} {store : Store} {request : Request}
  {series : Series}

/-! ## Threads -/

/-- To begin a call founds nothing. -/
theorem Thread.founds_start {given : List Request} {place : Nat}
    {requests : List Request} {shared : Shared} (hidle : thread.task = none) :
    Thread.Founds given
        { thread with
          requests := requests
          task := some (Task.start shared request) } place labels tsid ↔
      thread.Founds given place labels tsid := by
  refine exists_congr fun found => and_congr_right fun hfound => ?_
  refine or_congr_right (and_congr_right fun hplace => ?_)
  constructor
  · rintro ⟨task, htask, hfounds⟩
    cases htask
    exact absurd hfounds (not_founds_start shared _)
  · rintro ⟨task, htask, -⟩
    rw [hidle] at htask
    cases htask

/-- A thread founds one series more if its task grants it a number. -/
theorem Thread.founds_after {given : List Request} {place : Nat}
    (hrequest : given[thread.answers.length]? = some request)
    (htask : thread.task = some task)
    (hstep : next.Founds request labels tsid ↔
      task.Founds request labels tsid ∨ task.Grants store labels tsid) :
    (thread.after next).Founds given place labels tsid ↔
      thread.Founds given place labels tsid ∨
        (place = thread.answers.length ∧ task.Grants store labels tsid) := by
  by_cases hplace : place = thread.answers.length
  · subst hplace
    have hbefore : thread.Founds given thread.answers.length labels tsid ↔
        task.Founds request labels tsid := by
      simp [Thread.Founds, hrequest, htask]
    have hafter : (thread.after next).Founds given thread.answers.length labels
        tsid ↔ next.Founds request labels tsid := by
      cases next with
      | goOn later =>
          simp [Thread.Founds, Thread.after, hrequest, Next.Founds]
      | finish answer =>
          simp [Thread.Founds, Thread.after, hrequest, Next.Founds]
    rw [hbefore, hafter, hstep]
    simp
  · have hsame :
        (thread.after next).answers[place]? = thread.answers[place]? := by
      cases next with
      | goOn later => rfl
      | finish answer =>
          rw [Thread.after, List.getElem?_append]
          split
          · rfl
          · rw [List.getElem?_singleton, if_neg (by omega),
              List.getElem?_eq_none (by omega)]
    have hlength : ∀ task, (thread.after next).task = some task →
        (thread.after next).answers.length = thread.answers.length := by
      intro task hsome
      cases next with
      | goOn later => rfl
      | finish answer => cases hsome
    refine Iff.trans ?_ (or_iff_left fun hnew => hplace hnew.1).symm
    refine exists_congr fun found => and_congr_right fun hfound => ?_
    rw [hsame]
    refine or_congr_right (iff_of_false ?_ fun hcurrent => hplace hcurrent.1)
    rintro ⟨hcurrent, later, hlater, -⟩
    exact hplace (hcurrent.trans (hlength later hlater))

/-! ## Steps -/

theorem World.allocated_start (hsteps : world.Steps number after)
    {request : Request} {updated : Thread}
    (hthread : world.threads[number]? = some thread)
    (hidle : thread.task = none)
    (hshared : after.shared = world.shared)
    (hafter : after.threads = world.threads.set number updated)
    (hupdated : updated.task = some (Task.start world.shared request)) :
    after.Allocated labels tsid ↔ world.Allocated labels tsid := by
  have hempty : (Task.start world.shared request).pending = [] :=
    (isIdle_start world.shared request).pending
  have hnone : world.task? number = none :=
    (task?_of_getElem? hthread).trans hidle
  rw [Allocated, Allocated, hshared]
  refine or_congr_right (exists_congr fun other => ?_)
  by_cases hsame : other = number
  · subst hsame
    rw [task?_of_set hthread hafter, hupdated, hnone]
    refine iff_of_false ?_ fun ⟨task, htask, _⟩ => nomatch htask
    rintro ⟨task, htask, series, hseries, -⟩
    cases htask
    rw [hempty] at hseries
    cases hseries
  · rw [hsteps.task?_of_ne hsame]

theorem World.founded_of_set {updated : Thread}
    (hsteps : world.Steps number after)
    (hthread : world.threads[number]? = some thread)
    (hafter : after.threads = world.threads.set number updated)
    {place : Nat} {given : List Request} {new : Prop}
    (hgiven : all[number]? = some given)
    (hupdated : updated.Founds given place labels tsid ↔
      thread.Founds given place labels tsid ∨ new) :
    after.Founded all other place labels tsid ↔
      world.Founded all other place labels tsid ∨ (other = number ∧ new) := by
  by_cases hsame : other = number
  · subst hsame
    simp only [World.Founded, hgiven, getElem?_of_set hthread hafter, hthread]
    simp [hupdated]
  · rw [World.Founded, World.Founded, hsteps.getElem?_of_ne hsame,
      or_iff_left fun hnew => hsame hnew.1]

/-- After a step of a task, the label sets that have a number are those that had
one and those to which the step gave one. -/
theorem World.Sound.allocated_iff (hsound : world.Sound all)
    (hsteps : world.Steps number after)
    (hthread : world.threads[number]? = some thread)
    (htask : thread.task = some task)
    (heffect : Effect task world.shared.store after.shared.store)
    (hgrows : world.shared.store.Grows after.shared.store)
    (hcarries : Carries world.shared after.shared task next)
    (hafter : after.threads = world.threads.set number (thread.after next)) :
    after.Allocated labels tsid ↔ world.Allocated labels tsid ∨
      task.Grants world.shared.store labels tsid := by
  have hold : world.task? number = some task :=
    (task?_of_getElem? hthread).trans htask
  have hnew : after.task? number = next.task? := by
    rw [task?_of_set hthread hafter, Thread.task_after]
  constructor
  · rintro (⟨series, hseries, rfl⟩ | ⟨other, later, hlater, series, hseries,
      rfl, rfl⟩)
    · rcases heffect.of_series? hseries with
        ⟨found, hfound, hlabels⟩ | ⟨batch, rfl, rfl⟩
      · exact .inl (.inl ⟨found, hfound, hlabels⟩)
      · exact .inl (.inr ⟨number, _, hold, series, mem_pending_enroll _ _ _,
          rfl, rfl⟩)
    · by_cases hsame : other = number
      · subst hsame
        rw [hnew] at hlater
        have hpending := Next.mem_pending_iff.mp ⟨later, hlater, hseries⟩
        rcases hcarries.pending series hpending with hmem | hgrants
        · exact .inl (.inr ⟨other, task, hold, series, hmem, rfl, rfl⟩)
        · exact .inr hgrants
      · rw [hsteps.task?_of_ne hsame] at hlater
        exact .inl (.inr ⟨other, later, hlater, series, hseries, rfl, rfl⟩)
  · rintro ((⟨series, hseries, rfl⟩ | ⟨other, otherTask, hother, series,
      hseries, rfl, rfl⟩) | hgrants)
    · obtain ⟨found, hfound, hlabels, -⟩ := hgrows.series _ series hseries
      exact .inl ⟨found, hfound, hlabels⟩
    · by_cases hsame : other = number
      · subst hsame
        rw [hold] at hother
        cases hother
        rcases hcarries.kept series hseries with hkept | hentering
        · obtain ⟨later, hlater, hmem⟩ := Next.mem_pending_iff.mpr hkept
          exact .inr ⟨other, later, hnew.trans hlater, series, hmem, rfl, rfl⟩
        · obtain ⟨request, hvalid⟩ := hsound.valid hold
          obtain ⟨found, hfound, hlabels⟩ :=
            (hvalid.stored_of_entering hentering).grows hgrows
          exact .inl ⟨found, hfound, hlabels⟩
      · rw [← hsteps.task?_of_ne hsame] at hother
        exact .inr ⟨other, otherTask, hother, series, hseries, rfl, rfl⟩
    · obtain ⟨series, hseries, hlabels, htsid⟩ :=
        hcarries.granted labels tsid hgrants
      obtain ⟨later, hlater, hmem⟩ := Next.mem_pending_iff.mpr hseries
      exact .inr ⟨number, later, hnew.trans hlater, series, hmem, hlabels,
        htsid⟩

/-- A label set that no stored series has, and whose stripe the thread owns, has
no number. -/
theorem World.Sound.not_allocated (hsound : world.Sound all)
    (htask : world.task? number = some task) (hpending : task.pending = [])
    (howns : task.Owns world.shared (world.shared.slotOf labels))
    (hfree : world.shared.store.catalog.Free labels) (tsid : Tsid) :
    ¬world.Allocated labels tsid := by
  rintro (⟨series, hseries, hlabels⟩ | ⟨other, otherTask, hother, series,
    hseries, rfl, -⟩)
  · exact hfree tsid series hseries hlabels
  · have hsame := hsound.locked.eq_of_owns htask hother howns
      (Task.owns_of_mem_pending _ hseries)
    subst hsame
    rw [htask] at hother
    cases hother
    rw [hpending] at hseries
    cases hseries

/-- A number is given only to a label set that has none. -/
theorem World.Sound.not_allocated_of_grants (hsound : world.Sound all)
    (htask : world.task? number = some task)
    (hgrants : task.Grants world.shared.store labels tsid) (otherTsid : Tsid) :
    ¬world.Allocated labels otherTsid := by
  obtain ⟨request, hvalid⟩ := hsound.valid htask
  cases task with
  | allocate timestamp own =>
      obtain ⟨-, rfl, -⟩ := hgrants
      exact hsound.not_allocated htask rfl rfl hvalid.2 otherTsid
  | raiseCount entries =>
      obtain ⟨entry, hentry, rfl, -⟩ := hgrants
      exact hsound.not_allocated htask rfl (world.shared.slotOf_lt _)
        (hvalid.2.1.untaken entry hentry).1 otherTsid
  | _ => exact absurd hgrants id

theorem World.Credited.of_iff (hcredited : world.Credited all)
    (hallocated : ∀ labels tsid,
      after.Allocated labels tsid ↔ world.Allocated labels tsid)
    (hfounded : ∀ number place labels tsid,
      after.Founded all number place labels tsid ↔
        world.Founded all number place labels tsid) :
    after.Credited all where
  founded labels tsid := by
    simp only [hallocated, hfounded]
    exact hcredited.founded labels tsid
  allocated number place labels tsid := by
    rw [hallocated, hfounded]
    exact hcredited.allocated number place labels tsid
  unique number place other otherPlace labels tsid otherTsid := by
    rw [hfounded, hfounded]
    exact hcredited.unique number place other otherPlace labels tsid otherTsid

/-- If one call gives numbers to label sets that have none, each of them has
that call as its founder. -/
theorem World.Credited.of_new (hcredited : world.Credited all)
    (number place : Nat) (new : LabelSet → Tsid → Prop)
    (hallocated : ∀ labels tsid, after.Allocated labels tsid ↔
      world.Allocated labels tsid ∨ new labels tsid)
    (hfounded : ∀ other otherPlace labels tsid,
      after.Founded all other otherPlace labels tsid ↔
        world.Founded all other otherPlace labels tsid ∨
          (other = number ∧ otherPlace = place ∧ new labels tsid))
    (hfresh : ∀ labels tsid, new labels tsid →
      ∀ otherTsid, ¬world.Allocated labels otherTsid) :
    after.Credited all where
  founded labels tsid hlabels := by
    rcases (hallocated labels tsid).mp hlabels with hold | hnew
    · obtain ⟨other, otherPlace, hother⟩ := hcredited.founded labels tsid hold
      exact ⟨other, otherPlace, (hfounded _ _ _ _).mpr (.inl hother)⟩
    · exact ⟨number, place, (hfounded _ _ _ _).mpr (.inr ⟨rfl, rfl, hnew⟩)⟩
  allocated other otherPlace labels tsid hlabels := by
    rw [hallocated]
    refine ((hfounded _ _ _ _).mp hlabels).imp ?_ fun hnew => hnew.2.2
    exact hcredited.allocated other otherPlace labels tsid
  unique left leftPlace right rightPlace labels tsid otherTsid hleft
      hright := by
    rcases (hfounded _ _ _ _).mp hleft with hleftOld | ⟨rfl, rfl, hleftNew⟩ <;>
      rcases (hfounded _ _ _ _).mp hright with
        hrightOld | ⟨rfl, rfl, hrightNew⟩
    · exact hcredited.unique _ _ _ _ _ _ _ hleftOld hrightOld
    · exact absurd (hcredited.allocated _ _ _ _ hleftOld)
        (hfresh labels otherTsid hrightNew tsid)
    · exact absurd (hcredited.allocated _ _ _ _ hrightOld)
        (hfresh labels tsid hleftNew otherTsid)
    · exact ⟨rfl, rfl⟩

/-- A step gives numbers only where it founds a series. -/
theorem World.Credited.step (hcredited : world.Credited all)
    (hsound : world.Sound all) (hstep : world.step number = some after) :
    after.Credited all := by
  have hsteps := World.steps_of_step hstep
  cases World.steps_of_step hstep with
  | start thread request requests hthread hidle hrequests hshared hafter =>
      obtain ⟨given, hgiven, hfollows⟩ := hsound.follows number thread hthread
      refine hcredited.of_iff (fun labels tsid => ?_)
        fun other place labels tsid => ?_
      · exact World.allocated_start hsteps hthread hidle hshared hafter rfl
      · have hfounds : after.Founded all other place labels tsid ↔
            world.Founded all other place labels tsid ∨
              (other = number ∧ False) :=
          World.founded_of_set hsteps hthread hafter hgiven
            ((Thread.founds_start hidle).trans (or_iff_left id).symm)
        rw [hfounds]
        exact or_iff_left fun hnew => hnew.2
  | work thread task next hthread htask hmoves hafter =>
      have hold : world.task? number = some task :=
        (World.task?_of_getElem? hthread).trans htask
      obtain ⟨given, hgiven, hfollows⟩ := hsound.follows number thread hthread
      obtain ⟨request, hrequest, -, hvalid⟩ := hfollows.busy task htask
      have heffect := hmoves.effect
      have hgrows := heffect.grows hsound.consistent hvalid
      have hcarries := hmoves.carries hvalid
      refine hcredited.of_new number thread.answers.length
        (fun labels tsid => task.Grants world.shared.store labels tsid)
        (fun labels tsid => ?_) (fun other place labels tsid => ?_)
        fun labels tsid => hsound.not_allocated_of_grants hold
      · exact hsound.allocated_iff hsteps hthread htask heffect hgrows hcarries
          hafter
      · exact World.founded_of_set hsteps hthread hafter hgiven
          (Thread.founds_after hrequest htask (hmoves.founds_iff hvalid))

/-! ## Runs -/

theorem World.credited_ofIndex (settings : Settings)
    (requests : List (List Request)) :
    (World.ofIndex (Index.empty settings) requests).Credited requests := by
  have hnone : ∀ number place labels tsid,
      ¬(World.ofIndex (Index.empty settings) requests).Founded requests number
        place labels tsid := by
    rintro number place labels tsid ⟨given, thread, -, hthread, hfounds⟩
    rw [World.ofIndex, List.getElem?_map, Option.map_eq_some_iff] at hthread
    obtain ⟨own, -, rfl⟩ := hthread
    obtain ⟨request, -, ⟨answer, hanswer, -⟩ | ⟨-, task, htask, -⟩⟩ := hfounds
    · simp at hanswer
    · cases htask
  constructor
  case founded =>
    rintro labels tsid (⟨series, hseries, -⟩ | ⟨number, task, htask, -⟩)
    · simp [World.ofIndex, Shared.store, Index.empty, Store.empty] at hseries
    · rw [World.task?_ofIndex] at htask
      cases htask
  case allocated =>
    exact fun number place labels tsid hfounded =>
      absurd hfounded (hnone _ _ _ _)
  case unique =>
    exact fun number place _ _ labels tsid _ hfounded =>
      absurd hfounded (hnone _ _ _ _)

/-- In every reachable world the threads are sound, and each number has one
founder. -/
theorem World.credited_run (settings : Settings)
    (requests : List (List Request)) (schedule : List Nat) :
    ((World.ofIndex (Index.empty settings) requests).run schedule).Sound
        requests ∧
      ((World.ofIndex (Index.empty settings) requests).run schedule).Credited
        requests := by
  let keeps : World → Prop := fun world =>
    world.Sound requests ∧ world.Credited requests
  have hstep : ∀ world number after, keeps world →
      world.step number = some after → keeps after := by
    rintro world number after ⟨hsound, hcredited⟩ hstep
    exact ⟨hsound.step hstep, hcredited.step hsound hstep⟩
  exact World.run_induction hstep schedule
    ⟨World.sound_ofIndex (Store.settled_empty _ _ _) requests,
      World.credited_ofIndex settings requests⟩

end SeriesIndex.Concurrent
