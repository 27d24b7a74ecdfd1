import Mathlib
import SeriesIndex.Proofs.Concurrent.Racing
import SeriesIndex.Proofs.Concurrent.Resolution

/-!
# Races end

Every step of a registration takes it nearer to its answer, so what is left to
do in a race goes down with every step.  A thread waits only for a stripe, and
the owner of a stripe waits for nothing: as long as a race has not ended, some
thread can take a step.  So it ends on every schedule that neglects no thread,
and in particular when the threads run one after another.
-/

namespace SeriesIndex.Concurrent

/-! ## What is left to do -/

def Stage.effort (series : Series) : Stage → Nat
  | store => series.labels.size + 4
  | label _ rest => rest.length + 4
  | publish => 3
  | key => 2

/-- A bound on the steps that are left of a registration. -/
def Task.effort : Task → Nat
  | find _ labels => labels.size + 9
  | take _ labels => labels.size + 8
  | recheck _ labels => labels.size + 7
  | reserve _ labels => labels.size + 6
  | allocate _ labels => labels.size + 5
  | giveBack _ => 2
  | enroll stage series _ => stage.effort series
  | widenDown _ _ => 3
  | widenUp _ _ => 2
  | count _ => 1
  | _ => 0

def Next.effort : Next → Nat
  | goOn task => task.effort
  | finish _ => 0

def Request.effort : Request → Nat
  | register _ labels => labels.size + 10
  | _ => 0

def Thread.effort (thread : Thread) : Nat :=
  thread.task.elim 0 Task.effort + (thread.requests.map Request.effort).sum

/-- A bound on the steps that are left of a race. -/
def World.effort (world : World) : Nat :=
  (world.threads.map Thread.effort).sum

variable {shared new : Shared} {number threads place : Nat} {task : Task}
  {next : Next} {sets : List LabelSet} {labels : LabelSet} {store : Store}
  {thread : Thread} {world after first : World}

theorem effort_ofLabels (labels : List Label) (series : Series) :
    (Stage.ofLabels labels).effort series = labels.length + 3 := by
  cases labels <;> rfl

/-- To begin a call takes a step off what is left to do. -/
theorem effort_start_lt (shared : Shared) (timestamp : Timestamp)
    (labels : LabelSet) :
    (Task.start shared (.register timestamp labels)).effort <
      (Request.register timestamp labels).effort := by
  rw [Task.start, Request.effort]
  split
  · exact Nat.lt_succ_self _
  · rw [Task.effort]
    omega

/-- So does every write by which a series enters. -/
theorem effort_stepEnroll_lt (stage : Stage) (series : Series) :
    (Task.stepEnroll shared number stage series none).2.effort <
      stage.effort series := by
  cases stage with
  | store =>
      rw [Task.stepEnroll, Next.effort, Task.effort, effort_ofLabels,
        Stage.effort, LabelSet.size]
      exact Nat.lt_succ_self _
  | label first rest =>
      rw [Task.stepEnroll, Next.effort, Task.effort, effort_ofLabels,
        Stage.effort]
      exact Nat.lt_succ_self _
  | publish => exact Nat.lt_succ_self 2
  | key => exact Nat.lt_succ_self 1

/-- Every step of a registration takes it nearer to its answer. -/
theorem Moves.effort_lt (hmoves : Moves shared number task new next)
    (hregisters : task.Registers) : next.effort < task.effort := by
  cases hmoves with
  | enroll =>
      cases hregisters
      exact effort_stepEnroll_lt _ _
  | query hqueries => exact absurd hregisters hqueries.not_registers
  | takeNext | sound | unsound | untaken | free | taken | room | crowded |
      raiseNext | raiseCount => exact absurd hregisters id
  | _ =>
      simp only [Next.effort, Task.effort, Stage.effort]
      omega

theorem Thread.effort_after (thread : Thread) (next : Next) :
    (thread.after next).effort =
      next.effort + (thread.requests.map Request.effort).sum := by
  cases next <;> rfl

/-- What one thread gets done counts for the world. -/
theorem World.effort_lt_of_set {updated : Thread}
    (hthread : world.threads[number]? = some thread)
    (hafter : after.threads = world.threads.set number updated)
    (hlt : updated.effort < thread.effort) : after.effort < world.effort := by
  have hsum : after.effort + thread.effort = world.effort + updated.effort := by
    rw [effort, effort, hafter]
    exact sum_map_set hthread
  omega

/-- Every step of a race takes it nearer to its end. -/
theorem World.Sound.effort_lt (hsound : world.Sound (Race.given threads sets))
    (hstep : world.step number = some after) : after.effort < world.effort := by
  cases World.steps_of_step hstep with
  | start thread request requests hthread hidle hrequests hshared hafter =>
      apply effort_lt_of_set hthread hafter
      obtain ⟨labels, -, rfl⟩ := (hsound.races hthread).next hidle hrequests
      have hlt := effort_start_lt world.shared (Int64.ofNat number) labels
      simp only [Thread.effort, hidle, hrequests, Option.elim_none,
        Option.elim_some, List.map_cons, List.sum_cons]
      omega
  | work thread task next hthread htask hmoves hafter =>
      apply effort_lt_of_set hthread hafter
      obtain ⟨labels, -, -, hvalid⟩ := (hsound.races hthread).busy task htask
      have hlt := hmoves.effort_lt hvalid.registers
      rw [Thread.effort_after, Thread.effort, htask, Option.elim_some]
      omega

/-! ## Some thread can take a step -/

/-- A registration that owns a stripe waits for nothing. -/
theorem Task.step_isSome_of_owns (hregisters : task.Registers) {slot : Nat}
    (howns : task.Owns shared slot) : (task.step shared number).isSome := by
  cases task with
  | recheck | reserve | allocate =>
      simp only [step]
      split <;> rfl
  | giveBack | enroll => rfl
  | takeAll | checkFree | checkRoom | raiseNext | raiseCount =>
      exact absurd hregisters id
  | _ => exact absurd howns id

/-- A registration waits only for a stripe. -/
theorem Task.isFree_of_step_eq_none (hregisters : task.Registers)
    (hstep : task.step shared number = none) :
    ∃ slot, shared.isFree slot = false := by
  cases task with
  | find timestamp labels =>
      refine ⟨shared.slotOf labels, Bool.eq_false_iff.mpr fun hfree => ?_⟩
      rw [step, if_pos hfree] at hstep
      split at hstep <;> cases hstep
  | take timestamp labels =>
      refine ⟨shared.slotOf labels, Bool.eq_false_iff.mpr fun hfree => ?_⟩
      rw [step, if_pos hfree] at hstep
      cases hstep
  | recheck | reserve | allocate | widenDown =>
      simp only [step] at hstep
      split at hstep <;> cases hstep
  | giveBack | enroll | widenUp | count => cases hstep
  | _ => exact absurd hregisters id

theorem Shared.exists_owned {slot : Nat} (hfree : shared.isFree slot = false) :
    ∃ number, (slot, number) ∈ shared.owned := by
  rw [isFree, List.all_eq_false] at hfree
  obtain ⟨⟨other, owner⟩, hmem, hsame⟩ := hfree
  have hslot : other = slot := by simpa using hsame
  subst hslot
  exact ⟨owner, hmem⟩

/-- A thread whose task can go on can take a step. -/
theorem World.isSome_step_of_task
    (hthread : world.threads[number]? = some thread)
    (htask : thread.task = some task)
    (hstep : (task.step world.shared number).isSome) :
    (world.step number).isSome := by
  obtain ⟨⟨shared, next⟩, hnext⟩ := Option.isSome_iff_exists.mp hstep
  rw [step_of_task hthread htask hnext]
  rfl

/-- As long as a race has not ended, some thread can take a step. -/
theorem World.Sound.exists_step (hsound : world.Sound (Race.given threads sets))
    (hunfinished : world.isFinished = false) :
    ∃ number, (world.step number).isSome := by
  rw [isFinished, List.all_eq_false] at hunfinished
  obtain ⟨thread, hmem, hopen⟩ := hunfinished
  obtain ⟨number, hthread⟩ := List.mem_iff_getElem?.mp hmem
  cases htask : thread.task with
  | none =>
      cases hrequests : thread.requests with
      | nil => simp [htask, hrequests] at hopen
      | cons request requests =>
          refine ⟨number, ?_⟩
          rw [World.step]
          simp only [hthread, htask, hrequests, Option.isSome_some]
  | some task =>
      have hregisters := hsound.registers hthread htask
      cases hstep : task.step world.shared number with
      | some result =>
          refine ⟨number, isSome_step_of_task hthread htask ?_⟩
          rw [hstep, Option.isSome_some]
      | none =>
          -- the owner of the stripe that the thread waits for can go on
          obtain ⟨slot, hfree⟩ :=
            Task.isFree_of_step_eq_none hregisters hstep
          obtain ⟨owner, howned⟩ := Shared.exists_owned hfree
          obtain ⟨ownerTask, hownerTask, howns⟩ :=
            (hsound.locked.owned_iff slot owner).mp howned
          obtain ⟨ownerThread, hownerThread, hsome⟩ :=
            task?_eq_some_iff.mp hownerTask
          exact ⟨owner, isSome_step_of_task hownerThread hsome
            (Task.step_isSome_of_owns (hsound.registers hownerThread hsome)
              howns)⟩

/-! ## Fair schedules -/

theorem World.exists_thread (hstep : (world.step number).isSome) :
    ∃ thread, world.threads[number]? = some thread := by
  obtain ⟨after, hafter⟩ := Option.isSome_iff_exists.mp hstep
  cases World.steps_of_step hafter with
  | start thread request requests hthread => exact ⟨thread, hthread⟩
  | work thread task next hthread => exact ⟨thread, hthread⟩

/-- Once a thread that can take a step has its turn, the race is nearer to its
end. -/
theorem World.Sound.turn (hsound : first.Sound (Race.given threads sets))
    {schedule : Nat → Nat} {count gap : Nat}
    (hturn : schedule (count + gap) = number)
    (hstep : ((first.run (upTo schedule count)).step number).isSome) :
    ∃ last, (first.run (upTo schedule last)).effort <
      (first.run (upTo schedule count)).effort := by
  induction gap generalizing count with
  | zero =>
      obtain ⟨after, hafter⟩ := Option.isSome_iff_exists.mp hstep
      refine ⟨count + 1, ?_⟩
      rw [Nat.add_zero] at hturn
      rw [upTo_succ, run_concat, hturn, hafter, Option.getD_some]
      exact (hsound.run _).effort_lt hafter
  | succ gap ih =>
      have hlater := upTo_succ schedule count
      cases hafter : (first.run (upTo schedule count)).step
        (schedule count) with
      | none =>
          -- nothing has happened, so the thread can still take its step
          have hsame : first.run (upTo schedule (count + 1)) =
              first.run (upTo schedule count) := by
            rw [hlater, run_concat, hafter, Option.getD_none]
          rw [← hsame] at hstep ⊢
          apply ih _ hstep
          rw [← hturn, Nat.add_right_comm, Nat.add_assoc]
      | some after =>
          refine ⟨count + 1, ?_⟩
          rw [hlater, run_concat, hafter, Option.getD_some]
          exact (hsound.run _).effort_lt hafter

/-- A race ends on every schedule that does not neglect a thread. -/
theorem World.Sound.finishes (hsound : first.Sound (Race.given threads sets))
    {schedule : Nat → Nat}
    (hfair : ∀ number < threads, ∀ count, ∃ gap,
      schedule (count + gap) = number) (count : Nat) :
    ∃ last, (first.run (upTo schedule last)).isFinished = true := by
  generalize heffort : (first.run (upTo schedule count)).effort = effort
  induction effort using Nat.strongRecOn generalizing count with
  | ind effort ih =>
      subst heffort
      cases hfinished : (first.run (upTo schedule count)).isFinished with
      | true => exact ⟨count, hfinished⟩
      | false =>
          have hrun := hsound.run (upTo schedule count)
          obtain ⟨number, hstep⟩ := hrun.exists_step hfinished
          obtain ⟨thread, hthread⟩ := exists_thread hstep
          obtain ⟨gap, hturn⟩ := hfair number (hrun.number_lt hthread) count
          obtain ⟨last, hlt⟩ := hsound.turn hturn hstep
          exact ih _ hlt last rfl

/-! ## One thread after another -/

/-- When no thread can take a step, the race has ended. -/
theorem World.Sound.isFinished_of_none
    (hsound : world.Sound (Race.given threads sets))
    (hnone : ∀ number, world.step number = none) : world.isFinished = true := by
  by_contra hunfinished
  obtain ⟨number, hstep⟩ :=
    hsound.exists_step (Bool.eq_false_iff.mpr hunfinished)
  rw [hnone number] at hstep
  cases hstep

theorem World.step_eq_none_of_findSome?
    (hnone : (List.range world.threads.length).findSome? world.step = none)
    (number : Nat) : world.step number = none := by
  rw [← Option.not_isSome_iff_eq_none]
  intro hstep
  obtain ⟨thread, hthread⟩ := exists_thread hstep
  have hlt := (List.getElem?_eq_some_iff.mp hthread).1
  rw [List.findSome?_eq_none_iff.mp hnone number (List.mem_range.mpr hlt)]
    at hstep
  cases hstep

/-- With enough steps, a race that is run in order ends, and it is one of the
runs. -/
theorem World.Sound.runInOrder (hsound : world.Sound (Race.given threads sets))
    {steps : Nat} (hle : world.effort ≤ steps) :
    (∃ schedule, world.runInOrder steps = world.run schedule) ∧
      (world.runInOrder steps).isFinished = true := by
  induction steps generalizing world with
  | zero =>
      refine ⟨⟨[], rfl⟩, hsound.isFinished_of_none fun number => ?_⟩
      rw [Option.eq_none_iff_forall_ne_some]
      intro after hafter
      have hlt := hsound.effort_lt hafter
      omega
  | succ steps ih =>
      rw [World.runInOrder]
      cases hfirst :
          (List.range world.threads.length).findSome? world.step with
      | none =>
          exact ⟨⟨[], rfl⟩,
            hsound.isFinished_of_none (step_eq_none_of_findSome? hfirst)⟩
      | some after =>
          obtain ⟨number, -, hafter⟩ := List.exists_of_findSome?_eq_some hfirst
          have hlt := hsound.effort_lt hafter
          obtain ⟨⟨schedule, hrun⟩, hfinished⟩ :=
            ih (hsound.step hafter) (by omega)
          refine ⟨⟨number :: schedule, ?_⟩, hfinished⟩
          rw [World.run, List.foldl_cons, hafter, Option.getD_some]
          exact hrun

/-- At the start of a race, no more is left to do than is allowed for. -/
theorem effort_start_le (index : Index) (threads : Nat)
    (sets : List LabelSet) :
    (Race.start index threads sets).effort ≤ Race.steps threads sets := by
  have hthread (number : Nat) :
      ((Race.requests sets number).map Request.effort).sum ≤
        sets.foldr
          (fun labels steps => Race.stepsOfCall + labels.size + steps) 0 := by
    induction sets with
    | nil => exact Nat.le_refl 0
    | cons labels rest ih =>
        simp only [Race.requests, List.map_cons, List.sum_cons, List.foldr_cons,
          Request.effort, Race.stepsOfCall] at ih ⊢
        omega
  have hmost : ∀ effort ∈
      (Race.start index threads sets).threads.map Thread.effort,
      effort ≤ sets.foldr
        (fun labels steps => Race.stepsOfCall + labels.size + steps) 0 := by
    intro effort heffort
    obtain ⟨thread, hmem, rfl⟩ := List.mem_map.mp heffort
    obtain ⟨given, hgiven, rfl⟩ := List.mem_map.mp hmem
    obtain ⟨number, -, rfl⟩ := List.mem_map.mp hgiven
    rw [Thread.effort, Option.elim_none, Nat.zero_add]
    exact hthread number
  have hle := List.sum_le_card_nsmul _ _ hmost
  rw [List.length_map, Race.length_threads_start] at hle
  exact hle

end SeriesIndex.Concurrent
