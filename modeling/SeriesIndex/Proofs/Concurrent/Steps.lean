import Mathlib
import SeriesIndex.Proofs.Concurrent.Moves

/-!
# Steps and runs of a world

A step either begins the next request of an idle thread, or takes the next step
of its task.  What every step keeps is kept by every run, whatever the schedule.
-/

namespace SeriesIndex.Concurrent

def Thread.after (thread : Thread) : Next → Thread
  | .goOn task => { thread with task := some task }
  | .finish answer =>
    { thread with task := none, answers := thread.answers ++ [answer] }

def Next.task? : Next → Option Task
  | .goOn task => some task
  | .finish _ => none

@[simp]
theorem Thread.task_after (thread : Thread) (next : Next) :
    (thread.after next).task = next.task? := by
  cases next <;> rfl

namespace World

variable {world after : World} {number other : Nat} {thread : Thread}

def task? (world : World) (number : Nat) : Option Task :=
  world.threads[number]?.bind Thread.task

/-- The task of a number is the task of the thread that has it. -/
theorem task?_eq_some_iff {task : Task} :
    world.task? number = some task ↔
      ∃ thread, world.threads[number]? = some thread ∧
        thread.task = some task := by
  rw [task?, Option.bind_eq_some_iff]

theorem task?_of_getElem? (hthread : world.threads[number]? = some thread) :
    world.task? number = thread.task := by
  rw [task?, hthread, Option.bind_some]

/-- What is so of the thread that was changed, and of the others as they were,
is so of all threads. -/
theorem forall_threads_of_set {keeps : Nat → Thread → Prop} {updated : Thread}
    (hthread : world.threads[number]? = some thread)
    (hafter : after.threads = world.threads.set number updated)
    (hown : keeps number updated)
    (hothers : ∀ (other : Nat) (found : Thread), other ≠ number →
      world.threads[other]? = some found → keeps other found) :
    ∀ (other : Nat) (found : Thread),
      after.threads[other]? = some found → keeps other found := by
  intro other found hfound
  rw [hafter] at hfound
  by_cases hsame : other = number
  · subst hsame
    rw [List.getElem?_set_self (List.getElem?_eq_some_iff.mp hthread).1,
      Option.some_inj] at hfound
    rw [← hfound]
    exact hown
  · rw [List.getElem?_set_ne (Ne.symm hsame)] at hfound
    exact hothers other found hsame hfound

/-- The ways in which a thread takes a step. -/
inductive Steps (world : World) (number : Nat) (after : World) : Prop
  | start (thread : Thread) (request : Request) (requests : List Request)
      (hthread : world.threads[number]? = some thread)
      (hidle : thread.task = none)
      (hrequests : thread.requests = request :: requests)
      (hshared : after.shared = world.shared)
      (hafter : after.threads = world.threads.set number
        { thread with
          requests := requests
          task := some (Task.start world.shared request) })
  | work (thread : Thread) (task : Task) (next : Next)
      (hthread : world.threads[number]? = some thread)
      (htask : thread.task = some task)
      (hmoves : Moves world.shared number task after.shared next)
      (hafter : after.threads = world.threads.set number (thread.after next))

/-- A step is the start of a call, or a move within one. -/
theorem steps_of_step (hstep : world.step number = some after) :
    world.Steps number after := by
  rw [step] at hstep
  split at hstep
  · cases hstep
  · rename_i thread hthread
    cases htask : thread.task with
    | none =>
        cases hrequests : thread.requests with
        | nil => simp [htask, hrequests] at hstep
        | cons request requests =>
            simp only [htask, hrequests, Option.some.injEq] at hstep
            subst hstep
            exact .start thread request requests hthread htask hrequests rfl rfl
    | some task =>
        simp only [htask] at hstep
        split at hstep
        · cases hstep
        · rename_i shared next hnext
          cases hstep
          exact .work thread task (.goOn next) hthread htask
            (Task.moves hnext) rfl
        · rename_i shared answer hnext
          cases hstep
          exact .work thread task (.finish answer) hthread htask
            (Task.moves hnext) rfl

theorem step_of_task {task : Task} {shared : Shared} {next : Next}
    (hthread : world.threads[number]? = some thread)
    (htask : thread.task = some task)
    (hnext : task.step world.shared number = some (shared, next)) :
    world.step number =
      some ⟨shared, world.threads.set number (thread.after next)⟩ := by
  rw [step]
  simp only [hthread, htask, hnext]
  cases next <;> rfl

theorem getElem?_of_set {new : Thread}
    (hthread : world.threads[number]? = some thread)
    (hafter : after.threads = world.threads.set number new) :
    after.threads[number]? = some new := by
  rw [hafter]
  exact List.getElem?_set_self (List.getElem?_eq_some_iff.mp hthread).1

theorem task?_of_set {new : Thread}
    (hthread : world.threads[number]? = some thread)
    (hafter : after.threads = world.threads.set number new) :
    after.task? number = new.task :=
  task?_of_getElem? (getElem?_of_set hthread hafter)

/-- A step changes no other thread. -/
theorem Steps.getElem?_of_ne (hsteps : world.Steps number after)
    (hne : other ≠ number) : after.threads[other]? = world.threads[other]? := by
  cases hsteps with
  | start thread request requests hthread hidle hrequests hshared hafter =>
      rw [hafter]
      exact List.getElem?_set_ne hne.symm
  | work thread task next hthread htask hmoves hafter =>
      rw [hafter]
      exact List.getElem?_set_ne hne.symm

/-- A step leaves the tasks of other threads alone. -/
theorem Steps.task?_of_ne (hsteps : world.Steps number after)
    (hne : other ≠ number) : after.task? other = world.task? other := by
  rw [task?, task?, hsteps.getElem?_of_ne hne]

/-! ## Runs -/

/-- What every step keeps is kept by every run. -/
theorem run_induction {motive : World → Prop}
    (hstep : ∀ world number after, motive world →
      world.step number = some after → motive after)
    (schedule : List Nat) (hworld : motive world) :
    motive (world.run schedule) := by
  induction schedule generalizing world with
  | nil => exact hworld
  | cons number rest ih =>
      rw [run, List.foldl_cons]
      cases hafter : world.step number with
      | none => exact ih hworld
      | some after => exact ih (hstep world number after hworld hafter)

theorem run_append (world : World) (early late : List Nat) :
    world.run (early ++ late) = (world.run early).run late :=
  List.foldl_append

end World

end SeriesIndex.Concurrent
