import Mathlib
import SeriesIndex.Proofs.Concurrent.Credit
import SeriesIndex.Proofs.Concurrent.Queries
import SeriesIndex.Proofs.Index.BruteForce

/-!
# The answer of a query

Whatever other threads do, a query never waits, and each of its steps takes it
nearer to its answer.  So it is answered on every schedule that does not neglect
its thread, and its answer lies between the answers at its first step and at its
last.
-/

namespace SeriesIndex.Concurrent

variable {all : List (List Request)} {world after first : World}
  {number next : Nat}

namespace World

/-! ## Growth -/

theorem Sound.grows_step (hsound : world.Sound all)
    (hstep : world.step number = some after) :
    world.shared.store.Grows after.shared.store := by
  cases World.steps_of_step hstep with
  | start thread request requests hthread hidle hrequests hshared hafter =>
      exact hshared ▸ .refl _
  | work thread task next hthread htask hmoves hafter =>
      obtain ⟨request, hvalid⟩ :=
        hsound.valid ((World.task?_of_getElem? hthread).trans htask)
      exact hmoves.effect.grows hsound.consistent hvalid

/-- On every schedule, stores only grow. -/
theorem Sound.grows_run (hsound : world.Sound all) (schedule : List Nat) :
    world.shared.store.Grows (world.run schedule).shared.store := by
  let keeps : World → Prop := fun later =>
    later.Sound all ∧ world.shared.store.Grows later.shared.store
  have hstep : ∀ later number after, keeps later →
      later.step number = some after → keeps after := by
    rintro later number after ⟨hlater, hgrows⟩ hstep
    exact ⟨hlater.step hstep, hgrows.trans (hlater.grows_step hstep)⟩
  exact (World.run_induction hstep schedule ⟨hsound, .refl _⟩).2

/-- What a thread was answered so far. -/
def answers? (world : World) (number : Nat) : Option (List Answer) :=
  world.threads[number]?.map Thread.answers

theorem answers?_of_getElem? {thread : Thread}
    (hthread : world.threads[number]? = some thread) :
    world.answers? number = some thread.answers := by
  rw [answers?, hthread, Option.map_some]

/-- The answers of a thread stay as they are, and new ones follow them. -/
theorem answers?_of_step {given : List Answer}
    (hgiven : world.answers? number = some given)
    (hstep : world.step next = some after) :
    ∃ more, after.answers? number = some (given ++ more) := by
  obtain ⟨thread, hthread, rfl⟩ := Option.map_eq_some_iff.mp hgiven
  have hsteps := steps_of_step hstep
  by_cases hsame : number = next
  · subst hsame
    cases hsteps with
    | start own request requests hown hidle hrequests hshared hafter =>
        rw [hthread] at hown
        cases hown
        refine ⟨[], ?_⟩
        rw [answers?_of_getElem? (getElem?_of_set hthread hafter),
          List.append_nil]
    | work own task result hown htask hmoves hafter =>
        rw [hthread] at hown
        cases hown
        have hlater := answers?_of_getElem? (getElem?_of_set hthread hafter)
        cases result with
        | goOn later =>
            refine ⟨[], ?_⟩
            rw [hlater, List.append_nil]
            rfl
        | finish answer => exact ⟨[answer], hlater⟩
  · refine ⟨[], ?_⟩
    rw [answers?, hsteps.getElem?_of_ne hsame, hthread, Option.map_some,
      List.append_nil]

theorem run_concat (world : World) (schedule : List Nat) (number : Nat) :
    world.run (schedule ++ [number]) =
      ((world.run schedule).step number).getD (world.run schedule) := by
  rw [run_append]
  rfl

theorem answers?_concat {given : List Answer} {schedule : List Nat}
    (hgiven : (world.run schedule).answers? number = some given) (next : Nat) :
    ∃ more, (world.run (schedule ++ [next])).answers? number =
      some (given ++ more) := by
  rw [run_concat]
  cases hafter : (world.run schedule).step next with
  | none =>
      refine ⟨[], ?_⟩
      rw [Option.getD_none, hgiven, List.append_nil]
  | some after => exact answers?_of_step hgiven hafter

/-! ## Queries on a schedule -/

section

variable (first : World) (number : Nat) (given : List Answer)
  (matchers : List Matcher) (window : Window) (schedule : List Nat)

/-- After a schedule, the thread is at a task of a query that it began in the
first world with some answers given. -/
def Asks (task : Task) : Prop :=
  ∃ thread, (first.run schedule).threads[number]? = some thread ∧
    thread.answers = given ∧ thread.task = some task ∧
    task.Tracks first.shared.store (first.run schedule).shared.store matchers
      window

/-- After a schedule, the thread is at work and has not answered yet, but need
not wait for its next step, which writes nothing. -/
def Pends : Prop :=
  (first.run schedule).answers? number = some given ∧
    ((first.run schedule).task? number).isSome ∧
    ∃ after, (first.run schedule).step number = some after ∧
      after.shared = (first.run schedule).shared

/-- On a schedule, the thread has answered with one of its steps.  The answer
lies between those in the first world and in the world of that step. -/
def Told : Prop :=
  ∃ before rest answer more, schedule = before ++ number :: rest ∧
    (first.run before).answers? number = some given ∧
    (first.run (before ++ [number])).answers? number =
      some (given ++ [answer]) ∧
    (first.run schedule).answers? number = some (given ++ answer :: more) ∧
    answer.Between first.shared.store (first.run before).shared.store matchers
      window

end

variable {given : List Answer} {matchers : List Matcher} {window : Window}
  {schedule : List Nat} {task : Task}

/-- The step of a query under way. -/
theorem Asks.step (hsound : first.Sound all)
    (hasks : first.Asks number given matchers window schedule task) :
    first.Pends number given schedule ∧
      ((∃ later, later.Nearer task ∧
          first.Asks number given matchers window (schedule ++ [number])
            later) ∨
        first.Told number given matchers window (schedule ++ [number])) := by
  obtain ⟨thread, hthread, rfl, htask, htracks⟩ := hasks
  obtain ⟨result, hreads⟩ := htracks.reads (hsound.run schedule).consistent
    (hsound.grows_run schedule) number
  have hafter := step_of_task hthread htask hreads.step
  have hgiven := answers?_of_getElem? hthread
  refine ⟨⟨hgiven, ?_, _, hafter, rfl⟩, ?_⟩
  · rw [task?_of_getElem? hthread, htask, Option.isSome_some]
  have hrun : first.run (schedule ++ [number]) =
      ⟨(first.run schedule).shared,
        (first.run schedule).threads.set number (thread.after result)⟩ := by
    rw [run_concat, hafter, Option.getD_some]
  have hown : (first.run (schedule ++ [number])).threads[number]? =
      some (thread.after result) :=
    getElem?_of_set hthread (congrArg World.threads hrun)
  cases result with
  | goOn later =>
      refine .inl ⟨later, hreads.nearer later rfl, _, hown, rfl, rfl, ?_⟩
      rw [hrun]
      exact hreads.tracks
  | finish answer =>
      have htold := answers?_of_getElem? hown
      exact .inr ⟨schedule, [], answer, [], rfl, hgiven, htold, htold,
        hreads.tracks⟩

/-- A query under way stays as it is while another thread takes a step. -/
theorem Asks.concat (hsound : first.Sound all) (hne : next ≠ number)
    (hasks : first.Asks number given matchers window schedule task) :
    first.Asks number given matchers window (schedule ++ [next]) task := by
  obtain ⟨thread, hthread, hgiven, htask, htracks⟩ := hasks
  rw [Asks, run_concat]
  cases hafter : (first.run schedule).step next with
  | none => exact ⟨thread, hthread, hgiven, htask, htracks⟩
  | some after =>
      have hsteps := steps_of_step hafter
      refine ⟨thread, (hsteps.getElem?_of_ne hne.symm).trans hthread, hgiven,
        htask, htracks.grows ?_⟩
      exact (hsound.run schedule).grows_step hafter

/-- What was told stays told. -/
theorem Told.concat (next : Nat)
    (htold : first.Told number given matchers window schedule) :
    first.Told number given matchers window (schedule ++ [next]) := by
  obtain ⟨before, rest, answer, more, rfl, hgiven, htold, hanswers,
    hbetween⟩ := htold
  obtain ⟨new, hnew⟩ := answers?_concat hanswers next
  refine ⟨before, rest ++ [next], answer, more ++ new, ?_, hgiven, htold, ?_,
    hbetween⟩
  · rw [List.append_assoc, List.cons_append]
  · rw [hnew, List.append_assoc, List.cons_append]

/-- On every schedule the query is under way or answered. -/
theorem Asks.run (hsound : first.Sound all)
    (hasks : first.Asks number given matchers window [] task)
    (schedule : List Nat) :
    (∃ task, first.Asks number given matchers window schedule task) ∨
      first.Told number given matchers window schedule := by
  induction schedule using List.reverseRecOn with
  | nil => exact .inl ⟨task, hasks⟩
  | append_singleton schedule next ih =>
      rcases ih with ⟨task, hasks⟩ | htold
      · by_cases hsame : next = number
        · subst hsame
          rcases (hasks.step hsound).2 with ⟨later, -, hlater⟩ | htold
          · exact .inl ⟨later, hlater⟩
          · exact .inr htold
        · exact .inl ⟨task, hasks.concat hsound hsame⟩
      · exact .inr (htold.concat next)

/-! ## Fair schedules -/

def upTo (schedule : Nat → Nat) (count : Nat) : List Nat :=
  (List.range count).map schedule

theorem upTo_succ (schedule : Nat → Nat) (count : Nat) :
    upTo schedule (count + 1) = upTo schedule count ++ [schedule count] := by
  rw [upTo, List.range_succ, List.map_append]
  rfl

/-- Once its thread has its turn, a query is nearer to its answer. -/
theorem Asks.turn (hsound : first.Sound all) {schedule : Nat → Nat}
    {count gap : Nat} (hturn : schedule (count + gap) = number)
    (hasks : first.Asks number given matchers window (upTo schedule count)
      task) :
    ∃ last, (∃ later, later.Nearer task ∧
        first.Asks number given matchers window (upTo schedule last) later) ∨
      first.Told number given matchers window (upTo schedule last) := by
  induction gap generalizing count with
  | zero =>
      refine ⟨count + 1, ?_⟩
      rw [upTo_succ, ← Nat.add_zero count, hturn]
      exact (hasks.step hsound).2
  | succ gap ih =>
      by_cases hsame : schedule count = number
      · refine ⟨count + 1, ?_⟩
        rw [upTo_succ, hsame]
        exact (hasks.step hsound).2
      · have hlater := hasks.concat hsound hsame
        rw [← upTo_succ] at hlater
        refine ih ?_ hlater
        rw [← hturn, Nat.add_right_comm, Nat.add_assoc]

/-- A query is answered on every schedule that does not neglect its thread. -/
theorem Asks.told (hsound : first.Sound all) {schedule : Nat → Nat}
    (hfair : ∀ count, ∃ gap, schedule (count + gap) = number)
    {count : Nat} (hasks : first.Asks number given matchers window
      (upTo schedule count) task) :
    ∃ last, first.Told number given matchers window (upTo schedule last) := by
  induction task using Task.wellFounded_nearer.induction generalizing count with
  | _ task ih =>
      obtain ⟨gap, hturn⟩ := hfair count
      obtain ⟨last, ⟨later, hnearer, hlater⟩ | htold⟩ :=
        hasks.turn hsound hturn
      · exact ih later hnearer hlater
      · exact ⟨last, htold⟩

end World

/-- Whatever other threads do meanwhile, a query never waits, is answered on
every schedule that does not neglect its thread, and its answer lies between the
answers at its first step and at its last. -/
theorem resolve_between (settings : Settings) (requests : List (List Request))
    (early : List Nat) {number : Nat} {thread : Thread}
    {matchers : List Matcher} {window : Window} :
    let first := (World.ofIndex (Index.empty settings) requests).run early
    first.threads[number]? = some thread →
    thread.task = some (Task.start first.shared (.resolve matchers window)) →
    (∀ schedule,
      first.Pends number thread.answers schedule ∨
      first.Told number thread.answers matchers window schedule) ∧
    ∀ schedule : Nat → Nat,
      (∀ count, ∃ gap, schedule (count + gap) = number) →
      ∃ last, first.Told number thread.answers matchers window
        (World.upTo schedule last) := by
  intro first hthread htask
  have hsound : first.Sound requests :=
    (World.credited_run settings requests early).1
  have hasks : first.Asks number thread.answers matchers window [] _ :=
    ⟨thread, hthread, rfl, htask, tracks_start _ _ _ matchers window⟩
  constructor
  · intro schedule
    apply (hasks.run hsound schedule).imp_left
    intro ⟨task, hlater⟩
    exact (hlater.step hsound).1
  · intro schedule hfair
    have hstart : first.Asks number thread.answers matchers window
        (World.upTo schedule 0) _ := hasks
    exact hstart.told hsound hfair

/-- Two threads register and one asks.  The label set of the last thread is
registered and that of the first is put under one of its two labels when the
query begins. -/
def midway : World :=
  (World.ofIndex (Index.empty { seriesLimit := 3 })
    [[.register 5 (Index.deployment "prod" "api"),
        .register 12 (Index.deployment "prod" "api")],
      [.resolve Index.apiOutsideDev ⟨7, 9⟩],
      [.register 3 (Index.deployment "dev" "api")]]).run
    (List.replicate 12 2 ++ List.replicate 8 0 ++ [1])

set_option maxRecDepth 20000 in
theorem getElem?_midway : midway.threads[1]? =
    some ⟨[], some (Task.start midway.shared
      (.resolve Index.apiOutsideDev ⟨7, 9⟩)), []⟩ := by
  with_unfolding_all rfl

theorem resolve_between_in_turn :
    midway.threads[1]? =
        some ⟨[], some (Task.start midway.shared
          (.resolve Index.apiOutsideDev ⟨7, 9⟩)), []⟩ ∧
      (∀ schedule,
        midway.Pends 1 [] schedule ∨
          midway.Told 1 [] Index.apiOutsideDev ⟨7, 9⟩ schedule) ∧
      (∀ count, ∃ gap, (count + gap) % 3 = 1) ∧
      ∃ last, midway.Told 1 [] Index.apiOutsideDev ⟨7, 9⟩
        (World.upTo (· % 3) last) := by
  have hfair : ∀ count, ∃ gap, (count + gap) % 3 = 1 := by
    intro count
    refine ⟨(2 * count + 1) % 3, ?_⟩
    omega
  obtain ⟨hpending, htold⟩ := resolve_between { seriesLimit := 3 } _
    (List.replicate 12 2 ++ List.replicate 8 0 ++ [1]) getElem?_midway rfl
  exact ⟨getElem?_midway, hpending, hfair, htold (· % 3) hfair⟩

end SeriesIndex.Concurrent
