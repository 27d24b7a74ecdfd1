import Mathlib
import SeriesIndex.Proofs.Concurrent.Sound

/-!
# Counted outcomes

Besides its store, an index keeps settings that no step changes and counters of
outcomes.  A registration is counted in the same step that answers it, so at
every moment the counters tell how many answers of each kind the threads have.
-/

namespace SeriesIndex.Concurrent

def Answer.isAccepted : Answer → Bool
  | registered outcome => outcome.isOk
  | _ => false

def Answer.isRejected : Answer → Bool
  | registered outcome => !outcome.isOk
  | _ => false

def World.tally (world : World) (kind : Answer → Bool) : Nat :=
  (world.threads.map fun thread => thread.answers.countP kind).sum

/-- The counters tell how many registrations succeeded and failed. -/
structure World.Tallied (world : World) : Prop where
  accepted : world.shared.index.counters.registrations =
    world.tally Answer.isAccepted
  rejected : world.shared.index.counters.rejected =
    world.tally Answer.isRejected

variable {shared new : Shared} {number : Nat} {task : Task} {next : Next}
  {world after : World} {thread : Thread}

/-! ## The index besides its store -/

theorem index_mapCatalog (shared : Shared) (change : Catalog → Catalog) :
    (shared.mapCatalog change).index =
      { shared.index with store := (shared.mapCatalog change).store } := rfl

theorem index_mapInverted (shared : Shared)
    (change : InvertedIndex → InvertedIndex) :
    (shared.mapInverted change).index =
      { shared.index with store := (shared.mapInverted change).store } := rfl

theorem index_loadNext (shared : Shared) (number : Nat)
    (entries : List Series) :
    (Task.loadNext shared number entries).1.index = shared.index := by
  cases entries with
  | nil => rfl
  | cons entry rest => rfl

theorem loadNext_ne_registered (entries : List Series)
    (outcome : Except Fault Store.Registration) :
    (Task.loadNext shared number entries).2 ≠
      .finish (.registered outcome) := by
  cases entries <;> exact fun hsame => nomatch hsame

theorem checkNext_ne_finish (entries rest : List Series) (answer : Answer) :
    Task.checkNext entries rest ≠ .finish answer := by
  cases rest <;> exact fun hsame => nomatch hsame

theorem Next.Queries.ne_registered {window : Window}
    (hqueries : next.Queries window)
    (outcome : Except Fault Store.Registration) :
    next ≠ .finish (.registered outcome) := by
  rintro rfl
  obtain ⟨resolved, hsame⟩ := hqueries
  cases hsame

/-- To write a series counts and answers nothing. -/
theorem index_stepEnroll (shared : Shared) (number : Nat) (stage : Stage)
    (series : Series) (batch : Option (List Series)) :
    (Task.stepEnroll shared number stage series batch).1.index =
        { shared.index with
          store :=
            (Task.stepEnroll shared number stage series batch).1.store } ∧
      ∀ outcome, (Task.stepEnroll shared number stage series batch).2 ≠
        .finish (.registered outcome) := by
  cases stage with
  | store => exact ⟨index_mapCatalog _ _, fun _ hsame => nomatch hsame⟩
  | label first rest =>
      exact ⟨index_mapInverted _ _, fun _ hsame => nomatch hsame⟩
  | publish => exact ⟨index_mapCatalog _ _, fun _ hsame => nomatch hsame⟩
  | key =>
      cases batch with
      | none =>
          exact ⟨index_mapCatalog shared (·.addKey series.labels series.tsid),
            fun _ hsame => nomatch hsame⟩
      | some rest =>
          rw [Task.stepEnroll, index_loadNext, store_loadNext]
          exact ⟨index_mapCatalog _ _, loadNext_ne_registered _⟩

/-- A step counts the outcome that it answers, or changes no more than the
store. -/
theorem Moves.index_cases (hmoves : Moves shared number task new next) :
    (∃ outcome, next = .finish (.registered outcome) ∧
      new.index =
        { shared.index with
          counters := shared.index.counters.count outcome }) ∨
    (new.index = { shared.index with store := new.store } ∧
      ∀ outcome, next ≠ .finish (.registered outcome)) := by
  cases hmoves with
  | count => exact .inl ⟨_, rfl, rfl⟩
  | enroll => exact .inr (index_stepEnroll shared _ _ _ _)
  | raiseCount =>
      rw [index_loadNext, store_loadNext]
      exact .inr ⟨index_mapCatalog _ _, loadNext_ne_registered _⟩
  | reserve | allocate | giveBack | widenDown | widenUp | raiseNext =>
      exact .inr ⟨index_mapCatalog shared _, fun _ hsame => nomatch hsame⟩
  | sound | free => exact .inr ⟨rfl, fun _ => checkNext_ne_finish _ _ _⟩
  | query hqueries hnext => exact .inr ⟨rfl, hnext.ne_registered⟩
  | _ => exact .inr ⟨rfl, fun _ hsame => nomatch hsame⟩

/-! ## Tallies -/

def Next.told : Next → List Answer
  | goOn _ => []
  | finish answer => [answer]

theorem Thread.answers_after (thread : Thread) (next : Next) :
    (thread.after next).answers = thread.answers ++ next.told := by
  cases next with
  | goOn later => exact (List.append_nil _).symm
  | finish answer => rfl

/-- What one thread is told counts once. -/
theorem World.tally_of_set {updated : Thread} {told : List Answer}
    (hthread : world.threads[number]? = some thread)
    (hafter : after.threads = world.threads.set number updated)
    (htold : updated.answers = thread.answers ++ told) (kind : Answer → Bool) :
    after.tally kind = world.tally kind + told.countP kind := by
  have hsum :
      after.tally kind + thread.answers.countP kind =
        world.tally kind + updated.answers.countP kind := by
    rw [tally, tally, hafter]
    exact sum_map_set hthread
  rw [htold, List.countP_append] at hsum
  omega

theorem Next.countP_told_of_ne {kind : Answer → Bool}
    (hkind : ∀ answer, kind answer = true →
      ∃ outcome, answer = .registered outcome)
    (hne : ∀ outcome, next ≠ .finish (.registered outcome)) :
    next.told.countP kind = 0 := by
  cases next with
  | goOn later => rfl
  | finish answer =>
      rw [List.countP_eq_zero]
      intro found hfound htrue
      rw [told, List.mem_singleton] at hfound
      subst hfound
      obtain ⟨outcome, rfl⟩ := hkind found htrue
      exact hne outcome rfl

theorem Answer.exists_of_isAccepted (answer : Answer)
    (haccepted : answer.isAccepted = true) :
    ∃ outcome, answer = .registered outcome := by
  cases answer with
  | registered outcome => exact ⟨outcome, rfl⟩
  | _ => cases haccepted

theorem Answer.exists_of_isRejected (answer : Answer)
    (hrejected : answer.isRejected = true) :
    ∃ outcome, answer = .registered outcome := by
  cases answer with
  | registered outcome => exact ⟨outcome, rfl⟩
  | _ => cases hrejected

/-- A registration is counted in the step that answers it. -/
theorem World.Tallied.step (htallied : world.Tallied)
    (hstep : world.step number = some after) : after.Tallied := by
  cases World.steps_of_step hstep with
  | start thread request requests hthread hidle hrequests hshared hafter =>
      have hsame := tally_of_set hthread hafter (List.append_nil _).symm
      constructor
      · rw [hshared, hsame]
        exact htallied.accepted
      · rw [hshared, hsame]
        exact htallied.rejected
  | work thread task next hthread htask hmoves hafter =>
      have htold := tally_of_set hthread hafter (thread.answers_after next)
      rcases hmoves.index_cases with
        ⟨outcome, rfl, hindex⟩ | ⟨hindex, hnone⟩
      · cases outcome with
        | ok registration =>
            constructor
            · rw [hindex, htold]
              exact congrArg (· + 1) htallied.accepted
            · rw [hindex, htold]
              exact htallied.rejected
        | error fault =>
            constructor
            · rw [hindex, htold]
              exact htallied.accepted
            · rw [hindex, htold]
              exact congrArg (· + 1) htallied.rejected
      · constructor
        · rw [hindex, htold, Next.countP_told_of_ne
            Answer.exists_of_isAccepted hnone]
          exact htallied.accepted
        · rw [hindex, htold, Next.countP_told_of_ne
            Answer.exists_of_isRejected hnone]
          exact htallied.rejected

/-- Whatever threads do to an empty index, its counters tell what they were
answered. -/
theorem World.tallied_run (settings : Settings) (requests : List (List Request))
    (schedule : List Nat) :
    ((World.ofIndex (Index.empty settings) requests).run schedule).Tallied := by
  have hnone (kind : Answer → Bool) :
      (World.ofIndex (Index.empty settings) requests).tally kind = 0 :=
    sum_ofIndex _ requests fun _ => rfl
  exact run_induction (fun _ _ _ => Tallied.step) schedule
    ⟨(hnone _).symm, (hnone _).symm⟩

end SeriesIndex.Concurrent
