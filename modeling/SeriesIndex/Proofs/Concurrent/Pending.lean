import Mathlib
import SeriesIndex.Proofs.Concurrent.Progress

/-!
# Series under way

Between the step that gives a number out and the one that writes a key, a series
is pending in the task that writes it.  Its place under the limit is taken
before it is stored, so the count of series runs ahead of the stored series by
the places that the tasks have taken.  A step gives numbers out, or carries the
pending series on, and keeps this balance.
-/

namespace SeriesIndex.Concurrent

/-- The places that a task has taken for series which are not stored yet. -/
def Task.places : Task → Nat
  | allocate _ _ => 1
  | giveBack _ => 1
  | enroll .store _ batch => (batch.getD []).length + 1
  | enroll _ _ batch => (batch.getD []).length
  | _ => 0

/-- The step of the task gives the number to the label set. -/
def Task.Grants (store : Store) (labels : LabelSet) (tsid : Tsid) : Task → Prop
  | allocate _ own => store.catalog.nextTsid ≠ Tsid.last ∧
      own = labels ∧ store.catalog.nextTsid = tsid
  | raiseCount entries =>
      ∃ entry ∈ entries, entry.labels = labels ∧ entry.tsid = tsid
  | _ => False

namespace Next

def pending : Next → List Series
  | goOn task => task.pending
  | finish _ => []

def entering : Next → Option Series
  | goOn task => task.entering
  | finish _ => none

def places : Next → Nat
  | goOn task => task.places
  | finish _ => 0

end Next

variable {shared after : Shared} {number : Nat} {task : Task} {next : Next}
  {request : Request}

/-- What a step does to the series under way. -/
structure Carries (shared after : Shared) (task : Task) (next : Next) :
    Prop where
  pending : ∀ series ∈ next.pending, series ∈ task.pending ∨
    task.Grants shared.store series.labels series.tsid
  kept : ∀ series ∈ task.pending,
    series ∈ next.pending ∨ task.entering = some series
  granted : ∀ labels tsid, task.Grants shared.store labels tsid →
    ∃ series ∈ next.pending, series.labels = labels ∧ series.tsid = tsid
  entering : ∀ series, task.entering = some series →
    next.entering = some series ∨
      after.store.catalog.lookup? series.labels = some series.tsid
  storing : ∀ series batch, task = .enroll .store series batch →
    next.entering = some series
  places : shared.store.catalog.series.size + task.places ≤
      shared.store.catalog.seriesCount →
    after.store.catalog.seriesCount + shared.store.catalog.series.size +
        task.places =
      shared.store.catalog.seriesCount + after.store.catalog.series.size +
        next.places

/-- No series is under way. -/
structure Next.IsIdle (next : Next) : Prop where
  pending : next.pending = []
  entering : next.entering = none
  places : next.places = 0

/-- A step that only moves the task on. -/
theorem Carries.of_eq
    (hsize : after.store.catalog.series.size = shared.store.catalog.series.size)
    (hcount : after.store.catalog.seriesCount =
      shared.store.catalog.seriesCount)
    (hpending : next.pending = task.pending)
    (hentering : next.entering = task.entering)
    (hplaces : next.places = task.places)
    (hgrants : ∀ labels tsid, ¬task.Grants shared.store labels tsid)
    (hstoring : ∀ series batch, task ≠ .enroll .store series batch) :
    Carries shared after task next where
  pending series hseries := .inl (hpending ▸ hseries)
  kept series hseries := .inl (hpending.symm ▸ hseries)
  granted labels tsid hgrant := absurd hgrant (hgrants labels tsid)
  entering series hsome := .inl (hentering.trans hsome)
  storing series batch htask := absurd htask (hstoring series batch)
  places _ := by rw [hsize, hcount, hplaces]

/-- At every stage, the series and those left of its batch are on their way. -/
theorem pending_enroll (stage : Stage) (series : Series)
    (batch : Option (List Series)) :
    (Task.enroll stage series batch).pending = series :: batch.getD [] := by
  cases batch <;> rfl

theorem pending_enroll_ne_nil (stage : Stage) (series : Series)
    (batch : Option (List Series)) :
    (Task.enroll stage series batch).pending ≠ [] := by
  rw [pending_enroll]
  exact List.cons_ne_nil _ _

/-- A step of a task that has no series on its way: those behind it are the ones
that it gives numbers to. -/
theorem Carries.of_unladen (htask : task.pending = [])
    (hpending : ∀ series ∈ next.pending,
      task.Grants shared.store series.labels series.tsid)
    (hgranted : ∀ labels tsid, task.Grants shared.store labels tsid →
      ∃ series ∈ next.pending, series.labels = labels ∧ series.tsid = tsid)
    (hplaces : shared.store.catalog.series.size + task.places ≤
        shared.store.catalog.seriesCount →
      after.store.catalog.seriesCount + shared.store.catalog.series.size +
          task.places =
        shared.store.catalog.seriesCount + after.store.catalog.series.size +
          next.places) :
    Carries shared after task next where
  pending series hseries := .inr (hpending series hseries)
  kept series hseries := absurd (htask ▸ hseries) List.not_mem_nil
  granted := hgranted
  entering series hsome := by
    cases task with
    | enroll stage own batch =>
        exact absurd htask (pending_enroll_ne_nil stage own batch)
    | _ => cases hsome
  storing series batch hstoring :=
    absurd (hstoring ▸ htask) (pending_enroll_ne_nil .store series batch)
  places := hplaces

/-- A step that neither finds a series on its way nor leaves one. -/
theorem Carries.of_isIdle
    (hsize : after.store.catalog.series.size = shared.store.catalog.series.size)
    (hcount : after.store.catalog.seriesCount =
      shared.store.catalog.seriesCount)
    (htask : (Next.goOn task).IsIdle) (hnext : next.IsIdle)
    (hgrants : ∀ labels tsid, ¬task.Grants shared.store labels tsid) :
    Carries shared after task next := by
  refine .of_unladen htask.pending ?_ ?_ ?_
  · exact fun series hseries =>
      absurd (hnext.pending ▸ hseries) List.not_mem_nil
  · exact fun labels tsid hgrant => absurd hgrant (hgrants labels tsid)
  · exact fun _ => by rw [hsize, hcount, hnext.places, ← htask.places]; rfl

/-! ## Batches -/

theorem pending_loadNext (entries : List Series) :
    (Task.loadNext shared number entries).2.pending = entries := by
  cases entries <;> rfl

theorem places_loadNext (entries : List Series) :
    (Task.loadNext shared number entries).2.places = entries.length := by
  cases entries <;> rfl

theorem isIdle_checkNext (entries rest : List Series) :
    (Task.checkNext entries rest).IsIdle := by
  cases rest with
  | nil => exact ⟨rfl, rfl, rfl⟩
  | cons entry rest => exact ⟨rfl, rfl, rfl⟩

/-- A query carries no series. -/
theorem Task.Queries.isIdle {window : Window}
    (hqueries : task.Queries window) : (Next.goOn task).IsIdle := by
  cases task with
  | evaluate | copyPublished | retain | fetch | readEarliest | readLatest =>
      exact ⟨rfl, rfl, rfl⟩
  | _ => exact absurd hqueries id

theorem Next.Queries.isIdle {window : Window}
    (hqueries : next.Queries window) : next.IsIdle := by
  cases next with
  | goOn task => exact Task.Queries.isIdle hqueries
  | finish answer => exact ⟨rfl, rfl, rfl⟩

theorem Task.Queries.not_grants {window : Window}
    (hqueries : task.Queries window) (store : Store) (labels : LabelSet)
    (tsid : Tsid) : ¬task.Grants store labels tsid := by
  cases task with
  | allocate | raiseCount => exact absurd hqueries id
  | _ => exact id

/-! ## Writing a series -/

/-- The series on their way are the same at every stage. -/
theorem pending_later (stage later : Stage) (series : Series)
    (batch : Option (List Series)) :
    (Task.enroll later series batch).pending =
      (Task.enroll stage series batch).pending := by
  rw [pending_enroll, pending_enroll]

theorem mem_pending_enroll (stage : Stage) (series : Series)
    (batch : Option (List Series)) :
    series ∈ (Task.enroll stage series batch).pending := by
  rw [pending_enroll]
  exact List.mem_cons_self

theorem entering_ofLabels (labels : List Label) (series : Series)
    (batch : Option (List Series)) :
    (Task.enroll (.ofLabels labels) series batch).entering = some series := by
  cases labels <;> rfl

theorem places_ofLabels (labels : List Label) (series : Series)
    (batch : Option (List Series)) :
    (Task.enroll (.ofLabels labels) series batch).places =
      (batch.getD []).length := by
  cases labels <;> rfl

/-- The first write stores the series, and takes the place that was kept for
it. -/
theorem carries_store {series : Series} {batch : Option (List Series)}
    (hvalid : (Task.enroll .store series batch).Valid shared.store request) :
    Carries shared (Task.stepEnroll shared number .store series batch).1
      (.enroll .store series batch)
      (Task.stepEnroll shared number .store series batch).2 := by
  have hpending : (Task.stepEnroll shared number .store series
      batch).2.pending = (Task.enroll .store series batch).pending :=
    pending_later _ _ series batch
  have hplaces : (Task.stepEnroll shared number .store series
      batch).2.places = (batch.getD []).length :=
    places_ofLabels series.labels.labels series batch
  have hsize : (Task.stepEnroll shared number .store series
      batch).1.store.catalog.series.size =
        shared.store.catalog.series.size + 1 :=
    Catalog.size_series_store hvalid.enters.written.1
  constructor
  · exact fun other hother => .inl (hpending ▸ hother)
  · exact fun other hother => .inl (hpending.symm ▸ hother)
  · exact fun labels tsid hgrant => absurd hgrant id
  · intro other hother
    cases hother
  · intro other rest htask
    cases htask
    exact entering_ofLabels _ series batch
  · intro hle
    rw [hplaces, hsize]
    simp only [Task.stepEnroll, Shared.store_mapCatalog, Task.places,
      Catalog.store]
    omega

/-- The last write goes on with what is left of the batch. -/
theorem pending_key (series : Series) (batch : Option (List Series)) :
    (Task.stepEnroll shared number .key series batch).2.pending =
      batch.getD [] := by
  cases batch with
  | none => rfl
  | some rest => exact pending_loadNext rest

theorem places_key (series : Series) (batch : Option (List Series)) :
    (Task.stepEnroll shared number .key series batch).2.places =
      (batch.getD []).length := by
  cases batch with
  | none => rfl
  | some rest => exact places_loadNext rest

theorem catalog_key (series : Series) (batch : Option (List Series)) :
    (Task.stepEnroll shared number .key series batch).1.store.catalog =
      shared.store.catalog.addKey series.labels series.tsid := by
  cases batch with
  | none => rfl
  | some rest => rw [Task.stepEnroll, store_loadNext, Shared.store_mapCatalog]

/-- The last write makes the series findable, and goes on with those that are
left. -/
theorem carries_key (series : Series) (batch : Option (List Series)) :
    Carries shared (Task.stepEnroll shared number .key series batch).1
      (.enroll .key series batch)
      (Task.stepEnroll shared number .key series batch).2 := by
  constructor
  · intro other hother
    rw [pending_key] at hother
    rw [pending_enroll]
    exact .inl (List.mem_cons_of_mem _ hother)
  · intro other hother
    rw [pending_enroll] at hother
    rw [pending_key]
    rcases List.mem_cons.mp hother with rfl | hleft
    · exact .inr rfl
    · exact .inl hleft
  · exact fun labels tsid hgrant => absurd hgrant id
  · intro other hother
    cases hother
    rw [catalog_key, Catalog.lookup?_addKey, if_pos rfl]
    exact .inr rfl
  · intro other rest htask
    cases htask
  · intro hle
    rw [catalog_key, places_key, Catalog.series_addKey,
      Catalog.seriesCount_addKey]
    rfl

/-- Each write hands on the series that are left, and stores the one that
enters. -/
theorem carries_stepEnroll {stage : Stage} {series : Series}
    {batch : Option (List Series)}
    (hvalid : (Task.enroll stage series batch).Valid shared.store request) :
    Carries shared (Task.stepEnroll shared number stage series batch).1
      (.enroll stage series batch)
      (Task.stepEnroll shared number stage series batch).2 := by
  cases stage with
  | store => exact carries_store hvalid
  | label first rest =>
      exact .of_eq rfl rfl (pending_later _ _ series batch)
        (entering_ofLabels rest series batch)
        (places_ofLabels rest series batch) (fun _ _ => id)
        fun _ _ hstoring => by cases hstoring
  | publish =>
      exact .of_eq rfl rfl (pending_later _ _ series batch) rfl rfl
        (fun _ _ => id) fun _ _ hstoring => by cases hstoring
  | key => exact carries_key series batch

/-! ## All tasks -/

/-- Every move accounts for the series it carries and for the places it holds.
-/
theorem Moves.carries (hmoves : Moves shared number task after next)
    (hvalid : task.Valid shared.store request) :
    Carries shared after task next := by
  cases hmoves with
  | reserve hroom =>
      refine .of_unladen rfl ?_ ?_ fun hle => ?_
      · exact fun other hother => absurd hother List.not_mem_nil
      · exact fun labels tsid hgrant => absurd hgrant id
      · simp only [Shared.store_mapCatalog, Next.places, Task.places]
        omega
  | allocate hlast =>
      refine .of_unladen rfl ?_ ?_ fun hle => rfl
      · intro other hother
        rw [Next.pending, Task.pending, List.mem_singleton] at hother
        subst hother
        exact ⟨hlast, rfl, rfl⟩
      · rintro own tsid ⟨-, rfl, rfl⟩
        exact ⟨_, List.mem_cons_self, rfl, rfl⟩
  | exhausted hlast =>
      refine .of_unladen rfl ?_ ?_ fun hle => rfl
      · exact fun other hother => absurd hother List.not_mem_nil
      · exact fun labels tsid hgrant => absurd hlast hgrant.1
  | giveBack =>
      refine .of_unladen rfl ?_ ?_ fun hle => ?_
      · exact fun other hother => absurd hother List.not_mem_nil
      · exact fun labels tsid hgrant => absurd hgrant id
      · simp only [Shared.store_free, Shared.store_mapCatalog, Next.places,
          Task.places, Catalog.release] at hle ⊢
        omega
  | enroll => exact carries_stepEnroll hvalid
  | widenDown =>
      exact .of_isIdle (Catalog.size_series_modifyActivity _ _ _) rfl
        ⟨rfl, rfl, rfl⟩ ⟨rfl, rfl, rfl⟩ fun _ _ => id
  | widenUp =>
      exact .of_isIdle (Catalog.size_series_modifyActivity _ _ _) rfl
        ⟨rfl, rfl, rfl⟩ ⟨rfl, rfl, rfl⟩ fun _ _ => id
  | sound hslot hcheck =>
      exact .of_isIdle rfl rfl ⟨rfl, rfl, rfl⟩ (isIdle_checkNext _ _)
        fun _ _ => id
  | free hcheck =>
      exact .of_isIdle rfl rfl ⟨rfl, rfl, rfl⟩ (isIdle_checkNext _ _)
        fun _ _ => id
  | raiseCount =>
      refine .of_unladen rfl ?_ ?_ fun hle => ?_
      · intro other hother
        rw [pending_loadNext] at hother
        exact ⟨other, hother, rfl, rfl⟩
      · intro labels tsid hgrant
        rw [pending_loadNext]
        exact hgrant
      · simp only [store_loadNext, Shared.store_mapCatalog, places_loadNext,
          Task.places, Catalog.raiseCount]
        omega
  | query htask hnext =>
      exact .of_isIdle rfl rfl htask.isIdle hnext.isIdle
        (htask.not_grants shared.store)
  | _ => exact .of_isIdle rfl rfl ⟨rfl, rfl, rfl⟩ ⟨rfl, rfl, rfl⟩ fun _ _ => id

end SeriesIndex.Concurrent
