import Mathlib
import SeriesIndex.Proofs.Concurrent.Effect
import SeriesIndex.Proofs.Concurrent.Steps

/-!
# Stripes and their owners

Which stripes a thread owns follows from its task.  A registration owns the
stripe of its label set from the second look for it until its key is written,
and a batch owns all stripes once it has taken them one after another.  No
stripe has two owners, so a batch that is being checked or written has no other
writer beside it, and two registrations that write have label sets in different
stripes.
-/

namespace SeriesIndex.Concurrent

variable {shared after : Shared} {number : Nat} {task : Task} {next : Next}
  {world : World}

theorem Shared.slotOf_lt (shared : Shared) (labels : LabelSet) :
    shared.slotOf labels < shared.catalog.keys.size :=
  Striped.slotOf_lt _ _

theorem Shared.slotOf_of_size
    (hsize : after.catalog.keys.size = shared.catalog.keys.size)
    (labels : LabelSet) : after.slotOf labels = shared.slotOf labels := by
  rw [Striped.size, Striped.size] at hsize
  rw [slotOf, slotOf, Striped.slotOf, Striped.slotOf, hsize]

/-! ## Tasks -/

/-- The task is one of a thread that owns the stripe. -/
def Task.Owns (shared : Shared) (slot : Nat) : Task → Prop
  | recheck _ labels => slot = shared.slotOf labels
  | reserve _ labels => slot = shared.slotOf labels
  | allocate _ labels => slot = shared.slotOf labels
  | giveBack labels => slot = shared.slotOf labels
  | enroll _ series none => slot = shared.slotOf series.labels
  | enroll _ _ (some _) => slot < shared.catalog.keys.size
  | takeAll taken _ => slot < taken ∧ slot < shared.catalog.keys.size
  | checkFree _ _ => slot < shared.catalog.keys.size
  | checkRoom _ => slot < shared.catalog.keys.size
  | raiseNext _ => slot < shared.catalog.keys.size
  | raiseCount _ => slot < shared.catalog.keys.size
  | _ => False

def Next.Owns (shared : Shared) (slot : Nat) : Next → Prop
  | .goOn task => task.Owns shared slot
  | .finish _ => False

/-- Who owns a stripe depends on the number of stripes only. -/
theorem Task.owns_of_size
    (hsize : after.catalog.keys.size = shared.catalog.keys.size)
    {slot : Nat} : task.Owns after slot ↔ task.Owns shared slot := by
  have hslot := Shared.slotOf_of_size hsize
  cases task with
  | enroll stage series batch => cases batch <;> simp [Owns, hslot, hsize]
  | _ => simp [Owns, hslot, hsize]

theorem Next.owns_of_size
    (hsize : after.catalog.keys.size = shared.catalog.keys.size)
    {slot : Nat} : next.Owns after slot ↔ next.Owns shared slot := by
  cases next with
  | goOn task => exact Task.owns_of_size hsize
  | finish answer => rfl

@[simp]
theorem Shared.owned_mapCatalog (shared : Shared)
    (change : Catalog → Catalog) :
    (shared.mapCatalog change).owned = shared.owned := by
  rw [mapCatalog]

@[simp]
theorem Shared.owned_mapInverted (shared : Shared)
    (change : InvertedIndex → InvertedIndex) :
    (shared.mapInverted change).owned = shared.owned := by
  rw [mapInverted]

theorem Shared.owned_free (howned : after.owned = shared.owned) :
    (after.free number).owned = (shared.free number).owned := by
  rw [free, free, howned]

/-- What a step does to the stripes of its thread: it keeps them, takes one more
that is free, or gives all of them back. -/
inductive Locking (shared after : Shared) (number : Nat) (task : Task)
    (next : Next) : Prop
  | keep (howned : after.owned = shared.owned)
      (hnext : ∀ slot, next.Owns shared slot ↔ task.Owns shared slot)
  | take (slot : Nat) (hfree : shared.isFree slot = true)
      (howned : after.owned = (slot, number) :: shared.owned)
      (hnext : ∀ other, next.Owns shared other ↔
        other = slot ∨ task.Owns shared other)
  | free (howned : after.owned = (shared.free number).owned)
      (hnext : ∀ slot, ¬next.Owns shared slot)

/-- A batch that goes on to its next entry keeps all stripes, and gives them
back at its end. -/
theorem locking_loadNext (entries : List Series)
    (htask : ∀ slot, task.Owns shared slot ↔ slot < shared.catalog.keys.size)
    (howned : after.owned = shared.owned) :
    Locking shared (Task.loadNext after number entries).1 number task
      (Task.loadNext after number entries).2 := by
  cases entries with
  | nil => exact .free (Shared.owned_free howned) fun slot => id
  | cons entry rest => exact .keep howned fun slot => (htask slot).symm

theorem owns_checkNext (entries rest : List Series) (slot : Nat) :
    (Task.checkNext entries rest).Owns shared slot ↔
      slot < shared.catalog.keys.size := by
  cases rest with
  | nil => rfl
  | cons entry rest => rfl

/-- A query owns no stripe. -/
theorem Task.Queries.not_owns {window : Window}
    (hqueries : task.Queries window) (slot : Nat) :
    ¬task.Owns shared slot := by
  cases task with
  | evaluate | copyPublished | retain | fetch | readEarliest | readLatest =>
      exact id
  | _ => exact absurd hqueries id

theorem Next.Queries.not_owns {window : Window}
    (hqueries : next.Queries window) (slot : Nat) :
    ¬next.Owns shared slot := by
  cases next with
  | goOn task => exact Task.Queries.not_owns hqueries slot
  | finish answer => exact id

/-- A registration keeps its stripe until its key is written. -/
theorem locking_stepEnroll (stage : Stage) (series : Series)
    (batch : Option (List Series)) :
    Locking shared (Task.stepEnroll shared number stage series batch).1 number
      (.enroll stage series batch)
      (Task.stepEnroll shared number stage series batch).2 := by
  cases stage with
  | store =>
      cases batch <;>
        exact .keep (Shared.owned_mapCatalog _ _) fun slot => .rfl
  | label first rest =>
      cases batch <;>
        exact .keep (Shared.owned_mapInverted _ _) fun slot => .rfl
  | publish =>
      cases batch <;>
        exact .keep (Shared.owned_mapCatalog _ _) fun slot => .rfl
  | key =>
      cases batch with
      | none =>
          exact .free (Shared.owned_free (Shared.owned_mapCatalog _ _))
            fun slot => id
      | some rest =>
          exact locking_loadNext rest (fun slot => .rfl)
            (Shared.owned_mapCatalog _ _)

/-- With each move a thread owns what its next task says, and no other thread
loses or gains a stripe. -/
theorem Moves.locking (hmoves : Moves shared number task after next) :
    Locking shared after number task next := by
  cases hmoves with
  | take hfree => exact .take _ hfree rfl fun slot => (or_iff_left id).symm
  | takeNext hslot hfree =>
      refine .take _ hfree rfl fun other => ?_
      simp only [Next.Owns, Task.Owns]
      omega
  | sound hslot hcheck =>
      refine .keep rfl fun slot => ?_
      rw [owns_checkNext, Task.Owns]
      omega
  | free hcheck => exact .keep rfl fun slot => owns_checkNext _ _ slot
  | enroll => exact locking_stepEnroll _ _ _
  | raiseCount =>
      exact locking_loadNext _ (fun slot => .rfl) (Shared.owned_mapCatalog _ _)
  | query htask hnext =>
      exact .keep rfl fun slot =>
        iff_of_false (hnext.not_owns slot) (htask.not_owns slot)
  | overtaken | full | giveBack | unsound | taken | crowded =>
      exact .free rfl fun slot => id
  | _ => exact .keep rfl fun slot => .rfl

/-! ## Worlds -/

/-- Stripes are owned as the tasks of the threads say, and by one thread
each. -/
structure World.Locked (world : World) : Prop where
  owned_iff : ∀ slot number, (slot, number) ∈ world.shared.owned ↔
    ∃ task, world.task? number = some task ∧ task.Owns world.shared slot
  exclusive : ∀ slot number other, (slot, number) ∈ world.shared.owned →
    (slot, other) ∈ world.shared.owned → number = other

theorem Shared.not_owned_of_isFree {slot : Nat}
    (hfree : shared.isFree slot = true) (number : Nat) :
    (slot, number) ∉ shared.owned := by
  intro howned
  rw [isFree, List.all_eq_true] at hfree
  simpa using hfree _ howned

/-- A call that begins owns no stripe. -/
theorem not_owns_start (request : Request) (slot : Nat) :
    ¬(Task.start shared request).Owns shared slot := by
  cases request with
  | register timestamp labels =>
      rw [Task.start]
      split <;> exact id
  | importBatch entries =>
      rintro ⟨hnone, -⟩
      exact Nat.not_lt_zero slot hnone
  | resolve matchers window => cases matchers <;> exact id

theorem World.locked_ofIndex (index : Index)
    (requests : List (List Request)) :
    (World.ofIndex index requests).Locked where
  owned_iff slot number := by
    apply iff_of_false List.not_mem_nil
    rintro ⟨task, htask, -⟩
    obtain ⟨thread, hthread, hsome⟩ := task?_eq_some_iff.mp htask
    rw [ofIndex, List.getElem?_map, Option.map_eq_some_iff] at hthread
    obtain ⟨list, -, rfl⟩ := hthread
    cases hsome
  exclusive slot number other hnumber := absurd hnumber List.not_mem_nil

theorem Locking.mem_owned_of_ne
    (hlocking : Locking shared after number task next)
    {slot other : Nat} (hne : other ≠ number) :
    (slot, other) ∈ after.owned ↔ (slot, other) ∈ shared.owned := by
  cases hlocking with
  | keep howned hnext => rw [howned]
  | take taken hfree howned hnext =>
      rw [howned, List.mem_cons, Prod.mk.injEq]
      exact or_iff_right fun hsame => hne hsame.2
  | free howned hnext =>
      rw [howned, Shared.free, List.mem_filter]
      simp [hne]

theorem Locking.mem_owned (hlocking : Locking shared after number task next)
    {slot : Nat}
    (howns : (slot, number) ∈ shared.owned ↔ task.Owns shared slot) :
    (slot, number) ∈ after.owned ↔ next.Owns shared slot := by
  cases hlocking with
  | keep howned hnext => rw [howned, howns, hnext]
  | take taken hfree howned hnext =>
      rw [howned, List.mem_cons, Prod.mk.injEq, howns, hnext]
      simp
  | free howned hnext =>
      rw [howned, Shared.free, List.mem_filter]
      simp [hnext slot]

/-- A thread takes no stripe that is owned. -/
theorem Locking.of_mem_owned (hlocking : Locking shared after number task next)
    {slot : Nat} (howned : (slot, number) ∈ after.owned) :
    (slot, number) ∈ shared.owned ∨ shared.isFree slot = true := by
  cases hlocking with
  | keep hsame hnext => exact .inl (hsame ▸ howned)
  | take taken hfree hsame hnext =>
      rw [hsame, List.mem_cons, Prod.mk.injEq] at howned
      rcases howned with ⟨rfl, -⟩ | hold
      · exact .inr hfree
      · exact .inl hold
  | free hsame hnext =>
      rw [hsame, Shared.free, List.mem_filter] at howned
      exact .inl howned.1

/-- A stripe that is taken was free, so that no two threads own one. -/
theorem World.Locked.exclusive_of_locking (hlocked : world.Locked)
    (hlocking : Locking world.shared after number task next)
    {slot left right : Nat} (hleft : (slot, left) ∈ after.owned)
    (hright : (slot, right) ∈ after.owned) : left = right := by
  -- a free stripe has no owner, so whoever took it is the only one
  by_cases hleftSame : left = number <;> by_cases hrightSame : right = number
  · exact hleftSame.trans hrightSame.symm
  · subst hleftSame
    have hold := (hlocking.mem_owned_of_ne hrightSame).mp hright
    rcases hlocking.of_mem_owned hleft with howned | hfree
    · exact hlocked.exclusive slot _ _ howned hold
    · exact absurd hold (Shared.not_owned_of_isFree hfree right)
  · subst hrightSame
    have hold := (hlocking.mem_owned_of_ne hleftSame).mp hleft
    rcases hlocking.of_mem_owned hright with howned | hfree
    · exact hlocked.exclusive slot _ _ hold howned
    · exact absurd hold (Shared.not_owned_of_isFree hfree left)
  · exact hlocked.exclusive slot _ _
      ((hlocking.mem_owned_of_ne hleftSame).mp hleft)
      ((hlocking.mem_owned_of_ne hrightSame).mp hright)

theorem Next.exists_task?_iff {slot : Nat} :
    (∃ task, next.task? = some task ∧ task.Owns shared slot) ↔
      next.Owns shared slot := by
  cases next <;> simp [Next.task?, Next.Owns]

/-- No move changes the number of stripes. -/
theorem Moves.size_keys (hmoves : Moves shared number task after next) :
    after.catalog.keys.size = shared.catalog.keys.size := by
  rw [Shared.catalog_eq, Shared.catalog_eq]
  exact hmoves.effect.size_keys

/-- Stripes have at most one owner, step by step. -/
theorem World.Locked.step {after : World} (hlocked : world.Locked)
    (hsteps : world.Steps number after) : after.Locked := by
  have hothers : ∀ other, other ≠ number →
      after.task? other = world.task? other := fun other => hsteps.task?_of_ne
  cases hsteps with
  | start thread request requests hthread hidle hrequests hshared hafter =>
      have hold : world.task? number = none :=
        (task?_of_getElem? hthread).trans hidle
      constructor
      · intro slot other
        rw [hshared, hlocked.owned_iff slot other]
        by_cases hsame : other = number
        · subst hsame
          rw [hold, task?_of_set hthread hafter]
          simp [not_owns_start]
        · rw [hothers other hsame]
      · rw [hshared]
        exact hlocked.exclusive
  | work thread task next hthread htask hmoves hafter =>
      have hlocking := hmoves.locking
      have hsize := hmoves.size_keys
      have hold : world.task? number = some task :=
        (task?_of_getElem? hthread).trans htask
      constructor
      · intro slot other
        simp only [Task.owns_of_size hsize]
        by_cases hsame : other = number
        · subst hsame
          have howns : (slot, other) ∈ world.shared.owned ↔
              task.Owns world.shared slot := by
            rw [hlocked.owned_iff, hold]
            simp
          rw [hlocking.mem_owned howns, task?_of_set hthread hafter,
            Thread.task_after, Next.exists_task?_iff]
        · rw [hlocking.mem_owned_of_ne hsame, hlocked.owned_iff,
            hothers other hsame]
      · intro slot left right
        exact hlocked.exclusive_of_locking hlocking

/-- Two threads do not own one stripe. -/
theorem World.Locked.eq_of_owns (hlocked : world.Locked) {left right : Nat}
    {leftTask rightTask : Task} (hleft : world.task? left = some leftTask)
    (hright : world.task? right = some rightTask) {slot : Nat}
    (hleftOwns : leftTask.Owns world.shared slot)
    (hrightOwns : rightTask.Owns world.shared slot) : left = right :=
  hlocked.exclusive slot left right
    ((hlocked.owned_iff slot left).mpr ⟨leftTask, hleft, hleftOwns⟩)
    ((hlocked.owned_iff slot right).mpr ⟨rightTask, hright, hrightOwns⟩)

end SeriesIndex.Concurrent
