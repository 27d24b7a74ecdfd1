import Mathlib
import SeriesIndex.Concurrent.Step

/-!
# The steps of tasks

`Moves` lists the steps that tasks can take, each with what it has seen, what it
changes and what comes after it.  What all steps have in common is proved by
cases on these, and the definition of a step is opened only here.

The steps of queries are all of one kind: they change nothing, and lead to
another step of the query or to its answer.
-/

namespace SeriesIndex.Concurrent

/-- The task is one of a query over a window. -/
def Task.Queries (window : Window) : Task → Prop
  | evaluate _ _ _ own => own = window
  | copyPublished own => own = window
  | retain _ own => own = window
  | fetch _ _ own _ => own = window
  | readEarliest _ _ own _ => own = window
  | readLatest _ _ _ own _ => own = window
  | _ => False

def Next.Queries (window : Window) : Next → Prop
  | .goOn task => task.Queries window
  | .finish answer => ∃ outcome, answer = .resolved outcome

/-- The steps of tasks. -/
inductive Moves (shared : Shared) (number : Nat) :
    Task → Shared → Next → Prop
  | found {timestamp : Timestamp} {labels : LabelSet} {tsid : Tsid}
      (hkey : shared.catalog.lookup? labels = some tsid) :
      Moves shared number (.find timestamp labels) shared
        (.goOn (.widenDown tsid timestamp))
  | missed {timestamp : Timestamp} {labels : LabelSet} :
      Moves shared number (.find timestamp labels) shared
        (.goOn (.take timestamp labels))
  | take {timestamp : Timestamp} {labels : LabelSet}
      (hfree : shared.isFree (shared.slotOf labels) = true) :
      Moves shared number (.take timestamp labels)
        (shared.take (shared.slotOf labels) number)
        (.goOn (.recheck timestamp labels))
  | overtaken {timestamp : Timestamp} {labels : LabelSet} {tsid : Tsid}
      (hkey : shared.catalog.lookup? labels = some tsid) :
      Moves shared number (.recheck timestamp labels) (shared.free number)
        (.goOn (.widenDown tsid timestamp))
  | absent {timestamp : Timestamp} {labels : LabelSet}
      (hkey : shared.catalog.lookup? labels = none) :
      Moves shared number (.recheck timestamp labels) shared
        (.goOn (.reserve timestamp labels))
  | reserve {timestamp : Timestamp} {labels : LabelSet}
      (hroom : shared.catalog.hasRoom 1 = true) :
      Moves shared number (.reserve timestamp labels)
        (shared.mapCatalog fun catalog =>
          { catalog with seriesCount := catalog.seriesCount + 1 })
        (.goOn (.allocate timestamp labels))
  | full {timestamp : Timestamp} {labels : LabelSet}
      (hfull : shared.catalog.hasRoom 1 = false) :
      Moves shared number (.reserve timestamp labels) (shared.free number)
        (.goOn (.count (.error (.seriesLimit shared.catalog.limit))))
  | allocate {timestamp : Timestamp} {labels : LabelSet}
      (hlast : shared.catalog.nextTsid ≠ Tsid.last) :
      Moves shared number (.allocate timestamp labels)
        (shared.mapCatalog fun catalog =>
          { catalog with nextTsid := catalog.nextTsid + 1 })
        (.goOn (.enroll .store
          ⟨shared.catalog.nextTsid, labels, .single timestamp⟩ none))
  | exhausted {timestamp : Timestamp} {labels : LabelSet}
      (hlast : shared.catalog.nextTsid = Tsid.last) :
      Moves shared number (.allocate timestamp labels) shared
        (.goOn (.giveBack labels))
  | giveBack {labels : LabelSet} :
      Moves shared number (.giveBack labels)
        ((shared.mapCatalog Catalog.release).free number)
        (.goOn (.count (.error (.internal .tsidsExhausted))))
  | enroll {stage : Stage} {series : Series} {batch : Option (List Series)} :
      Moves shared number (.enroll stage series batch)
        (Task.stepEnroll shared number stage series batch).1
        (Task.stepEnroll shared number stage series batch).2
  | widenDown {tsid : Tsid} {timestamp : Timestamp} :
      Moves shared number (.widenDown tsid timestamp)
        (shared.mapCatalog (·.modifyActivity tsid (·.widenDown timestamp)))
        (.goOn (.widenUp tsid timestamp))
  | orphaned {tsid : Tsid} {timestamp : Timestamp}
      (hnone : shared.catalog.series? tsid = none) :
      Moves shared number (.widenDown tsid timestamp) shared
        (.goOn (.count (.error (.internal (.keyWithoutSeries tsid)))))
  | widenUp {tsid : Tsid} {timestamp : Timestamp} :
      Moves shared number (.widenUp tsid timestamp)
        (shared.mapCatalog (·.modifyActivity tsid (·.widenUp timestamp)))
        (.goOn (.count (.ok ⟨tsid, false⟩)))
  | count {outcome : Except Fault Store.Registration} :
      Moves shared number (.count outcome)
        { shared with
          index :=
            { shared.index with
              counters := shared.index.counters.count outcome } }
        (.finish (.registered outcome))
  | takeNext {slot : Nat} {entries : List Series}
      (hslot : slot < shared.catalog.keys.size)
      (hfree : shared.isFree slot = true) :
      Moves shared number (.takeAll slot entries) (shared.take slot number)
        (.goOn (.takeAll (slot + 1) entries))
  | sound {slot : Nat} {entries : List Series}
      (hslot : ¬slot < shared.catalog.keys.size)
      (hcheck : Catalog.checkEntries ∅ ∅ entries = .ok ()) :
      Moves shared number (.takeAll slot entries) shared
        (Task.checkNext entries entries)
  | unsound {slot : Nat} {entries : List Series} {fault : Fault} :
      Moves shared number (.takeAll slot entries) (shared.free number)
        (.finish (.imported (.error fault)))
  | untaken {entries : List Series} :
      Moves shared number (.checkFree [] entries) shared
        (.goOn (.checkRoom entries))
  | free {entry : Series} {rest entries : List Series}
      (hcheck : shared.catalog.checkFree entry = .ok ()) :
      Moves shared number (.checkFree (entry :: rest) entries) shared
        (Task.checkNext entries rest)
  | taken {rest entries : List Series} {fault : Fault} :
      Moves shared number (.checkFree rest entries) (shared.free number)
        (.finish (.imported (.error fault)))
  | room {entries : List Series}
      (hroom : shared.catalog.hasRoom entries.length = true) :
      Moves shared number (.checkRoom entries) shared
        (.goOn (.raiseNext entries))
  | crowded {entries : List Series} {fault : Fault} :
      Moves shared number (.checkRoom entries) (shared.free number)
        (.finish (.imported (.error fault)))
  | raiseNext {entries : List Series} :
      Moves shared number (.raiseNext entries)
        (shared.mapCatalog (·.raiseNext entries)) (.goOn (.raiseCount entries))
  | raiseCount {entries : List Series} :
      Moves shared number (.raiseCount entries)
        (Task.loadNext (shared.mapCatalog (·.raiseCount entries)) number
          entries).1
        (Task.loadNext (shared.mapCatalog (·.raiseCount entries)) number
          entries).2
  | query {window : Window} {task : Task} {next : Next}
      (htask : task.Queries window) (hnext : next.Queries window) :
      Moves shared number task shared next

variable {shared after : Shared} {number : Nat} {task : Task} {next : Next}

attribute [local simp] Task.step

theorem queries_fetchNext (window : Window) (answers rest : List Tsid) :
    (Task.fetchNext window answers rest).Queries window := by
  cases rest with
  | nil => exact ⟨_, rfl⟩
  | cons tsid rest => rfl

/-! ## Registrations -/

section Registrations

variable {timestamp : Timestamp} {labels : LabelSet} {tsid : Tsid}

theorem moves_find
    (hstep : (Task.find timestamp labels).step shared number =
      some (after, next)) :
    Moves shared number (.find timestamp labels) after next := by
  simp only [Task.step] at hstep
  split at hstep
  · split at hstep <;> cases hstep
    · rename_i tsid hkey
      exact .found hkey
    · exact .missed
  · cases hstep

theorem moves_take
    (hstep : (Task.take timestamp labels).step shared number =
      some (after, next)) :
    Moves shared number (.take timestamp labels) after next := by
  simp only [Task.step] at hstep
  split at hstep <;> cases hstep
  rename_i hfree
  exact .take hfree

theorem moves_recheck
    (hstep : (Task.recheck timestamp labels).step shared number =
      some (after, next)) :
    Moves shared number (.recheck timestamp labels) after next := by
  simp only [Task.step] at hstep
  split at hstep <;> cases hstep
  · rename_i tsid hkey
    exact .overtaken hkey
  · rename_i hkey
    exact .absent hkey

/-- A place is taken exactly if there is room for one more series. -/
theorem moves_reserve
    (hstep : (Task.reserve timestamp labels).step shared number =
      some (after, next)) :
    Moves shared number (.reserve timestamp labels) after next := by
  cases hroom : shared.catalog.hasRoom 1 with
  | false =>
      have hnone : shared.catalog.reserve? = none := by
        rw [Catalog.reserve?, hroom]
        rfl
      rw [Task.step, hnone] at hstep
      cases hstep
      exact .full hroom
  | true =>
      have hsome : shared.catalog.reserve? = some { shared.catalog with
          seriesCount := shared.catalog.seriesCount + 1 } := if_pos hroom
      rw [Task.step, hsome] at hstep
      cases hstep
      exact .reserve hroom

/-- There is a next number exactly if the last one is not reached. -/
theorem moves_allocate
    (hstep : (Task.allocate timestamp labels).step shared number =
      some (after, next)) :
    Moves shared number (.allocate timestamp labels) after next := by
  by_cases hlast : shared.catalog.nextTsid = Tsid.last
  · simp [Catalog.allocate?, Tsid.next?, hlast] at hstep
    obtain ⟨rfl, rfl⟩ := hstep
    exact .exhausted hlast
  · simp [Catalog.allocate?, Tsid.next?, hlast] at hstep
    obtain ⟨rfl, rfl⟩ := hstep
    exact .allocate hlast

theorem moves_widenDown
    (hstep : (Task.widenDown tsid timestamp).step shared number =
      some (after, next)) :
    Moves shared number (.widenDown tsid timestamp) after next := by
  simp only [Task.step] at hstep
  split at hstep <;> cases hstep
  · exact .widenDown
  · rename_i hnone
    exact .orphaned (Option.not_isSome_iff_eq_none.mp hnone)

end Registrations

/-! ## Batches -/

section Batches

variable {entries : List Series}

/-- All stripes are taken before the entries are looked at. -/
theorem moves_takeAll {slot : Nat}
    (hstep : (Task.takeAll slot entries).step shared number =
      some (after, next)) :
    Moves shared number (.takeAll slot entries) after next := by
  simp only [Task.step] at hstep
  split at hstep
  · rename_i hslot
    split at hstep <;> cases hstep
    rename_i hfree
    exact .takeNext hslot hfree
  · rename_i hslot
    split at hstep <;> cases hstep
    · rename_i hcheck
      exact .sound hslot hcheck
    · exact .unsound

theorem moves_checkFree {rest : List Series}
    (hstep : (Task.checkFree rest entries).step shared number =
      some (after, next)) :
    Moves shared number (.checkFree rest entries) after next := by
  cases rest with
  | nil =>
      cases hstep
      exact .untaken
  | cons entry rest =>
      simp only [Task.step] at hstep
      split at hstep <;> cases hstep
      · rename_i hcheck
        exact .free hcheck
      · exact .taken

theorem moves_checkRoom
    (hstep : (Task.checkRoom entries).step shared number =
      some (after, next)) :
    Moves shared number (.checkRoom entries) after next := by
  simp only [Task.step] at hstep
  split at hstep <;> cases hstep
  · rename_i hroom
    exact .room hroom
  · exact .crowded

end Batches

/-! ## Queries -/

/-- Whatever a query looks at, its step changes nothing and leads to another one
of the same query, or to its answer. -/
theorem moves_query (window : Window) (htask : task.Queries window)
    (hstep : task.step shared number = some (after, next)) :
    Moves shared number task after next := by
  cases task with
  | evaluate operands matcher rest own =>
      cases htask
      simp only [Task.step] at hstep
      split at hstep
      · cases hstep
        exact .query rfl ⟨_, rfl⟩
      · split at hstep <;> cases hstep <;> exact .query rfl rfl
  | copyPublished own =>
      cases hstep
      exact .query rfl (queries_fetchNext own _ _)
  | retain candidates own =>
      cases hstep
      exact .query rfl (queries_fetchNext own _ _)
  | fetch tsid rest own answers =>
      simp only [Task.step] at hstep
      split at hstep <;> cases hstep
      · exact .query rfl rfl
      · exact .query rfl ⟨_, rfl⟩
  | readEarliest tsid rest own answers =>
      simp only [Task.step] at hstep
      split at hstep <;> cases hstep
      · exact .query rfl rfl
      · exact .query rfl (queries_fetchNext own _ _)
  | readLatest earliest tsid rest own answers =>
      simp only [Task.step] at hstep
      split at hstep
      · split at hstep <;> cases hstep <;>
          exact .query rfl (queries_fetchNext own _ _)
      · cases hstep
        exact .query rfl (queries_fetchNext own _ _)
  | _ => cases htask

/-- Every step of a task is one of them. -/
theorem Task.moves (hstep : task.step shared number = some (after, next)) :
    Moves shared number task after next := by
  cases task with
  | find timestamp labels => exact moves_find hstep
  | take timestamp labels => exact moves_take hstep
  | recheck timestamp labels => exact moves_recheck hstep
  | reserve timestamp labels => exact moves_reserve hstep
  | allocate timestamp labels => exact moves_allocate hstep
  | giveBack labels =>
      cases hstep
      exact .giveBack
  | enroll stage series batch =>
      simp only [step, Option.some.injEq, Prod.ext_iff] at hstep
      obtain ⟨rfl, rfl⟩ := hstep
      exact .enroll
  | widenDown tsid timestamp => exact moves_widenDown hstep
  | widenUp tsid timestamp =>
      cases hstep
      exact .widenUp
  | count outcome =>
      cases hstep
      exact .count
  | takeAll slot entries => exact moves_takeAll hstep
  | checkFree rest entries => exact moves_checkFree hstep
  | checkRoom entries => exact moves_checkRoom hstep
  | raiseNext entries =>
      cases hstep
      exact .raiseNext
  | raiseCount entries =>
      simp only [step, Option.some.injEq, Prod.ext_iff] at hstep
      obtain ⟨rfl, rfl⟩ := hstep
      exact .raiseCount
  | evaluate _ _ _ window | copyPublished window | retain _ window
  | fetch _ _ window _ | readEarliest _ _ window _
  | readLatest _ _ _ window _ =>
      exact moves_query window rfl hstep

end SeriesIndex.Concurrent
