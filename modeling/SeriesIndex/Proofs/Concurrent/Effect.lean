import Mathlib
import SeriesIndex.Proofs.Concurrent.Moves
import SeriesIndex.Proofs.Store.Growth

/-!
# What single steps write

A step of a call makes at most one write to the store.  `Effect` lists the
writes with the tasks that make them; whatever holds of a store after a step is
proved once for each write, and not again for every task.
-/

namespace SeriesIndex

namespace Concurrent

namespace Shared

def store (shared : Shared) : Store := shared.index.store

@[simp]
theorem store_mapCatalog (shared : Shared) (change : Catalog → Catalog) :
    (shared.mapCatalog change).store =
      { shared.store with catalog := change shared.store.catalog } := by
  rw [store, mapCatalog]
  rfl

@[simp]
theorem store_mapInverted (shared : Shared)
    (change : InvertedIndex → InvertedIndex) :
    (shared.mapInverted change).store =
      { shared.store with inverted := change shared.store.inverted } := by
  rw [store, mapInverted]
  rfl

@[simp]
theorem store_free (shared : Shared) (thread : Nat) :
    (shared.free thread).store = shared.store := rfl

theorem catalog_eq (shared : Shared) : shared.catalog = shared.store.catalog :=
  rfl

end Shared

/-- What a step of a task does to the store. -/
inductive Effect : Task → Store → Store → Prop where
  | keep {task : Task} {store : Store} : Effect task store store
  | reserve {timestamp : Timestamp} {labels : LabelSet} {store : Store}
      (hroom : store.catalog.hasRoom 1 = true) :
      Effect (.reserve timestamp labels) store
        { store with
          catalog :=
            { store.catalog with
              nextTsid := store.catalog.nextTsid
              seriesCount := store.catalog.seriesCount + 1 } }
  | allocate {timestamp : Timestamp} {labels : LabelSet} {store : Store}
      (hlast : store.catalog.nextTsid ≠ Tsid.last) :
      Effect (.allocate timestamp labels) store
        { store with
          catalog :=
            { store.catalog with
              nextTsid := store.catalog.nextTsid + 1
              seriesCount := store.catalog.seriesCount } }
  | giveBack {labels : LabelSet} {store : Store} :
      Effect (.giveBack labels) store
        { store with
          catalog :=
            { store.catalog with
              nextTsid := store.catalog.nextTsid
              seriesCount := store.catalog.seriesCount - 1 } }
  | store {series : Series} {batch : Option (List Series)} {store : Store} :
      Effect (.enroll .store series batch) store
        { store with catalog := store.catalog.store series }
  | label {first : Label} {rest : List Label} {series : Series}
      {batch : Option (List Series)} {store : Store} :
      Effect (.enroll (.label first rest) series batch) store
        { store with inverted := store.inverted.insertLabel series.tsid first }
  | publish {series : Series} {batch : Option (List Series)} {store : Store} :
      Effect (.enroll .publish series batch) store
        { store with catalog := store.catalog.publish series.tsid }
  | key {series : Series} {batch : Option (List Series)} {store : Store} :
      Effect (.enroll .key series batch) store
        { store with
          catalog := store.catalog.addKey series.labels series.tsid }
  | widenDown {tsid : Tsid} {timestamp : Timestamp} {store : Store} :
      Effect (.widenDown tsid timestamp) store
        { store with
          catalog :=
            store.catalog.modifyActivity tsid (·.widenDown timestamp) }
  | widenUp {tsid : Tsid} {timestamp : Timestamp} {store : Store} :
      Effect (.widenUp tsid timestamp) store
        { store with
          catalog := store.catalog.modifyActivity tsid (·.widenUp timestamp) }
  | raiseNext {entries : List Series} {store : Store} :
      Effect (.raiseNext entries) store
        { store with
          catalog :=
            { store.catalog with
              nextTsid :=
                max store.catalog.nextTsid (Catalog.greatestTsid entries + 1)
              seriesCount := store.catalog.seriesCount } }
  | raiseCount {entries : List Series} {store : Store} :
      Effect (.raiseCount entries) store
        { store with
          catalog :=
            { store.catalog with
              nextTsid := store.catalog.nextTsid
              seriesCount := store.catalog.seriesCount + entries.length } }

variable {shared after : Shared} {thread : Nat} {next : Next}

@[simp]
theorem store_loadNext (shared : Shared) (thread : Nat)
    (entries : List Series) :
    (Task.loadNext shared thread entries).1.store = shared.store := by
  cases entries with
  | nil => rfl
  | cons entry rest => rfl

/-- Each write by which a series enters has the effect of its stage. -/
theorem effect_stepEnroll {stage : Stage} {series : Series}
    {batch : Option (List Series)} :
    Effect (.enroll stage series batch) shared.store
      (Task.stepEnroll shared thread stage series batch).1.store := by
  cases stage with
  | store =>
      rw [Task.stepEnroll, Shared.store_mapCatalog]
      exact .store
  | label first rest =>
      rw [Task.stepEnroll, Shared.store_mapInverted]
      exact .label
  | publish =>
      rw [Task.stepEnroll, Shared.store_mapCatalog]
      exact .publish
  | key =>
      cases batch with
      | none =>
          simp only [Task.stepEnroll, Shared.store_free,
            Shared.store_mapCatalog]
          exact .key
      | some rest =>
          simp only [Task.stepEnroll, store_loadNext, Shared.store_mapCatalog]
          exact .key

/-- Every step of a task has its effect. -/
theorem Moves.effect {task : Task}
    (hmoves : Moves shared thread task after next) :
    Effect task shared.store after.store := by
  cases hmoves with
  | reserve hroom =>
      rw [Shared.store_mapCatalog]
      exact .reserve hroom
  | allocate hlast =>
      rw [Shared.store_mapCatalog]
      exact .allocate hlast
  | giveBack =>
      rw [Shared.store_free, Shared.store_mapCatalog]
      exact .giveBack
  | enroll => exact effect_stepEnroll
  | widenDown =>
      rw [Shared.store_mapCatalog]
      exact .widenDown
  | widenUp =>
      rw [Shared.store_mapCatalog]
      exact .widenUp
  | raiseNext =>
      rw [Shared.store_mapCatalog]
      exact .raiseNext
  | raiseCount =>
      rw [store_loadNext, Shared.store_mapCatalog]
      exact .raiseCount
  | _ => exact .keep

/-- Stripes are neither added nor removed. -/
theorem Effect.size_keys {task : Task} {old new : Store}
    (heffect : Effect task old new) :
    new.catalog.keys.size = old.catalog.keys.size := by
  cases heffect with
  | key =>
      rw [Catalog.addKey]
      exact Striped.size_modify _ _ _
  | _ => rfl

/-- No step moves the limit. -/
theorem Effect.limit {task : Task} {old new : Store}
    (heffect : Effect task old new) :
    new.catalog.limit = old.catalog.limit := by
  cases heffect with
  | key => rw [Catalog.limit_addKey]
  | _ => rfl

end Concurrent

end SeriesIndex
