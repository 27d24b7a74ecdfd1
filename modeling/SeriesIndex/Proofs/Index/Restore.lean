import Mathlib
import SeriesIndex.Proofs.Index.Limits
import SeriesIndex.Proofs.Store.Loaded

/-!
# Indexes built from entries

A batch is loaded exactly if it can be, whatever was registered and loaded
before, and otherwise nothing happens.  To build an index from entries is to
load them into an empty store under settings that are valid and that allow the
label set of every entry.
-/

namespace SeriesIndex.Index

variable {settings : Settings} {entries : List Series} {index : Index}

theorem ofSettings_eq_ok_iff :
    ofSettings settings = .ok index ↔
      settings.Valid ∧ index = empty settings := by
  rw [ofSettings, ← Settings.check_eq_ok_iff]
  cases settings.check with
  | error cause => simp
  | ok value => simp [eq_comm]

/-- Entries pass if all their labels are allowed. -/
theorem checkEntries_eq_ok_iff :
    checkEntries settings entries = .ok () ↔
      ∀ entry ∈ entries, settings.Allows entry.labels := by
  have hentry (entry : Series) :
      (settings.checkLabels entry.labels).mapError Fault.labels = .ok () ↔
        settings.Allows entry.labels := by
    rw [← Settings.checkLabels_eq_ok_iff]
    cases settings.checkLabels entry.labels <;> simp [Except.mapError]
  simp only [checkEntries, Catalog.forM_eq_ok_iff, hentry]

/-- What it takes to build an index from entries, and which index it is. -/
theorem restore_eq_ok_iff :
    restore settings entries = .ok index ↔
      settings.Valid ∧ (∀ entry ∈ entries, settings.Allows entry.labels) ∧
        (empty settings).store.Loadable entries ∧
        index = { empty settings with
          store := ((empty settings).store.importBatch entries).2 } := by
  have hsettled : (empty settings).store.Settled := Store.settled_empty _ _ _
  rw [← checkEntries_eq_ok_iff, ← hsettled.importBatch_eq_ok_iff, restore]
  cases hvalid : ofSettings settings with
  | error fault =>
      refine iff_of_false nofun fun ⟨hsettings, _⟩ => ?_
      rw [ofSettings_eq_ok_iff.mpr ⟨hsettings, rfl⟩] at hvalid
      cases hvalid
  | ok start =>
      obtain ⟨hsettings, rfl⟩ := ofSettings_eq_ok_iff.mp hvalid
      cases hentries : checkEntries settings entries with
      | error fault => simp [bind, Except.bind]
      | ok value =>
          cases hload : (empty settings).store.importBatch entries with
          | mk outcome store =>
              cases outcome with
              | error fault => simp [bind, Except.bind, hload]
              | ok other =>
                  simp [bind, Except.bind, pure, Except.pure, hload, hsettings,
                    eq_comm]

/-- After any registrations and batches, a batch is loaded exactly if it is
sound, without repeats, free of numbers and label sets that are registered, and
within the limit.  It then adds its entries and nothing else, their numbers are
not given out again, and a batch that is refused changes nothing.  An index is
built from entries exactly if, besides, its settings are valid and allow their
label sets. -/
theorem importBatch_performAll (keyStripes nameStripes limit : Nat)
    (calls : List Store.Call) (entries : List Series) :
    let store := (Store.empty keyStripes nameStripes limit).performAll calls
    ((store.importBatch entries).1 = .ok () ↔ store.Loadable entries) ∧
    store.Imports entries (store.importBatch entries) ∧
    ∀ settings : Settings,
      (∃ index, restore settings entries = .ok index) ↔
        settings.Valid ∧ (∀ entry ∈ entries, settings.Allows entry.labels) ∧
          (empty settings).store.Loadable entries := by
  intro store
  have hsettled : store.Settled :=
    (Store.settled_empty keyStripes nameStripes limit).performAll calls
  refine ⟨hsettled.importBatch_eq_ok_iff, hsettled.imports entries, ?_⟩
  intro settings
  simp only [restore_eq_ok_iff, exists_and_left, exists_eq, and_true]

end SeriesIndex.Index
