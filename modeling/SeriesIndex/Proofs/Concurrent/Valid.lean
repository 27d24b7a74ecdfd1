import Mathlib
import SeriesIndex.Proofs.Concurrent.Effect

/-!
# What calls rely on

While a call is under way, its next step relies on what its earlier steps have
seen or written.  `Task.Valid` says for each task what that is, together with
the request that the task serves.  The facts are of two kinds: some say that
something is found in the store, and stay true by themselves; others say that a
label set or a number is not taken yet, and stay true because the call owns the
stripe of the label set.
-/

namespace SeriesIndex

namespace Store

/-- A series is stored under its number, perhaps with a wider interval. -/
def Stored (store : Store) (series : Series) : Prop :=
  ∃ found, store.catalog.series? series.tsid = some found ∧
    found.labels = series.labels

/-- A stored series is put under all its labels but some last ones. -/
def Listed (store : Store) (series : Series) (rest : List Label) : Prop :=
  store.Stored series ∧ ∃ done, series.labels.labels = done ++ rest ∧
    ∀ label ∈ done, store.inverted.Holds label series.tsid

/-- No label set and no number of some entries is taken. -/
def Untaken (store : Store) (entries : List Series) : Prop :=
  ∀ entry ∈ entries, store.catalog.Free entry.labels ∧
    store.catalog.series? entry.tsid = none

theorem Stored.grows {old new : Store} {series : Series}
    (hstored : old.Stored series) (hgrows : old.Grows new) :
    new.Stored series := by
  obtain ⟨found, hfound, hlabels⟩ := hstored
  obtain ⟨last, hlast, hsame, -⟩ := hgrows.series _ found hfound
  exact ⟨last, hlast, hsame.trans hlabels⟩

theorem Listed.grows {old new : Store} {series : Series} {rest : List Label}
    (hlisted : old.Listed series rest) (hgrows : old.Grows new) :
    new.Listed series rest := by
  obtain ⟨hstored, done, hdone, hheld⟩ := hlisted
  exact ⟨hstored.grows hgrows, done, hdone, fun label hlabel =>
    hgrows.holds label series.tsid (hheld label hlabel)⟩

/-- A series that has been put under all its labels is held under each of them.
-/
theorem Listed.holds {store : Store} {series : Series}
    (hlisted : store.Listed series []) :
    ∀ label ∈ series.labels.labels, store.inverted.Holds label series.tsid := by
  obtain ⟨-, done, hdone, hheld⟩ := hlisted
  rw [hdone, List.append_nil]
  exact hheld

end Store

namespace Concurrent

/-! ## Series on their way in -/

/-- What was written of a series before a stage. -/
def Written (store : Store) (series : Series) : Stage → Prop
  | .store => store.catalog.series? series.tsid = none ∧
      store.catalog.Free series.labels
  | .label first rest => store.Listed series (first :: rest)
  | .publish => store.Listed series []
  | .key => store.Listed series [] ∧ series.tsid ∈ store.catalog.published

theorem written_ofLabels {store : Store} {series : Series}
    {rest : List Label} :
    Written store series (.ofLabels rest) ↔ store.Listed series rest := by
  cases rest with
  | nil => rfl
  | cons first rest => rfl

/-- A series whose number was given out is about to be written at a stage. -/
structure Enters (store : Store) (stage : Stage) (series : Series) : Prop where
  tsid_ne : series.tsid ≠ Tsid.reserved
  below : series.tsid < store.catalog.nextTsid
  ordered : series.activity.Ordered
  written : Written store series stage

/-- A series of a batch is about to be written; the ones before it are there,
and the ones after it are to come. -/
structure Loads (store : Store) (entries : List Series) (stage : Stage)
    (series : Series) (rest : List Series) : Prop where
  sound : ∀ entry ∈ entries, entry.Sound
  distinct : entries.Pairwise fun a b => a.tsid ≠ b.tsid ∧ a.labels ≠ b.labels
  loaded : ∃ done, entries = done ++ series :: rest ∧ ∀ entry ∈ done,
    store.catalog.lookup? entry.labels = some entry.tsid
  enters : Enters store stage series
  untaken : store.Untaken rest
  below : ∀ entry ∈ rest, entry.tsid < store.catalog.nextTsid

/-- A batch of which some first entries passed all checks. -/
structure Checked (store : Store) (entries : List Series)
    (checked : List Series) : Prop where
  sound : ∀ entry ∈ entries, entry.Sound
  distinct : entries.Pairwise fun a b => a.tsid ≠ b.tsid ∧ a.labels ≠ b.labels
  untaken : store.Untaken checked

/-! ## Answers and tasks -/

/-- An answer is one to the request, and what it tells is so. -/
def Answer.Fits (store : Store) (request : Request) : Answer → Prop
  | .registered outcome => ∃ timestamp labels,
      request = .register timestamp labels ∧
      ∀ registration, outcome = .ok registration →
        store.catalog.lookup? labels = some registration.tsid
  | .imported outcome => ∃ entries, request = .importBatch entries ∧
      (outcome = .ok () →
        (entries.Pairwise fun a b => a.tsid ≠ b.tsid ∧ a.labels ≠ b.labels) ∧
        ∀ entry ∈ entries,
          store.catalog.lookup? entry.labels = some entry.tsid)
  | .resolved _ => ∃ matchers window, request = .resolve matchers window

/-- A task serves the request, and what it relies on is so. -/
def Task.Valid (store : Store) (request : Request) : Task → Prop
  | find timestamp labels => request = .register timestamp labels
  | take timestamp labels => request = .register timestamp labels
  | recheck timestamp labels => request = .register timestamp labels
  | reserve timestamp labels =>
      request = .register timestamp labels ∧ store.catalog.Free labels
  | allocate timestamp labels =>
      request = .register timestamp labels ∧ store.catalog.Free labels
  | giveBack labels => ∃ timestamp, request = .register timestamp labels
  | enroll stage series none =>
      (∃ timestamp, request = .register timestamp series.labels) ∧
        Enters store stage series
  | enroll stage series (some rest) =>
      ∃ entries, request = .importBatch entries ∧
        Loads store entries stage series rest
  | widenDown tsid timestamp => ∃ labels,
      request = .register timestamp labels ∧
        store.catalog.lookup? labels = some tsid
  | widenUp tsid timestamp => ∃ labels,
      request = .register timestamp labels ∧
        store.catalog.lookup? labels = some tsid
  | count outcome => (Answer.registered outcome).Fits store request
  | takeAll _ entries => request = .importBatch entries
  | checkFree rest entries => request = .importBatch entries ∧
      ∃ checked, entries = checked ++ rest ∧ Checked store entries checked
  | checkRoom entries =>
      request = .importBatch entries ∧ Checked store entries entries
  | raiseNext entries => request = .importBatch entries ∧
      Checked store entries entries ∧
      store.catalog.hasRoom entries.length = true
  | raiseCount entries => request = .importBatch entries ∧
      Checked store entries entries ∧
      store.catalog.hasRoom entries.length = true ∧
      ∀ entry ∈ entries, entry.tsid < store.catalog.nextTsid
  | evaluate _ _ _ window => ∃ matchers, request = .resolve matchers window
  | copyPublished window => ∃ matchers, request = .resolve matchers window
  | retain _ window => ∃ matchers, request = .resolve matchers window
  | fetch _ _ window _ => ∃ matchers, request = .resolve matchers window
  | readEarliest _ _ window _ => ∃ matchers, request = .resolve matchers window
  | readLatest _ _ _ window _ => ∃ matchers, request = .resolve matchers window

def Next.Valid (store : Store) (request : Request) : Next → Prop
  | .goOn task => task.Valid store request
  | .finish answer => answer.Fits store request

variable {store old new : Store} {task : Task} {request : Request}

theorem Task.Valid.enters {stage : Stage} {series : Series}
    {batch : Option (List Series)}
    (hvalid : (Task.enroll stage series batch).Valid store request) :
    Enters store stage series := by
  cases batch with
  | none => exact hvalid.2
  | some rest =>
      obtain ⟨entries, -, hloads⟩ := hvalid
      exact hloads.enters

/-! ## Effects of valid tasks -/

/-- No valid task breaks the store. -/
theorem Effect.consistent (heffect : Effect task old new)
    (hcons : old.Consistent) (hvalid : task.Valid old request) :
    new.Consistent := by
  cases heffect with
  | keep => exact hcons
  | reserve hroom => exact hcons.counters _ (UInt64.le_refl _)
  | allocate hlast =>
      exact hcons.counters _ (UInt64.le_of_lt (Tsid.lt_add_one hlast))
  | giveBack => exact hcons.counters _ (UInt64.le_refl _)
  | store =>
      have henters := hvalid.enters
      exact hcons.store_series henters.tsid_ne henters.below henters.ordered
        henters.written.1 henters.written.2
  | label =>
      obtain ⟨⟨found, hfound, hlabels⟩, done, hdone, -⟩ :=
        hvalid.enters.written
      apply hcons.insertLabel hfound
      rw [hlabels, hdone]
      simp
  | publish =>
      have hlisted : old.Listed _ [] := hvalid.enters.written
      obtain ⟨found, hfound, hlabels⟩ := hlisted.1
      exact hcons.publish hfound (hlabels ▸ hlisted.holds)
  | key =>
      obtain ⟨hlisted, hpublished⟩ := hvalid.enters.written
      obtain ⟨found, hfound, hlabels⟩ := hlisted.1
      rw [← hlabels]
      exact hcons.addKey hfound hpublished
  | widenDown =>
      exact hcons.modifyActivity _ fun activity =>
        activity.within_widenDown _
  | widenUp =>
      exact hcons.modifyActivity _ fun activity => activity.within_widenUp _
  | raiseNext => exact hcons.counters _ (Tsid.le_max_left _ _)
  | raiseCount => exact hcons.counters _ (UInt64.le_refl _)

/-- No valid task takes anything away that was to be seen. -/
theorem Effect.grows (heffect : Effect task old new)
    (hcons : old.Consistent) (hvalid : task.Valid old request) :
    old.Grows new := by
  cases heffect with
  | keep => exact .refl _
  | reserve hroom => exact Store.grows_counters (UInt64.le_refl _)
  | allocate hlast =>
      exact Store.grows_counters (UInt64.le_of_lt (Tsid.lt_add_one hlast))
  | giveBack => exact Store.grows_counters (UInt64.le_refl _)
  | store => exact Store.grows_store hvalid.enters.written.1
  | label => exact Store.grows_insertLabels _ [_]
  | publish => exact Store.grows_publish _
  | key =>
      obtain ⟨⟨⟨found, hfound, hlabels⟩, -⟩, -⟩ := hvalid.enters.written
      refine Store.grows_addKey fun tsid hkey => ?_
      obtain ⟨other, hother, hotherLabels⟩ := hcons.key_labels _ tsid hkey
      exact hcons.labels_inj _ _ other found hother hfound
        (hotherLabels.trans hlabels.symm)
  | widenDown =>
      exact Store.grows_modifyActivity _ fun activity =>
        activity.within_widenDown _
  | widenUp =>
      exact Store.grows_modifyActivity _ fun activity =>
        activity.within_widenUp _
  | raiseNext => exact Store.grows_counters (Tsid.le_max_left _ _)
  | raiseCount => exact Store.grows_counters (UInt64.le_refl _)

/-- A stored series was there before, or it is the one that the task stores. -/
theorem Effect.of_series? (heffect : Effect task old new) {tsid : Tsid}
    {series : Series} (hseries : new.catalog.series? tsid = some series) :
    (∃ found, old.catalog.series? tsid = some found ∧
      found.labels = series.labels) ∨
    ∃ batch, task = .enroll .store series batch ∧ series.tsid = tsid := by
  cases heffect with
  | store =>
      rw [Catalog.series?_store] at hseries
      split at hseries
      · rename_i hsame
        cases hseries
        exact .inr ⟨_, rfl, hsame⟩
      · exact .inl ⟨series, hseries, rfl⟩
  | key =>
      rw [Catalog.series?_addKey] at hseries
      exact .inl ⟨series, hseries, rfl⟩
  | widenDown =>
      obtain ⟨found, hfound, -, hlabels, -⟩ :=
        Catalog.exists_of_series?_modifyActivity hseries
      exact .inl ⟨found, hfound, hlabels.symm⟩
  | widenUp =>
      obtain ⟨found, hfound, -, hlabels, -⟩ :=
        Catalog.exists_of_series?_modifyActivity hseries
      exact .inl ⟨found, hfound, hlabels.symm⟩
  | keep => exact .inl ⟨series, hseries, rfl⟩
  | reserve => exact .inl ⟨series, hseries, rfl⟩
  | allocate => exact .inl ⟨series, hseries, rfl⟩
  | giveBack => exact .inl ⟨series, hseries, rfl⟩
  | label => exact .inl ⟨series, hseries, rfl⟩
  | publish => exact .inl ⟨series, hseries, rfl⟩
  | raiseNext => exact .inl ⟨series, hseries, rfl⟩
  | raiseCount => exact .inl ⟨series, hseries, rfl⟩

end Concurrent

end SeriesIndex
