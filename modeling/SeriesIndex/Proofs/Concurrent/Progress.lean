import Mathlib
import SeriesIndex.Proofs.Concurrent.Locks
import SeriesIndex.Proofs.Concurrent.Valid

/-!
# What calls rely on stays true

A valid task leads to a valid task or to an answer that fits the request.  A
step of another thread does no harm either: it stores no series with a label set
whose stripe the task owns, and none under a number that is pending in the task.
-/

namespace SeriesIndex.Concurrent

/-- The series that a task is going to write, or is writing. -/
def Task.pending : Task → List Series
  | enroll _ series none => [series]
  | enroll _ series (some rest) => series :: rest
  | _ => []

/-- The series that a task has stored and not yet made findable. -/
def Task.entering : Task → Option Series
  | enroll .store _ _ => none
  | enroll _ series _ => some series
  | _ => none

variable {shared after : Shared} {number : Nat} {task : Task} {next : Next}
  {request : Request} {old new : Store}

/-! ## Steps of other threads -/

/-- A label set stays free as long as no series with it is stored. -/
theorem free_of_series? {labels : LabelSet} (hfree : old.catalog.Free labels)
    (hseries : ∀ tsid series, new.catalog.series? tsid = some series →
      series.labels = labels →
      ∃ found, old.catalog.series? tsid = some found ∧
        found.labels = series.labels) :
    new.catalog.Free labels := by
  intro tsid series hsome hlabels
  obtain ⟨found, hfound, hsame⟩ := hseries tsid series hsome hlabels
  exact hfree tsid found hfound (hsame.trans hlabels)

theorem unstored_of_series? {tsid : Tsid}
    (hnone : old.catalog.series? tsid = none)
    (hseries : ∀ series, new.catalog.series? tsid = some series →
      ∃ found, old.catalog.series? tsid = some found) :
    new.catalog.series? tsid = none := by
  rw [Option.eq_none_iff_forall_ne_some]
  intro series hsome
  obtain ⟨found, hfound⟩ := hseries series hsome
  rw [hnone] at hfound
  cases hfound

/-- A series may go on to enter a store that has grown, if nobody took its
number or label set. -/
theorem Enters.grows {stage : Stage} {series : Series}
    (henters : Enters old stage series) (hgrows : old.Grows new)
    (hnew : stage = .store → new.catalog.series? series.tsid = none ∧
      new.catalog.Free series.labels) :
    Enters new stage series where
  tsid_ne := henters.tsid_ne
  below := UInt64.lt_of_lt_of_le henters.below hgrows.next
  ordered := henters.ordered
  written := by
    have hwritten := henters.written
    cases stage with
    | store => exact hnew rfl
    | label first rest => exact Store.Listed.grows hwritten hgrows
    | publish => exact Store.Listed.grows hwritten hgrows
    | key =>
        exact ⟨Store.Listed.grows hwritten.1 hgrows,
          hgrows.published _ hwritten.2⟩

theorem Answer.Fits.grows {answer : Answer} (hfits : answer.Fits old request)
    (hgrows : old.Grows new) : answer.Fits new request := by
  cases answer with
  | registered outcome =>
      obtain ⟨timestamp, labels, hrequest, hkey⟩ := hfits
      exact ⟨timestamp, labels, hrequest, fun registration hok =>
        hgrows.key _ _ (hkey registration hok)⟩
  | imported outcome =>
      obtain ⟨entries, hrequest, hkeys⟩ := hfits
      exact ⟨entries, hrequest, fun hok =>
        ⟨(hkeys hok).1, fun entry hentry =>
          hgrows.key _ _ ((hkeys hok).2 entry hentry)⟩⟩
  | resolved outcome => exact hfits

/-- The series that another thread may have stored meanwhile are no concern of
a task. -/
structure Spares (shared : Shared) (task : Task) (new : Store) : Prop where
  grows : shared.store.Grows new
  series : ∀ tsid series, new.catalog.series? tsid = some series →
    (∃ found, shared.store.catalog.series? tsid = some found ∧
      found.labels = series.labels) ∨
    (¬task.Owns shared (shared.slotOf series.labels) ∧
      ∀ other ∈ task.pending, other.tsid ≠ tsid)
  count : (∀ slot, slot < shared.catalog.keys.size → task.Owns shared slot) →
    new.catalog.seriesCount = shared.store.catalog.seriesCount
  limit : new.catalog.limit = shared.store.catalog.limit

/-- Others leave the label sets alone whose stripe the thread owns. -/
theorem Spares.free (hspares : Spares shared task new) {labels : LabelSet}
    (howns : task.Owns shared (shared.slotOf labels))
    (hfree : shared.store.catalog.Free labels) : new.catalog.Free labels := by
  apply free_of_series? hfree
  intro tsid series hseries hlabels
  rcases hspares.series tsid series hseries with hold | ⟨hnot, -⟩
  · exact hold
  · exact absurd (hlabels ▸ howns) hnot

/-- They leave the numbers alone that the thread was given. -/
theorem Spares.unstored (hspares : Spares shared task new) {series : Series}
    (hpending : series ∈ task.pending)
    (hnone : shared.store.catalog.series? series.tsid = none) :
    new.catalog.series? series.tsid = none := by
  apply unstored_of_series? hnone
  intro found hfound
  rcases hspares.series _ found hfound with ⟨other, hother, -⟩ | ⟨-, hne⟩
  · exact ⟨other, hother⟩
  · exact absurd rfl (hne series hpending)

/-- Nothing is stored beside a task that owns all stripes. -/
theorem Spares.untaken (hspares : Spares shared task new)
    (howns : ∀ slot, slot < shared.catalog.keys.size → task.Owns shared slot)
    {entries : List Series} (huntaken : shared.store.Untaken entries) :
    new.Untaken entries := by
  intro entry hentry
  obtain ⟨hfree, hnone⟩ := huntaken entry hentry
  refine ⟨hspares.free (howns _ (shared.slotOf_lt _)) hfree, ?_⟩
  apply unstored_of_series? hnone
  intro found hfound
  rcases hspares.series _ found hfound with ⟨other, hother, -⟩ | ⟨hnot, -⟩
  · exact ⟨other, hother⟩
  · exact absurd (howns _ (shared.slotOf_lt _)) hnot

theorem Spares.checked (hspares : Spares shared task new)
    (howns : ∀ slot, slot < shared.catalog.keys.size → task.Owns shared slot)
    {entries checked : List Series}
    (hchecked : Checked shared.store entries checked) :
    Checked new entries checked where
  sound := hchecked.sound
  distinct := hchecked.distinct
  untaken := hspares.untaken howns hchecked.untaken

theorem Spares.hasRoom (hspares : Spares shared task new)
    (howns : ∀ slot, slot < shared.catalog.keys.size → task.Owns shared slot)
    {count : Nat} (hroom : shared.store.catalog.hasRoom count = true) :
    new.catalog.hasRoom count = true := by
  rw [Catalog.hasRoom, hspares.limit, hspares.count howns]
  exact hroom

/-- A task stays valid while other threads take steps. -/
theorem Task.Valid.spared (hvalid : task.Valid shared.store request)
    (hspares : Spares shared task new) : task.Valid new request := by
  have hgrows := hspares.grows
  cases task with
  | reserve timestamp labels =>
      exact ⟨hvalid.1, hspares.free rfl hvalid.2⟩
  | allocate timestamp labels =>
      exact ⟨hvalid.1, hspares.free rfl hvalid.2⟩
  | enroll stage series batch =>
      cases batch with
      | none =>
          refine ⟨hvalid.1, hvalid.2.grows hgrows ?_⟩
          rintro rfl
          obtain ⟨hnone, hfree⟩ := hvalid.2.written
          exact ⟨hspares.unstored List.mem_cons_self hnone,
            hspares.free rfl hfree⟩
      | some rest =>
          obtain ⟨entries, hrequest, hloads⟩ := hvalid
          obtain ⟨done, hdone, hkeys⟩ := hloads.loaded
          refine ⟨entries, hrequest, ⟨hloads.sound, hloads.distinct,
            ⟨done, hdone, fun entry hentry =>
              hgrows.key _ _ (hkeys entry hentry)⟩, ?_,
            hspares.untaken (fun slot => id) hloads.untaken,
            fun entry hentry => UInt64.lt_of_lt_of_le
              (hloads.below entry hentry) hgrows.next⟩⟩
          apply hloads.enters.grows hgrows
          rintro rfl
          obtain ⟨hnone, hfree⟩ := hloads.enters.written
          exact ⟨hspares.unstored List.mem_cons_self hnone,
            hspares.free (shared.slotOf_lt _) hfree⟩
  | widenDown tsid timestamp =>
      obtain ⟨labels, hrequest, hkey⟩ := hvalid
      exact ⟨labels, hrequest, hgrows.key _ _ hkey⟩
  | widenUp tsid timestamp =>
      obtain ⟨labels, hrequest, hkey⟩ := hvalid
      exact ⟨labels, hrequest, hgrows.key _ _ hkey⟩
  | count outcome =>
      have hfits : (Answer.registered outcome).Fits shared.store request :=
        hvalid
      exact hfits.grows hgrows
  | checkFree rest entries =>
      obtain ⟨hrequest, checked, hentries, hchecked⟩ := hvalid
      exact ⟨hrequest, checked, hentries,
        hspares.checked (fun slot => id) hchecked⟩
  | checkRoom entries =>
      exact ⟨hvalid.1, hspares.checked (fun slot => id) hvalid.2⟩
  | raiseNext entries =>
      obtain ⟨hrequest, hchecked, hroom⟩ := hvalid
      exact ⟨hrequest, hspares.checked (fun slot => id) hchecked,
        hspares.hasRoom (fun slot => id) hroom⟩
  | raiseCount entries =>
      obtain ⟨hrequest, hchecked, hroom, hbelow⟩ := hvalid
      exact ⟨hrequest, hspares.checked (fun slot => id) hchecked,
        hspares.hasRoom (fun slot => id) hroom, fun entry hentry =>
          UInt64.lt_of_lt_of_le (hbelow entry hentry) hgrows.next⟩
  | _ => exact hvalid

/-! ## Steps of the thread itself -/

theorem fits_error (timestamp : Timestamp) (labels : LabelSet) (fault : Fault)
    (store : Store) :
    (Answer.registered (.error fault)).Fits store
      (.register timestamp labels) :=
  ⟨timestamp, labels, rfl, fun _ hok => by cases hok⟩

theorem fits_importError (entries : List Series) (fault : Fault)
    (store : Store) :
    (Answer.imported (.error fault)).Fits store (.importBatch entries) :=
  ⟨entries, rfl, fun hok => by cases hok⟩

/-- Every call begins well. -/
theorem Task.valid_start (shared : Shared) (request : Request) :
    (Task.start shared request).Valid shared.store request := by
  cases request with
  | register timestamp labels =>
      rw [Task.start]
      split
      · rfl
      · exact fits_error timestamp labels _ _
  | importBatch entries => rfl
  | resolve matchers window =>
      cases matchers with
      | nil => exact ⟨_, rfl⟩
      | cons matcher rest => exact ⟨_, rfl⟩

/-! Writing a series goes from stage to stage. -/

/-- Once stored, a series is put under its labels next. -/
theorem Enters.store {series : Series} (henters : Enters old .store series) :
    Enters { old with catalog := old.catalog.store series }
      (.ofLabels series.labels.labels) series where
  tsid_ne := henters.tsid_ne
  below := henters.below
  ordered := henters.ordered
  written := by
    rw [written_ofLabels]
    refine ⟨⟨series, ?_, rfl⟩, [], rfl, by simp⟩
    rw [Catalog.series?_store, if_pos rfl]

/-- One label written, the next one follows. -/
theorem Enters.label {first : Label} {rest : List Label} {series : Series}
    (henters : Enters old (.label first rest) series) :
    Enters
      { old with inverted := old.inverted.insertLabel series.tsid first }
      (.ofLabels rest) series where
  tsid_ne := henters.tsid_ne
  below := henters.below
  ordered := henters.ordered
  written := by
    obtain ⟨hstored, done, hdone, hheld⟩ := henters.written
    rw [written_ofLabels]
    refine ⟨hstored, done ++ [first], by simp [hdone], fun label hlabel => ?_⟩
    rw [InvertedIndex.holds_insertLabel]
    rw [List.mem_append, List.mem_singleton] at hlabel
    rcases hlabel with hold | rfl
    · exact .inr (hheld label hold)
    · exact .inl ⟨rfl, rfl⟩

/-- Once published, a series is made findable. -/
theorem Enters.publish {series : Series}
    (henters : Enters old .publish series) :
    Enters { old with catalog := old.catalog.publish series.tsid } .key
      series where
  tsid_ne := henters.tsid_ne
  below := henters.below
  ordered := henters.ordered
  written :=
    ⟨henters.written, (Catalog.mem_published_publish _ _ _).mpr (.inl rfl)⟩

/-- The rest of a batch is not taken by the series before it. -/
theorem Loads.untaken_after {entries rest : List Series} {stage : Stage}
    {series : Series} {batch : Option (List Series)}
    (hloads : Loads old entries stage series rest)
    (heffect : Effect (.enroll stage series batch) old new) :
    new.Untaken rest := by
  obtain ⟨done, hdone, -⟩ := hloads.loaded
  have hdistinct := hloads.distinct
  rw [hdone, List.pairwise_append, List.pairwise_cons] at hdistinct
  intro entry hentry
  obtain ⟨htsid, hlabels⟩ := hdistinct.2.1.1 entry hentry
  obtain ⟨hfree, hnone⟩ := hloads.untaken entry hentry
  constructor
  · apply free_of_series? hfree
    intro tsid found hfound hsame
    rcases heffect.of_series? hfound with hold | ⟨other, htask, -⟩
    · exact hold
    · cases htask
      exact absurd hsame hlabels
  · apply unstored_of_series? hnone
    intro found hfound
    rcases heffect.of_series? hfound with
      ⟨other, hother, -⟩ | ⟨other, htask, hsame⟩
    · exact ⟨other, hother⟩
    · cases htask
      exact absurd hsame htsid

/-- A series that enters keeps to its order of writes. -/
theorem Task.Valid.stage {stage later : Stage} {series : Series}
    {batch : Option (List Series)}
    (hvalid : (Task.enroll stage series batch).Valid old request)
    (heffect : Effect (.enroll stage series batch) old new)
    (hgrows : old.Grows new) (henters : Enters new later series) :
    (Task.enroll later series batch).Valid new request := by
  cases batch with
  | none => exact ⟨hvalid.1, henters⟩
  | some rest =>
      obtain ⟨entries, hrequest, hloads⟩ := hvalid
      obtain ⟨done, hdone, hkeys⟩ := hloads.loaded
      exact ⟨entries, hrequest, hloads.sound, hloads.distinct,
        ⟨done, hdone, fun entry hentry => hgrows.key _ _ (hkeys entry hentry)⟩,
        henters, hloads.untaken_after heffect, fun entry hentry =>
          UInt64.lt_of_lt_of_le (hloads.below entry hentry) hgrows.next⟩

/-- What comes after some first entries of a batch are there. -/
theorem valid_loadNext {entries done rest : List Series}
    (hentries : entries = done ++ rest)
    (hsound : ∀ entry ∈ entries, entry.Sound)
    (hdistinct : entries.Pairwise fun a b =>
      a.tsid ≠ b.tsid ∧ a.labels ≠ b.labels)
    (hkeys : ∀ entry ∈ done,
      shared.store.catalog.lookup? entry.labels = some entry.tsid)
    (huntaken : shared.store.Untaken rest)
    (hbelow : ∀ entry ∈ rest, entry.tsid < shared.store.catalog.nextTsid) :
    (Task.loadNext shared number rest).2.Valid shared.store
      (.importBatch entries) := by
  cases rest with
  | nil =>
      rw [List.append_nil] at hentries
      subst hentries
      exact ⟨entries, rfl, fun _ => ⟨hdistinct, hkeys⟩⟩
  | cons entry rest =>
      have hmem : entry ∈ entries := by simp [hentries]
      obtain ⟨hfree, hnone⟩ := huntaken entry List.mem_cons_self
      refine ⟨entries, rfl, hsound, hdistinct, ⟨done, hentries, hkeys⟩, ?_,
        fun other hother => huntaken other (List.mem_cons_of_mem _ hother),
        fun other hother => hbelow other (List.mem_cons_of_mem _ hother)⟩
      exact ⟨(hsound entry hmem).tsid_ne, hbelow entry List.mem_cons_self,
        (hsound entry hmem).ordered, hnone, hfree⟩

/-- Once a series is findable, its registration succeeds, or the batch goes on
with the next series. -/
theorem valid_stepEnroll {stage : Stage} {series : Series}
    {batch : Option (List Series)}
    (hvalid : (Task.enroll stage series batch).Valid shared.store request)
    (hcons : shared.store.Consistent) :
    (Task.stepEnroll shared number stage series batch).2.Valid
      (Task.stepEnroll shared number stage series batch).1.store request := by
  have heffect : Effect (.enroll stage series batch) shared.store
      (Task.stepEnroll shared number stage series batch).1.store :=
    effect_stepEnroll
  have hgrows := heffect.grows hcons hvalid
  have henters := hvalid.enters
  cases stage with
  | store => exact hvalid.stage heffect hgrows henters.store
  | label first rest => exact hvalid.stage heffect hgrows henters.label
  | publish => exact hvalid.stage heffect hgrows henters.publish
  | key =>
      have hkey : Catalog.lookup?
          (shared.mapCatalog (·.addKey series.labels series.tsid)).store.catalog
          series.labels = some series.tsid := by
        rw [Shared.store_mapCatalog, Catalog.lookup?_addKey, if_pos rfl]
      cases batch with
      | none =>
          obtain ⟨⟨timestamp, hrequest⟩, -⟩ := hvalid
          refine ⟨timestamp, series.labels, hrequest, ?_⟩
          intro registration hok
          cases hok
          exact hkey
      | some rest =>
          obtain ⟨entries, rfl, hloads⟩ := hvalid
          obtain ⟨done, hdone, hkeys⟩ := hloads.loaded
          have huntaken := hloads.untaken_after heffect
          simp only [Task.stepEnroll, store_loadNext] at huntaken hgrows ⊢
          have hentries : entries = (done ++ [series]) ++ rest := by
            simp [hdone]
          refine valid_loadNext hentries hloads.sound hloads.distinct
            (fun entry hentry => ?_) huntaken fun entry hentry =>
              UInt64.lt_of_lt_of_le (hloads.below entry hentry) hgrows.next
          rw [List.mem_append, List.mem_singleton] at hentry
          rcases hentry with hold | rfl
          · exact hgrows.key _ _ (hkeys entry hold)
          · exact hkey

/-- One more entry passed its check. -/
theorem Checked.concat {entries checked : List Series} {entry : Series}
    (hchecked : Checked old entries checked)
    (hentry : old.catalog.Free entry.labels ∧
      old.catalog.series? entry.tsid = none) :
    Checked old entries (checked ++ [entry]) where
  sound := hchecked.sound
  distinct := hchecked.distinct
  untaken := List.forall_mem_append.mpr
    ⟨hchecked.untaken, List.forall_mem_singleton.mpr hentry⟩

theorem valid_checkNext {entries checked rest : List Series}
    (hentries : entries = checked ++ rest)
    (hchecked : Checked old entries checked) :
    (Task.checkNext entries rest).Valid old (.importBatch entries) := by
  cases rest with
  | nil =>
      rw [List.append_nil] at hentries
      subst hentries
      exact ⟨rfl, hchecked⟩
  | cons entry rest => exact ⟨rfl, checked, hentries, hchecked⟩

theorem Task.Valid.eq_resolve {window : Window}
    (hvalid : task.Valid old request) (hqueries : task.Queries window) :
    ∃ matchers, request = .resolve matchers window := by
  cases task with
  | evaluate | copyPublished | retain | fetch | readEarliest | readLatest =>
      obtain rfl := hqueries
      exact hvalid
  | _ => exact absurd hqueries id

theorem Next.Queries.valid {window : Window} (hqueries : next.Queries window)
    (store : Store) (matchers : List Matcher) :
    next.Valid store (.resolve matchers window) := by
  cases next with
  | goOn task =>
      cases task with
      | evaluate | copyPublished | retain | fetch | readEarliest | readLatest =>
          obtain rfl := hqueries
          exact ⟨matchers, rfl⟩
      | _ => exact absurd hqueries id
  | finish answer =>
      obtain ⟨outcome, rfl⟩ := hqueries
      exact ⟨matchers, window, rfl⟩

/-- A step of a valid task leads to a valid task or to an answer that fits.  It
has to be known that a label set which is no key is that of no stored series, if
the thread owns its stripe. -/
theorem Task.Valid.step (hvalid : task.Valid shared.store request)
    (hcons : shared.store.Consistent)
    (hfree : task.entering = none → ∀ labels,
      task.Owns shared (shared.slotOf labels) →
      shared.catalog.lookup? labels = none →
      shared.store.catalog.Free labels)
    (hmoves : Moves shared number task after next) :
    next.Valid after.store request := by
  cases hmoves with
  | found hkey => exact ⟨_, hvalid, hkey⟩
  | overtaken hkey => exact ⟨_, hvalid, hkey⟩
  | absent hkey => exact ⟨hvalid, hfree rfl _ rfl hkey⟩
  | full =>
      obtain ⟨rfl, -⟩ := hvalid
      exact fits_error _ _ _ _
  | allocate hlast =>
      obtain ⟨hrequest, hnot⟩ := hvalid
      exact ⟨⟨_, hrequest⟩, hcons.next_ne, Tsid.lt_add_one hlast,
        Int64.le_refl _, hcons.unstored_next, hnot⟩
  | exhausted hlast => exact ⟨_, hvalid.1⟩
  | giveBack =>
      obtain ⟨timestamp, rfl⟩ := hvalid
      exact fits_error _ _ _ _
  | enroll => exact valid_stepEnroll hvalid hcons
  | orphaned =>
      obtain ⟨labels, rfl, -⟩ := hvalid
      exact fits_error _ _ _ _
  | widenUp =>
      obtain ⟨labels, hrequest, hkey⟩ := hvalid
      refine ⟨_, labels, hrequest, fun registration hok => ?_⟩
      cases hok
      exact hkey
  | sound hslot hcheck =>
      obtain rfl := hvalid
      rw [Catalog.checkEntries_eq_ok_iff] at hcheck
      exact valid_checkNext (List.nil_append _).symm
        ⟨fun entry hentry => (hcheck.1 entry hentry).1, hcheck.2,
          fun entry hentry => absurd hentry List.not_mem_nil⟩
  | unsound =>
      obtain rfl := hvalid
      exact fits_importError _ _ _
  | untaken =>
      obtain ⟨rfl, checked, hentries, hchecked⟩ := hvalid
      rw [List.append_nil] at hentries
      subst hentries
      exact ⟨rfl, hchecked⟩
  | free hcheck =>
      obtain ⟨rfl, checked, hentries, hchecked⟩ := hvalid
      obtain ⟨hkey, hnone⟩ := Catalog.checkFree_eq_ok_iff.mp hcheck
      exact valid_checkNext (by simp [hentries])
        (hchecked.concat ⟨hfree rfl _ (shared.slotOf_lt _) hkey, hnone⟩)
  | taken =>
      obtain ⟨rfl, -⟩ := hvalid
      exact fits_importError _ _ _
  | room hroom => exact ⟨hvalid.1, hvalid.2, hroom⟩
  | crowded =>
      obtain ⟨rfl, -⟩ := hvalid
      exact fits_importError _ _ _
  | raiseNext =>
      obtain ⟨rfl, hchecked, hroom⟩ := hvalid
      exact ⟨rfl, ⟨hchecked.sound, hchecked.distinct, hchecked.untaken⟩, hroom,
        fun entry hentry =>
          Catalog.tsid_lt_nextTsid_raiseNext _ hchecked.sound hentry⟩
  | raiseCount =>
      obtain ⟨rfl, hchecked, hroom, hbelow⟩ := hvalid
      rw [store_loadNext]
      exact valid_loadNext (List.nil_append _).symm hchecked.sound
        hchecked.distinct (fun entry hentry => absurd hentry List.not_mem_nil)
        hchecked.untaken hbelow
  | query htask hnext =>
      obtain ⟨matchers, rfl⟩ := hvalid.eq_resolve htask
      exact hnext.valid _ matchers
  | missed | take | reserve | widenDown | count | takeNext => exact hvalid

end SeriesIndex.Concurrent
