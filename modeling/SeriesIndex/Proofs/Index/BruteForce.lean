import Mathlib
import SeriesIndex.Index
import SeriesIndex.Proofs.Query
import SeriesIndex.Proofs.Store.Faithful
import SeriesIndex.Proofs.Store.Recorded

/-!
# Queries answered from the history

The history of an index are the series it was built with and the registrations
that it accepted.  From the history alone one can read which label sets are
registered, under which numbers, and over which smallest interval each of them
was seen.  A query answers with exactly those that this reading selects, series
by series.
-/

namespace SeriesIndex.Index

/-! ## Histories -/

/-- The ways in which an index comes to be. -/
inductive Origin where
  | ofSettings (settings : Settings)
  | inMemory
  | restore (settings : Settings) (entries : List Series)

/-- The index that comes to be, unless it is refused. -/
def Origin.build : Origin → Except Fault Index
  | ofSettings settings => Index.ofSettings settings
  | inMemory => .ok Index.inMemory
  | restore settings entries => Index.restore settings entries

def Origin.entries : Origin → List Series
  | ofSettings _ => []
  | inMemory => []
  | restore _ entries => entries

inductive Call where
  | register (timestamp : Timestamp) (labels : LabelSet)
  | registerPairs (timestamp : Timestamp) (pairs : List (String × String))
  | registerHost (timestamp : Timestamp) (pairs : List (String × String))

namespace Call

def timestamp : Call → Timestamp
  | register timestamp _ => timestamp
  | registerPairs timestamp _ => timestamp
  | registerHost timestamp _ => timestamp

def labels? : Call → Option LabelSet
  | register _ labels => some labels
  | registerPairs _ pairs => (LabelSet.ofPairs pairs).toOption
  | registerHost _ pairs => (LabelSet.ofPairs pairs).toOption

end Call

def perform (index : Index) : Call → Except Fault Store.Registration × Index
  | .register timestamp labels => index.register timestamp labels
  | .registerPairs timestamp pairs => index.registerPairs timestamp pairs
  | .registerHost timestamp pairs => index.registerHost timestamp pairs

def performAll (index : Index) (calls : List Call) : Index :=
  calls.foldl (fun index call => (index.perform call).2) index

/-- What a call adds to the history: a sighting if it is accepted. -/
def sightings (index : Index) (call : Call) : List Series :=
  match call.labels? with
  | some labels =>
    Store.sightings call.timestamp labels (index.perform call).1
  | none => []

/-- The sightings of some calls, in their order. -/
def history (index : Index) : List Call → List Series
  | [] => []
  | call :: rest => index.sightings call ++ (index.perform call).2.history rest

/-! ## What an index remembers -/

/-- The store of an index is settled, and remembers a history. -/
structure Remembers (index : Index) (history : List Series) : Prop where
  settled : index.store.Settled
  recorded : index.store.Recorded history

variable {index : Index} {history : List Series}

theorem remembers_empty (settings : Settings) :
    (empty settings).Remembers [] where
  settled := Store.settled_empty _ _ _
  recorded := Store.recorded_empty _ _ _

theorem eq_empty_of_ofSettings {settings : Settings}
    (hbuild : ofSettings settings = .ok index) : index = empty settings := by
  rw [ofSettings] at hbuild
  split at hbuild
  · cases hbuild
    rfl
  · cases hbuild

/-- A restored index remembers its entries. -/
theorem remembers_restore {settings : Settings} {entries : List Series}
    (hbuild : restore settings entries = .ok index) :
    index.Remembers entries := by
  rw [restore] at hbuild
  cases hsettings : ofSettings settings with
  | error fault => simp [hsettings, bind, Except.bind] at hbuild
  | ok start =>
      cases hentries : checkEntries settings entries with
      | error fault =>
          simp [hsettings, hentries, bind, Except.bind] at hbuild
      | ok value =>
          have hstart := eq_empty_of_ofSettings hsettings
          have hremembers := remembers_empty settings
          rw [← hstart] at hremembers
          cases hcheck : start.store.catalog.checkBatch entries with
          | error fault =>
              simp [hsettings, hentries, Store.importBatch_of_error hcheck,
                bind, Except.bind] at hbuild
          | ok other =>
              have hstore :
                  index.store = (start.store.importBatch entries).2 := by
                simp only [hsettings, hentries,
                  Store.importBatch_of_ok hcheck, bind, Except.bind, pure,
                  Except.pure, Except.ok.injEq] at hbuild
                rw [← hbuild, Store.importBatch_of_ok hcheck]
              constructor
              · rw [hstore]
                exact hremembers.settled.importBatch entries
              · rw [hstore]
                exact hremembers.recorded.importBatch hremembers.settled hcheck

theorem Origin.remembers {origin : Origin} (hbuild : origin.build = .ok index) :
    index.Remembers origin.entries := by
  cases origin with
  | ofSettings settings =>
      rw [eq_empty_of_ofSettings hbuild]
      exact remembers_empty settings
  | inMemory =>
      cases hbuild
      exact remembers_empty {}
  | restore settings entries => exact remembers_restore hbuild

/-- Counting does not touch the store. -/
theorem Remembers.of_store (hremembers : index.Remembers history)
    {other : Index} (hsame : other.store = index.store) :
    other.Remembers history where
  settled := hsame ▸ hremembers.settled
  recorded := hsame ▸ hremembers.recorded

theorem Remembers.register (hremembers : index.Remembers history)
    (timestamp : Timestamp) (labels : LabelSet) :
    (index.register timestamp labels).2.Remembers
      (history ++ Store.sightings timestamp labels
        (index.register timestamp labels).1) := by
  rw [Index.register]
  split
  · rw [Store.sightings, List.append_nil]
    exact hremembers.of_store rfl
  · exact ⟨hremembers.settled.register timestamp labels,
      hremembers.recorded.register hremembers.settled timestamp labels⟩

/-- A call adds its sighting to what is remembered, if it is accepted. -/
theorem Remembers.perform (hremembers : index.Remembers history) (call : Call) :
    (index.perform call).2.Remembers (history ++ index.sightings call) := by
  cases call with
  | register timestamp labels => exact hremembers.register timestamp labels
  | registerPairs timestamp pairs =>
      simp only [Index.perform, sightings, Call.labels?, registerPairs]
      cases LabelSet.ofPairs pairs with
      | ok labels => exact hremembers.register timestamp labels
      | error cause =>
          rw [Except.toOption, List.append_nil]
          exact hremembers.of_store rfl
  | registerHost timestamp pairs =>
      simp only [Index.perform, sightings, Call.labels?, registerHost]
      cases LabelSet.ofPairs pairs with
      | ok labels => exact hremembers.register timestamp labels
      | error cause =>
          rw [Except.toOption, List.append_nil]
          exact hremembers

/-- After some calls, the history is what the index was built with and what they
added. -/
theorem Remembers.performAll (hremembers : index.Remembers history)
    (calls : List Call) :
    (index.performAll calls).Remembers (history ++ index.history calls) := by
  induction calls generalizing index history with
  | nil =>
      rw [Index.history, List.append_nil]
      exact hremembers
  | cons call rest ih =>
      rw [Index.history, ← List.append_assoc]
      exact ih (hremembers.perform call)

/-! ## Queries -/

theorem ofBounds_of_le {start stop : Timestamp} (hbounds : start ≤ stop) :
    Window.ofBounds start stop = .ok ⟨start, stop⟩ := by
  rw [Window.ofBounds, Window.ofBounds?, if_neg (Int64.not_lt.mpr hbounds)]

theorem Remembers.resolve_eq (hremembers : index.Remembers history)
    (matchers : List Matcher) {start stop : Timestamp}
    (hbounds : start ≤ stop) :
    (index.resolve matchers start stop).1 =
      .ok ((index.store.answers matchers ⟨start, stop⟩).map Series.tsid) := by
  rw [resolve, ofBounds_of_le hbounds]
  exact hremembers.settled.toConsistent.resolve_eq matchers ⟨start, stop⟩

/-- The series answers a query over a window, as far as the history tells: it is
a registered label set that every matcher selects, and the smallest interval
over which that label set was seen reaches into the window. -/
def AnswersBy (history : List Series) (matchers : List Matcher)
    (window : Window) (tsid : Tsid) : Prop :=
  ∃ labels interval, Store.Sighted history tsid labels ∧
    (∀ matcher ∈ matchers, matcher.Selects labels) ∧
    Activity.IsHull (Store.SightedOver history labels) interval ∧
    interval.earliest ≤ window.stop ∧ window.start ≤ interval.latest

/-- What a query finds in the store is what answers it by the history. -/
theorem Remembers.mem_answers_iff (hremembers : index.Remembers history)
    {matchers : List Matcher} {window : Window} {tsid : Tsid} :
    tsid ∈ (index.store.answers matchers window).map Series.tsid ↔
      AnswersBy history matchers window tsid := by
  have hcons := hremembers.settled.toConsistent
  have hrec := hremembers.recorded
  rw [hcons.mem_answers]
  constructor
  · rintro ⟨-, series, hseries, hselects, hoverlaps⟩
    exact ⟨series.labels, series.activity,
      hrec.sighted_iff.mpr ⟨series, hseries, rfl⟩, hselects,
      hrec.isHull hcons hseries, Activity.overlaps_iff.mp hoverlaps⟩
  · rintro ⟨labels, interval, hsighted, hselects, hhull, hoverlaps⟩
    obtain ⟨series, hseries, rfl⟩ := hrec.sighted_iff.mp hsighted
    have hinterval := hhull.unique (hrec.isHull hcons hseries)
    subst hinterval
    exact ⟨hremembers.settled.mem_published_iff.mpr ⟨series, hseries⟩, series,
      hseries, hselects, Activity.overlaps_iff.mpr hoverlaps⟩

/-- The smallest interval over which a label set was seen is not empty. -/
theorem Remembers.ordered (hremembers : index.Remembers history)
    {tsid : Tsid} {labels : LabelSet} {interval : Activity}
    (hsighted : Store.Sighted history tsid labels)
    (hhull : Activity.IsHull (Store.SightedOver history labels) interval) :
    interval.Ordered := by
  have hcons := hremembers.settled.toConsistent
  obtain ⟨series, hseries, rfl⟩ := hremembers.recorded.sighted_iff.mp hsighted
  rw [hhull.unique (hremembers.recorded.isHull hcons hseries)]
  exact hcons.ordered tsid series hseries

/-- A number has the label set under which it was sighted. -/
theorem Remembers.labels_eq_ok_iff (hremembers : index.Remembers history)
    {tsid : Tsid} {labels : LabelSet} :
    index.labels tsid = .ok labels ↔ Store.Sighted history tsid labels := by
  rw [hremembers.recorded.sighted_iff, Index.labels]
  simp only [← hremembers.settled.publishedSeries_eq_ok_iff]
  cases index.store.catalog.publishedSeries tsid with
  | error fault => simp [Except.map]
  | ok series => simp [Except.map]

/-- Whatever is registered, and however an index came to be, a query between two
timestamps succeeds.  It lists in ascending order the series that answer it by
the history of the index, in which each number has one label set.  To reach
into the window means to share a timestamp with it, and a query without matchers
over all timestamps lists every registered series. -/
theorem resolve_performAll {origin : Origin} {index : Index}
    (hbuild : origin.build = .ok index) (calls : List Call)
    (matchers : List Matcher) {start stop : Timestamp}
    (hbounds : start ≤ stop) :
    let after := index.performAll calls
    let history := origin.entries ++ index.history calls
    (∃ answers, (after.resolve matchers start stop).1 = .ok answers ∧
      answers.Pairwise (· < ·) ∧
      ∀ tsid, tsid ∈ answers ↔ AnswersBy history matchers ⟨start, stop⟩ tsid) ∧
    (∀ tsid labels, after.labels tsid = .ok labels ↔
      Store.Sighted history tsid labels) ∧
    (∀ tsid labels interval, Store.Sighted history tsid labels →
      Activity.IsHull (Store.SightedOver history labels) interval →
      ((interval.earliest ≤ stop ∧ start ≤ interval.latest) ↔
        ∃ timestamp, interval.earliest ≤ timestamp ∧
          timestamp ≤ interval.latest ∧ start ≤ timestamp ∧
          timestamp ≤ stop)) ∧
    (∃ answers, (after.resolve [] Window.all.start Window.all.stop).1 =
        .ok answers ∧
      ∀ tsid, tsid ∈ answers ↔
        ∃ labels, Store.Sighted history tsid labels) := by
  intro after history
  have hremembers : after.Remembers history :=
    (Origin.remembers hbuild).performAll calls
  have hcons := hremembers.settled.toConsistent
  refine ⟨⟨_, hremembers.resolve_eq matchers hbounds,
    hcons.answers_ascending matchers _, fun tsid => hremembers.mem_answers_iff⟩,
    fun tsid labels => hremembers.labels_eq_ok_iff, ?_, ?_⟩
  · intro tsid labels interval hsighted hhull
    have hshared : interval.overlaps ⟨start, stop⟩ = true ↔ _ :=
      Activity.overlaps_iff_exists (hremembers.ordered hsighted hhull) hbounds
    simpa only [Activity.overlaps, Window.contains, Bool.and_eq_true,
      decide_eq_true_eq] using hshared
  · refine ⟨_, hremembers.resolve_eq [] (by decide), fun tsid => ?_⟩
    rw [hremembers.mem_answers_iff]
    constructor
    · rintro ⟨labels, interval, hsighted, -⟩
      exact ⟨labels, hsighted⟩
    · rintro ⟨labels, hsighted⟩
      obtain ⟨series, hseries, rfl⟩ :=
        hremembers.recorded.sighted_iff.mp hsighted
      exact ⟨series.labels, series.activity, hsighted,
        fun matcher hmatcher => absurd hmatcher List.not_mem_nil,
        hremembers.recorded.isHull hcons hseries,
        Int64.le_maxValue _, Int64.minValue_le _⟩

/-! ## An index that is full -/

/-- A job that runs in an environment. -/
def deployment (env job : String) : LabelSet where
  labels := [⟨"env", env⟩, ⟨"job", job⟩]
  ascending := List.pairwise_pair.mpr (by decide : "env" < "job")
  named := by simp

/-- Three label sets take all the room there is, and one of them is seen again.
Between these, one is refused for an empty name, and one as the limit is
reached. -/
def deployments : List Call :=
  [.register 5 (deployment "prod" "api"), .register 3 (deployment "dev" "api"),
    .registerHost 6 [("", "web")], .registerPairs 4 [("job", "web")],
    .register 8 (deployment "test" "api"),
    .register 12 (deployment "prod" "api")]

def crowded : Index := (empty { seriesLimit := 3 }).performAll deployments

/-- The matcher that holds a label against one value. -/
def valueIs (name value : String) (hname : name ≠ "") : Matcher where
  op := .equal
  name := name
  value := value
  compiled := none
  named := hname
  compiled_eq := (if_neg Bool.false_ne_true).symm
  usable := Option.isSome_none

def apiOutsideDev : List Matcher :=
  [valueIs "job" "api" (by decide), (valueIs "env" "dev" (by decide)).negate]

theorem build_three : (Origin.ofSettings { seriesLimit := 3 }).build =
    .ok (empty { seriesLimit := 3 }) := by
  rw [Origin.build, ofSettings,
    (by decide +kernel : Settings.check { seriesLimit := 3 } = .ok ())]

/-- The one answer was seen before the window and after it. -/
theorem resolve_crowded : (crowded.resolve apiOutsideDev 7 9).1 = .ok [1] := by
  have hremembers : crowded.Remembers _ :=
    (Origin.remembers build_three).performAll deployments
  rw [hremembers.resolve_eq apiOutsideDev (by decide),
    hremembers.settled.toConsistent.answers_eq_filter]
  decide +kernel

theorem resolve_performAll_deployments :
    (Origin.ofSettings { seriesLimit := 3 }).build =
        .ok (empty { seriesLimit := 3 }) ∧
      (7 : Timestamp) ≤ 9 ∧
      (crowded.resolve apiOutsideDev 7 9).1 = .ok [1] ∧
      ∃ answers,
        (crowded.resolve apiOutsideDev 7 9).1 = .ok answers ∧
        answers.Pairwise (· < ·) ∧
        ∀ tsid, tsid ∈ answers ↔
          AnswersBy ((empty { seriesLimit := 3 }).history deployments)
            apiOutsideDev ⟨7, 9⟩ tsid :=
  ⟨build_three, by decide, resolve_crowded,
    (resolve_performAll build_three deployments apiOutsideDev (by decide)).1⟩

end SeriesIndex.Index
