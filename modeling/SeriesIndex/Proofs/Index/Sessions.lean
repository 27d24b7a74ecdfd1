import Mathlib
import SeriesIndex.Proofs.Index.BruteForce
import SeriesIndex.Proofs.Index.Restore
import SeriesIndex.Proofs.Store.Canonical
import SeriesIndex.Proofs.Store.Registered

/-!
# Sessions with an index

An index is asked for something, again and again.  Every answer depends on the
settings and the store alone, except that the statistics also show how often the
index was asked: an index that has counted more than another one, and is equal
to it otherwise, answers every session alike, and stays ahead by as much.

Every index that a session can reach is regular.  Its store is settled, its
settings are valid and allow every label set that is registered, and its stripes
and its limit are those of its settings.
-/

namespace SeriesIndex

/-! ## Counters -/

instance : Add Counters where
  add left right :=
    { registrations := left.registrations + right.registrations
      rejected := left.rejected + right.rejected
      resolves := left.resolves + right.resolves }

namespace Counters

theorem add_zero (counters : Counters) : counters + {} = counters := rfl

theorem add_count {α : Type} (offset counters : Counters)
    (outcome : Except Fault α) :
    (offset + counters).count outcome = offset + counters.count outcome := by
  cases outcome <;> rfl

end Counters

namespace Index

/-! ## Requests and answers -/

/-- What can be asked of an index: to register something, or to tell what it
holds. -/
inductive Request where
  | call (call : Call)
  | labels (tsid : Tsid)
  | hostLabels (tsid : Tsid)
  | lookup (labels : LabelSet)
  | activity (tsid : Tsid)
  | labelValues (name : String)
  | labelNames
  | seriesCount
  | settings
  | matcher (op : MatchOp) (name value : String)
  | resolve (matchers : List Matcher) (start stop : Timestamp)
  | resolveWindow (matchers : List Matcher) (window : Window)
  | resolveWithLabels (matchers : List Matcher) (start stop : Timestamp)
  | resolveHost (limits : Pattern.Limits) (hosts : List HostMatcher)
      (start stop : Timestamp)
  | snapshot
  | stats

inductive Answer where
  | registration (outcome : Except Fault Store.Registration)
  | labels (found : Except Fault LabelSet)
  | pairs (found : Except Fault (List (String × String)))
  | number (found : Option Tsid)
  | activity (found : Except Fault Activity)
  | texts (texts : List String)
  | count (count : Nat)
  | settings (settings : Settings)
  | matcher (made : Except Fault Matcher)
  | numbers (found : Except Fault (List Tsid))
  | labelled (found : Except Fault (List (Tsid × LabelSet)))
  | entries (entries : List Series)
  | stats (stats : Stats)

def answer (index : Index) : Request → Answer × Index
  | .call call =>
    (.registration (index.perform call).1, (index.perform call).2)
  | .labels tsid => (.labels (index.labels tsid), index)
  | .hostLabels tsid => (.pairs (index.hostLabels tsid), index)
  | .lookup labels => (.number (index.lookup? labels), index)
  | .activity tsid => (.activity (index.activity tsid), index)
  | .labelValues name => (.texts (index.labelValues name), index)
  | .labelNames => (.texts index.labelNames, index)
  | .seriesCount => (.count index.seriesCount, index)
  | .settings => (.settings index.settings, index)
  | .matcher op name value => (.matcher (index.matcher op name value), index)
  | .resolve matchers start stop =>
    (.numbers (index.resolve matchers start stop).1,
      (index.resolve matchers start stop).2)
  | .resolveWindow matchers window =>
    (.numbers (index.resolveWindow matchers window).1,
      (index.resolveWindow matchers window).2)
  | .resolveWithLabels matchers start stop =>
    (.labelled (index.resolveWithLabels matchers start stop).1,
      (index.resolveWithLabels matchers start stop).2)
  | .resolveHost limits hosts start stop =>
    (.numbers (index.resolveHost limits hosts start stop).1,
      (index.resolveHost limits hosts start stop).2)
  | .snapshot => (.entries index.snapshot, index)
  | .stats => (.stats index.stats, index)

def answers (index : Index) : List Request → List Answer
  | [] => []
  | request :: rest =>
    (index.answer request).1 :: (index.answer request).2.answers rest

def after (index : Index) (requests : List Request) : Index :=
  requests.foldl (fun index request => (index.answer request).2) index

/-! ## Indexes that differ in their counters -/

/-- The index that has counted more. -/
def ahead (index : Index) (offset : Counters) : Index :=
  { index with counters := offset + index.counters }

/-- The answer of an index that has counted more. -/
def Answer.ahead (answer : Answer) (offset : Counters) : Answer :=
  match answer with
  | .stats figures =>
    .stats { figures with counters := offset + figures.counters }
  | answer => answer

section Ahead

variable (index : Index) (offset : Counters)

/-- To have counted more makes no difference to a registration. -/
theorem register_ahead (timestamp : Timestamp) (labels : LabelSet) :
    (index.ahead offset).register timestamp labels =
      ((index.register timestamp labels).1,
        (index.register timestamp labels).2.ahead offset) := by
  simp only [register, ahead, Counters.add_count]
  cases index.settings.checkLabels labels <;> rfl

theorem perform_ahead (call : Call) :
    (index.ahead offset).perform call =
      ((index.perform call).1, (index.perform call).2.ahead offset) := by
  cases call with
  | register timestamp labels => exact register_ahead index offset _ labels
  | registerPairs timestamp pairs =>
      simp only [perform, registerPairs]
      cases LabelSet.ofPairs pairs with
      | ok labels => exact register_ahead index offset timestamp labels
      | error cause => rfl
  | registerHost timestamp pairs =>
      simp only [perform, registerHost]
      cases LabelSet.ofPairs pairs with
      | ok labels => exact register_ahead index offset timestamp labels
      | error cause => rfl

theorem resolve_ahead (matchers : List Matcher) (start stop : Timestamp) :
    (index.ahead offset).resolve matchers start stop =
      ((index.resolve matchers start stop).1,
        (index.resolve matchers start stop).2.ahead offset) := by
  simp only [resolve]
  cases Window.ofBounds start stop <;> rfl

theorem resolveWithLabels_ahead (matchers : List Matcher)
    (start stop : Timestamp) :
    (index.ahead offset).resolveWithLabels matchers start stop =
      ((index.resolveWithLabels matchers start stop).1,
        (index.resolveWithLabels matchers start stop).2.ahead offset) := by
  simp only [resolveWithLabels]
  cases Window.ofBounds start stop <;> rfl

theorem resolveHost_ahead (limits : Pattern.Limits) (hosts : List HostMatcher)
    (start stop : Timestamp) :
    (index.ahead offset).resolveHost limits hosts start stop =
      ((index.resolveHost limits hosts start stop).1,
        (index.resolveHost limits hosts start stop).2.ahead offset) := by
  simp only [resolveHost]
  cases HostMatcher.toMatchers limits hosts with
  | error fault => rfl
  | ok matchers => exact resolve_ahead index offset matchers start stop

/-- It makes no difference to any request, but for the counters in the answer.
-/
theorem answer_ahead (request : Request) :
    (index.ahead offset).answer request =
      ((index.answer request).1.ahead offset,
        (index.answer request).2.ahead offset) := by
  cases request with
  | call call =>
      rw [answer, perform_ahead]
      rfl
  | resolve matchers start stop =>
      rw [answer, resolve_ahead]
      rfl
  | resolveWithLabels matchers start stop =>
      rw [answer, resolveWithLabels_ahead]
      rfl
  | resolveHost limits hosts start stop =>
      rw [answer, resolveHost_ahead]
      rfl
  | _ => rfl

/-- A session has the same answers with an index that has counted more. -/
theorem answers_ahead (requests : List Request) :
    (index.ahead offset).answers requests =
      (index.answers requests).map fun answer => answer.ahead offset := by
  induction requests generalizing index with
  | nil => rfl
  | cons request rest ih =>
      rw [answers, answers, answer_ahead, ih, List.map_cons]

theorem after_ahead (requests : List Request) :
    (index.ahead offset).after requests =
      (index.after requests).ahead offset := by
  induction requests generalizing index with
  | nil => rfl
  | cons request rest ih =>
      rw [after, List.foldl_cons, answer_ahead]
      exact ih _

end Ahead

/-! ## Indexes that can be reached -/

/-- The index comes to be in some way, and is asked for something any number of
times. -/
inductive Reachable : Index → Prop where
  | built {index : Index} {origin : Origin}
      (hbuild : origin.build = .ok index) : Reachable index
  | asked {index : Index} (hreach : Reachable index) (request : Request) :
      Reachable (index.answer request).2

theorem Reachable.performAll {index : Index} (hreach : index.Reachable)
    (calls : List Call) : (index.performAll calls).Reachable := by
  induction calls generalizing index with
  | nil => exact hreach
  | cons call rest ih => exact ih (hreach.asked (.call call))

theorem reachable_crowded : crowded.Reachable :=
  (Reachable.built build_three).performAll deployments

/-- What every index keeps that can be reached. -/
structure Regular (index : Index) : Prop where
  settled : index.store.Settled
  valid : index.settings.Valid
  frame_eq : index.store.frame = (empty index.settings).store.frame
  allowed : ∀ tsid series, index.store.catalog.series? tsid = some series →
    index.settings.Allows series.labels

variable {index : Index}

theorem Regular.limit_eq (hregular : index.Regular) :
    index.store.catalog.limit = index.settings.seriesLimit :=
  congrArg Store.Frame.limit hregular.frame_eq

theorem regular_empty {settings : Settings} (hvalid : settings.Valid) :
    (empty settings).Regular where
  settled := Store.settled_empty _ _ _
  valid := hvalid
  frame_eq := rfl
  allowed tsid series hseries := by
    have hnone : (empty settings).store.catalog.series? tsid = none :=
      Catalog.series?_empty _ _ tsid
    rw [hnone] at hseries
    cases hseries

/-- A restored index is regular. -/
theorem regular_restore {settings : Settings} {entries : List Series}
    (hbuild : restore settings entries = .ok index) : index.Regular := by
  obtain ⟨hvalid, hallowed, hloadable, rfl⟩ := restore_eq_ok_iff.mp hbuild
  have hempty := regular_empty hvalid
  have hloads := hempty.settled.loads_importBatch hloadable
  constructor
  case settled => exact hempty.settled.importBatch entries
  case valid => exact hvalid
  case frame_eq => exact Store.frame_importBatch _ entries
  case allowed =>
    intro tsid series hseries
    rcases (hloads.series?_iff tsid series).mp hseries with hold | ⟨hentry, -⟩
    · exact hempty.allowed tsid series hold
    · exact hallowed series hentry

theorem valid_default : Settings.Valid {} :=
  Settings.check_eq_ok_iff.mp (by decide +kernel)

theorem Origin.regular {origin : Origin} (hbuild : origin.build = .ok index) :
    index.Regular := by
  cases origin with
  | ofSettings settings =>
      obtain ⟨hvalid, rfl⟩ := ofSettings_eq_ok_iff.mp hbuild
      exact regular_empty hvalid
  | inMemory =>
      cases hbuild
      exact regular_empty valid_default
  | restore settings entries => exact regular_restore hbuild

/-- Counting does not matter. -/
theorem Regular.of_store (hregular : index.Regular) {other : Index}
    (hsettings : other.settings = index.settings)
    (hstore : other.store = index.store) : other.Regular where
  settled := hstore ▸ hregular.settled
  valid := hsettings ▸ hregular.valid
  frame_eq := by
    rw [hstore, hsettings]
    exact hregular.frame_eq
  allowed := by
    rw [hstore, hsettings]
    exact hregular.allowed

/-- A registration keeps an index regular. -/
theorem Regular.register (hregular : index.Regular) (timestamp : Timestamp)
    (labels : LabelSet) : (index.register timestamp labels).2.Regular := by
  rw [Index.register]
  split
  · exact hregular.of_store rfl rfl
  · rename_i hcheck
    have hallows := Settings.checkLabels_eq_ok_iff.mp hcheck
    constructor
    case settled => exact hregular.settled.register timestamp labels
    case valid => exact hregular.valid
    case frame_eq =>
      exact (hregular.settled.frame_register timestamp labels).trans
        hregular.frame_eq
    case allowed =>
      intro tsid series hseries
      have hregisters := hregular.settled.registers timestamp labels
      rcases hregisters.labels_of_series? hseries with
        hsame | ⟨old, hold, hsame⟩
      · rw [hsame]
        exact hallows
      · rw [← hsame]
        exact hregular.allowed tsid old hold

theorem Regular.perform (hregular : index.Regular) (call : Call) :
    (index.perform call).2.Regular := by
  cases call with
  | register timestamp labels => exact hregular.register timestamp labels
  | registerPairs timestamp pairs =>
      simp only [Index.perform, registerPairs]
      cases LabelSet.ofPairs pairs with
      | ok labels => exact hregular.register timestamp labels
      | error cause => exact hregular.of_store rfl rfl
  | registerHost timestamp pairs =>
      simp only [Index.perform, registerHost]
      cases LabelSet.ofPairs pairs with
      | ok labels => exact hregular.register timestamp labels
      | error cause => exact hregular

theorem Regular.resolve (hregular : index.Regular) (matchers : List Matcher)
    (start stop : Timestamp) :
    (index.resolve matchers start stop).2.Regular := by
  rw [Index.resolve]
  cases Window.ofBounds start stop with
  | error fault => exact hregular
  | ok window => exact hregular.of_store rfl rfl

/-- Whatever is asked of an index, it stays regular. -/
theorem Regular.answer (hregular : index.Regular) (request : Request) :
    (index.answer request).2.Regular := by
  cases request with
  | call call => exact hregular.perform call
  | resolve matchers start stop => exact hregular.resolve matchers start stop
  | resolveWindow matchers window => exact hregular.of_store rfl rfl
  | resolveWithLabels matchers start stop =>
      simp only [Index.answer, resolveWithLabels]
      cases Window.ofBounds start stop with
      | error fault => exact hregular
      | ok window => exact hregular.of_store rfl rfl
  | resolveHost limits hosts start stop =>
      simp only [Index.answer, resolveHost]
      cases HostMatcher.toMatchers limits hosts with
      | error fault => exact hregular
      | ok matchers => exact hregular.resolve matchers start stop
  | _ => exact hregular

/-- Every index that can be reached is regular. -/
theorem Reachable.regular (hreach : index.Reachable) : index.Regular := by
  induction hreach with
  | built hbuild => exact Origin.regular hbuild
  | asked _ request ih => exact ih.answer request

end Index

end SeriesIndex
