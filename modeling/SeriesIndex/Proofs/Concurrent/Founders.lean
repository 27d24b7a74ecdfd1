import Mathlib
import SeriesIndex.Proofs.Concurrent.Sound

/-!
# Who gives numbers out

A label set has its number from one call: from the registration that took the
number, or from the batch that brought it.  The call is under way until its
series is written, and from then on its answer tells.  In every reachable world
each label set that has a number has exactly one such call.
-/

namespace SeriesIndex.Concurrent

/-- The answer tells that the call gave the number to the label set. -/
def Answer.Founds (request : Request) (labels : LabelSet) (tsid : Tsid) :
    Answer → Prop
  | .registered outcome => outcome = .ok ⟨tsid, true⟩ ∧
      ∃ timestamp, request = .register timestamp labels
  | .imported outcome => outcome = .ok () ∧ ∃ entries,
      request = .importBatch entries ∧
        ∃ entry ∈ entries, entry.labels = labels ∧ entry.tsid = tsid
  | .resolved _ => False

/-- The call has given the number to the label set, and goes on. -/
def Task.Founds (request : Request) (labels : LabelSet) (tsid : Tsid) :
    Task → Prop
  | enroll _ series none => series.labels = labels ∧ series.tsid = tsid
  | enroll _ _ (some _) => ∃ entries, request = .importBatch entries ∧
      ∃ entry ∈ entries, entry.labels = labels ∧ entry.tsid = tsid
  | count outcome => (Answer.registered outcome).Founds request labels tsid
  | _ => False

def Next.Founds (request : Request) (labels : LabelSet) (tsid : Tsid) :
    Next → Prop
  | .goOn task => task.Founds request labels tsid
  | .finish answer => answer.Founds request labels tsid

variable {shared after : Shared} {number : Nat} {task : Task} {next : Next}
  {request : Request} {labels : LabelSet} {tsid : Tsid}

theorem not_founds_error (fault : Fault) :
    ¬(Answer.registered (.error fault)).Founds request labels tsid :=
  fun hfounds => nomatch hfounds.1

theorem not_founds_importError (fault : Fault) :
    ¬(Answer.imported (.error fault)).Founds request labels tsid :=
  fun hfounds => nomatch hfounds.1

theorem not_founds_old (other : Tsid) :
    ¬(Answer.registered (.ok ⟨other, false⟩)).Founds request labels tsid :=
  fun hfounds => nomatch hfounds.1

/-- A call that begins has founded nothing yet. -/
theorem not_founds_start (shared : Shared) (started : Request) :
    ¬(Task.start shared started).Founds request labels tsid := by
  cases started with
  | register timestamp own =>
      rw [Task.start]
      split
      · exact id
      · exact not_founds_error _
  | importBatch entries => exact id
  | resolve matchers window => cases matchers <;> exact id

/-- A batch founds all its entries, at whichever of them it is. -/
theorem founds_loadNext (entries rest : List Series) :
    (Task.loadNext shared number rest).2.Founds (.importBatch entries) labels
        tsid ↔
      ∃ entry ∈ entries, entry.labels = labels ∧ entry.tsid = tsid := by
  cases rest <;> simp [Task.loadNext, Next.Founds, Answer.Founds, Task.Founds]

theorem not_founds_checkNext (entries rest : List Series) :
    ¬(Task.checkNext entries rest).Founds request labels tsid := by
  cases rest <;> exact id

/-- A query founds nothing. -/
theorem Task.Queries.not_founds {window : Window}
    (hqueries : task.Queries window) :
    ¬task.Founds request labels tsid := by
  cases task with
  | enroll | count => exact absurd hqueries id
  | _ => exact id

theorem Next.Queries.not_founds {window : Window}
    (hqueries : next.Queries window) :
    ¬next.Founds request labels tsid := by
  cases next with
  | goOn task => exact Task.Queries.not_founds hqueries
  | finish answer =>
      obtain ⟨outcome, rfl⟩ := hqueries
      exact id

theorem founds_enroll (stage later : Stage) (series : Series)
    (batch : Option (List Series)) :
    (Task.enroll later series batch).Founds request labels tsid ↔
      (Task.enroll stage series batch).Founds request labels tsid := by
  cases batch <;> rfl

/-- The writes of a series found what they set out to found. -/
theorem founds_stepEnroll {stage : Stage} {series : Series}
    {batch : Option (List Series)}
    (hvalid : (Task.enroll stage series batch).Valid shared.store request) :
    (Task.stepEnroll shared number stage series batch).2.Founds request labels
        tsid ↔
      (Task.enroll stage series batch).Founds request labels tsid := by
  cases stage with
  | store => exact founds_enroll _ _ series batch
  | label first rest => exact founds_enroll _ _ series batch
  | publish => exact founds_enroll _ _ series batch
  | key =>
      cases batch with
      | none =>
          obtain ⟨⟨timestamp, rfl⟩, -⟩ := hvalid
          simp [Task.stepEnroll, Next.Founds, Task.Founds, Answer.Founds,
            and_comm]
      | some rest =>
          obtain ⟨entries, rfl, -⟩ := hvalid
          rw [Task.stepEnroll, founds_loadNext]
          simp [Task.Founds]

theorem iff_or_of_not {p q r : Prop} (hp : ¬p) (hq : ¬q) (hr : ¬r) :
    p ↔ q ∨ r :=
  iff_of_false hp (not_or.mpr ⟨hq, hr⟩)

/-- A call has given a number out if it had before or if the step does. -/
theorem Moves.founds_iff (hmoves : Moves shared number task after next)
    (hvalid : task.Valid shared.store request) :
    next.Founds request labels tsid ↔
      task.Founds request labels tsid ∨
        task.Grants shared.store labels tsid := by
  cases hmoves with
  | allocate hlast =>
      constructor
      · exact fun hfounds => .inr ⟨hlast, hfounds⟩
      · rintro (hfounds | ⟨-, hgrants⟩)
        · exact absurd hfounds id
        · exact hgrants
  | exhausted hlast =>
      exact iff_or_of_not id id fun hgrants => hgrants.1 hlast
  | enroll =>
      rw [founds_stepEnroll hvalid]
      exact (or_iff_left id).symm
  | count => exact (or_iff_left id).symm
  | raiseCount =>
      obtain ⟨rfl, -⟩ := hvalid
      rw [founds_loadNext]
      exact (or_iff_right id).symm
  | widenUp => exact iff_or_of_not (not_founds_old _) id id
  | sound | free => exact iff_or_of_not (not_founds_checkNext _ _) id id
  | query htask hnext =>
      exact iff_or_of_not hnext.not_founds htask.not_founds
        (htask.not_grants _ _ _)
  | full | giveBack | orphaned =>
      exact iff_or_of_not (not_founds_error _) id id
  | unsound | taken | crowded =>
      exact iff_or_of_not (not_founds_importError _) id id
  | _ => exact iff_or_of_not id id id

end SeriesIndex.Concurrent
