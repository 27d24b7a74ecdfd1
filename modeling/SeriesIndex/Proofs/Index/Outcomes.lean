import Mathlib
import SeriesIndex.Proofs.Index.Registration
import SeriesIndex.Proofs.Store.Continued

/-!
# Outcomes of many calls

A call is checked by itself first: its pairs have to make a label set, and the
settings have to allow it.  That check sees nothing of the store.  A call that
passes it is a registration in the store, and what a run of calls does to the
store is therefore told by the label sets of the calls that were accepted.
-/

namespace SeriesIndex.Index

namespace Call

variable {settings : Settings} {call : Call} {labels : LabelSet}

/-- The label set of a call that gets through to the store, or what is wrong
with the call by itself. -/
def check (settings : Settings) (call : Call) : Except LabelFault LabelSet :=
  match call with
  | register _ labels => allowed labels
  | registerPairs _ pairs => (LabelSet.ofPairs pairs).bind allowed
  | registerHost _ pairs => (LabelSet.ofPairs pairs).bind allowed
where
  allowed (labels : LabelSet) : Except LabelFault LabelSet :=
    (settings.checkLabels labels).map fun _ => labels

theorem allowed_eq_ok_iff {other : LabelSet} :
    check.allowed settings labels = .ok other ↔
      labels = other ∧ settings.Allows labels := by
  rw [check.allowed, ← Settings.checkLabels_eq_ok_iff]
  cases settings.checkLabels labels with
  | error cause => simp [Except.map]
  | ok value => simp [Except.map]

/-- A call passes its check if it makes a label set that is allowed. -/
theorem check_eq_ok_iff :
    call.check settings = .ok labels ↔
      call.labels? = some labels ∧ settings.Allows labels := by
  have hallowed (other : LabelSet) :
      check.allowed settings other = .ok labels ↔
        some other = some labels ∧ settings.Allows labels := by
    rw [allowed_eq_ok_iff, Option.some_inj]
    exact and_congr_right fun hsame => hsame ▸ Iff.rfl
  have hpairs (pairs : List (String × String)) :
      (LabelSet.ofPairs pairs).bind (check.allowed settings) = .ok labels ↔
        (LabelSet.ofPairs pairs).toOption = some labels ∧
          settings.Allows labels := by
    cases LabelSet.ofPairs pairs with
    | error cause => simp [Except.bind, Except.toOption]
    | ok other => exact hallowed other
  cases call with
  | register timestamp other => exact hallowed other
  | registerPairs timestamp pairs => exact hpairs pairs
  | registerHost timestamp pairs => exact hpairs pairs

/-- Whether a refusal of the call is counted. -/
def isCounted : Call → Bool
  | registerHost _ pairs => (LabelSet.ofPairs pairs).isOk
  | _ => true

/-- Pairs make the label set that has exactly them, in whatever order. -/
theorem labels?_registerPairs_eq_some_iff {timestamp : Timestamp}
    {pairs : List (String × String)} :
    (registerPairs timestamp pairs).labels? = some labels ↔
      labels.toPairs.Perm pairs := by
  rw [← LabelSet.ofPairs_eq_ok_iff, labels?]
  cases LabelSet.ofPairs pairs with
  | error cause => simp [Except.toOption]
  | ok other => simp [Except.toOption]

end Call

variable {index : Index}

/-- What comes of a call: its answer, and the store after it. -/
inductive Performs (index : Index) (call : Call) :
    Except Fault Store.Registration × Index → Prop where
  | refused {cause : LabelFault} {after : Index}
      (hcheck : call.check index.settings = .error cause)
      (hstore : after.store = index.store) :
      Performs index call (.error (.labels cause), after)
  | reached {labels : LabelSet} {after : Index}
      (hcheck : call.check index.settings = .ok labels)
      (hstore : after.store =
        (index.store.register call.timestamp labels).2) :
      Performs index call
        ((index.store.register call.timestamp labels).1, after)

theorem performs_register {call : Call} {labels : LabelSet}
    (hcheck : call.check index.settings =
      Call.check.allowed index.settings labels) :
    index.Performs call (index.register call.timestamp labels) := by
  rw [register]
  rw [Call.check.allowed] at hcheck
  cases hlabels : index.settings.checkLabels labels with
  | error cause =>
      rw [hlabels] at hcheck
      exact .refused hcheck rfl
  | ok value =>
      rw [hlabels] at hcheck
      exact .reached hcheck rfl

/-- A call is refused before it reaches the store, or registers its label set
there. -/
theorem performs (index : Index) (call : Call) :
    index.Performs call (index.perform call) := by
  cases call with
  | register timestamp labels => exact performs_register rfl
  | registerPairs timestamp pairs =>
      simp only [perform, registerPairs]
      cases hpairs : LabelSet.ofPairs pairs with
      | error cause => exact .refused (by rw [Call.check, hpairs]; rfl) rfl
      | ok labels =>
          have hcheck : (Call.registerPairs timestamp pairs).check
              index.settings = Call.check.allowed index.settings labels := by
            rw [Call.check, hpairs]
            rfl
          exact performs_register hcheck
  | registerHost timestamp pairs =>
      simp only [perform, registerHost]
      cases hpairs : LabelSet.ofPairs pairs with
      | error cause => exact .refused (by rw [Call.check, hpairs]; rfl) rfl
      | ok labels =>
          have hcheck : (Call.registerHost timestamp pairs).check
              index.settings = Call.check.allowed index.settings labels := by
            rw [Call.check, hpairs]
            rfl
          exact performs_register hcheck

theorem settings_perform (index : Index) (call : Call) :
    (index.perform call).2.settings = index.settings := by
  have hregister (timestamp : Timestamp) (labels : LabelSet) :
      (index.register timestamp labels).2.settings = index.settings := by
    rw [register]
    split <;> rfl
  cases call with
  | register timestamp labels => exact hregister timestamp labels
  | registerPairs timestamp pairs =>
      rw [perform, registerPairs]
      split
      · exact hregister timestamp _
      · rfl
  | registerHost timestamp pairs =>
      rw [perform, registerHost]
      split
      · exact hregister timestamp _
      · rfl

/-- A call is counted by its outcome, if its kind is counted at all. -/
theorem counters_perform (index : Index) (call : Call) :
    (index.perform call).2.counters =
      if call.isCounted then index.counters.count (index.perform call).1
      else index.counters := by
  have hregister (timestamp : Timestamp) (labels : LabelSet) :
      (index.register timestamp labels).2.counters =
        index.counters.count (index.register timestamp labels).1 := by
    rw [register]
    split <;> rfl
  cases call with
  | register timestamp labels => exact hregister timestamp labels
  | registerPairs timestamp pairs =>
      rw [perform, registerPairs]
      split
      · exact hregister timestamp _
      · rfl
  | registerHost timestamp pairs =>
      rw [perform, registerHost, Call.isCounted]
      cases LabelSet.ofPairs pairs with
      | ok labels => exact hregister timestamp labels
      | error cause => rfl

/-! ## Accepted calls -/

/-- A call that is accepted, with its answer. -/
def acceptance (call : Call) :
    Except Fault Store.Registration → List (Call × Store.Registration)
  | .ok registration => [(call, registration)]
  | .error _ => []

/-- The calls that are accepted, each with its answer, in their order. -/
def accepted (index : Index) : List Call → List (Call × Store.Registration)
  | [] => []
  | call :: rest =>
    acceptance call (index.perform call).1 ++
      (index.perform call).2.accepted rest

def labelSets (entries : List (Call × Store.Registration)) : List LabelSet :=
  entries.filterMap fun entry => entry.1.labels?

theorem labelSets_acceptance {call : Call} {labels : LabelSet}
    (hlabels : call.labels? = some labels)
    (outcome : Except Fault Store.Registration) :
    labelSets (acceptance call outcome) =
      Store.acceptedBy labels outcome := by
  cases outcome with
  | error fault => rfl
  | ok registration => simp [labelSets, acceptance, hlabels, Store.acceptedBy]

theorem labelSets_append (left right : List (Call × Store.Registration)) :
    labelSets (left ++ right) = labelSets left ++ labelSets right :=
  List.filterMap_append

/-! ## Runs of calls -/

section Runs

variable {start : Store} {seen : List LabelSet} {call : Call}
  {registration : Store.Registration}

theorem continues_perform (hcontinues : start.Continues seen index.store)
    (call : Call) :
    start.Continues
      (seen ++ labelSets (acceptance call (index.perform call).1))
      (index.perform call).2.store := by
  have hperforms := index.performs call
  generalize index.perform call = result at *
  cases hperforms with
  | refused hcheck hstore =>
      rw [hstore]
      exact (List.append_nil seen).symm ▸ hcontinues
  | reached hcheck hstore =>
      rw [hstore, labelSets_acceptance (Call.check_eq_ok_iff.mp hcheck).1]
      exact hcontinues.register _ _

/-- What calls have accepted is what the store has come to hold since. -/
theorem continues_performAll (hcontinues : start.Continues seen index.store)
    (calls : List Call) :
    start.Continues (seen ++ labelSets (index.accepted calls))
      (index.performAll calls).store := by
  induction calls generalizing index seen with
  | nil => exact (List.append_nil seen).symm ▸ hcontinues
  | cons call rest ih =>
      rw [accepted, labelSets_append, ← List.append_assoc]
      exact ih (continues_perform hcontinues call)

theorem grows_perform (hsettled : index.store.Settled) (call : Call) :
    index.store.Grows (index.perform call).2.store := by
  have hperforms := index.performs call
  generalize index.perform call = result at *
  cases hperforms with
  | refused hcheck hstore => rw [hstore]
  | reached hcheck hstore =>
      rw [hstore]
      exact hsettled.grows_register _ _

/-- Calls take nothing away. -/
theorem grows_performAll (hcontinues : start.Continues seen index.store)
    (calls : List Call) :
    index.store.Grows (index.performAll calls).store := by
  induction calls generalizing index seen with
  | nil => exact .refl _
  | cons call rest ih =>
      exact (grows_perform hcontinues.settled call).trans
        (ih (continues_perform hcontinues call))

/-- An accepted call is answered with the number that its label set goes by from
then on, and as new if nothing has accepted that label set before. -/
theorem answered_perform (hcontinues : start.Continues seen index.store)
    (hok : (index.perform call).1 = .ok registration) :
    ∃ labels, call.labels? = some labels ∧
      (index.perform call).2.store.catalog.lookup? labels =
        some registration.tsid ∧
      (registration.isNew = true ↔
        labels ∉ seen ∧ start.catalog.lookup? labels = none) := by
  have hperforms := index.performs call
  generalize index.perform call = result at *
  cases hperforms with
  | refused hcheck hstore => cases hok
  | reached hcheck hstore =>
      refine ⟨_, (Call.check_eq_ok_iff.mp hcheck).1, ?_,
        hcontinues.isNew_iff hok⟩
      rw [hstore]
      exact (hcontinues.settled.register_eq_ok hok).1

/-- So it is in a run of calls, wherever the call stands in it. -/
theorem answered_performAll (hcontinues : start.Continues seen index.store)
    {calls : List Call} {before rest : List (Call × Store.Registration)}
    (hsplit : index.accepted calls = before ++ (call, registration) :: rest) :
    ∃ labels, call.labels? = some labels ∧
      (index.performAll calls).store.catalog.lookup? labels =
        some registration.tsid ∧
      (registration.isNew = true ↔
        labels ∉ seen ++ labelSets before ∧
          start.catalog.lookup? labels = none) := by
  induction calls generalizing index seen before with
  | nil => simp [accepted] at hsplit
  | cons first others ih =>
      have hnext := continues_perform hcontinues first
      rw [accepted] at hsplit
      cases houtcome : (index.perform first).1 with
      | error fault =>
          rw [houtcome] at hsplit hnext
          rw [acceptance, labelSets, List.filterMap_nil,
            List.append_nil] at hnext
          exact ih hnext hsplit
      | ok answer =>
          rw [houtcome] at hsplit hnext
          cases before with
          | nil =>
              obtain ⟨hfirst, -⟩ := List.cons.inj hsplit
              cases hfirst
              obtain ⟨labels, hlabels, hkey, hnew⟩ :=
                answered_perform hcontinues houtcome
              refine ⟨labels, hlabels, ?_, by simpa [labelSets] using hnew⟩
              exact (grows_performAll hnext others).key labels _ hkey
          | cons entry before =>
              obtain ⟨rfl, hothers⟩ := List.cons.inj hsplit
              obtain ⟨labels, hlabels, hkey, hnew⟩ := ih hnext hothers
              refine ⟨labels, hlabels, hkey, ?_⟩
              rw [List.append_assoc, ← labelSets_append] at hnew
              exact hnew

end Runs

end SeriesIndex.Index
