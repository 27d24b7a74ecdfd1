import Mathlib
import SeriesIndex.Proofs.Index.Sessions
import SeriesIndex.Proofs.LabelPairs

/-!
# Outcomes of registrations

A registration can be refused by the settings, find its label set registered,
fail because the index is full or out of numbers, or add a series.  `Verdict`
gives the condition of each outcome in order of precedence, in terms of the
settings and of the published series.  A registration that fails changes nothing
but the count of rejections, at whatever layer it failed and whatever was taken
before.
-/

namespace SeriesIndex.Index

variable {index : Index} {timestamp : Timestamp} {labels : LabelSet}

def Registered (index : Index) (labels : LabelSet) (tsid : Tsid) : Prop :=
  ∃ series ∈ index.snapshot, series.labels = labels ∧ series.tsid = tsid

inductive Verdict (index : Index) (labels : LabelSet) :
    Except Fault Store.Registration → Prop where
  | refused {cause : LabelFault}
      (hrefused : index.settings.Refuses labels cause) :
      Verdict index labels (.error (.labels cause))
  | known {tsid : Tsid} (hallowed : index.settings.Allows labels)
      (hknown : index.Registered labels tsid) :
      Verdict index labels (.ok ⟨tsid, false⟩)
  | full (hallowed : index.settings.Allows labels)
      (hunknown : ∀ tsid, ¬index.Registered labels tsid)
      (hlimit : index.settings.seriesLimit ≠ 0)
      (hfull : index.settings.seriesLimit ≤ index.seriesCount) :
      Verdict index labels (.error (.seriesLimit index.settings.seriesLimit))
  | exhausted (hallowed : index.settings.Allows labels)
      (hunknown : ∀ tsid, ¬index.Registered labels tsid)
      (hroom : index.settings.seriesLimit = 0 ∨
        index.seriesCount < index.settings.seriesLimit)
      (hlast : index.store.catalog.nextTsid = Tsid.last) :
      Verdict index labels (.error (.internal .tsidsExhausted))
  | new (hallowed : index.settings.Allows labels)
      (hunknown : ∀ tsid, ¬index.Registered labels tsid)
      (hroom : index.settings.seriesLimit = 0 ∨
        index.seriesCount < index.settings.seriesLimit)
      (hlast : index.store.catalog.nextTsid ≠ Tsid.last) :
      Verdict index labels (.ok ⟨index.store.catalog.nextTsid, true⟩)

/-- The index that has rejected one more registration. -/
def rejecting (index : Index) : Index :=
  { index with
    counters :=
      { index.counters with rejected := index.counters.rejected + 1 } }

/-- The index that has accepted one more registration, with the store after
it. -/
def accepting (index : Index) (store : Store) : Index :=
  { index with
    store
    counters :=
      { index.counters with
        registrations := index.counters.registrations + 1 } }

/-- What a registration does to the index, by its outcome. -/
inductive Effect (index : Index) (timestamp : Timestamp) (labels : LabelSet) :
    Except Fault Store.Registration × Index → Prop where
  | failed {fault : Fault} :
      Effect index timestamp labels (.error fault, index.rejecting)
  | known {series : Series} {store : Store} (hknown : series ∈ index.snapshot)
      (hlabels : series.labels = labels)
      (hwidens : index.store.Widens series timestamp store) :
      Effect index timestamp labels
        (.ok ⟨series.tsid, false⟩, index.accepting store)
  | new {store : Store}
      (hloads : index.store.Loads
        [⟨index.store.catalog.nextTsid, labels, .single timestamp⟩] store) :
      Effect index timestamp labels
        (.ok ⟨index.store.catalog.nextTsid, true⟩, index.accepting store)

/-- What comes of the registration of pairs: they are checked first, and then
their label set is registered. -/
inductive PairsOutcome (index : Index) (timestamp : Timestamp)
    (pairs : List (String × String)) :
    Except Fault Store.Registration × Index → Prop where
  | unusable {cause : LabelFault}
      (hunusable : LabelSet.Unusable (pairs.map Prod.fst) cause) :
      PairsOutcome index timestamp pairs
        (.error (.labels cause), index.rejecting)
  | usable {labels : LabelSet} (hpairs : labels.toPairs.Perm pairs) :
      PairsOutcome index timestamp pairs (index.register timestamp labels)

/-! ## Layers of a registration -/

/-- Labels that are refused do not reach the store. -/
theorem register_of_refuses {cause : LabelFault}
    (hrefuses : index.settings.Refuses labels cause) :
    index.register timestamp labels =
      (.error (.labels cause), index.rejecting) := by
  rw [register, Settings.checkLabels_eq_error_iff.mpr hrefuses]
  rfl

/-- Labels that are allowed are registered there. -/
theorem register_of_allows (hallows : index.settings.Allows labels) :
    index.register timestamp labels =
      ((index.store.register timestamp labels).1,
        { index with
          store := (index.store.register timestamp labels).2
          counters := index.counters.count
            (index.store.register timestamp labels).1 }) := by
  rw [register, Settings.checkLabels_eq_ok_iff.mpr hallows]

theorem refuses_or_allows (settings : Settings) (labels : LabelSet) :
    (∃ cause, settings.Refuses labels cause) ∨ settings.Allows labels := by
  cases hcheck : settings.checkLabels labels with
  | error cause =>
      exact .inl ⟨cause, Settings.checkLabels_eq_error_iff.mp hcheck⟩
  | ok value => exact .inr (Settings.checkLabels_eq_ok_iff.mp hcheck)

/-- A label set is registered under the number at which it is found. -/
theorem Regular.registered_iff (hregular : index.Regular) {tsid : Tsid} :
    index.Registered labels tsid ↔
      index.store.catalog.lookup? labels = some tsid := by
  rw [hregular.settled.lookup?_eq_some_iff]
  constructor
  · rintro ⟨series, hseries, hlabels, rfl⟩
    exact ⟨series, hregular.settled.mem_snapshot.mp hseries, hlabels⟩
  · rintro ⟨series, hseries, hlabels⟩
    obtain rfl := hregular.settled.tsid_eq tsid series hseries
    exact ⟨series, hregular.settled.mem_snapshot.mpr hseries, hlabels, rfl⟩

theorem mem_registered_iff :
    labels ∈ index.store.registered ↔
      ∃ tsid, index.Registered labels tsid := by
  rw [Store.registered, List.mem_map]
  constructor
  · rintro ⟨series, hseries, hlabels⟩
    exact ⟨series.tsid, series, hseries, hlabels, rfl⟩
  · rintro ⟨tsid, series, hseries, hlabels, -⟩
    exact ⟨series, hseries, hlabels⟩

theorem Regular.hasRoom_iff (hregular : index.Regular) :
    index.store.HasRoom ↔
      index.settings.seriesLimit = 0 ∨
        index.seriesCount < index.settings.seriesLimit := by
  rw [Store.HasRoom, hregular.limit_eq]
  rfl

/-! ## Outcomes and effects -/

/-- Every registration ends as one of the verdicts says. -/
theorem Regular.verdict (hregular : index.Regular) (timestamp : Timestamp)
    (labels : LabelSet) :
    index.Verdict labels (index.register timestamp labels).1 := by
  rcases refuses_or_allows index.settings labels with
    ⟨cause, hrefuses⟩ | hallows
  · rw [register_of_refuses hrefuses]
    exact .refused hrefuses
  · rw [register_of_allows hallows]
    have hunknown (hnot : labels ∉ index.store.registered) (tsid : Tsid) :
        ¬index.Registered labels tsid :=
      fun hknown => hnot (mem_registered_iff.mpr ⟨tsid, hknown⟩)
    generalize hregister : index.store.register timestamp labels = result
    have hregisters := hregular.settled.registers timestamp labels
    rw [hregister] at hregisters
    cases hregisters with
    | known hknown hlabels hwidens =>
        exact .known hallows ⟨_, hknown, hlabels, rfl⟩
    | full hnot hfull =>
        rw [hregular.hasRoom_iff, not_or, Nat.not_lt] at hfull
        rw [hregular.limit_eq]
        exact .full hallows (hunknown hnot) hfull.1 hfull.2
    | exhausted hnot hroom hlast =>
        exact .exhausted hallows (hunknown hnot)
          (hregular.hasRoom_iff.mp hroom) hlast
    | new hnot hroom hlast hloads =>
        exact .new hallows (hunknown hnot) (hregular.hasRoom_iff.mp hroom) hlast

/-- Where a condition applies, none of those before it does. -/
theorem Verdict.register_eq (hregular : index.Regular)
    {outcome : Except Fault Store.Registration}
    (hverdict : index.Verdict labels outcome) :
    (index.register timestamp labels).1 = outcome := by
  have hkey (hunknown : ∀ tsid, ¬index.Registered labels tsid) :
      index.store.catalog.lookup? labels = none := by
    rw [Option.eq_none_iff_forall_ne_some]
    exact fun tsid => mt hregular.registered_iff.mpr (hunknown tsid)
  cases hverdict with
  | refused hrefused => rw [register_of_refuses hrefused]
  | known hallowed hknown =>
      have hkey := hregular.registered_iff.mp hknown
      rw [register_of_allows hallowed,
        Store.register_of_key hkey (hregular.settled.isSome_of_key hkey)]
  | full hallowed hunknown hlimit hfull =>
      have hfull : ¬index.store.HasRoom := by
        rw [hregular.hasRoom_iff, not_or, Nat.not_lt]
        exact ⟨hlimit, hfull⟩
      rw [register_of_allows hallowed, Store.register_of_full (hkey hunknown)
        (Bool.eq_false_of_not_eq_true (mt Store.hasRoom_one_iff.mp hfull)),
        hregular.limit_eq]
  | exhausted hallowed hunknown hroom hlast =>
      rw [register_of_allows hallowed, Store.register_of_exhausted
        (hkey hunknown)
        (Store.hasRoom_one_iff.mpr (hregular.hasRoom_iff.mpr hroom)) hlast]
  | new hallowed hunknown hroom hlast =>
      rw [register_of_allows hallowed, Store.register_of_new (hkey hunknown)
        (Store.hasRoom_one_iff.mpr (hregular.hasRoom_iff.mpr hroom)) hlast]

/-- A registration does to the index what its outcome tells. -/
theorem Regular.effect (hregular : index.Regular) (timestamp : Timestamp)
    (labels : LabelSet) :
    index.Effect timestamp labels (index.register timestamp labels) := by
  rcases refuses_or_allows index.settings labels with
    ⟨cause, hrefuses⟩ | hallows
  · rw [register_of_refuses hrefuses]
    exact .failed
  · rw [register_of_allows hallows]
    generalize hregister : index.store.register timestamp labels = result
    have hregisters := hregular.settled.registers timestamp labels
    rw [hregister] at hregisters
    cases hregisters with
    | known hknown hlabels hwidens => exact .known hknown hlabels hwidens
    | full _ _ => exact .failed
    | exhausted _ _ _ => exact .failed
    | new _ _ _ hloads => exact .new hloads

/-- Pairs are registered as the label set that they make, if they make one. -/
theorem pairsOutcome (index : Index) (timestamp : Timestamp)
    (pairs : List (String × String)) :
    index.PairsOutcome timestamp pairs
      (index.registerPairs timestamp pairs) := by
  rw [registerPairs]
  cases hpairs : LabelSet.ofPairs pairs with
  | ok labels => exact .usable (LabelSet.ofPairs_eq_ok_iff.mp hpairs)
  | error cause => exact .unusable (LabelSet.ofPairs_eq_error_iff.mp hpairs)

/-- The outcome of a registration is the one whose condition applies first.  If
it is an error, the index stays as it is but for the count of rejections; if the
label set is known, its interval is widened and nothing else happens.  For pairs
the same holds once they make a label set. -/
theorem register_verdict (hreach : index.Reachable) (timestamp : Timestamp)
    (labels : LabelSet) (pairs : List (String × String)) :
    (∀ outcome, (index.register timestamp labels).1 = outcome ↔
      index.Verdict labels outcome) ∧
    index.Effect timestamp labels (index.register timestamp labels) ∧
    index.PairsOutcome timestamp pairs
      (index.registerPairs timestamp pairs) := by
  have hregular := hreach.regular
  refine ⟨fun outcome => ⟨?_, fun hverdict => hverdict.register_eq hregular⟩,
    hregular.effect timestamp labels, index.pairsOutcome timestamp pairs⟩
  rintro rfl
  exact hregular.verdict timestamp labels

/-- A label set for which the full index has no room, and pairs that give one
name twice. -/
theorem register_verdict_crowded :
    crowded.Reachable ∧
      (∀ outcome, (crowded.register 9 (deployment "test" "api")).1 = outcome ↔
        crowded.Verdict (deployment "test" "api") outcome) ∧
      crowded.Verdict (deployment "test" "api") (.error (.seriesLimit 3)) ∧
      crowded.Verdict (deployment "dev" "api") (.ok ⟨2, false⟩) ∧
      crowded.Effect 9 (deployment "test" "api")
        (crowded.register 9 (deployment "test" "api")) ∧
      crowded.PairsOutcome 9 [("job", "api"), ("env", "dev"), ("job", "db")]
        (crowded.registerPairs 9
          [("job", "api"), ("env", "dev"), ("job", "db")]) := by
  have hverdict := register_verdict reachable_crowded 9
  obtain ⟨houtcome, heffect, hpairs⟩ := hverdict (deployment "test" "api")
    [("job", "api"), ("env", "dev"), ("job", "db")]
  refine ⟨reachable_crowded, houtcome, ?_, ?_, heffect, hpairs⟩
  · exact (houtcome _).mp (by decide +kernel)
  · exact ((hverdict (deployment "dev" "api") []).1 _).mp (by decide +kernel)

end SeriesIndex.Index
