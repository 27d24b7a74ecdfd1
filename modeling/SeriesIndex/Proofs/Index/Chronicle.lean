import Mathlib
import SeriesIndex.Proofs.Index.Outcomes

/-!
# Answers that follow the history of registrations

Everything that a new index answers later can be read off the calls that it
accepted, in their order.  The label sets of these calls, each taken where it
comes first, are numbered from one in turn; what was refused in between leaves
no gap.  An interval runs from the least to the greatest timestamp of the calls
for its label set.
-/

namespace SeriesIndex

instance : Std.LawfulOrderMax Timestamp where
  max_eq_or := Timestamp.max_eq_or
  max_le_iff a b c := by
    rw [Int64.le_iff_toInt_le, Timestamp.toInt_max, max_le_iff,
      ← Int64.le_iff_toInt_le, ← Int64.le_iff_toInt_le]

namespace Store

/-- On an empty store everything is new. -/
theorem newcomers_empty (keyStripes nameStripes limit : Nat)
    (seen : List LabelSet) :
    (Store.empty keyStripes nameStripes limit).newcomers seen =
      seen.eraseDups := by
  have hall : ∀ labels ∈ seen,
      ((Store.empty keyStripes nameStripes limit).catalog.lookup?
        labels).isNone = true := by
    intro labels _
    rw [Store.empty, Catalog.lookup?_empty, Option.isNone_none]
  rw [newcomers, List.filter_eq_self.mpr hall]

end Store

namespace Index

variable {index other : Index} {calls : List Call}

/-- An index that was just built without series. -/
inductive Unused : Index → Prop where
  | ofSettings {settings : Settings} {index : Index}
      (hbuild : ofSettings settings = .ok index) : Unused index
  | inMemory : Unused inMemory

theorem Unused.eq_empty (hunused : index.Unused) :
    ∃ settings, index = empty settings := by
  cases hunused with
  | ofSettings hbuild => exact ⟨_, eq_empty_of_ofSettings hbuild⟩
  | inMemory => exact ⟨{}, rfl⟩

/-- The distinct label sets of accepted calls, in order of first acceptance. -/
def distinct (entries : List (Call × Store.Registration)) : List LabelSet :=
  (labelSets entries).eraseDups

def timestamps (entries : List (Call × Store.Registration))
    (labels : LabelSet) : List Timestamp :=
  (entries.filter fun entry => entry.1.labels? = some labels).map
    fun entry => entry.1.timestamp

/-- What an index answers follows from the calls that it accepted. -/
structure Chronicles (entries : List (Call × Store.Registration))
    (after : Index) : Prop where
  /-- Each call is answered with the place of its label set, and as new if it
  is the first call for it. -/
  answered : ∀ before call registration rest,
    entries = before ++ (call, registration) :: rest →
    ∃ labels place, call.labels? = some labels ∧
      (distinct entries)[place]? = some labels ∧
      registration.tsid.toNat = place + 1 ∧
      (registration.isNew = true ↔ labels ∉ labelSets before)
  published_iff : ∀ tsid, tsid ∈ after.store.catalog.published ↔
    1 ≤ tsid.toNat ∧ tsid.toNat ≤ (distinct entries).length
  lookup?_iff : ∀ labels tsid, after.lookup? labels = some tsid ↔
    ∃ place, (distinct entries)[place]? = some labels ∧
      tsid.toNat = place + 1
  labels_eq : ∀ place labels tsid,
    (distinct entries)[place]? = some labels → tsid.toNat = place + 1 →
    after.labels tsid = .ok labels
  activity_eq : ∀ place labels tsid,
    (distinct entries)[place]? = some labels → tsid.toNat = place + 1 →
    ∃ activity, after.activity tsid = .ok activity ∧
      (timestamps entries labels).min? = some activity.earliest ∧
      (timestamps entries labels).max? = some activity.latest
  unknown : ∀ tsid : Tsid,
    tsid.toNat = 0 ∨ (distinct entries).length < tsid.toNat →
    after.labels tsid = .error (.unknownSeries tsid) ∧
      after.activity tsid = .error (.unknownSeries tsid)

/-! ## Intervals -/

/-- The sightings in the history of an index are its accepted calls. -/
theorem history_eq (index : Index) (calls : List Call) :
    index.history calls =
      (index.accepted calls).flatMap fun entry =>
        entry.1.labels?.toList.map fun labels =>
          ⟨entry.2.tsid, labels, .single entry.1.timestamp⟩ := by
  induction calls generalizing index with
  | nil => rfl
  | cons call rest ih =>
      rw [history, accepted, List.flatMap_append, ih, sightings]
      congr 1
      cases hlabels : call.labels? <;> cases (index.perform call).1 <;>
        simp [acceptance, Store.sightings, hlabels]

theorem mem_timestamps {entries : List (Call × Store.Registration)}
    {labels : LabelSet} {timestamp : Timestamp} :
    timestamp ∈ timestamps entries labels ↔
      ∃ entry ∈ entries, entry.1.labels? = some labels ∧
        entry.1.timestamp = timestamp := by
  simp [timestamps, and_assoc]

/-- A label set was seen over the single timestamps at which it was accepted. -/
theorem sightedOver_history_iff {labels : LabelSet} {interval : Activity} :
    Store.SightedOver (index.history calls) labels interval ↔
      ∃ timestamp ∈ timestamps (index.accepted calls) labels,
        .single timestamp = interval := by
  simp only [Store.SightedOver, history_eq, List.mem_flatMap, List.mem_map,
    Option.mem_toList, mem_timestamps]
  constructor
  · rintro ⟨sighting, ⟨entry, hentry, other, hother, rfl⟩, rfl, rfl⟩
    exact ⟨_, ⟨entry, hentry, hother, rfl⟩, rfl⟩
  · rintro ⟨_, ⟨entry, hentry, hlabels, rfl⟩, rfl⟩
    exact ⟨_, ⟨entry, hentry, labels, hlabels, rfl⟩, rfl, rfl⟩

/-- The interval of a stored series runs from the least to the greatest of the
timestamps at which it was accepted. -/
theorem Remembers.bounds (hremembers : index.Remembers (other.history calls))
    {tsid : Tsid} {series : Series}
    (hseries : index.store.catalog.series? tsid = some series) :
    (timestamps (other.accepted calls) series.labels).min? =
        some series.activity.earliest ∧
      (timestamps (other.accepted calls) series.labels).max? =
        some series.activity.latest := by
  have hrec := hremembers.recorded
  have hhull := hrec.isHull hremembers.settled.toConsistent hseries
  have hcovered : ∀ timestamp ∈ timestamps (other.accepted calls) series.labels,
      (Activity.single timestamp).Within series.activity := by
    intro timestamp hmem
    exact hhull.covers _ (sightedOver_history_iff.mpr ⟨timestamp, hmem, rfl⟩)
  rw [List.min?_eq_some_iff, List.max?_eq_some_iff]
  refine ⟨⟨?_, fun timestamp hmem => (hcovered timestamp hmem).1⟩,
    ?_, fun timestamp hmem => (hcovered timestamp hmem).2⟩
  · obtain ⟨sighting, hmem, -, hlabels, hbound⟩ :=
      hrec.earliest tsid series hseries
    obtain ⟨timestamp, hseen, hsingle⟩ :=
      sightedOver_history_iff.mp ⟨sighting, hmem, hlabels, rfl⟩
    rw [← hsingle] at hbound
    exact hbound ▸ hseen
  · obtain ⟨sighting, hmem, -, hlabels, hbound⟩ :=
      hrec.latest tsid series hseries
    obtain ⟨timestamp, hseen, hsingle⟩ :=
      sightedOver_history_iff.mp ⟨sighting, hmem, hlabels, rfl⟩
    rw [← hsingle] at hbound
    exact hbound ▸ hseen

/-! ## Numbers -/

section Empty

variable (settings : Settings) (calls : List Call)

theorem remembers_performAll :
    ((empty settings).performAll calls).Remembers
      ((empty settings).history calls) :=
  (remembers_empty settings).performAll calls

/-- The number of a label set is its place among those that were accepted. -/
theorem lookup?_performAll_iff {labels : LabelSet} {tsid : Tsid} :
    ((empty settings).performAll calls).lookup? labels = some tsid ↔
      ∃ place,
        (distinct ((empty settings).accepted calls))[place]? = some labels ∧
        tsid.toNat = place + 1 := by
  have hstart := Store.continues_nil (remembers_empty settings).settled
  have hkeys := (continues_performAll hstart calls).lookup?_iff labels tsid
  have hnone : (empty settings).store.catalog.lookup? labels = none :=
    Catalog.lookup?_empty _ _ _
  have hsets : (empty settings).store.newcomers
      ([] ++ labelSets ((empty settings).accepted calls)) =
        distinct ((empty settings).accepted calls) :=
    Store.newcomers_empty _ _ _ _
  rw [hnone, hsets] at hkeys
  rw [lookup?, hkeys, or_iff_right (Option.some_ne_none tsid).symm]
  have hfirst : (empty settings).store.catalog.nextTsid.toNat = 1 := rfl
  simp only [hfirst, Nat.add_comm 1]

/-- The published numbers count the distinct label sets that were accepted. -/
theorem mem_published_performAll_iff {tsid : Tsid} :
    tsid ∈ ((empty settings).performAll calls).store.catalog.published ↔
      1 ≤ tsid.toNat ∧
        tsid.toNat ≤ (distinct ((empty settings).accepted calls)).length := by
  have hsettled := (remembers_performAll settings calls).settled
  rw [hsettled.faithful.published_iff]
  have hkeys (labels : LabelSet) :
      ((empty settings).performAll calls).store.catalog.lookup? labels =
        some tsid ↔ _ :=
    lookup?_performAll_iff settings calls
  simp only [hkeys]
  constructor
  · rintro ⟨labels, place, hplace, htsid⟩
    have hlt := (List.getElem?_eq_some_iff.mp hplace).1
    omega
  · rintro ⟨hone, hlast⟩
    have hlt : tsid.toNat - 1 <
        (distinct ((empty settings).accepted calls)).length := by
      omega
    exact ⟨_, tsid.toNat - 1, List.getElem?_eq_getElem hlt, by omega⟩

/-- What is told of the number of a label set. -/
theorem exists_publishedSeries {place : Nat} {labels : LabelSet} {tsid : Tsid}
    (hplace :
      (distinct ((empty settings).accepted calls))[place]? = some labels)
    (htsid : tsid.toNat = place + 1) :
    ∃ series,
      ((empty settings).performAll calls).store.catalog.publishedSeries tsid =
        .ok series ∧ series.labels = labels ∧
      (timestamps ((empty settings).accepted calls) labels).min? =
        some series.activity.earliest ∧
      (timestamps ((empty settings).accepted calls) labels).max? =
        some series.activity.latest := by
  have hremembers := remembers_performAll settings calls
  have hkey := (lookup?_performAll_iff settings calls).mpr
    ⟨place, hplace, htsid⟩
  obtain ⟨series, hseries, rfl⟩ :=
    hremembers.settled.lookup?_eq_some_iff.mp hkey
  exact ⟨series, hremembers.settled.publishedSeries_eq_ok_iff.mpr hseries, rfl,
    hremembers.bounds hseries⟩

theorem chronicles_empty :
    Chronicles ((empty settings).accepted calls)
      ((empty settings).performAll calls) where
  answered before call registration rest hsplit := by
    have hstart := Store.continues_nil (remembers_empty settings).settled
    obtain ⟨labels, hlabels, hkey, hnew⟩ := answered_performAll hstart hsplit
    obtain ⟨place, hplace, htsid⟩ :=
      (lookup?_performAll_iff settings calls).mp hkey
    have hnone : (empty settings).store.catalog.lookup? labels = none :=
      Catalog.lookup?_empty _ _ _
    rw [and_iff_left hnone] at hnew
    exact ⟨labels, place, hlabels, hplace, htsid, hnew⟩
  published_iff tsid := mem_published_performAll_iff settings calls
  lookup?_iff labels tsid := lookup?_performAll_iff settings calls
  labels_eq place labels tsid hplace htsid := by
    obtain ⟨series, hseries, rfl, -⟩ :=
      exists_publishedSeries settings calls hplace htsid
    rw [Index.labels, hseries]
    rfl
  activity_eq place labels tsid hplace htsid := by
    obtain ⟨series, hseries, -, hbounds⟩ :=
      exists_publishedSeries settings calls hplace htsid
    refine ⟨series.activity, ?_, hbounds⟩
    rw [Index.activity, hseries]
    rfl
  unknown tsid hout := by
    have hsettled := (remembers_performAll settings calls).settled
    have hnot : tsid ∉
        ((empty settings).performAll calls).store.catalog.published := by
      rw [mem_published_performAll_iff]
      omega
    rw [hsettled.mem_published_iff, not_exists,
      ← Option.eq_none_iff_forall_ne_some] at hnot
    rw [Index.labels, Index.activity, hsettled.publishedSeries_of_none hnot]
    exact ⟨rfl, rfl⟩

end Empty

/-- Whatever is asked of an index that was built without series, its answers
follow from the calls that it accepted.  Pairs make the label set that has
exactly them, so that in another order they make the same call. -/
theorem performAll_chronicles (hunused : index.Unused) (calls : List Call) :
    Chronicles (index.accepted calls) (index.performAll calls) ∧
    (∀ timestamp pairs labels,
      (Call.registerPairs timestamp pairs).labels? = some labels ↔
        labels.toPairs.Perm pairs) ∧
    ∀ timestamp pairs others, List.Perm pairs others →
      (Call.registerPairs timestamp pairs).labels? =
          (Call.registerPairs timestamp others).labels? ∧
        ∀ index : Index, index.registerPairs timestamp pairs =
          index.registerPairs timestamp others := by
  obtain ⟨settings, rfl⟩ := hunused.eq_empty
  refine ⟨chronicles_empty settings calls,
    fun timestamp pairs labels => Call.labels?_registerPairs_eq_some_iff,
    fun timestamp pairs others hperm => ?_⟩
  have hsame := LabelSet.ofPairs_eq_of_perm hperm
  refine ⟨?_, fun index => ?_⟩
  · rw [Call.labels?, Call.labels?, hsame]
  · rw [registerPairs, registerPairs, hsame]

/-- The chronicle of an index that gets full. -/
theorem performAll_chronicles_deployments :
    (empty { seriesLimit := 3 }).Unused ∧
      Chronicles ((empty { seriesLimit := 3 }).accepted deployments) crowded :=
  have hunused : (empty { seriesLimit := 3 }).Unused := .ofSettings build_three
  ⟨hunused, (performAll_chronicles hunused deployments).1⟩

end Index

end SeriesIndex
