import Mathlib
import SeriesIndex.Proofs.Store.Settled

/-!
# Sightings

What a store was told can be kept as a list of sightings: the loaded series, and
for each accepted registration the label set and number with the interval of
that one timestamp.  `Recorded` says that a store remembers of such a history
what it has to: no sighting is lost, and each bound of a stored interval is that
of some sighting.  The stored interval is therefore the smallest one that covers
the sightings of its label set.
-/

namespace SeriesIndex.Store

variable {store : Store} {history : List Series}

/-- A store remembers a history of sightings. -/
structure Recorded (history : List Series) (store : Store) : Prop where
  stored : ∀ sighting ∈ history,
    ∃ series, store.catalog.series? sighting.tsid = some series ∧
      series.labels = sighting.labels ∧
      sighting.activity.Within series.activity
  earliest : ∀ tsid series, store.catalog.series? tsid = some series →
    ∃ sighting ∈ history, sighting.tsid = tsid ∧
      sighting.labels = series.labels ∧
      sighting.activity.earliest = series.activity.earliest
  latest : ∀ tsid series, store.catalog.series? tsid = some series →
    ∃ sighting ∈ history, sighting.tsid = tsid ∧
      sighting.labels = series.labels ∧
      sighting.activity.latest = series.activity.latest

theorem recorded_empty (keyStripes nameStripes limit : Nat) :
    (Store.empty keyStripes nameStripes limit).Recorded [] where
  stored := by simp
  earliest := by simp [Store.empty]
  latest := by simp [Store.empty]

/-- Only the stored series matter. -/
theorem Recorded.of_series? {other : Store} (hrec : store.Recorded history)
    (hsame : ∀ tsid, other.catalog.series? tsid = store.catalog.series? tsid) :
    other.Recorded history where
  stored sighting hsighting := by
    rw [hsame]
    exact hrec.stored sighting hsighting
  earliest tsid series hseries :=
    hrec.earliest tsid series (hsame tsid ▸ hseries)
  latest tsid series hseries := hrec.latest tsid series (hsame tsid ▸ hseries)

/-! ## Bounds of intervals -/

/-- The bound of every stored interval is that of a sighting.  It stands for the
earliest and for the latest timestamp of an interval. -/
def Attains (bound : Activity → Timestamp) (history : List Series)
    (store : Store) : Prop :=
  ∀ tsid series, store.catalog.series? tsid = some series →
    ∃ sighting ∈ history, sighting.tsid = tsid ∧
      sighting.labels = series.labels ∧
      bound sighting.activity = bound series.activity

theorem Attains.enroll {bound : Activity → Timestamp}
    (hattains : store.Attains bound history) (series : Series) :
    (store.enroll series).Attains bound (history ++ [series]) := by
  intro tsid found hfound
  rw [series?_enroll] at hfound
  split at hfound
  · rename_i hsame
    cases hfound
    exact ⟨series, by simp, hsame, rfl, rfl⟩
  · obtain ⟨sighting, hmem, hfacts⟩ := hattains tsid found hfound
    exact ⟨sighting, List.mem_append_left _ hmem, hfacts⟩

theorem series?_widen (tsid other : Tsid) (timestamp : Timestamp) :
    (store.catalog.widen tsid timestamp).series? other =
      if tsid = other then
        (store.catalog.series? other).map (·.widen timestamp)
      else store.catalog.series? other :=
  Catalog.series?_modifyActivity _ _ _ _

/-- A bound that is moved is that of the sighting which moves it. -/
theorem Attains.widen {bound : Activity → Timestamp}
    (hattains : store.Attains bound history) {series : Series} {tsid : Tsid}
    (hseries : store.catalog.series? tsid = some series) {timestamp : Timestamp}
    (hbound : bound (series.activity.widen timestamp) = bound series.activity ∨
      bound (series.activity.widen timestamp) = bound (.single timestamp)) :
    Attains bound (history ++ [⟨tsid, series.labels, .single timestamp⟩])
      { store with catalog := store.catalog.widen tsid timestamp } := by
  intro other found hfound
  rw [series?_widen] at hfound
  split at hfound
  · rename_i hsame
    subst hsame
    rw [hseries] at hfound
    cases hfound
    rcases hbound with hkept | hmoved
    · obtain ⟨sighting, hmem, htsid, hlabels, hsighting⟩ :=
        hattains tsid series hseries
      exact ⟨sighting, List.mem_append_left _ hmem, htsid, hlabels,
        hsighting.trans hkept.symm⟩
    · exact ⟨_, List.mem_append_right _ List.mem_cons_self, rfl, rfl,
        hmoved.symm⟩
  · obtain ⟨sighting, hmem, hfacts⟩ := hattains other found hfound
    exact ⟨sighting, List.mem_append_left _ hmem, hfacts⟩

/-! ## Single writes -/

/-- A series that is enrolled is a sighting of itself. -/
theorem Recorded.enroll (hrec : store.Recorded history) {series : Series}
    (hnew : store.catalog.series? series.tsid = none) :
    (store.enroll series).Recorded (history ++ [series]) where
  stored sighting hsighting := by
    rw [List.mem_append, List.mem_singleton] at hsighting
    rcases hsighting with hold | rfl
    · obtain ⟨found, hfound, hfacts⟩ := hrec.stored sighting hold
      refine ⟨found, ?_, hfacts⟩
      rw [series?_enroll, ← Catalog.series?_store]
      exact Catalog.series?_store_of_some hnew hfound
    · exact ⟨sighting, by rw [series?_enroll, if_pos rfl], rfl, .refl _⟩
  earliest := Attains.enroll hrec.earliest series
  latest := Attains.enroll hrec.latest series

theorem Recorded.foldl_enroll {entries : List Series}
    (hrec : store.Recorded history) (hload : store.Loading entries) :
    (entries.foldl Store.enroll store).Recorded (history ++ entries) := by
  induction entries generalizing store history with
  | nil => simpa using hrec
  | cons series rest ih =>
      have hnew := hload.admits.unstored series (by simp)
      have hrest := ih (hrec.enroll hnew) hload.enroll
      rw [List.append_assoc, List.singleton_append] at hrest
      exact hrest

/-- A series that is widened is seen once more. -/
theorem Recorded.widen (hrec : store.Recorded history) {series : Series}
    {tsid : Tsid} (hseries : store.catalog.series? tsid = some series)
    (timestamp : Timestamp) :
    Recorded (history ++ [⟨tsid, series.labels, .single timestamp⟩])
      { store with catalog := store.catalog.widen tsid timestamp } where
  stored sighting hsighting := by
    simp only [series?_widen]
    rw [List.mem_append, List.mem_singleton] at hsighting
    rcases hsighting with hold | rfl
    · obtain ⟨found, hfound, hlabels, hwithin⟩ := hrec.stored sighting hold
      rw [hfound]
      split
      · exact ⟨_, rfl, hlabels, hwithin.trans (Activity.within_widen _ _)⟩
      · exact ⟨found, rfl, hlabels, hwithin⟩
    · rw [if_pos rfl, hseries]
      exact ⟨_, rfl, rfl, Activity.single_within_widen _ _⟩
  earliest :=
    Attains.widen hrec.earliest hseries (Timestamp.min_eq_or _ timestamp)
  latest := Attains.widen hrec.latest hseries (Timestamp.max_eq_or _ timestamp)

/-! ## Registrations and batches -/

/-- What a registration adds to the history: a sighting if it is accepted. -/
def sightings (timestamp : Timestamp) (labels : LabelSet) :
    Except Fault Registration → List Series
  | .ok registration => [⟨registration.tsid, labels, .single timestamp⟩]
  | .error _ => []

/-- A registration is recorded with the sighting it makes. -/
theorem Recorded.register (hrec : store.Recorded history)
    (hsettled : store.Settled) (timestamp : Timestamp) (labels : LabelSet) :
    (store.register timestamp labels).2.Recorded
      (history ++
        sightings timestamp labels (store.register timestamp labels).1) := by
  have hcases := hsettled.registering timestamp labels
  generalize store.register timestamp labels = result at hcases ⊢
  cases hcases with
  | known hkey _ =>
      obtain ⟨series, hseries, rfl⟩ := hsettled.key_labels labels _ hkey
      exact hrec.widen hseries timestamp
  | full _ _ =>
      rw [sightings, List.append_nil]
      exact hrec
  | exhausted _ _ _ =>
      rw [sightings, List.append_nil]
      exact hrec
  | new _ _ _ =>
      have hreserved : store.reserved.Recorded history :=
        hrec.of_series? fun tsid => rfl
      exact hreserved.enroll hsettled.unstored_next

/-- A batch that is loaded is a list of sightings. -/
theorem Recorded.importBatch (hrec : store.Recorded history)
    (hsettled : store.Settled) {entries : List Series}
    (hcheck : store.catalog.checkBatch entries = .ok ()) :
    (store.importBatch entries).2.Recorded (history ++ entries) := by
  rw [importBatch_of_ok hcheck]
  have hopened : (store.opened entries).Recorded history :=
    hrec.of_series? fun tsid => rfl
  exact hopened.foldl_enroll (hsettled.opened hcheck)

/-! ## Intervals -/

/-- The label set goes by the number in the history. -/
def Sighted (history : List Series) (tsid : Tsid) (labels : LabelSet) : Prop :=
  ∃ sighting ∈ history, sighting.tsid = tsid ∧ sighting.labels = labels

/-- The label set was seen over an interval. -/
def SightedOver (history : List Series) (labels : LabelSet)
    (interval : Activity) : Prop :=
  ∃ sighting ∈ history, sighting.labels = labels ∧
    sighting.activity = interval

/-- What was sighted is what is stored. -/
theorem Recorded.sighted_iff (hrec : store.Recorded history) {tsid : Tsid}
    {labels : LabelSet} :
    Sighted history tsid labels ↔
      ∃ series, store.catalog.series? tsid = some series ∧
        series.labels = labels := by
  constructor
  · rintro ⟨sighting, hmem, rfl, rfl⟩
    obtain ⟨series, hseries, hlabels, -⟩ := hrec.stored sighting hmem
    exact ⟨series, hseries, hlabels⟩
  · rintro ⟨series, hseries, rfl⟩
    obtain ⟨sighting, hmem, htsid, hlabels, -⟩ :=
      hrec.earliest tsid series hseries
    exact ⟨sighting, hmem, htsid, hlabels⟩

/-- The interval of a stored series is the smallest one that covers all
sightings of its label set. -/
theorem Recorded.isHull (hrec : store.Recorded history)
    (hcons : store.Consistent) {tsid : Tsid} {series : Series}
    (hseries : store.catalog.series? tsid = some series) :
    Activity.IsHull (SightedOver history series.labels) series.activity := by
  constructor
  case covers =>
    rintro interval ⟨sighting, hmem, hlabels, rfl⟩
    obtain ⟨found, hfound, hsame, hwithin⟩ := hrec.stored sighting hmem
    have htsid := hcons.labels_inj _ _ found series hfound hseries
      (hsame.trans hlabels)
    rw [htsid, hseries] at hfound
    cases hfound
    exact hwithin
  case least =>
    intro other hcovers
    obtain ⟨first, hfirst, -, hfirstLabels, hearliest⟩ :=
      hrec.earliest tsid series hseries
    obtain ⟨final, hfinal, -, hfinalLabels, hlatest⟩ :=
      hrec.latest tsid series hseries
    have hlow := hcovers _ ⟨first, hfirst, hfirstLabels, rfl⟩
    have hhigh := hcovers _ ⟨final, hfinal, hfinalLabels, rfl⟩
    exact ⟨hearliest ▸ hlow.1, hlatest ▸ hhigh.2⟩

end SeriesIndex.Store
