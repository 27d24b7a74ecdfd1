import SeriesIndex.Proofs.Index.Sessions

/-!
# The ways to ask a query

A query may be asked between two timestamps, with or without the labels of the
answers, or over a window that was made before.  For bounds the right way round
the three are the same query.  Bounds the wrong way round are refused between
timestamps; but a window that has them is taken as it is, and is then answered
by the series whose intervals reach over all that lies between its bounds.
-/

namespace SeriesIndex.Index

variable {index : Index}

/-! ## Answers by what is told of each series -/

/-- The index tells that the series has these labels, and that its interval
reaches into the window. -/
def Active (index : Index) (window : Window) (tsid : Tsid) (labels : LabelSet) :
    Prop :=
  index.labels tsid = .ok labels ∧
    ∃ activity, index.activity tsid = .ok activity ∧
      activity.earliest ≤ window.stop ∧ window.start ≤ activity.latest

theorem Regular.labels_eq_ok (hregular : index.Regular) {tsid : Tsid}
    {series : Series}
    (hseries : index.store.catalog.series? tsid = some series) :
    index.labels tsid = .ok series.labels := by
  rw [labels, hregular.settled.publishedSeries_eq_ok_iff.mpr hseries]
  rfl

theorem Regular.activity_eq_ok (hregular : index.Regular) {tsid : Tsid}
    {series : Series}
    (hseries : index.store.catalog.series? tsid = some series) :
    index.activity tsid = .ok series.activity := by
  rw [activity, hregular.settled.publishedSeries_eq_ok_iff.mpr hseries]
  rfl

/-- What is told of a number is told of a stored series. -/
theorem Regular.exists_of_labels (hregular : index.Regular) {tsid : Tsid}
    {labels : LabelSet} (hlabels : index.labels tsid = .ok labels) :
    ∃ series, index.store.catalog.series? tsid = some series ∧
      series.labels = labels := by
  rw [Index.labels] at hlabels
  cases hpublished : index.store.catalog.publishedSeries tsid with
  | error fault =>
      rw [hpublished] at hlabels
      cases hlabels
  | ok series =>
      rw [hpublished] at hlabels
      exact ⟨series, hregular.settled.publishedSeries_eq_ok_iff.mp hpublished,
        Except.ok.inj hlabels⟩

/-- A series answers if it is active in the window and its labels are selected
by all matchers. -/
theorem Regular.mem_answers_iff (hregular : index.Regular)
    {matchers : List Matcher} {window : Window} {tsid : Tsid} :
    tsid ∈ (index.store.answers matchers window).map Series.tsid ↔
      ∃ labels, index.Active window tsid labels ∧
        ∀ matcher ∈ matchers, matcher.Selects labels := by
  rw [hregular.settled.toConsistent.mem_answers]
  constructor
  · rintro ⟨-, series, hseries, hselects, hoverlaps⟩
    exact ⟨series.labels, ⟨hregular.labels_eq_ok hseries, series.activity,
      hregular.activity_eq_ok hseries, Activity.overlaps_iff.mp hoverlaps⟩,
      hselects⟩
  · rintro ⟨labels, ⟨hlabels, activity, hactivity, hoverlaps⟩, hselects⟩
    obtain ⟨series, hseries, rfl⟩ := hregular.exists_of_labels hlabels
    obtain rfl : series.activity = activity :=
      Except.ok.inj ((hregular.activity_eq_ok hseries).symm.trans hactivity)
    exact ⟨hregular.settled.mem_published_iff.mpr ⟨series, hseries⟩, series,
      hseries, hselects, Activity.overlaps_iff.mpr hoverlaps⟩

/-! ## Windows -/

theorem ofBounds_of_lt {start stop : Timestamp} (hbounds : stop < start) :
    Window.ofBounds start stop =
      .error (.argument (.invertedWindow start stop)) := by
  rw [Window.ofBounds, Window.ofBounds?, if_pos hbounds]

/-- A query over a window is counted and answered, whatever the window. -/
theorem Regular.resolveWindow_eq (hregular : index.Regular)
    (matchers : List Matcher) (window : Window) :
    index.resolveWindow matchers window =
      (.ok ((index.store.answers matchers window).map Series.tsid),
        index.countResolve) := by
  rw [resolveWindow, hregular.settled.toConsistent.resolve_eq]

/-- A query between timestamps the right way round is counted and answered. -/
theorem Regular.resolve_eq (hregular : index.Regular) (matchers : List Matcher)
    {start stop : Timestamp} (hbounds : start ≤ stop) :
    index.resolve matchers start stop =
      (.ok ((index.store.answers matchers ⟨start, stop⟩).map Series.tsid),
        index.countResolve) := by
  rw [Index.resolve, ofBounds_of_le hbounds]
  exact hregular.resolveWindow_eq matchers ⟨start, stop⟩

/-- A query between timestamps the wrong way round is refused and not counted.
-/
theorem resolve_of_lt (index : Index) (matchers : List Matcher)
    {start stop : Timestamp} (hbounds : stop < start) :
    index.resolve matchers start stop =
      (.error (.argument (.invertedWindow start stop)), index) := by
  rw [resolve, ofBounds_of_lt hbounds]

def labelled (index : Index) (matchers : List Matcher) (window : Window) :
    List (Tsid × LabelSet) :=
  (index.store.answers matchers window).map fun series =>
    (series.tsid, series.labels)

theorem map_fst_labelled (index : Index) (matchers : List Matcher)
    (window : Window) :
    (index.labelled matchers window).map Prod.fst =
      (index.store.answers matchers window).map Series.tsid := by
  rw [labelled, List.map_map]
  rfl

/-- Answers come with their own labels. -/
theorem Regular.labels_of_mem_labelled (hregular : index.Regular)
    {matchers : List Matcher} {window : Window} {tsid : Tsid}
    {labels : LabelSet}
    (hmem : (tsid, labels) ∈ index.labelled matchers window) :
    index.labels tsid = .ok labels := by
  obtain ⟨series, hanswer, hpair⟩ := List.mem_map.mp hmem
  obtain ⟨rfl, rfl⟩ := Prod.mk.inj hpair
  obtain ⟨hstored, -⟩ := List.mem_filter.mp hanswer
  obtain ⟨tsid, -, hseries⟩ := List.mem_filterMap.mp hstored
  rw [hregular.settled.tsid_eq tsid series hseries]
  exact hregular.labels_eq_ok hseries

theorem Regular.resolveWithLabels_eq (hregular : index.Regular)
    (matchers : List Matcher) {start stop : Timestamp}
    (hbounds : start ≤ stop) :
    index.resolveWithLabels matchers start stop =
      (.ok (index.labelled matchers ⟨start, stop⟩), index.countResolve) := by
  rw [resolveWithLabels, ofBounds_of_le hbounds]
  simp only [hregular.settled.toConsistent.resolveSeries_eq]
  rfl

theorem resolveWithLabels_of_lt (index : Index) (matchers : List Matcher)
    {start stop : Timestamp} (hbounds : stop < start) :
    index.resolveWithLabels matchers start stop =
      (.error (.argument (.invertedWindow start stop)), index) := by
  rw [resolveWithLabels, ofBounds_of_lt hbounds]

/-- For bounds the right way round, all ways to ask a query give the same
series, with their own labels if these are asked for, and count the query once.
For inverted bounds the query between timestamps is refused and nothing is
counted, but the query over the window is counted and answered by every series
that the matchers select and whose interval starts before the end of the window
and ends after its start. -/
theorem resolve_entryPoints (hreach : index.Reachable) (matchers : List Matcher)
    (start stop : Timestamp) :
    (start ≤ stop → ∃ answers,
      index.resolve matchers start stop =
        (.ok (answers.map Prod.fst), index.countResolve) ∧
      index.resolveWindow matchers ⟨start, stop⟩ =
        (.ok (answers.map Prod.fst), index.countResolve) ∧
      index.resolveWithLabels matchers start stop =
        (.ok answers, index.countResolve) ∧
      ∀ tsid labels, (tsid, labels) ∈ answers →
        index.labels tsid = .ok labels) ∧
    (stop < start →
      index.resolve matchers start stop =
        (.error (.argument (.invertedWindow start stop)), index) ∧
      index.resolveWithLabels matchers start stop =
        (.error (.argument (.invertedWindow start stop)), index) ∧
      ∃ tsids, index.resolveWindow matchers ⟨start, stop⟩ =
          (.ok tsids, index.countResolve) ∧
        tsids.Pairwise (· < ·) ∧
        ∀ tsid, tsid ∈ tsids ↔
          ∃ labels, index.Active ⟨start, stop⟩ tsid labels ∧
            ∀ matcher ∈ matchers, matcher.Selects labels) := by
  have hregular := hreach.regular
  refine ⟨fun hbounds => ?_, fun hbounds => ?_⟩
  · refine ⟨index.labelled matchers ⟨start, stop⟩, ?_, ?_, ?_, ?_⟩
    · rw [map_fst_labelled]
      exact hregular.resolve_eq matchers hbounds
    · rw [map_fst_labelled]
      exact hregular.resolveWindow_eq matchers ⟨start, stop⟩
    · exact hregular.resolveWithLabels_eq matchers hbounds
    · exact fun tsid labels => hregular.labels_of_mem_labelled
  · refine ⟨index.resolve_of_lt matchers hbounds,
      index.resolveWithLabels_of_lt matchers hbounds, _,
      hregular.resolveWindow_eq matchers ⟨start, stop⟩, ?_, ?_⟩
    · exact hregular.settled.toConsistent.answers_ascending matchers _
    · exact fun tsid => hregular.mem_answers_iff

/-- A window of the full index with bounds of either order. -/
theorem resolve_entryPoints_crowded :
    crowded.Reachable ∧ (7 : Timestamp) ≤ 9 ∧
      (∃ answers,
        crowded.resolve apiOutsideDev 7 9 =
          (.ok (answers.map Prod.fst), crowded.countResolve) ∧
        crowded.resolveWindow apiOutsideDev ⟨7, 9⟩ =
          (.ok (answers.map Prod.fst), crowded.countResolve) ∧
        crowded.resolveWithLabels apiOutsideDev 7 9 =
          (.ok answers, crowded.countResolve) ∧
        ∀ tsid labels, (tsid, labels) ∈ answers →
          crowded.labels tsid = .ok labels) ∧
      (crowded.resolve apiOutsideDev 7 9).1 = .ok [1] ∧
      crowded.resolve apiOutsideDev 9 7 =
        (.error (.argument (.invertedWindow 9 7)), crowded) ∧
      ∃ tsids, crowded.resolveWindow apiOutsideDev ⟨9, 7⟩ =
          (.ok tsids, crowded.countResolve) ∧
        ∀ tsid, tsid ∈ tsids ↔
          ∃ labels, crowded.Active ⟨9, 7⟩ tsid labels ∧
            ∀ matcher ∈ apiOutsideDev, matcher.Selects labels := by
  obtain ⟨hrefused, -, tsids, hcounted, -, hmem⟩ :=
    (resolve_entryPoints reachable_crowded apiOutsideDev 9 7).2 (by decide)
  exact ⟨reachable_crowded, by decide,
    (resolve_entryPoints reachable_crowded apiOutsideDev 7 9).1 (by decide),
    resolve_crowded, hrefused, tsids, hcounted, hmem⟩

/-- The index in which one series was seen at the timestamps 100 and 300. -/
def seenTwice : Index :=
  inMemory.performAll
    [.registerPairs 100 [("a", "1")], .registerPairs 300 [("a", "1")]]

theorem reachable_seenTwice : seenTwice.Reachable :=
  (Reachable.built (rfl : Origin.inMemory.build = .ok inMemory)).performAll _

/-- An inverted window is refused as a pair of timestamps, but not as a window:
the query is counted, and a series is found that was seen before and after. -/
theorem resolveWindow_answers_inverted :
    seenTwice.Reachable ∧ (150 : Timestamp) < 250 ∧
      (seenTwice.resolve [] 250 150).1 =
        .error (.argument (.invertedWindow 250 150)) ∧
      (seenTwice.resolveWithLabels [] 250 150).1 =
        .error (.argument (.invertedWindow 250 150)) ∧
      (seenTwice.resolveWindow [] ⟨250, 150⟩).1 = .ok [1] ∧
      seenTwice.counters.resolves = 0 ∧
      (seenTwice.resolveWindow [] ⟨250, 150⟩).2.counters.resolves = 1 := by
  refine ⟨reachable_seenTwice, by decide, ?_, ?_, ?_, ?_, ?_⟩
  · decide +kernel
  · decide +kernel
  · decide +kernel
  · decide +kernel
  · decide +kernel

end SeriesIndex.Index
