import Mathlib
import SeriesIndex.Proofs.Query
import SeriesIndex.Proofs.Store.Registered

/-!
# What readers of a store can rely on

Readers see published numbers, label sets, intervals and answers to queries, and
no call takes any of it back.  That answers only grow is not obvious for the
matchers that leave values out: they take one set of series from another one,
and calls make both sets larger.  But a series is selected or not by its own
label set alone, which it keeps as long as it has its number.
-/

namespace SeriesIndex.Store

variable {store old new : Store} {matchers : List Matcher} {window : Window}
  {tsid : Tsid}

theorem Selected.grows (hselected : old.Selected matchers tsid)
    (hgrows : old.Grows new) : new.Selected matchers tsid := by
  obtain ⟨series, hseries, hselects⟩ := hselected
  obtain ⟨found, hfound, hlabels, -⟩ := hgrows.series tsid series hseries
  exact ⟨found, hfound, hlabels ▸ hselects⟩

/-- What answers a query goes on to answer it. -/
theorem Answering.grows (hanswering : old.Answering matchers window tsid)
    (hgrows : old.Grows new) : new.Answering matchers window tsid := by
  obtain ⟨hpublished, series, hseries, hselects, hoverlaps⟩ := hanswering
  obtain ⟨found, hfound, hlabels, hwithin⟩ := hgrows.series tsid series hseries
  exact ⟨hgrows.published tsid hpublished, found, hfound, hlabels ▸ hselects,
    Activity.overlaps_of_within hwithin hoverlaps⟩

/-- A later store tells readers all that an earlier one told them. -/
structure Appends (before after : Store) : Prop where
  /-- A registered number keeps its label set, and its interval only widens. -/
  series : ∀ tsid series, before.catalog.publishedSeries tsid = .ok series →
    ∃ found, after.catalog.publishedSeries tsid = .ok found ∧
      found.labels = series.labels ∧
      found.activity.earliest ≤ series.activity.earliest ∧
      series.activity.latest ≤ found.activity.latest
  key : ∀ labels tsid, before.catalog.lookup? labels = some tsid →
    after.catalog.lookup? labels = some tsid
  /-- No other label set gets the number. -/
  owner : ∀ tsid series labels,
    before.catalog.publishedSeries tsid = .ok series →
    after.catalog.lookup? labels = some tsid → labels = series.labels
  /-- Answers to queries only grow. -/
  resolve : ∀ matchers window, ∃ answers later,
    before.resolve matchers window = .ok answers ∧
      after.resolve matchers window = .ok later ∧ answers ⊆ later

/-- The answer to a registration gives no number away that is registered: it
gives a greater one, or the one that the label set has. -/
structure Gives (store : Store) (labels : LabelSet)
    (registration : Registration) : Prop where
  greater : registration.isNew = true →
    ∀ tsid ∈ store.catalog.published, tsid < registration.tsid
  owner : ∀ series,
    store.catalog.publishedSeries registration.tsid = .ok series →
      registration.isNew = false ∧ labels = series.labels

/-- A settled store that has grown has only been appended to. -/
theorem Grows.appends (hgrows : old.Grows new) (hold : old.Settled)
    (hnew : new.Settled) : old.Appends new := by
  have hseries (tsid : Tsid) (series : Series)
      (hok : old.catalog.publishedSeries tsid = .ok series) :
      ∃ found, new.catalog.publishedSeries tsid = .ok found ∧
        found.labels = series.labels ∧
        series.activity.Within found.activity := by
    obtain ⟨found, hfound, hfacts⟩ :=
      hgrows.series tsid series (hold.publishedSeries_eq_ok_iff.mp hok)
    exact ⟨found, hnew.publishedSeries_eq_ok_iff.mpr hfound, hfacts⟩
  constructor
  case series => exact hseries
  case key => exact hgrows.key
  case owner =>
    intro tsid series labels hok hkey
    obtain ⟨found, hfound, hlabels, -⟩ := hseries tsid series hok
    obtain ⟨other, hother, rfl⟩ := hnew.lookup?_eq_some_iff.mp hkey
    rw [hnew.publishedSeries_eq_ok_iff, hother] at hfound
    cases hfound
    exact hlabels
  case resolve =>
    intro matchers window
    refine ⟨_, _, hold.resolve_eq matchers window,
      hnew.resolve_eq matchers window, fun tsid htsid => ?_⟩
    exact hnew.mem_answers.mpr ((hold.mem_answers.mp htsid).grows hgrows)

theorem Settled.gives (hsettled : store.Settled) {timestamp : Timestamp}
    {labels : LabelSet} {registration : Registration}
    (hok : (store.register timestamp labels).1 = .ok registration) :
    store.Gives labels registration where
  greater hnew tsid hpublished := by
    obtain ⟨series, hseries⟩ := hsettled.mem_published_iff.mp hpublished
    generalize hregister : store.register timestamp labels = result at hok
    have hregisters := hsettled.registers timestamp labels
    rw [hregister] at hregisters
    cases hregisters with
    | known hknown hlabels hwidens =>
        cases hok
        cases hnew
    | full _ _ => cases hok
    | exhausted _ _ _ => cases hok
    | new _ _ _ _ =>
        cases hok
        exact hsettled.tsid_lt tsid series hseries
  owner series hseries :=
    hsettled.register_of_series?
      (hsettled.publishedSeries_eq_ok_iff.mp hseries) hok

/-- Whatever led to a store, no call takes back what readers were told, and no
sequence of calls does: registered numbers keep their label sets, intervals only
widen, new numbers are greater than all registered ones, and the answers to a
query only grow. -/
theorem performAll_appends (keyStripes nameStripes limit : Nat)
    (calls : List Call) :
    let store := (Store.empty keyStripes nameStripes limit).performAll calls
    (∀ call, store.Appends (store.perform call)) ∧
    (∀ timestamp labels registration,
      (store.register timestamp labels).1 = .ok registration →
        store.Gives labels registration) ∧
    ∀ later, store.Appends (store.performAll later) := by
  intro store
  have hsettled : store.Settled :=
    (settled_empty keyStripes nameStripes limit).performAll calls
  have happends (later : List Call) : store.Appends (store.performAll later) :=
    (hsettled.grows_performAll later).appends hsettled
      (hsettled.performAll later)
  exact ⟨fun call => happends [call],
    fun timestamp labels registration => hsettled.gives, happends⟩

end SeriesIndex.Store
