import Mathlib
import SeriesIndex.Proofs.Insertions
import SeriesIndex.Proofs.Store.Faithful

/-!
# Selections over any inverted index

A query does not trust the inverted index.  Numbers may have been put into it
that name no series, or one that is not published yet, and a number may stand
under several values of one name.  What a query selects is nevertheless the
published set, intersected with what each matcher selects, one after another:
that the smallest set is taken first, that the work stops at the first empty
set, and that the published set comes in last are seen only in what a query
costs.  The catalog by itself then has a series for every number that is
selected.
-/

namespace SeriesIndex

/-! ## Catalogs -/

/-- A catalog is empty at first, and registrations and batches are written to it
along with any inverted index at all. -/
inductive Catalog.Reachable : Catalog → Prop where
  | empty (stripes limit : Nat) : Reachable (.empty stripes limit)
  | performed {catalog : Catalog} (hreach : Reachable catalog)
      (inverted : InvertedIndex) (call : Store.Call) :
      Reachable (Store.perform ⟨catalog, inverted⟩ call).catalog

namespace Store

theorem catalog_foldl_enroll {left right : Store}
    (hcatalog : left.catalog = right.catalog) (entries : List Series) :
    (entries.foldl enroll left).catalog =
      (entries.foldl enroll right).catalog := by
  induction entries generalizing left right with
  | nil => exact hcatalog
  | cons entry rest ih =>
      apply ih
      rw [enroll, enroll, hcatalog]

/-- What is written to the catalog does not depend on the inverted index. -/
theorem catalog_perform (catalog : Catalog) (left right : InvertedIndex)
    (call : Call) :
    (perform ⟨catalog, left⟩ call).catalog =
      (perform ⟨catalog, right⟩ call).catalog := by
  cases call with
  | register timestamp labels =>
      simp only [perform, register]
      cases catalog.lookup? labels with
      | some tsid =>
          simp only [extend]
          cases (catalog.series? tsid).isSome <;> rfl
      | none =>
          cases catalog.reserve? with
          | none => rfl
          | some reserved =>
              dsimp only
              cases reserved.allocate? with
              | none => rfl
              | some allocated => exact catalog_foldl_enroll rfl [_]
  | importBatch entries =>
      simp only [perform, importBatch]
      cases catalog.checkBatch entries with
      | error fault => rfl
      | ok value =>
          refine catalog_foldl_enroll ?_ entries
          rfl

end Store

/-- A catalog that can be reached is that of a settled store: of the one whose
inverted index was kept up with it. -/
theorem Catalog.Reachable.settled {catalog : Catalog}
    (hreach : catalog.Reachable) :
    ∃ inverted, Store.Settled ⟨catalog, inverted⟩ := by
  induction hreach with
  | empty stripes limit => exact ⟨_, Store.settled_empty stripes 1 limit⟩
  | performed _ inverted call ih =>
      obtain ⟨kept, hsettled⟩ := ih
      -- The call is made along with the index that was kept up instead.
      rw [Store.catalog_perform _ inverted kept]
      exact ⟨_, hsettled.perform call⟩

theorem Catalog.Reachable.backed {catalog : Catalog}
    (hreach : catalog.Reachable) : catalog.Backed := by
  obtain ⟨inverted, hsettled⟩ := hreach.settled
  exact hsettled.toConsistent.backed

/-! ## Selections -/

namespace Store

variable {store : Store} {matchers : List Matcher}

/-- The published set, intersected with what each matcher selects, one after
another and all of them. -/
def intersect (store : Store) (matchers : List Matcher) : Postings :=
  matchers.foldl (fun left matcher => left ∩ store.inverted.evaluate matcher)
    store.catalog.published

theorem select_eq_intersect (store : Store) (matchers : List Matcher) :
    store.select matchers = store.intersect matchers := by
  apply Std.ExtTreeSet.ext_mem
  intro tsid
  rw [mem_select, intersect, Postings.mem_foldl_inter]

/-- Only which matchers there are matters, not their order or repetition. -/
theorem select_congr {others : List Matcher}
    (hsame : ∀ matcher, matcher ∈ others ↔ matcher ∈ matchers) :
    store.select others = store.select matchers := by
  apply Std.ExtTreeSet.ext_mem
  intro tsid
  simp only [mem_select, hsame]

/-- A query selects by intersection, and answers with the series it selects that
are active in the window. -/
structure Intersects (store : Store) (matchers : List Matcher) : Prop where
  select_eq : store.select matchers = store.intersect matchers
  mem_select : ∀ tsid, tsid ∈ store.select matchers ↔
    tsid ∈ store.catalog.published ∧
      ∀ matcher ∈ matchers, tsid ∈ store.inverted.evaluate matcher
  select_congr : ∀ others : List Matcher,
    (∀ matcher, matcher ∈ others ↔ matcher ∈ matchers) →
      store.select others = store.select matchers
  series : ∀ tsid ∈ store.select matchers,
    ∃ series, store.catalog.series? tsid = some series ∧ series.tsid = tsid
  resolve : ∀ window, ∃ answers,
    store.resolveSeries matchers window = .ok answers ∧
      store.resolve matchers window = .ok (answers.map Series.tsid) ∧
      (answers.map Series.tsid).Pairwise (· < ·) ∧
      ∀ series, series ∈ answers ↔
        series.tsid ∈ store.select matchers ∧
          store.catalog.series? series.tsid = some series ∧
          series.activity.earliest ≤ window.stop ∧
          window.start ≤ series.activity.latest

/-- Whatever inverted index is held against a catalog that registrations and
batches have built, every query over the two is a plain intersection, and is
answered. -/
theorem reachable_intersects {catalog : Catalog} (hreach : catalog.Reachable)
    (inverted : InvertedIndex) (matchers : List Matcher) :
    (Store.mk catalog inverted).Intersects matchers := by
  have hbacked : (Store.mk catalog inverted).catalog.Backed := hreach.backed
  constructor
  case select_eq => exact select_eq_intersect _ matchers
  case mem_select => exact fun tsid => Store.mem_select
  case select_congr => exact fun others => Store.select_congr
  case series =>
    exact fun tsid htsid => hbacked tsid (Store.mem_select.mp htsid).1
  case resolve =>
    intro window
    refine ⟨_, hbacked.resolveSeries_eq matchers window,
      hbacked.resolve_eq matchers window,
      hbacked.answers_ascending matchers window, fun series => ?_⟩
    rw [hbacked.mem_answers_iff, Activity.overlaps, Bool.and_eq_true,
      decide_eq_true_eq, decide_eq_true_eq]

def registeredOnce : Catalog :=
  ((Store.empty 1 1 0).perform (.register 100 .empty)).catalog

/-- An inverted index with the series under two values of a name that it does
not have, and with a number that names no series. -/
def astray : InvertedIndex :=
  (InvertedIndex.empty 1).putAll
    [.label "a" "1" 1, .label "a" "2" 1, .label "a" "1" 7]

def isOne : Matcher where
  op := .equal
  name := "a"
  value := "1"
  compiled := none
  named := by decide
  compiled_eq := (if_neg Bool.false_ne_true).symm
  usable := by decide

theorem reachable_intersects_astray :
    registeredOnce.Reachable ∧
      (Store.mk registeredOnce astray).Intersects [isOne, isOne.negate] := by
  have hreach : registeredOnce.Reachable :=
    .performed (.empty 1 0) (.empty 1) (.register 100 .empty)
  exact ⟨hreach, reachable_intersects hreach astray [isOne, isOne.negate]⟩

end Store

end SeriesIndex
