import Mathlib
import SeriesIndex.Proofs.Concurrent.Sound
import SeriesIndex.Proofs.Store.Readers

/-!
# Queries beside writers

A query reads the store in many steps, and other threads write between them.  It
evaluates its matchers one after another before it looks at the published set,
and reads the two bounds of an interval one after the other.  As a store only
grows, its answer lies between what a query at one moment would answer at its
first step and at its last: nothing that answered before is missed, and nothing
is listed that is incomplete, not selected, or out of reach.

`Task.Tracks` says what a query under way knows, compared with the store at its
first step and the store now.
-/

namespace SeriesIndex

namespace Store

variable {new : Store} {matchers : List Matcher} {tsid : Tsid}

/-- What each of some matchers selects, all select together. -/
theorem Selected.of_forall (hne : matchers ≠ [])
    (hall : ∀ matcher ∈ matchers, new.Selected [matcher] tsid) :
    new.Selected matchers tsid := by
  obtain ⟨first, hfirst⟩ := List.exists_mem_of_ne_nil matchers hne
  obtain ⟨series, hseries, -⟩ := hall first hfirst
  refine ⟨series, hseries, fun matcher hmatcher => ?_⟩
  obtain ⟨found, hfound, hselects⟩ := hall matcher hmatcher
  rw [hseries] at hfound
  cases hfound
  exact hselects matcher List.mem_cons_self

end Store

namespace Concurrent

/-- What a query knows that has evaluated some of its matchers: nothing is left
out that answered at first, and each of these matchers restricts the rest. -/
structure Evaluated (old new : Store) (matchers : List Matcher)
    (window : Window) (done : List Matcher) (operands : List Postings) :
    Prop where
  wanted : ∀ postings ∈ operands, ∀ tsid,
    old.Answering matchers window tsid → tsid ∈ postings
  selected : ∀ matcher ∈ done, ∃ postings ∈ operands,
    ∀ tsid ∈ postings, new.Selected [matcher] tsid

/-- What a query knows that has read some of its candidates. -/
structure Listing (old new : Store) (matchers : List Matcher) (window : Window)
    (rest answers : List Tsid) : Prop where
  ascending : (answers.reverse ++ rest).Pairwise (· < ·)
  wanted : ∀ tsid, old.Answering matchers window tsid →
    tsid ∈ answers ∨ tsid ∈ rest
  selected : ∀ tsid ∈ rest,
    tsid ∈ new.catalog.published ∧ new.Selected matchers tsid
  answering : ∀ tsid ∈ answers, new.Answering matchers window tsid

/-- What a query under way knows, compared with the store at its first step and
the store now. -/
def Task.Tracks (old new : Store) (matchers : List Matcher) (window : Window) :
    Task → Prop
  | evaluate operands matcher rest own => own = window ∧
      ∃ done, matchers = done ++ matcher :: rest ∧
        Evaluated old new matchers window done operands
  | copyPublished own => own = window ∧ matchers = []
  | retain candidates own => own = window ∧
      ∀ tsid, (old.Answering matchers window tsid → tsid ∈ candidates) ∧
        (tsid ∈ candidates → new.Selected matchers tsid)
  | fetch tsid rest own answers => own = window ∧
      Listing old new matchers window (tsid :: rest) answers
  | readEarliest tsid rest own answers => own = window ∧
      Listing old new matchers window (tsid :: rest) answers
  | readLatest earliest tsid rest own answers => own = window ∧
      Listing old new matchers window (tsid :: rest) answers ∧
      (∃ series, new.catalog.series? tsid = some series ∧
        series.activity.earliest ≤ earliest) ∧
      (old.Answering matchers window tsid → earliest ≤ window.stop)
  | _ => False

/-- An answer between those at two moments. -/
def Answer.Between (old new : Store) (matchers : List Matcher)
    (window : Window) (answer : Answer) : Prop :=
  ∃ tsids, answer = .resolved (.ok tsids) ∧ tsids.Pairwise (· < ·) ∧
    (∀ tsid, old.Answering matchers window tsid → tsid ∈ tsids) ∧
    ∀ tsid ∈ tsids, new.Answering matchers window tsid

def Next.Tracks (old new : Store) (matchers : List Matcher) (window : Window) :
    Next → Prop
  | .goOn task => task.Tracks old new matchers window
  | .finish answer => answer.Between old new matchers window

variable {old new later : Store} {matchers : List Matcher} {window : Window}
  {task : Task} {rest answers : List Tsid} {tsid : Tsid}

/-! ## Steps of other threads -/

/-- What was evaluated stays right as the store grows. -/
theorem Evaluated.grows {done : List Matcher} {operands : List Postings}
    (hevaluated : Evaluated old new matchers window done operands)
    (hgrows : new.Grows later) :
    Evaluated old later matchers window done operands where
  wanted := hevaluated.wanted
  selected matcher hmatcher := by
    obtain ⟨postings, hpostings, hselected⟩ :=
      hevaluated.selected matcher hmatcher
    exact ⟨postings, hpostings, fun tsid hmem =>
      (hselected tsid hmem).grows hgrows⟩

/-- So does what was listed. -/
theorem Listing.grows (hlisting : Listing old new matchers window rest answers)
    (hgrows : new.Grows later) :
    Listing old later matchers window rest answers where
  ascending := hlisting.ascending
  wanted := hlisting.wanted
  selected tsid hmem :=
    ⟨hgrows.published tsid (hlisting.selected tsid hmem).1,
      (hlisting.selected tsid hmem).2.grows hgrows⟩
  answering tsid hmem := (hlisting.answering tsid hmem).grows hgrows

/-- What a query knows stays true while other threads write. -/
theorem Task.Tracks.grows (htracks : task.Tracks old new matchers window)
    (hgrows : new.Grows later) : task.Tracks old later matchers window := by
  cases task with
  | evaluate operands matcher rest own =>
      obtain ⟨hwindow, done, hdone, hevaluated⟩ := htracks
      exact ⟨hwindow, done, hdone, hevaluated.grows hgrows⟩
  | copyPublished own => exact htracks
  | retain candidates own =>
      exact ⟨htracks.1, fun tsid => ⟨(htracks.2 tsid).1, fun hmem =>
        ((htracks.2 tsid).2 hmem).grows hgrows⟩⟩
  | fetch tsid rest own answers =>
      exact ⟨htracks.1, htracks.2.grows hgrows⟩
  | readEarliest tsid rest own answers =>
      exact ⟨htracks.1, htracks.2.grows hgrows⟩
  | readLatest earliest tsid rest own answers =>
      obtain ⟨hwindow, hlisting, ⟨series, hseries, hle⟩, hwanted⟩ := htracks
      obtain ⟨found, hfound, -, hwithin⟩ := hgrows.series tsid series hseries
      exact ⟨hwindow, hlisting.grows hgrows,
        ⟨found, hfound, Int64.le_trans hwithin.1 hle⟩, hwanted⟩
  | _ => exact htracks

/-! ## Steps of the query -/

/-- A matcher that is evaluated now selects whatever answered at first. -/
theorem mem_evaluate_of_answering (hcons : new.Consistent)
    (hgrows : old.Grows new) {matcher : Matcher} (hmatcher : matcher ∈ matchers)
    (hanswering : old.Answering matchers window tsid) :
    tsid ∈ new.inverted.evaluate matcher := by
  obtain ⟨hpublished, series, hseries, hselects, -⟩ := hanswering.grows hgrows
  exact hcons.mem_evaluate_of_selects hpublished hseries
    (hselects matcher hmatcher)

/-- One more matcher is evaluated. -/
theorem Evaluated.evaluate {done : List Matcher} {operands : List Postings}
    (hevaluated : Evaluated old new matchers window done operands)
    (hcons : new.Consistent) (hgrows : old.Grows new) {matcher : Matcher}
    (hmatcher : matcher ∈ matchers) :
    Evaluated old new matchers window (done ++ [matcher])
      (operands ++ [new.inverted.evaluate matcher]) where
  wanted postings hpostings tsid hanswering := by
    rw [List.mem_append, List.mem_singleton] at hpostings
    rcases hpostings with hold | rfl
    · exact hevaluated.wanted postings hold tsid hanswering
    · exact mem_evaluate_of_answering hcons hgrows hmatcher hanswering
  selected other hother := by
    rw [List.mem_append, List.mem_singleton] at hother
    rcases hother with hold | rfl
    · obtain ⟨postings, hpostings, hselected⟩ := hevaluated.selected other hold
      exact ⟨postings, List.mem_append_left _ hpostings, hselected⟩
    · refine ⟨_, List.mem_append_right _ (List.mem_singleton_self _),
        fun tsid hmem => ?_⟩
      obtain ⟨series, hseries, hselects⟩ := hcons.selects_of_mem_evaluate hmem
      exact ⟨series, hseries, List.forall_mem_singleton.mpr hselects⟩

/-- What all matchers select has everything that answered at first, and nothing
that is not selected. -/
theorem Evaluated.intersection {operands : List Postings}
    (hevaluated : Evaluated old new matchers window matchers operands)
    (hne : matchers ≠ []) :
    (old.Answering matchers window tsid →
      tsid ∈ Postings.intersection operands) ∧
    (tsid ∈ Postings.intersection operands → new.Selected matchers tsid) := by
  obtain ⟨first, hfirst⟩ := List.exists_mem_of_ne_nil matchers hne
  obtain ⟨postings, hpostings, -⟩ := hevaluated.selected first hfirst
  have hsome : operands ≠ [] := List.ne_nil_of_mem hpostings
  rw [Postings.mem_intersection hsome]
  constructor
  · exact fun hanswering operand hoperand =>
      hevaluated.wanted operand hoperand tsid hanswering
  · intro hall
    refine .of_forall hne fun matcher hmatcher => ?_
    obtain ⟨own, hown, hselected⟩ := hevaluated.selected matcher hmatcher
    exact hselected tsid (hall own hown)

/-- A query that goes on to the next number is on track. -/
theorem tracks_fetchNext
    (hlisting : Listing old new matchers window rest answers) :
    (Task.fetchNext window answers rest).Tracks old new matchers window := by
  cases rest with
  | nil =>
      refine ⟨answers.reverse, rfl, ?_, fun tsid hanswering => ?_,
        fun tsid hmem => ?_⟩
      · rw [← List.append_nil answers.reverse]
        exact hlisting.ascending
      · rw [List.mem_reverse]
        exact (hlisting.wanted tsid hanswering).resolve_right List.not_mem_nil
      · exact hlisting.answering tsid (List.mem_reverse.mp hmem)
  | cons tsid rest => exact ⟨rfl, hlisting⟩

/-- The candidates of a query, once the published set was looked at. -/
theorem listing_candidates {candidates : Postings}
    (hcandidates : ∀ tsid,
      (old.Answering matchers window tsid → tsid ∈ candidates) ∧
      (tsid ∈ candidates → tsid ∈ new.catalog.published ∧
        new.Selected matchers tsid)) :
    Listing old new matchers window candidates.toList [] where
  ascending := Postings.toList_ascending candidates
  wanted tsid hanswering :=
    .inr (Std.ExtTreeSet.mem_toList.mpr ((hcandidates tsid).1 hanswering))
  selected tsid hmem :=
    (hcandidates tsid).2 (Std.ExtTreeSet.mem_toList.mp hmem)
  answering _ hmem := absurd hmem List.not_mem_nil

/-- A number is passed over if its series did not answer at the start. -/
theorem Listing.skip
    (hlisting : Listing old new matchers window (tsid :: rest) answers)
    (hnot : ¬old.Answering matchers window tsid) :
    Listing old new matchers window rest answers where
  ascending := hlisting.ascending.sublist
    ((List.sublist_cons_self tsid rest).append_left answers.reverse)
  wanted other hanswering := by
    refine (hlisting.wanted other hanswering).imp_right fun hmem => ?_
    rcases List.mem_cons.mp hmem with rfl | hrest
    · exact absurd hanswering hnot
    · exact hrest
  selected other hmem := hlisting.selected other (List.mem_cons_of_mem _ hmem)
  answering := hlisting.answering

/-- It is kept if its series answers now. -/
theorem Listing.keep
    (hlisting : Listing old new matchers window (tsid :: rest) answers)
    (hanswering : new.Answering matchers window tsid) :
    Listing old new matchers window rest (tsid :: answers) where
  ascending := by
    rw [List.reverse_cons, List.append_assoc, List.singleton_append]
    exact hlisting.ascending
  wanted other hwanted := by
    rcases hlisting.wanted other hwanted with hmem | hmem
    · exact .inl (List.mem_cons_of_mem _ hmem)
    · rcases List.mem_cons.mp hmem with rfl | hrest
      · exact .inl List.mem_cons_self
      · exact .inr hrest
  selected other hmem := hlisting.selected other (List.mem_cons_of_mem _ hmem)
  answering other hmem := by
    rcases List.mem_cons.mp hmem with rfl | hold
    · exact hanswering
    · exact hlisting.answering other hold

/-- How far a query is from its end: matchers to evaluate, then one look at the
published set, then three reads for each candidate. -/
def Task.rank : Task → Nat × Nat
  | evaluate _ _ rest _ => (2, rest.length)
  | copyPublished _ => (1, 0)
  | retain _ _ => (1, 0)
  | fetch _ rest _ _ => (0, 3 * rest.length + 2)
  | readEarliest _ rest _ _ => (0, 3 * rest.length + 1)
  | readLatest _ _ rest _ _ => (0, 3 * rest.length)
  | _ => (0, 0)

def Task.Nearer (later task : Task) : Prop :=
  Prod.Lex (· < ·) (· < ·) later.rank task.rank

/-- A query cannot come nearer to its answer without end. -/
theorem Task.wellFounded_nearer : WellFounded Task.Nearer :=
  InvImage.wf Task.rank (WellFounded.prod_lex Nat.lt_wfRel.wf Nat.lt_wfRel.wf)

/-- The step of a query: it can always be taken, writes nothing, leads to a task
nearer to the end or to the answer, and to no wrong one. -/
structure Reads (old : Store) (matchers : List Matcher) (window : Window)
    (shared : Shared) (number : Nat) (task : Task) (next : Next) : Prop where
  step : task.step shared number = some (shared, next)
  tracks : next.Tracks old shared.store matchers window
  nearer : ∀ later, next = .goOn later → later.Nearer task

theorem nearer_fetchNext {later : Task}
    (hrank : 0 < task.rank.1 ∨ task.rank = (0, 3 * rest.length))
    (hnext : Task.fetchNext window answers rest = .goOn later) :
    later.Nearer task := by
  cases rest with
  | nil => cases hnext
  | cons tsid rest =>
      cases hnext
      rw [Task.Nearer, Prod.lex_def]
      rcases hrank with hpos | hsame
      · exact .inl hpos
      · refine .inr ⟨(congrArg Prod.fst hsame).symm, ?_⟩
        rw [hsame, Task.rank, List.length_cons]
        omega

variable {shared : Shared} {number : Nat}

theorem reads_evaluate {operands : List Postings} {matcher : Matcher}
    {others : List Matcher} {own : Window}
    (htracks : (Task.evaluate operands matcher others own).Tracks old
      shared.store matchers window)
    (hcons : shared.store.Consistent) (hgrows : old.Grows shared.store)
    (number : Nat) :
    ∃ next, Reads old matchers window shared number
      (.evaluate operands matcher others own) next := by
  obtain ⟨rfl, done, hdone, hevaluated⟩ := htracks
  have hmatcher : matcher ∈ matchers := by simp [hdone]
  have hlater := hevaluated.evaluate hcons hgrows hmatcher
  have hstore : shared.index.store = shared.store := rfl
  cases hempty : (shared.store.inverted.evaluate matcher).isEmpty with
  | true =>
      refine ⟨.finish (.resolved (.ok [])), ?_, ?_, ?_⟩
      · simp only [Task.step, hstore, hempty, if_true]
      · refine ⟨[], rfl, .nil, fun tsid hanswering => ?_,
          fun tsid hmem => absurd hmem List.not_mem_nil⟩
        have hmem :=
          mem_evaluate_of_answering hcons hgrows hmatcher hanswering
        exact absurd hmem (Postings.eq_empty_of_isEmpty hempty tsid)
      · intro later hnext
        cases hnext
  | false =>
      cases others with
      | nil =>
          refine ⟨.goOn (.retain (Postings.intersection
            (operands ++ [shared.store.inverted.evaluate matcher])) own),
            ?_, ?_, ?_⟩
          · simp only [Task.step, hstore, hempty, Bool.false_eq_true, if_false]
          · rw [← hdone] at hlater
            exact ⟨rfl, fun tsid => hlater.intersection (by simp [hdone])⟩
          · rintro later hnext
            cases hnext
            exact .left _ _ (by decide)
      | cons second others =>
          refine ⟨.goOn (.evaluate
            (operands ++ [shared.store.inverted.evaluate matcher]) second others
            own), ?_, ?_, ?_⟩
          · simp only [Task.step, hstore, hempty, Bool.false_eq_true, if_false]
          · exact ⟨rfl, done ++ [matcher], by simp [hdone], hlater⟩
          · rintro later hnext
            cases hnext
            exact .right _ (Nat.lt_succ_self _)

theorem Listing.exists_series
    (hlisting : Listing old new matchers window (tsid :: rest) answers) :
    ∃ series, new.catalog.series? tsid = some series ∧
      tsid ∈ new.catalog.published ∧
      ∀ matcher ∈ matchers, matcher.Selects series.labels := by
  obtain ⟨hpublished, series, hseries, hselects⟩ :=
    hlisting.selected tsid List.mem_cons_self
  exact ⟨series, hseries, hpublished, hselects⟩

/-- The bounds of an interval are read at two moments.  The lower one may have
moved down since, so what is seen lies within the interval now; and what
answered at first is seen to answer. -/
theorem reads_readLatest {earliest : Timestamp} {own : Window}
    (htracks : (Task.readLatest earliest tsid rest own answers).Tracks old
      shared.store matchers window)
    (hgrows : old.Grows shared.store) (number : Nat) :
    ∃ next, Reads old matchers window shared number
      (.readLatest earliest tsid rest own answers) next := by
  obtain ⟨rfl, hlisting, ⟨found, hfound, hle⟩, hwanted⟩ := htracks
  obtain ⟨series, hseries, hpublished, hselects⟩ := hlisting.exists_series
  obtain rfl : series = found := by
    rw [hseries] at hfound
    exact Option.some.inj hfound
  have hcatalog : shared.catalog.series? tsid = some series := hseries
  cases hoverlaps :
    Activity.overlaps ⟨earliest, series.activity.latest⟩ own with
  | true =>
      refine ⟨Task.fetchNext own (tsid :: answers) rest, ?_, ?_,
        fun later hnext => nearer_fetchNext (.inr rfl) hnext⟩
      · simp only [Task.step, hcatalog, hoverlaps, if_true]
      · have hwithin : Activity.Within ⟨earliest, series.activity.latest⟩
            series.activity := ⟨hle, Int64.le_refl _⟩
        exact tracks_fetchNext (hlisting.keep ⟨hpublished, series, hseries,
          hselects, Activity.overlaps_of_within hwithin hoverlaps⟩)
  | false =>
      refine ⟨Task.fetchNext own answers rest, ?_, ?_,
        fun later hnext => nearer_fetchNext (.inr rfl) hnext⟩
      · simp only [Task.step, hcatalog, hoverlaps, Bool.false_eq_true, if_false]
      · refine tracks_fetchNext (hlisting.skip fun hanswering => ?_)
        obtain ⟨-, other, hother, -, hreaches⟩ := hanswering.grows hgrows
        rw [hseries] at hother
        cases hother
        have hreach : Activity.overlaps ⟨earliest, series.activity.latest⟩
            own = true := Activity.overlaps_iff.mpr
          ⟨hwanted hanswering, (Activity.overlaps_iff.mp hreaches).2⟩
        exact Bool.false_ne_true (hoverlaps.symm.trans hreach)

/-- A query on track can take its step, only reads, and is on track after it. -/
theorem Task.Tracks.reads
    (htracks : task.Tracks old shared.store matchers window)
    (hcons : shared.store.Consistent) (hgrows : old.Grows shared.store)
    (number : Nat) :
    ∃ next, Reads old matchers window shared number task next := by
  cases task with
  | evaluate operands matcher rest own =>
      exact reads_evaluate htracks hcons hgrows number
  | copyPublished own =>
      obtain ⟨rfl, rfl⟩ := htracks
      refine ⟨_, rfl, tracks_fetchNext (listing_candidates fun tsid => ?_),
        fun later hnext => nearer_fetchNext (.inl Nat.one_pos) hnext⟩
      constructor
      · exact fun hanswering => (hanswering.grows hgrows).1
      · intro hpublished
        obtain ⟨series, hseries, -⟩ := hcons.published_held tsid hpublished
        exact ⟨hpublished, series, hseries, nofun⟩
  | retain candidates own =>
      obtain ⟨rfl, hcandidates⟩ := htracks
      refine ⟨_, rfl, tracks_fetchNext (listing_candidates fun tsid => ?_),
        fun later hnext => nearer_fetchNext (.inl Nat.one_pos) hnext⟩
      rw [Std.ExtTreeSet.mem_inter_iff]
      constructor
      · exact fun hanswering =>
          ⟨(hcandidates tsid).1 hanswering, (hanswering.grows hgrows).1⟩
      · exact fun hmem => ⟨hmem.2, (hcandidates tsid).2 hmem.1⟩
  | fetch tsid rest own answers =>
      obtain ⟨rfl, hlisting⟩ := htracks
      obtain ⟨series, hseries, -⟩ := hlisting.exists_series
      have hcatalog : shared.catalog.series? tsid = some series := hseries
      refine ⟨.goOn (.readEarliest tsid rest own answers), ?_, ⟨rfl, hlisting⟩,
        ?_⟩
      · simp only [Task.step, hcatalog, Option.isSome_some, if_true]
      · rintro later hnext
        cases hnext
        exact .right 0 (Nat.lt_succ_self _)
  | readEarliest tsid rest own answers =>
      obtain ⟨rfl, hlisting⟩ := htracks
      obtain ⟨series, hseries, -⟩ := hlisting.exists_series
      have hcatalog : shared.catalog.series? tsid = some series := hseries
      refine ⟨.goOn
          (.readLatest series.activity.earliest tsid rest own answers),
        ?_, ⟨rfl, hlisting, ⟨series, hseries, Int64.le_refl _⟩, ?_⟩, ?_⟩
      · simp only [Task.step, hcatalog]
      · intro hanswering
        obtain ⟨-, other, hother, -, hreaches⟩ := hanswering.grows hgrows
        rw [hseries] at hother
        cases hother
        exact (Activity.overlaps_iff.mp hreaches).1
      · rintro later hnext
        cases hnext
        exact .right 0 (Nat.lt_succ_self _)
  | readLatest earliest tsid rest own answers =>
      exact reads_readLatest htracks hgrows number
  | _ => exact absurd htracks id

theorem tracks_start (shared : Shared) (old new : Store)
    (matchers : List Matcher) (window : Window) :
    (Task.start shared (.resolve matchers window)).Tracks old new matchers
      window := by
  cases matchers with
  | nil => exact ⟨rfl, rfl⟩
  | cons matcher rest => exact ⟨rfl, [], rfl, nofun, nofun⟩

end Concurrent

end SeriesIndex
