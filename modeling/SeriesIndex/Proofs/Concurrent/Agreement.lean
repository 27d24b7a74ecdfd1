import Mathlib
import SeriesIndex.Proofs.Concurrent.Credit

/-!
# Racing registrations agree

Whatever requests the threads work on and whatever the schedule, label sets and
numbers stay one to one, in every world on the way: stored, pending and findable
series never disagree.  What can be found is complete, the series limit holds,
and once no call is under way the counts are right.  All registrations of one
label set are told the same number, and one of them at most is told that it is
new.
-/

namespace SeriesIndex.Concurrent

variable {all : List (List Request)} {world after : World}
  {number other : Nat} {task : Task} {labels otherLabels : LabelSet}
  {tsid otherTsid : Tsid} {store : Store} {request : Request}
  {series pending : Series}

/-! ## One number for each label set -/

/-- A pending series is stored already, or neither its number nor its label set
is taken. -/
theorem Task.Valid.stored_or_untaken (hvalid : task.Valid store request)
    (hpending : series ∈ task.pending) :
    store.Stored series ∨ (store.catalog.series? series.tsid = none ∧
      store.catalog.Free series.labels) := by
  have hwritten : ∀ {stage : Stage} {written : Series},
      Enters store stage written → store.Stored written ∨
        (store.catalog.series? written.tsid = none ∧
          store.catalog.Free written.labels) := by
    intro stage written henters
    have hat := henters.written
    cases stage with
    | store => exact .inr hat
    | label first rest => exact .inl hat.1
    | publish => exact .inl hat.1
    | key => exact .inl hat.1.1
  cases task with
  | enroll stage own batch =>
      cases batch with
      | none =>
          rw [pending, List.mem_singleton] at hpending
          rw [hpending]
          exact hwritten hvalid.enters
      | some rest =>
          obtain ⟨entries, -, hloads⟩ := hvalid
          rcases List.mem_cons.mp hpending with rfl | hrest
          · exact hwritten hloads.enters
          · exact .inr (hloads.untaken series hrest).symm
  | _ => cases hpending

/-- A series on its way never has the reserved number. -/
theorem Task.Valid.tsid_ne_of_mem_pending (hvalid : task.Valid store request)
    (hpending : series ∈ task.pending) : series.tsid ≠ Tsid.reserved := by
  cases task with
  | enroll stage own batch =>
      cases batch with
      | none =>
          rw [pending, List.mem_singleton] at hpending
          rw [hpending]
          exact hvalid.enters.tsid_ne
      | some rest =>
          obtain ⟨entries, -, hloads⟩ := hvalid
          obtain ⟨done, hdone, -⟩ := hloads.loaded
          refine (hloads.sound series ?_).tsid_ne
          rw [hdone]
          exact List.mem_append_right _ hpending
  | _ => cases hpending

/-- The series that are pending in one task have different numbers and label
sets. -/
theorem Task.Valid.pending_inj (hvalid : task.Valid store request)
    (hseries : series ∈ task.pending) (hpending : pending ∈ task.pending) :
    series.labels = pending.labels ↔ series.tsid = pending.tsid := by
  cases task with
  | enroll stage own batch =>
      cases batch with
      | none =>
          rw [Task.pending, List.mem_singleton] at hseries hpending
          rw [hseries, hpending]
          exact iff_of_true rfl rfl
      | some rest =>
          obtain ⟨entries, -, hloads⟩ := hvalid
          obtain ⟨done, hdone, -⟩ := hloads.loaded
          refine Catalog.labels_eq_iff_of_distinct hloads.distinct ?_ ?_
          · rw [hdone]
            exact List.mem_append_right _ hseries
          · rw [hdone]
            exact List.mem_append_right _ hpending
  | _ => cases hseries

/-- A stored series and one on its way share their labels only if they share
their number. -/
theorem World.Sound.stored_pending (hsound : world.Sound all)
    (hstored : world.shared.store.catalog.series? tsid = some series)
    (htask : world.task? number = some task)
    (hpending : pending ∈ task.pending) :
    series.labels = pending.labels ↔ tsid = pending.tsid := by
  obtain ⟨request, hvalid⟩ := hsound.valid htask
  rcases hvalid.stored_or_untaken hpending with
    ⟨found, hfound, hlabels⟩ | ⟨hnone, hfree⟩
  · constructor
    · intro hsame
      exact hsound.consistent.labels_inj _ _ series found hstored hfound
        (hsame.trans hlabels.symm)
    · rintro rfl
      rw [hstored] at hfound
      cases hfound
      exact hlabels
  · apply iff_of_false (hfree tsid series hstored)
    rintro rfl
    rw [hnone] at hstored
    cases hstored

/-- No label set has two numbers, and no number two label sets. -/
theorem World.Sound.allocated_inj (hsound : world.Sound all)
    (hleft : world.Allocated labels tsid)
    (hright : world.Allocated otherLabels otherTsid) :
    labels = otherLabels ↔ tsid = otherTsid := by
  rcases hleft with ⟨series, hseries, rfl⟩ |
      ⟨number, task, htask, series, hseries, rfl, rfl⟩ <;>
    rcases hright with ⟨found, hfound, rfl⟩ |
      ⟨other, otherTask, hother, pending, hpending, rfl, rfl⟩
  · constructor
    · exact hsound.consistent.labels_inj _ _ series found hseries hfound
    · rintro rfl
      rw [hseries] at hfound
      cases hfound
      rfl
  · exact hsound.stored_pending hseries hother hpending
  · exact eq_comm.trans
      ((hsound.stored_pending hfound htask hseries).trans eq_comm)
  · by_cases hsame : number = other
    · subst hsame
      rw [htask] at hother
      cases hother
      obtain ⟨request, hvalid⟩ := hsound.valid htask
      exact hvalid.pending_inj hseries hpending
    · refine iff_of_false (fun hlabels => hsame ?_)
        (hsound.apart _ _ _ _ hsame htask hother series hseries pending
          hpending)
      have howns := Task.owns_of_mem_pending world.shared hseries
      rw [hlabels] at howns
      exact hsound.locked.eq_of_owns htask hother howns
        (Task.owns_of_mem_pending world.shared hpending)

theorem World.Sound.tsid_bounds (hsound : world.Sound all)
    (hlabels : world.Allocated labels tsid) :
    tsid ≠ Tsid.reserved ∧ tsid ≠ Tsid.last := by
  rcases hlabels with ⟨series, hseries, rfl⟩ |
    ⟨number, task, htask, series, hseries, rfl, rfl⟩
  · exact ⟨hsound.consistent.tsid_ne _ series hseries,
      Tsid.ne_last_of_lt (hsound.consistent.tsid_lt _ series hseries)⟩
  · obtain ⟨request, hvalid⟩ := hsound.valid htask
    exact ⟨hvalid.tsid_ne_of_mem_pending hseries,
      Tsid.ne_last_of_lt (hvalid.below_of_mem_pending hseries)⟩

/-- A label set that is found has its number. -/
theorem World.Sound.allocated_of_key (hsound : world.Sound all)
    (hkey : world.shared.store.catalog.lookup? labels = some tsid) :
    world.Allocated labels tsid :=
  .inl (hsound.consistent.key_labels labels tsid hkey)

/-! ## Quiet worlds -/

/-- In a quiet world no thread is at work. -/
theorem World.task?_of_isQuiet (hquiet : world.isQuiet = true) (number : Nat) :
    world.task? number = none := by
  rw [Option.eq_none_iff_forall_ne_some]
  intro task htask
  obtain ⟨thread, hthread, hsome⟩ := task?_eq_some_iff.mp htask
  rw [isQuiet, List.all_eq_true] at hquiet
  have hnone := hquiet thread (List.mem_of_getElem? hthread)
  rw [hsome] at hnone
  cases hnone

/-- Once no call is under way, every stored series is findable. -/
theorem World.Sound.complete (hsound : world.Sound all)
    (hquiet : world.isQuiet = true) : world.shared.store.Complete where
  toConsistent := hsound.consistent
  keyed tsid series hseries := by
    rcases hsound.keyed tsid series hseries with hkey | hentering
    · exact hkey
    · obtain ⟨number, task, entering, htask, -⟩ := hentering
      rw [World.task?_of_isQuiet hquiet] at htask
      cases htask

/-- What is counted of threads with a task is nothing when no call is under
way. -/
theorem World.sum_of_isQuiet (hquiet : world.isQuiet = true)
    {measure : Thread → Nat}
    (hzero : ∀ thread : Thread, thread.task = none → measure thread = 0) :
    (world.threads.map measure).sum = 0 := by
  rw [isQuiet, List.all_eq_true] at hquiet
  apply List.sum_eq_zero
  intro count hcount
  obtain ⟨thread, hthread, rfl⟩ := List.mem_map.mp hcount
  exact hzero thread (Option.isNone_iff_eq_none.mp (hquiet thread hthread))

theorem World.places_of_isQuiet (hquiet : world.isQuiet = true) :
    world.places = 0 := by
  apply sum_of_isQuiet hquiet
  intro thread hnone
  rw [Thread.places, hnone, Option.elim_none]

/-! ## Runs -/

/-- A number that was given stays with its label set. -/
theorem World.Sound.allocated_step (hsound : world.Sound all)
    (hstep : world.step number = some after)
    (hlabels : world.Allocated labels tsid) : after.Allocated labels tsid := by
  have hsteps := World.steps_of_step hstep
  cases World.steps_of_step hstep with
  | start thread request requests hthread hidle hrequests hshared hafter =>
      exact (World.allocated_start hsteps hthread hidle hshared hafter rfl).mpr
        hlabels
  | work thread task next hthread htask hmoves hafter =>
      have hold : world.task? number = some task :=
        (World.task?_of_getElem? hthread).trans htask
      obtain ⟨request, hvalid⟩ := hsound.valid hold
      have heffect := hmoves.effect
      exact (hsound.allocated_iff hsteps hthread htask heffect
        (heffect.grows hsound.consistent hvalid) (hmoves.carries hvalid)
        hafter).mpr (.inl hlabels)

/-- A label set keeps its number. -/
theorem World.Sound.allocated_run (hsound : world.Sound all)
    (schedule : List Nat) (hlabels : world.Allocated labels tsid) :
    (world.run schedule).Allocated labels tsid := by
  let keeps : World → Prop := fun world =>
    world.Sound all ∧ world.Allocated labels tsid
  have hstep : ∀ world number after, keeps world →
      world.step number = some after → keeps after := by
    rintro world number after ⟨hsound, hlabels⟩ hstep
    exact ⟨hsound.step hstep, hsound.allocated_step hstep hlabels⟩
  exact (World.run_induction hstep schedule ⟨hsound, hlabels⟩).2

theorem World.limit_run (world : World) (schedule : List Nat) :
    (world.run schedule).shared.store.catalog.limit =
      world.shared.store.catalog.limit := by
  let keeps : World → Prop := fun after =>
    after.shared.store.catalog.limit = world.shared.store.catalog.limit
  have hstep : ∀ world number after, keeps world →
      world.step number = some after → keeps after := by
    intro world number after hlimit hstep
    cases World.steps_of_step hstep with
    | start thread request requests hthread hidle hrequests hshared hafter =>
        exact (congrArg (fun shared : Shared => shared.store.catalog.limit)
          hshared).trans hlimit
    | work thread task next hthread htask hmoves hafter =>
        exact hmoves.effect.limit.trans hlimit
  exact World.run_induction hstep schedule rfl

/-! ## Agreement -/

/-- The request at a place of a thread was answered. -/
def World.Answered (all : List (List Request)) (world : World)
    (number place : Nat) (request : Request) (answer : Answer) : Prop :=
  ∃ (given : List Request) (thread : Thread), all[number]? = some given ∧
    world.threads[number]? = some thread ∧ given[place]? = some request ∧
    thread.answers[place]? = some answer

def World.Registered (all : List (List Request)) (world : World)
    (number place : Nat) (labels : LabelSet)
    (registration : Store.Registration) : Prop :=
  ∃ timestamp, world.Answered all number place (.register timestamp labels)
    (.registered (.ok registration))

def World.Imported (all : List (List Request)) (world : World)
    (number place : Nat) (labels : LabelSet) (tsid : Tsid) : Prop :=
  ∃ entries, world.Answered all number place (.importBatch entries)
      (.imported (.ok ())) ∧
    ∃ entry ∈ entries, entry.labels = labels ∧ entry.tsid = tsid

/-- Who is told that its series is new has founded it. -/
theorem World.Registered.founded
    {place : Nat}
    (hregistered : world.Registered all number place labels ⟨tsid, true⟩) :
    world.Founded all number place labels tsid := by
  obtain ⟨timestamp, given, thread, hgiven, hthread, hrequest, hanswer⟩ :=
    hregistered
  exact ⟨given, thread, hgiven, hthread, _, hrequest,
    .inl ⟨_, hanswer, rfl, timestamp, rfl⟩⟩

/-- So has who imported it. -/
theorem World.Imported.founded {place : Nat}
    (himported : world.Imported all number place labels tsid) :
    world.Founded all number place labels tsid := by
  obtain ⟨entries, ⟨given, thread, hgiven, hthread, hrequest, hanswer⟩,
    hentry⟩ := himported
  exact ⟨given, thread, hgiven, hthread, _, hrequest,
    .inl ⟨_, hanswer, rfl, entries, rfl, hentry⟩⟩

/-- In a quiet world every founder has its answer. -/
theorem World.Founded.answered {place : Nat} (hquiet : world.isQuiet = true)
    (hfounded : world.Founded all number place labels tsid) :
    world.Registered all number place labels ⟨tsid, true⟩ ∨
      world.Imported all number place labels tsid := by
  obtain ⟨given, thread, hgiven, hthread, request, hrequest, hfounds⟩ :=
    hfounded
  rcases hfounds with ⟨answer, hanswer, hfounds⟩ | ⟨-, task, htask, -⟩
  · cases answer with
    | registered outcome =>
        obtain ⟨rfl, timestamp, rfl⟩ := hfounds
        exact .inl
          ⟨timestamp, given, thread, hgiven, hthread, hrequest, hanswer⟩
    | imported outcome =>
        obtain ⟨rfl, entries, rfl, hentry⟩ := hfounds
        exact .inr
          ⟨entries, ⟨given, thread, hgiven, hthread, hrequest, hanswer⟩, hentry⟩
    | resolved outcome => exact absurd hfounds id
  · have hnone := World.task?_of_isQuiet hquiet number
    rw [World.task?_of_getElem? hthread, htask] at hnone
    cases hnone

/-- The number that a registration was answered is the one to be found. -/
theorem World.Sound.key_of_registered (hsound : world.Sound all) {place : Nat}
    {registration : Store.Registration}
    (hregistered : world.Registered all number place labels registration) :
    world.shared.store.catalog.lookup? labels = some registration.tsid := by
  obtain ⟨timestamp, given, thread, hgiven, hthread, hrequest, hanswer⟩ :=
    hregistered
  obtain ⟨own, hown, hfollows⟩ := hsound.follows number thread hthread
  rw [hgiven] at hown
  cases hown
  obtain ⟨request, hsame, hfits⟩ := hfollows.answered place _ hanswer
  rw [hrequest] at hsame
  cases hsame
  obtain ⟨other, labels, hrequest, hkey⟩ := hfits
  cases hrequest
  exact hkey registration rfl

/-- What the threads of a world agree on, under a limit on the number of
series. -/
structure World.Agrees (limit : Nat) (all : List (List Request))
    (world : World) : Prop where
  /-- No label set has two numbers, and no number two label sets. -/
  allocated_inj : ∀ labels tsid otherLabels otherTsid,
    world.Allocated labels tsid → world.Allocated otherLabels otherTsid →
      (labels = otherLabels ↔ tsid = otherTsid)
  key_allocated : ∀ labels tsid,
    world.shared.catalog.lookup? labels = some tsid →
      world.Allocated labels tsid
  stored_tsid : ∀ tsid series,
    world.shared.catalog.series? tsid = some series → series.tsid = tsid
  tsid_bounds : ∀ labels tsid, world.Allocated labels tsid →
    tsid ≠ Tsid.reserved ∧ tsid ≠ Tsid.last
  /-- What can be found is published, and what is published is complete. -/
  key_published : ∀ labels tsid,
    world.shared.catalog.lookup? labels = some tsid →
      tsid ∈ world.shared.catalog.published
  published_listed : ∀ tsid, tsid ∈ world.shared.catalog.published →
    ∃ series, world.shared.catalog.series? tsid = some series ∧
      ∀ label ∈ series.labels.labels,
        tsid ∈ world.shared.index.store.inverted.postings label.name
          label.value ∧
        tsid ∈ world.shared.index.store.inverted.union label.name
  within : limit = 0 ∨ world.shared.catalog.seriesCount ≤ limit
  /-- Once no call is under way, records, keys and published numbers are as many
  as are counted. -/
  counts : world.isQuiet = true →
    world.shared.catalog.seriesCount = world.shared.catalog.series.size ∧
    world.shared.catalog.seriesCount =
      world.shared.catalog.keys.keys.length ∧
    world.shared.catalog.seriesCount = world.shared.catalog.published.size
  /-- All successful registrations of a label set are told the same number. -/
  registered_key : ∀ number place labels registration,
    world.Registered all number place labels registration →
      world.shared.catalog.lookup? labels = some registration.tsid
  registered_same : ∀ number place other otherPlace labels registration
      otherRegistration,
    world.Registered all number place labels registration →
    world.Registered all other otherPlace labels otherRegistration →
      registration.tsid = otherRegistration.tsid
  /-- At most one of them is told that it is new. -/
  new_unique : ∀ number place other otherPlace labels tsid otherTsid,
    world.Registered all number place labels ⟨tsid, true⟩ →
    world.Registered all other otherPlace labels ⟨otherTsid, true⟩ →
      number = other ∧ place = otherPlace
  /-- And one is, unless the label set came with a batch. -/
  new_or_imported : ∀ labels tsid, world.isQuiet = true →
    world.shared.catalog.lookup? labels = some tsid →
      (∃ number place,
        world.Registered all number place labels ⟨tsid, true⟩) ∨
      ∃ number place, world.Imported all number place labels tsid
  not_both : ∀ number place other otherPlace labels tsid otherTsid,
    world.Registered all number place labels ⟨tsid, true⟩ →
      ¬world.Imported all other otherPlace labels otherTsid

theorem World.Answered.eq {place : Nat} {left right : Request}
    {leftAnswer rightAnswer : Answer}
    (hleft : world.Answered all number place left leftAnswer)
    (hright : world.Answered all number place right rightAnswer) :
    left = right := by
  obtain ⟨given, thread, hgiven, hthread, hrequest, -⟩ := hleft
  obtain ⟨own, -, hown, -, hsame, -⟩ := hright
  rw [hgiven] at hown
  cases hown
  rw [hrequest] at hsame
  cases hsame
  rfl

/-- A sound world in which all numbers are credited is one on which all threads
agree. -/
theorem World.Sound.agrees (hsound : world.Sound all)
    (hcredited : world.Credited all) :
    world.Agrees world.shared.catalog.limit all where
  allocated_inj _ _ _ _ := hsound.allocated_inj
  key_allocated _ _ := hsound.allocated_of_key
  stored_tsid := hsound.consistent.tsid_eq
  tsid_bounds _ _ := hsound.tsid_bounds
  key_published := hsound.consistent.key_published
  published_listed tsid hpublished := by
    obtain ⟨series, hseries, hheld⟩ :=
      hsound.consistent.published_held tsid hpublished
    obtain ⟨triples, hrep⟩ := hsound.consistent.represented
    refine ⟨series, hseries, fun label hlabel => ⟨hheld label hlabel, ?_⟩⟩
    exact (hrep.mem_union label.name tsid).mpr
      ⟨label.value, hrep.holds_iff.mp (hheld label hlabel)⟩
  within := hsound.within
  counts hquiet := by
    have hcomplete := hsound.complete hquiet
    have hcount := hsound.count
    rw [World.places_of_isQuiet hquiet, Nat.add_zero] at hcount
    exact ⟨hcount, hcount.trans hcomplete.length_keys.symm,
      hcount.trans hcomplete.size_published.symm⟩
  registered_key _ _ _ _ := hsound.key_of_registered
  registered_same _ _ _ _ _ _ _ hleft hright := by
    have hkey := hsound.key_of_registered hleft
    rw [hsound.key_of_registered hright] at hkey
    exact (Option.some_injective _ hkey).symm
  new_unique _ _ _ _ _ _ _ hleft hright :=
    hcredited.unique _ _ _ _ _ _ _ hleft.founded hright.founded
  new_or_imported labels tsid hquiet hkey := by
    obtain ⟨number, place, hfounded⟩ :=
      hcredited.founded labels tsid (hsound.allocated_of_key hkey)
    rcases hfounded.answered hquiet with hregistered | himported
    · exact .inl ⟨number, place, hregistered⟩
    · exact .inr ⟨number, place, himported⟩
  not_both _ _ _ _ _ _ _ hregistered himported := by
    obtain ⟨rfl, rfl⟩ :=
      hcredited.unique _ _ _ _ _ _ _ hregistered.founded himported.founded
    obtain ⟨timestamp, hleft⟩ := hregistered
    obtain ⟨entries, hright, -⟩ := himported
    cases hleft.eq hright

/-- Whatever threads do to an index that is empty at first, they agree in every
world on the way, and no label set or number changes hands between two worlds
of a run. -/
theorem run_agrees (settings : Settings) (requests : List (List Request))
    (early late : List Nat) :
    let start := World.ofIndex (Index.empty settings) requests
    let world := start.run (early ++ late)
    world.Agrees settings.seriesLimit requests ∧
      ∀ labels tsid otherLabels otherTsid,
        (start.run early).Allocated labels tsid →
        world.Allocated otherLabels otherTsid →
          (labels = otherLabels ↔ tsid = otherTsid) := by
  intro start world
  obtain ⟨hsound, hcredited⟩ :=
    World.credited_run settings requests (early ++ late)
  obtain ⟨hearly, -⟩ := World.credited_run settings requests early
  constructor
  · have hagrees := hsound.agrees hcredited
    have hlimit : world.shared.catalog.limit = settings.seriesLimit :=
      World.limit_run start (early ++ late)
    rw [hlimit] at hagrees
    exact hagrees
  · intro labels tsid otherLabels otherTsid hbefore hafter
    have hkept := hearly.allocated_run late hbefore
    rw [← World.run_append] at hkept
    exact hsound.allocated_inj hkept hafter

end SeriesIndex.Concurrent
