import Mathlib
import SeriesIndex.Proofs.Concurrent.Pending

/-!
# Sound worlds

A world is sound if its store is consistent, stripes are owned as the tasks say,
every thread follows its requests with answers that fit and a valid task, no
number is pending twice, every stored series is findable or about to be, and the
count of series covers the places that are taken.  Every step of every thread
keeps a world sound, so every run does.
-/

namespace SeriesIndex.Concurrent

/-- A thread has answered its requests so far, and works on the next one. -/
structure Thread.Follows (store : Store) (given : List Request)
    (thread : Thread) : Prop where
  answered : ∀ (place : Nat) (answer : Answer),
    thread.answers[place]? = some answer →
    ∃ request, given[place]? = some request ∧ answer.Fits store request
  idle : thread.task = none → thread.requests = given.drop thread.answers.length
  busy : ∀ task : Task, thread.task = some task →
    ∃ request, given[thread.answers.length]? = some request ∧
      thread.requests = given.drop (thread.answers.length + 1) ∧
      task.Valid store request

def Thread.places (thread : Thread) : Nat :=
  thread.task.elim 0 Task.places

/-- The places that the threads have taken for series which are not stored. -/
def World.places (world : World) : Nat :=
  (world.threads.map Thread.places).sum

structure World.Sound (given : List (List Request)) (world : World) :
    Prop where
  consistent : world.shared.store.Consistent
  locked : world.Locked
  follows : ∀ (number : Nat) (thread : Thread),
    world.threads[number]? = some thread →
    ∃ requests, given[number]? = some requests ∧
      thread.Follows world.shared.store requests
  apart : ∀ (left right : Nat) (leftTask rightTask : Task), left ≠ right →
    world.task? left = some leftTask → world.task? right = some rightTask →
    ∀ series ∈ leftTask.pending, ∀ other ∈ rightTask.pending,
      series.tsid ≠ other.tsid
  keyed : ∀ tsid series,
    world.shared.store.catalog.series? tsid = some series →
    world.shared.store.catalog.lookup? series.labels = some tsid ∨
      ∃ number, ∃ task : Task, ∃ entering, world.task? number = some task ∧
        task.entering = some entering ∧ entering.tsid = tsid
  count : world.shared.store.catalog.seriesCount =
    world.shared.store.catalog.series.size + world.places
  within : world.shared.store.catalog.limit = 0 ∨
    world.shared.store.catalog.seriesCount ≤ world.shared.store.catalog.limit

/-! ## Threads -/

variable {store new : Store} {given : List Request} {thread : Thread}

theorem Thread.Follows.grows (hfollows : thread.Follows store given)
    (hgrows : store.Grows new)
    (hvalid : ∀ task request, thread.task = some task →
      task.Valid store request → task.Valid new request) :
    thread.Follows new given where
  answered place answer hanswer := by
    obtain ⟨request, hrequest, hfits⟩ := hfollows.answered place answer hanswer
    exact ⟨request, hrequest, hfits.grows hgrows⟩
  idle := hfollows.idle
  busy task htask := by
    obtain ⟨request, hrequest, hrest, hold⟩ := hfollows.busy task htask
    exact ⟨request, hrequest, hrest, hvalid task request htask hold⟩

theorem drop_eq_cons {α : Type} {list rest : List α} {place : Nat} {first : α}
    (hdrop : first :: rest = list.drop place) :
    list[place]? = some first ∧ rest = list.drop (place + 1) := by
  constructor
  · have hget : (list.drop place)[0]? = list[place + 0]? :=
      List.getElem?_drop
    rw [← hdrop, Nat.add_zero] at hget
    exact hget.symm
  · rw [← List.tail_drop, ← hdrop, List.tail_cons]

/-- A thread follows its requests as it begins the next one. -/
theorem Thread.Follows.start (hfollows : thread.Follows store given)
    {request : Request} {requests : List Request} {task : Task}
    (hidle : thread.task = none)
    (hrequests : thread.requests = request :: requests)
    (hvalid : task.Valid store request) :
    Thread.Follows store given
      { thread with requests := requests, task := some task } where
  answered := hfollows.answered
  idle hnone := by cases hnone
  busy other hother := by
    cases hother
    have hdrop := hfollows.idle hidle
    rw [hrequests] at hdrop
    obtain ⟨hrequest, hrest⟩ := drop_eq_cons hdrop
    exact ⟨request, hrequest, hrest, hvalid⟩

/-- It follows them as it works on one. -/
theorem Thread.Follows.after (hfollows : thread.Follows store given)
    {task : Task} {next : Next} (htask : thread.task = some task)
    (hgrows : store.Grows new)
    (hnext : ∀ request, task.Valid store request → next.Valid new request) :
    (thread.after next).Follows new given := by
  obtain ⟨request, hrequest, hrest, hvalid⟩ := hfollows.busy task htask
  have hafter := hnext request hvalid
  cases next with
  | goOn later =>
      constructor
      case answered =>
        intro place answer hanswer
        obtain ⟨other, hother, hfits⟩ := hfollows.answered place answer hanswer
        exact ⟨other, hother, hfits.grows hgrows⟩
      case idle => exact fun hnone => nomatch hnone
      case busy =>
        rintro other hother
        cases hother
        exact ⟨request, hrequest, hrest, hafter⟩
  | finish answer =>
      constructor
      case answered =>
        intro place found hfound
        rw [Thread.after, List.getElem?_append] at hfound
        split at hfound
        · obtain ⟨other, hother, hfits⟩ :=
            hfollows.answered place found hfound
          exact ⟨other, hother, hfits.grows hgrows⟩
        · rw [List.getElem?_singleton] at hfound
          split at hfound
          · cases hfound
            have hplace : place = thread.answers.length := by omega
            rw [hplace]
            exact ⟨request, hrequest, hafter⟩
          · cases hfound
      case idle =>
        intro hnone
        rw [Thread.after, List.length_append, List.length_singleton]
        exact hrest
      case busy => exact fun other hother => nomatch hother

theorem sum_map_set {α : Type} {f : α → Nat} {list : List α} {place : Nat}
    {old new : α} (hold : list[place]? = some old) :
    ((list.set place new).map f).sum + f old = (list.map f).sum + f new := by
  induction list generalizing place with
  | nil => cases hold
  | cons first rest ih =>
      cases place with
      | zero =>
          cases hold
          simp only [List.set_cons_zero, List.map_cons, List.sum_cons]
          omega
      | succ place =>
          have hrest := ih hold
          simp only [List.set_cons_succ, List.map_cons, List.sum_cons]
          omega

/-! ## Tasks in a sound world -/

variable {shared : Shared} {task : Task} {request : Request} {series : Series}

theorem Task.mem_pending_of_entering (hentering : task.entering = some series) :
    series ∈ task.pending := by
  cases task with
  | enroll stage other batch =>
      cases stage with
      | store => cases hentering
      | _ =>
          cases hentering
          exact mem_pending_enroll _ series batch
  | _ => cases hentering

/-- A task owns the stripes of the series that are pending in it. -/
theorem Task.owns_of_mem_pending (shared : Shared)
    (hpending : series ∈ task.pending) :
    task.Owns shared (shared.slotOf series.labels) := by
  cases task with
  | enroll stage other batch =>
      cases batch with
      | none =>
          rw [pending, List.mem_singleton] at hpending
          rw [hpending]
          rfl
      | some rest => exact shared.slotOf_lt _
  | _ => cases hpending

/-- Series on their way have numbers below the next one. -/
theorem Task.Valid.below_of_mem_pending (hvalid : task.Valid store request)
    (hpending : series ∈ task.pending) :
    series.tsid < store.catalog.nextTsid := by
  cases task with
  | enroll stage other batch =>
      cases batch with
      | none =>
          rw [pending, List.mem_singleton] at hpending
          rw [hpending]
          exact hvalid.enters.below
      | some rest =>
          obtain ⟨entries, -, hloads⟩ := hvalid
          rcases List.mem_cons.mp hpending with rfl | hrest
          · exact hloads.enters.below
          · exact hloads.below series hrest
  | _ => cases hpending

theorem Task.Valid.stored_of_entering (hvalid : task.Valid store request)
    (hentering : task.entering = some series) : store.Stored series := by
  cases task with
  | enroll stage other batch =>
      have hwritten := hvalid.enters.written
      cases stage with
      | store => cases hentering
      | label first rest =>
          cases hentering
          exact hwritten.1
      | publish =>
          cases hentering
          exact hwritten.1
      | key =>
          cases hentering
          exact hwritten.1.1
  | _ => cases hentering

variable {all : List (List Request)} {world after : World}
  {number other : Nat} {next : Next}

theorem World.Sound.valid (hsound : world.Sound all)
    (htask : world.task? number = some task) :
    ∃ request, task.Valid world.shared.store request := by
  obtain ⟨thread, hthread, hsome⟩ := World.task?_eq_some_iff.mp htask
  obtain ⟨requests, -, hfollows⟩ := hsound.follows number thread hthread
  obtain ⟨request, -, -, hvalid⟩ := hfollows.busy task hsome
  exact ⟨request, hvalid⟩

/-- Whoever owns the stripe of a label set and does not find it knows that no
stored series has it. -/
theorem World.Sound.free (hsound : world.Sound all)
    (htask : world.task? number = some task) (hentering : task.entering = none)
    {labels : LabelSet}
    (howns : task.Owns world.shared (world.shared.slotOf labels))
    (hkey : world.shared.store.catalog.lookup? labels = none) :
    world.shared.store.catalog.Free labels := by
  rintro tsid series hseries rfl
  rcases hsound.keyed tsid series hseries with hfound | hothers
  · rw [hkey] at hfound
    cases hfound
  · obtain ⟨other, otherTask, entering, hother, hsome, rfl⟩ := hothers
    obtain ⟨request, hvalid⟩ := hsound.valid hother
    obtain ⟨found, hfound, hlabels⟩ := hvalid.stored_of_entering hsome
    rw [hseries] at hfound
    cases hfound
    have hotherOwns := Task.owns_of_mem_pending world.shared
      (Task.mem_pending_of_entering hsome)
    rw [← hlabels] at hotherOwns
    have hsame := hsound.locked.eq_of_owns htask hother howns hotherOwns
    subst hsame
    rw [htask] at hother
    cases hother
    rw [hentering] at hsome
    cases hsome

/-- Only whoever owns a stripe changes the count of series. -/
theorem Effect.seriesCount (heffect : Effect task shared.store new)
    (hnone : ∀ slot, slot < shared.catalog.keys.size → ¬task.Owns shared slot) :
    new.catalog.seriesCount = shared.store.catalog.seriesCount := by
  generalize hold : shared.store = old at heffect
  cases heffect with
  | reserve => exact absurd rfl (hnone _ (shared.slotOf_lt _))
  | giveBack => exact absurd rfl (hnone _ (shared.slotOf_lt _))
  | raiseCount =>
      exact absurd shared.catalog.keys.pos (hnone 0 shared.catalog.keys.pos)
  | key => exact Catalog.seriesCount_addKey _ _ _
  | _ => rfl

/-- A step spares the tasks of all other threads. -/
theorem World.Sound.spares (hsound : world.Sound all)
    (htask : world.task? number = some task)
    (heffect : Effect task world.shared.store new)
    (hgrows : world.shared.store.Grows new) (hne : other ≠ number)
    {otherTask : Task} (hother : world.task? other = some otherTask) :
    Spares world.shared otherTask new where
  grows := hgrows
  series tsid series hseries := by
    rcases heffect.of_series? hseries with hold | ⟨batch, rfl, rfl⟩
    · exact .inl hold
    · have hpending := mem_pending_enroll .store series batch
      refine .inr ⟨fun howns => hne ?_, fun pending hmem => ?_⟩
      · exact hsound.locked.eq_of_owns hother htask howns
          (Task.owns_of_mem_pending _ hpending)
      · exact hsound.apart other number otherTask _ hne hother htask pending
          hmem series hpending
  count howns := heffect.seriesCount fun slot hslot hmine =>
    hne (hsound.locked.eq_of_owns hother htask (howns slot hslot) hmine)
  limit := heffect.limit

/-! ## Steps -/

/-- Only the thread that takes the step takes or gives back places. -/
theorem World.places_of_set {thread updated : Thread}
    (hthread : world.threads[number]? = some thread)
    (hafter : after.threads = world.threads.set number updated) :
    after.places + thread.places = world.places + updated.places := by
  rw [places, places, hafter]
  exact sum_map_set hthread

theorem places_le_places {thread : Thread}
    (hthread : world.threads[number]? = some thread) :
    thread.places ≤ world.places :=
  List.le_sum_of_mem (List.mem_map_of_mem (List.mem_of_getElem? hthread))

/-- No step fills the index over its limit. -/
theorem Effect.within (heffect : Effect task store new)
    (hvalid : task.Valid store request)
    (hwithin : store.catalog.limit = 0 ∨
      store.catalog.seriesCount ≤ store.catalog.limit) :
    new.catalog.limit = 0 ∨ new.catalog.seriesCount ≤ new.catalog.limit := by
  cases heffect with
  | reserve hroom => exact Store.hasRoom_iff.mp hroom
  | giveBack =>
      exact hwithin.imp_right fun hle => Nat.le_trans (Nat.sub_le _ _) hle
  | raiseCount => exact Store.hasRoom_iff.mp hvalid.2.2.1
  | key =>
      rw [Catalog.limit_addKey, Catalog.seriesCount_addKey]
      exact hwithin
  | _ => exact hwithin

/-- No other number is pending when one is given out. -/
theorem World.Sound.tsid_ne_of_grants (hsound : world.Sound all)
    (htask : world.task? number = some task) {labels : LabelSet} {tsid : Tsid}
    (hgrants : task.Grants world.shared.store labels tsid)
    (hne : other ≠ number) {otherTask : Task}
    (hother : world.task? other = some otherTask)
    {pending : Series} (hpending : pending ∈ otherTask.pending) :
    pending.tsid ≠ tsid := by
  obtain ⟨request, hvalid⟩ := hsound.valid hother
  cases task with
  | allocate timestamp own =>
      obtain ⟨-, -, rfl⟩ := hgrants
      rintro hsame
      have hbelow := hvalid.below_of_mem_pending hpending
      rw [hsame] at hbelow
      exact UInt64.lt_irrefl _ hbelow
  | raiseCount entries =>
      have howns := Task.owns_of_mem_pending world.shared hpending
      exact absurd (hsound.locked.eq_of_owns hother htask howns
        (world.shared.slotOf_lt _)) hne
  | _ => exact absurd hgrants id

theorem Next.mem_pending_iff :
    (∃ task, next.task? = some task ∧ series ∈ task.pending) ↔
      series ∈ next.pending := by
  cases next <;> simp [task?, pending]

/-- A step leaves the series of different threads apart. -/
theorem World.Sound.apart_step (hsound : world.Sound all)
    (hsteps : world.Steps number after) {thread : Thread}
    (hthread : world.threads[number]? = some thread)
    (htask : thread.task = some task)
    (hcarries : Carries world.shared after.shared task next)
    (hafter : after.threads = world.threads.set number (thread.after next))
    {other : Nat} {laterTask otherTask : Task} (hne : other ≠ number)
    (hlater : after.task? number = some laterTask)
    (hother : after.task? other = some otherTask) :
    ∀ series ∈ laterTask.pending, ∀ pending ∈ otherTask.pending,
      series.tsid ≠ pending.tsid := by
  have hold : world.task? number = some task :=
    (task?_of_getElem? hthread).trans htask
  rw [task?_of_set hthread hafter, Thread.task_after] at hlater
  rw [hsteps.task?_of_ne hne] at hother
  intro series hseries pending hpending
  have hnext : series ∈ next.pending :=
    Next.mem_pending_iff.mp ⟨laterTask, hlater, hseries⟩
  rcases hcarries.pending series hnext with hmem | hgrants
  · exact hsound.apart number other task otherTask hne.symm hold hother series
      hmem pending hpending
  · exact (hsound.tsid_ne_of_grants hold hgrants hne hother hpending).symm

/-- After a step, what is stored is findable or about to be. -/
theorem World.Sound.keyed_step (hsound : world.Sound all)
    (hsteps : world.Steps number after) {thread : Thread}
    (hthread : world.threads[number]? = some thread)
    (htask : thread.task = some task)
    (heffect : Effect task world.shared.store after.shared.store)
    (hgrows : world.shared.store.Grows after.shared.store)
    (hcarries : Carries world.shared after.shared task next)
    (hafter : after.threads = world.threads.set number (thread.after next))
    {tsid : Tsid}
    (hseries : after.shared.store.catalog.series? tsid = some series) :
    after.shared.store.catalog.lookup? series.labels = some tsid ∨
      ∃ number, ∃ task : Task, ∃ entering, after.task? number = some task ∧
        task.entering = some entering ∧ entering.tsid = tsid := by
  have hold : world.task? number = some task :=
    (task?_of_getElem? hthread).trans htask
  have hlater : ∀ entering, next.entering = some entering →
      ∃ later, after.task? number = some later ∧
        later.entering = some entering := by
    intro entering hentering
    rw [task?_of_set hthread hafter, Thread.task_after]
    cases next with
    | goOn later => exact ⟨later, rfl, hentering⟩
    | finish answer => cases hentering
  rcases heffect.of_series? hseries with
    ⟨found, hfound, hlabels⟩ | ⟨batch, rfl, rfl⟩
  · rcases hsound.keyed tsid found hfound with hkey | hentering
    · exact .inl (hlabels ▸ hgrows.key _ _ hkey)
    · obtain ⟨other, otherTask, entering, hother, hsome, rfl⟩ := hentering
      by_cases hsame : other = number
      · subst hsame
        rw [hold] at hother
        cases hother
        rcases hcarries.entering entering hsome with hkept | hkey
        · obtain ⟨later, hsome, hentering⟩ := hlater entering hkept
          exact .inr ⟨other, later, entering, hsome, hentering, rfl⟩
        · obtain ⟨request, hvalid⟩ := hsound.valid hold
          obtain ⟨stored, hstored, hstoredLabels⟩ :=
            hvalid.stored_of_entering hsome
          rw [hfound] at hstored
          cases hstored
          rw [← hstoredLabels, hlabels] at hkey
          exact .inl hkey
      · rw [← hsteps.task?_of_ne hsame] at hother
        exact .inr ⟨other, otherTask, entering, hother, hsome, rfl⟩
  · obtain ⟨later, hsome, hentering⟩ :=
      hlater series (hcarries.storing series batch rfl)
    exact .inr ⟨number, later, series, hsome, hentering, rfl⟩

theorem isIdle_start (shared : Shared) (request : Request) :
    (Next.goOn (Task.start shared request)).IsIdle := by
  cases request with
  | register timestamp labels =>
      rw [Task.start]
      split <;> exact ⟨rfl, rfl, rfl⟩
  | importBatch entries => exact ⟨rfl, rfl, rfl⟩
  | resolve matchers window => cases matchers <;> exact ⟨rfl, rfl, rfl⟩

/-- Beginning a request touches nothing. -/
theorem World.Sound.start (hsound : world.Sound all)
    (hsteps : world.Steps number after) {thread : Thread} {request : Request}
    {requests : List Request}
    (hthread : world.threads[number]? = some thread)
    (hidle : thread.task = none)
    (hrequests : thread.requests = request :: requests)
    (hshared : after.shared = world.shared)
    (hafter : after.threads = world.threads.set number
      { thread with
        requests := requests
        task := some (Task.start world.shared request) }) :
    after.Sound all := by
  have hstart := isIdle_start world.shared request
  have hempty : (Task.start world.shared request).pending = [] := hstart.pending
  have hlater : after.task? number = some (Task.start world.shared request) :=
    task?_of_set hthread hafter
  have hnone : world.task? number = none :=
    (task?_of_getElem? hthread).trans hidle
  constructor
  case consistent => exact hshared ▸ hsound.consistent
  case locked => exact hsound.locked.step hsteps
  case follows =>
    obtain ⟨given, hgiven, hfollows⟩ := hsound.follows number thread hthread
    rw [hshared]
    refine forall_threads_of_set hthread hafter ⟨given, hgiven, ?_⟩
      fun other found _ => hsound.follows other found
    exact hfollows.start hidle hrequests (Task.valid_start _ _)
  case apart =>
    intro left right leftTask rightTask hne hleft hright
    by_cases hleftSame : left = number
    · subst hleftSame
      rw [hlater] at hleft
      cases hleft
      intro series hseries
      rw [hempty] at hseries
      cases hseries
    · by_cases hrightSame : right = number
      · subst hrightSame
        rw [hlater] at hright
        cases hright
        intro series hseries pending hpending
        rw [hempty] at hpending
        cases hpending
      · rw [hsteps.task?_of_ne hleftSame] at hleft
        rw [hsteps.task?_of_ne hrightSame] at hright
        exact hsound.apart left right leftTask rightTask hne hleft hright
  case keyed =>
    rw [hshared]
    intro tsid series hseries
    apply (hsound.keyed tsid series hseries).imp_right
    rintro ⟨other, task, entering, hother, hfacts⟩
    have hne : other ≠ number := by
      rintro rfl
      rw [hnone] at hother
      cases hother
    exact ⟨other, task, entering, (hsteps.task?_of_ne hne).trans hother, hfacts⟩
  case count =>
    have hplaces := places_of_set hthread hafter
    have hold : thread.places = 0 := by rw [Thread.places, hidle]; rfl
    have hnew : (Task.start world.shared request).places = 0 := hstart.places
    rw [hshared, hsound.count]
    simp only [Thread.places, hidle, Option.elim_none, Option.elim_some,
      hnew] at hplaces
    omega
  case within =>
    rw [hshared]
    exact hsound.within

/-- A step of a task keeps a world sound. -/
theorem World.Sound.work (hsound : world.Sound all)
    (hsteps : world.Steps number after) {thread : Thread}
    (hthread : world.threads[number]? = some thread)
    (htask : thread.task = some task)
    (hmoves : Moves world.shared number task after.shared next)
    (hafter : after.threads = world.threads.set number (thread.after next)) :
    after.Sound all := by
  have hold : world.task? number = some task :=
    (task?_of_getElem? hthread).trans htask
  obtain ⟨request, hvalid⟩ := hsound.valid hold
  have heffect := hmoves.effect
  have hgrows := heffect.grows hsound.consistent hvalid
  have hcarries := hmoves.carries hvalid
  constructor
  case consistent => exact heffect.consistent hsound.consistent hvalid
  case locked => exact hsound.locked.step hsteps
  case follows =>
    refine forall_threads_of_set hthread hafter ?_ ?_
    · obtain ⟨given, hgiven, hfollows⟩ := hsound.follows number thread hthread
      refine ⟨given, hgiven, hfollows.after htask hgrows ?_⟩
      intro request hvalid
      refine hvalid.step hsound.consistent ?_ hmoves
      intro hentering labels howns hkey
      exact hsound.free hold hentering howns hkey
    · intro other found hne hfound
      obtain ⟨given, hgiven, hfollows⟩ := hsound.follows other found hfound
      refine ⟨given, hgiven, hfollows.grows hgrows ?_⟩
      intro otherTask request hother hvalid
      have hotherTask : world.task? other = some otherTask :=
        (task?_of_getElem? hfound).trans hother
      exact hvalid.spared (hsound.spares hold heffect hgrows hne hotherTask)
  case apart =>
    intro left right leftTask rightTask hne hleft hright
    by_cases hleftSame : left = number
    · subst hleftSame
      exact hsound.apart_step hsteps hthread htask hcarries hafter hne.symm
        hleft hright
    · by_cases hrightSame : right = number
      · subst hrightSame
        intro series hseries pending hpending
        exact (hsound.apart_step hsteps hthread htask hcarries hafter hne
          hright hleft pending hpending series hseries).symm
      · rw [hsteps.task?_of_ne hleftSame] at hleft
        rw [hsteps.task?_of_ne hrightSame] at hright
        exact hsound.apart left right leftTask rightTask hne hleft hright
  case keyed =>
    intro tsid series hseries
    exact hsound.keyed_step hsteps hthread htask heffect hgrows hcarries hafter
      hseries
  case count =>
    have hcount := hsound.count
    have hplaces := places_of_set hthread hafter
    have htaskPlaces : thread.places = task.places := by
      rw [Thread.places, htask, Option.elim_some]
    have hnextPlaces : (thread.after next).places = next.places := by
      rw [Thread.places, Thread.task_after]
      cases next <;> rfl
    have hle := places_le_places hthread
    have hbalance := hcarries.places (by omega)
    omega
  case within => exact heffect.within hvalid hsound.within

/-- Every step keeps a world sound. -/
theorem World.Sound.step (hsound : world.Sound all)
    (hstep : world.step number = some after) : after.Sound all := by
  have hsteps := World.steps_of_step hstep
  cases hsteps with
  | start thread request requests hthread hidle hrequests hshared hafter =>
      exact hsound.start (World.steps_of_step hstep) hthread hidle hrequests
        hshared hafter
  | work thread task next hthread htask hmoves hafter =>
      exact hsound.work (World.steps_of_step hstep) hthread htask hmoves hafter

/-! ## Runs -/

theorem World.task?_ofIndex (index : Index) (requests : List (List Request))
    (number : Nat) : (World.ofIndex index requests).task? number = none := by
  rw [Option.eq_none_iff_forall_ne_some]
  intro task htask
  obtain ⟨thread, hthread, hsome⟩ := task?_eq_some_iff.mp htask
  rw [ofIndex, List.getElem?_map, Option.map_eq_some_iff] at hthread
  obtain ⟨list, -, rfl⟩ := hthread
  cases hsome

/-- What is counted of threads with a task is nothing at first. -/
theorem World.sum_ofIndex (index : Index) (requests : List (List Request))
    {measure : Thread → Nat}
    (hzero : ∀ requests : List Request, measure { requests } = 0) :
    ((World.ofIndex index requests).threads.map measure).sum = 0 := by
  rw [ofIndex, List.map_map]
  apply List.sum_eq_zero
  intro count hcount
  obtain ⟨given, -, rfl⟩ := List.mem_map.mp hcount
  exact hzero given

/-- A world in which threads are about to work on a settled index is sound. -/
theorem World.sound_ofIndex {index : Index} (hsettled : index.store.Settled)
    (requests : List (List Request)) :
    (World.ofIndex index requests).Sound requests := by
  constructor
  case consistent => exact hsettled.toConsistent
  case locked => exact World.locked_ofIndex index requests
  case follows =>
    intro number thread hthread
    rw [World.ofIndex, List.getElem?_map, Option.map_eq_some_iff] at hthread
    obtain ⟨given, hgiven, rfl⟩ := hthread
    refine ⟨given, hgiven, ?_⟩
    constructor
    · exact fun place answer hanswer => by simp at hanswer
    · exact fun _ => rfl
    · intro task htask
      cases htask
  case apart =>
    intro left right leftTask rightTask hne hleft hright
    rw [World.task?_ofIndex] at hleft
    cases hleft
  case keyed =>
    exact fun tsid series hseries => .inl (hsettled.keyed tsid series hseries)
  case count =>
    have hplaces : (World.ofIndex index requests).places = 0 :=
      World.sum_ofIndex index requests fun _ => rfl
    rw [hplaces]
    exact hsettled.count
  case within => exact hsettled.within

theorem World.Sound.run (hsound : world.Sound all) (schedule : List Nat) :
    (world.run schedule).Sound all :=
  World.run_induction (fun _ _ _ => World.Sound.step) schedule hsound

end SeriesIndex.Concurrent
