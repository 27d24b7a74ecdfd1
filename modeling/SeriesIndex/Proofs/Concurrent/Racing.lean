import Mathlib
import SeriesIndex.Concurrent.Race
import SeriesIndex.Proofs.Concurrent.Sound

/-!
# Threads of a race

Every thread of a race registers the same label sets in the same order.  What
soundness says of threads in general is said here of these: a thread that has
given some answers is at the label set with that number, and all its tasks are
ones of registrations.
-/

namespace SeriesIndex.Concurrent

def Race.given (threads : Nat) (sets : List LabelSet) : List (List Request) :=
  (List.range threads).map (Race.requests sets)

/-- The task is one of a registration. -/
def Task.Registers : Task → Prop
  | enroll _ _ batch => batch = none
  | takeAll _ _ => False
  | checkFree _ _ => False
  | checkRoom _ => False
  | raiseNext _ => False
  | raiseCount _ => False
  | evaluate _ _ _ _ => False
  | copyPublished _ => False
  | retain _ _ => False
  | fetch _ _ _ _ => False
  | readEarliest _ _ _ _ => False
  | readLatest _ _ _ _ _ => False
  | _ => True

variable {threads number place : Nat} {sets : List LabelSet} {task : Task}
  {labels : LabelSet} {timestamp : Timestamp} {store : Store} {world : World}
  {thread : Thread} {given : List Request} {request : Request}

theorem Task.Valid.registers
    (hvalid : task.Valid store (.register timestamp labels)) :
    task.Registers := by
  cases task with
  | enroll stage series batch =>
      cases batch with
      | none => rfl
      | some rest =>
          obtain ⟨entries, hrequest, -⟩ := hvalid
          cases hrequest
  | takeAll => cases hvalid
  | checkFree => cases hvalid.1
  | checkRoom => cases hvalid.1
  | raiseNext => cases hvalid.1
  | raiseCount => cases hvalid.1
  | evaluate | copyPublished | retain | fetch | readEarliest | readLatest =>
      obtain ⟨matchers, hrequest⟩ := hvalid
      cases hrequest
  | _ => trivial

theorem Task.Queries.not_registers {window : Window}
    (hqueries : task.Queries window) : ¬task.Registers := by
  cases task with
  | evaluate | copyPublished | retain | fetch | readEarliest | readLatest =>
      exact id
  | _ => exact absurd hqueries id

theorem getElem?_requests_eq_some_iff :
    (Race.requests sets number)[place]? = some request ↔
      ∃ labels, sets[place]? = some labels ∧
        .register (Int64.ofNat number) labels = request := by
  rw [Race.requests, List.getElem?_map, Option.map_eq_some_iff]

theorem getElem?_given_eq_some_iff :
    (Race.given threads sets)[number]? = some given ↔
      number < threads ∧ Race.requests sets number = given := by
  simp only [Race.given, List.getElem?_map, Option.map_eq_some_iff,
    List.getElem?_eq_some_iff, List.length_range, List.getElem_range]
  constructor
  · rintro ⟨_, ⟨hlt, rfl⟩, rfl⟩
    exact ⟨hlt, rfl⟩
  · rintro ⟨hlt, rfl⟩
    exact ⟨number, ⟨hlt, rfl⟩, rfl⟩

/-- A thread of a race has answered for some first label sets, and works on the
next one. -/
structure Thread.Races (store : Store) (sets : List LabelSet) (number : Nat)
    (thread : Thread) : Prop where
  answered : ∀ (place : Nat) (answer : Answer),
    thread.answers[place]? = some answer →
    ∃ labels outcome, sets[place]? = some labels ∧
      answer = .registered outcome ∧
      ∀ registration, outcome = .ok registration →
        store.catalog.lookup? labels = some registration.tsid
  idle : thread.task = none →
    thread.requests = (Race.requests sets number).drop thread.answers.length
  busy : ∀ task : Task, thread.task = some task →
    ∃ labels, sets[thread.answers.length]? = some labels ∧
      thread.requests =
        (Race.requests sets number).drop (thread.answers.length + 1) ∧
      task.Valid store (.register (Int64.ofNat number) labels)

/-- A thread that follows its requests in a race does nothing but register. -/
theorem Thread.Follows.races
    (hfollows : thread.Follows store (Race.requests sets number)) :
    thread.Races store sets number where
  answered place answer hanswer := by
    obtain ⟨request, hrequest, hfits⟩ := hfollows.answered place answer hanswer
    obtain ⟨labels, hlabels, rfl⟩ := getElem?_requests_eq_some_iff.mp hrequest
    cases answer with
    | registered outcome =>
        obtain ⟨timestamp, own, hsame, hkey⟩ := hfits
        cases hsame
        exact ⟨labels, outcome, hlabels, rfl, hkey⟩
    | imported outcome =>
        obtain ⟨entries, hsame, -⟩ := hfits
        cases hsame
    | resolved outcome =>
        obtain ⟨matchers, window, hsame⟩ := hfits
        cases hsame
  idle := hfollows.idle
  busy task htask := by
    obtain ⟨request, hrequest, hrest, hvalid⟩ := hfollows.busy task htask
    obtain ⟨labels, hlabels, rfl⟩ := getElem?_requests_eq_some_iff.mp hrequest
    exact ⟨labels, hlabels, hrest, hvalid⟩

theorem World.Sound.races (hsound : world.Sound (Race.given threads sets))
    (hthread : world.threads[number]? = some thread) :
    thread.Races world.shared.store sets number := by
  obtain ⟨given, hgiven, hfollows⟩ := hsound.follows number thread hthread
  obtain ⟨-, rfl⟩ := getElem?_given_eq_some_iff.mp hgiven
  exact hfollows.races

theorem World.Sound.number_lt (hsound : world.Sound (Race.given threads sets))
    (hthread : world.threads[number]? = some thread) : number < threads := by
  obtain ⟨given, hgiven, -⟩ := hsound.follows number thread hthread
  exact (getElem?_given_eq_some_iff.mp hgiven).1

theorem World.Sound.registers (hsound : world.Sound (Race.given threads sets))
    (hthread : world.threads[number]? = some thread)
    (htask : thread.task = some task) : task.Registers := by
  obtain ⟨labels, -, -, hvalid⟩ := (hsound.races hthread).busy task htask
  exact hvalid.registers

/-- The next label set of an idle thread. -/
theorem Thread.Races.next (hraces : thread.Races store sets number)
    {requests : List Request} (hidle : thread.task = none)
    (hrequests : thread.requests = request :: requests) :
    ∃ labels, sets[thread.answers.length]? = some labels ∧
      request = .register (Int64.ofNat number) labels := by
  have hdrop := hraces.idle hidle
  rw [hrequests] at hdrop
  obtain ⟨labels, hlabels, rfl⟩ :=
    getElem?_requests_eq_some_iff.mp (drop_eq_cons hdrop).1
  exact ⟨labels, hlabels, rfl⟩

theorem World.idle_ofIndex {index : Index} {all : List (List Request)}
    (hthread : (World.ofIndex index all).threads[number]? = some thread) :
    thread.task = none ∧ thread.answers = [] := by
  rw [World.ofIndex, List.getElem?_map, Option.map_eq_some_iff] at hthread
  obtain ⟨given, -, rfl⟩ := hthread
  exact ⟨rfl, rfl⟩

theorem World.length_threads_run (world : World) (schedule : List Nat) :
    (world.run schedule).threads.length = world.threads.length := by
  let keeps : World → Prop := fun after =>
    after.threads.length = world.threads.length
  have hstep : ∀ world number after, keeps world →
      world.step number = some after → keeps after := by
    intro world number after hlength hstep
    cases World.steps_of_step hstep with
    | start thread request requests hthread hidle hrequests hshared hafter =>
        exact (congrArg List.length hafter).trans
          (List.length_set.trans hlength)
    | work thread task next hthread htask hmoves hafter =>
        exact (congrArg List.length hafter).trans
          (List.length_set.trans hlength)
  exact World.run_induction hstep schedule rfl

theorem Race.length_threads_start (index : Index) (threads : Nat)
    (sets : List LabelSet) :
    (Race.start index threads sets).threads.length = threads := by
  rw [Race.start, World.ofIndex, List.length_map, List.length_map,
    List.length_range]

end SeriesIndex.Concurrent
