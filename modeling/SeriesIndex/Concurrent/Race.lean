import SeriesIndex.Concurrent.Step

/-!
# Races

In a race every thread registers the same label sets in the same order, each
thread at a timestamp of its own.  What is told of a race does not depend on the
schedule, so it is computed from the one in which each thread waits for those
before it.
-/

namespace SeriesIndex.Concurrent

structure Finisher where
  tsids : Postings
  allocations : Nat
  activity : Option Activity

structure Race where
  finishers : List Finisher
  tsids : List Tsid
  seriesCount : Nat
  accepted : Nat
  rejected : Nat

namespace Race

def requests (sets : List LabelSet) (thread : Nat) : List Request :=
  sets.map fun labels => .register (Int64.ofNat thread) labels

def start (index : Index) (threads : Nat) (sets : List LabelSet) : World :=
  .ofIndex index ((List.range threads).map (requests sets))

/-- More steps than a registration takes, besides one for every label. -/
def stepsOfCall : Nat := 12

/-- More steps than a race takes. -/
def steps (threads : Nat) (sets : List LabelSet) : Nat :=
  threads * sets.foldr (fun labels steps => stepsOfCall + labels.size + steps) 0

/-- The registrations that succeeded, of one label set in all threads. -/
def registrationsAt (world : World) (place : Nat) : List Store.Registration :=
  world.threads.filterMap fun thread =>
    thread.answers[place]?.bind fun answer =>
      match answer with
      | .registered (.ok registration) => some registration
      | _ => none

def finisher (world : World) (place : Nat) : Finisher :=
  let registrations := registrationsAt world place
  { tsids := Postings.extend ∅ (registrations.map (·.tsid))
    allocations := registrations.countP (·.isNew)
    activity := registrations.head?.bind fun registration =>
      (world.shared.index.activity registration.tsid).toOption }

/-- What is told of a world in which a race has ended. -/
def ofWorld (world : World) (sets : List LabelSet) : Race :=
  let index := world.shared.index
  { finishers := (List.range sets.length).map (finisher world)
    tsids := index.store.catalog.published.toList
    seriesCount := index.seriesCount
    accepted := index.counters.registrations
    rejected := index.counters.rejected }

def run (index : Index) (threads : Nat) (sets : List LabelSet) : Race :=
  ofWorld ((start index threads sets).runInOrder (steps threads sets)) sets

end Race

end SeriesIndex.Concurrent
