import SeriesIndex.Index

/-!
# Concurrent calls

Several threads work on one index.  What a call does is cut into steps, each of
which touches one shared part: a stripe of the keys, a counter, the stored
series, one label of the inverted index, the published set, or one bound of an
interval.  A thread that writes keys owns their stripe from the moment it takes
it until its key is written; a thread that loads a batch owns all stripes.

`World.step` lets one thread take its next step, and `World.run` follows a
schedule, which names the thread of every step.
-/

namespace SeriesIndex.Concurrent

inductive Request where
  | register (timestamp : Timestamp) (labels : LabelSet)
  | importBatch (entries : List Series)
  | resolve (matchers : List Matcher) (window : Window)

inductive Answer where
  | registered (outcome : Except Fault Store.Registration)
  | imported (outcome : Except Fault Unit)
  | resolved (outcome : Except Fault (List Tsid))

/-- The writes by which a series enters: it is stored, put under its labels one
by one, published, and made findable. -/
inductive Stage where
  | store
  | label (first : Label) (rest : List Label)
  | publish
  | key

/-- The stage of a series that has still to be put under some labels. -/
def Stage.ofLabels : List Label → Stage
  | [] => .publish
  | first :: rest => .label first rest

/-- What a call is about to do. -/
inductive Task where
  /-- Look for the label set. -/
  | find (timestamp : Timestamp) (labels : LabelSet)
  /-- Take the stripe of the label set. -/
  | take (timestamp : Timestamp) (labels : LabelSet)
  /-- Look for the label set once more. -/
  | recheck (timestamp : Timestamp) (labels : LabelSet)
  /-- Take a place under the limit. -/
  | reserve (timestamp : Timestamp) (labels : LabelSet)
  /-- Take the next number. -/
  | allocate (timestamp : Timestamp) (labels : LabelSet)
  /-- Give the place back, as there is no number. -/
  | giveBack (labels : LabelSet)
  /-- Write a series, of a registration or of a batch of which more entries are
  left. -/
  | enroll (stage : Stage) (series : Series) (batch : Option (List Series))
  /-- Move the lower bound of an interval. -/
  | widenDown (tsid : Tsid) (timestamp : Timestamp)
  /-- Move the upper bound of an interval. -/
  | widenUp (tsid : Tsid) (timestamp : Timestamp)
  /-- Count the outcome of a registration. -/
  | count (outcome : Except Fault Store.Registration)
  /-- Take a stripe, and all after it. -/
  | takeAll (slot : Nat) (entries : List Series)
  /-- See whether the labels and numbers of some entries are free. -/
  | checkFree (rest : List Series) (entries : List Series)
  /-- See whether there is room for a batch. -/
  | checkRoom (entries : List Series)
  /-- Move the next number past a batch. -/
  | raiseNext (entries : List Series)
  /-- Count the series of a batch. -/
  | raiseCount (entries : List Series)
  /-- Evaluate a matcher; what the ones before it select is known. -/
  | evaluate (operands : List Postings) (matcher : Matcher)
      (rest : List Matcher) (window : Window)
  /-- Copy the published set. -/
  | copyPublished (window : Window)
  /-- Keep the published ones of what all matchers select. -/
  | retain (candidates : Postings) (window : Window)
  /-- Fetch the first of some series; those before it that answer the query are
  known. -/
  | fetch (tsid : Tsid) (rest : List Tsid) (window : Window)
      (answers : List Tsid)
  /-- Read the lower bound of its interval. -/
  | readEarliest (tsid : Tsid) (rest : List Tsid) (window : Window)
      (answers : List Tsid)
  /-- Read the upper bound of its interval. -/
  | readLatest (earliest : Timestamp) (tsid : Tsid) (rest : List Tsid)
      (window : Window) (answers : List Tsid)

/-- What the threads share: the index, and the stripes that are owned, each with
the thread that owns it. -/
structure Shared where
  index : Index
  owned : List (Nat × Nat) := []

namespace Shared

def catalog (shared : Shared) : Catalog := shared.index.store.catalog

def mapCatalog (shared : Shared) (change : Catalog → Catalog) : Shared :=
  { shared with index := { shared.index with store := { shared.index.store with
    catalog := change shared.index.store.catalog } } }

def mapInverted (shared : Shared) (change : InvertedIndex → InvertedIndex) :
    Shared :=
  { shared with index := { shared.index with store := { shared.index.store with
    inverted := change shared.index.store.inverted } } }

def slotOf (shared : Shared) (labels : LabelSet) : Nat :=
  shared.catalog.keys.slotOf labels.fingerprint

def isFree (shared : Shared) (slot : Nat) : Bool :=
  shared.owned.all fun (other, _) => other != slot

def take (shared : Shared) (slot thread : Nat) : Shared :=
  { shared with owned := (slot, thread) :: shared.owned }

def free (shared : Shared) (thread : Nat) : Shared :=
  { shared with owned := shared.owned.filter fun (_, owner) => owner != thread }

end Shared

/-- What comes after a step: another one, or the answer. -/
inductive Next where
  | goOn (task : Task)
  | finish (answer : Answer)

namespace Task

/-- What a request starts with.  Labels that the settings do not allow are only
counted. -/
def start (shared : Shared) : Request → Task
  | .register timestamp labels =>
    match shared.index.settings.checkLabels labels with
    | .ok () => find timestamp labels
    | .error cause => count (.error (.labels cause))
  | .importBatch entries => takeAll 0 entries
  | .resolve [] window => copyPublished window
  | .resolve (matcher :: rest) window => evaluate [] matcher rest window

/-- What comes after a batch's entries up to some are written. -/
def loadNext (shared : Shared) (thread : Nat) : List Series → Shared × Next
  | [] => (shared.free thread, .finish (.imported (.ok ())))
  | entry :: rest => (shared, .goOn (enroll .store entry (some rest)))

/-- What comes after the checks of some entries. -/
def checkNext (entries : List Series) : List Series → Next
  | [] => .goOn (checkRoom entries)
  | rest => .goOn (checkFree rest entries)

/-- What comes after some series of a query were read. -/
def fetchNext (window : Window) (answers : List Tsid) : List Tsid → Next
  | [] => .finish (.resolved (.ok answers.reverse))
  | tsid :: rest => .goOn (fetch tsid rest window answers)

/-- What is written at a stage, and what comes after it. -/
def stepEnroll (shared : Shared) (thread : Nat) (stage : Stage)
    (series : Series) (batch : Option (List Series)) : Shared × Next :=
  match stage with
  | .store =>
    (shared.mapCatalog (·.store series),
      .goOn (enroll (.ofLabels series.labels.labels) series batch))
  | .label first rest =>
    (shared.mapInverted (·.insertLabel series.tsid first),
      .goOn (enroll (.ofLabels rest) series batch))
  | .publish =>
    (shared.mapCatalog (·.publish series.tsid),
      .goOn (enroll .key series batch))
  | .key =>
    let shared := shared.mapCatalog (·.addKey series.labels series.tsid)
    match batch with
    | none => (shared.free thread, .goOn (count (.ok ⟨series.tsid, true⟩)))
    | some rest => loadNext shared thread rest

/-- Takes a step of a call, unless the call has to wait for a stripe. -/
def step (shared : Shared) (thread : Nat) : Task → Option (Shared × Next)
  | find timestamp labels =>
    if shared.isFree (shared.slotOf labels) then
      match shared.catalog.lookup? labels with
      | some tsid => some (shared, .goOn (widenDown tsid timestamp))
      | none => some (shared, .goOn (take timestamp labels))
    else none
  | take timestamp labels =>
    if shared.isFree (shared.slotOf labels) then
      some (shared.take (shared.slotOf labels) thread,
        .goOn (recheck timestamp labels))
    else none
  | recheck timestamp labels =>
    match shared.catalog.lookup? labels with
    | some tsid => some (shared.free thread, .goOn (widenDown tsid timestamp))
    | none => some (shared, .goOn (reserve timestamp labels))
  | reserve timestamp labels =>
    match shared.catalog.reserve? with
    | some reserved =>
      some (shared.mapCatalog fun _ => reserved,
        .goOn (allocate timestamp labels))
    | none =>
      some (shared.free thread,
        .goOn (count (.error (.seriesLimit shared.catalog.limit))))
  | allocate timestamp labels =>
    match shared.catalog.allocate? with
    | some (tsid, allocated) =>
      some (shared.mapCatalog fun _ => allocated,
        .goOn (enroll .store ⟨tsid, labels, .single timestamp⟩ none))
    | none => some (shared, .goOn (giveBack labels))
  | giveBack _ =>
    some ((shared.mapCatalog Catalog.release).free thread,
      .goOn (count (.error (.internal .tsidsExhausted))))
  | enroll stage series batch =>
    some (stepEnroll shared thread stage series batch)
  | widenDown tsid timestamp =>
    if (shared.catalog.series? tsid).isSome then
      some (shared.mapCatalog (·.modifyActivity tsid (·.widenDown timestamp)),
        .goOn (widenUp tsid timestamp))
    else
      some (shared,
        .goOn (count (.error (.internal (.keyWithoutSeries tsid)))))
  | widenUp tsid timestamp =>
    some (shared.mapCatalog (·.modifyActivity tsid (·.widenUp timestamp)),
      .goOn (count (.ok ⟨tsid, false⟩)))
  | count outcome =>
    let index :=
      { shared.index with counters := shared.index.counters.count outcome }
    some ({ shared with index }, .finish (.registered outcome))
  | takeAll slot entries =>
    if slot < shared.catalog.keys.size then
      if shared.isFree slot then
        some (shared.take slot thread, .goOn (takeAll (slot + 1) entries))
      else none
    else
      match Catalog.checkEntries ∅ ∅ entries with
      | .ok () => some (shared, checkNext entries entries)
      | .error fault =>
        some (shared.free thread, .finish (.imported (.error fault)))
  | checkFree [] entries => some (shared, .goOn (checkRoom entries))
  | checkFree (entry :: rest) entries =>
    match shared.catalog.checkFree entry with
    | .ok () => some (shared, checkNext entries rest)
    | .error fault =>
      some (shared.free thread, .finish (.imported (.error fault)))
  | checkRoom entries =>
    if shared.catalog.hasRoom entries.length then
      some (shared, .goOn (raiseNext entries))
    else
      some (shared.free thread,
        .finish (.imported (.error (.seriesLimit shared.catalog.limit))))
  | raiseNext entries =>
    some (shared.mapCatalog (·.raiseNext entries), .goOn (raiseCount entries))
  | raiseCount entries =>
    some (loadNext (shared.mapCatalog (·.raiseCount entries)) thread entries)
  | evaluate operands matcher rest window =>
    let postings := shared.index.store.inverted.evaluate matcher
    if postings.isEmpty then some (shared, .finish (.resolved (.ok [])))
    else
      let operands := operands ++ [postings]
      match rest with
      | [] =>
        some (shared, .goOn (retain (Postings.intersection operands) window))
      | next :: rest =>
        some (shared, .goOn (evaluate operands next rest window))
  | copyPublished window =>
    some (shared, fetchNext window [] shared.catalog.published.toList)
  | retain candidates window =>
    some (shared,
      fetchNext window [] (candidates ∩ shared.catalog.published).toList)
  | fetch tsid rest window answers =>
    if (shared.catalog.series? tsid).isSome then
      some (shared, .goOn (readEarliest tsid rest window answers))
    else
      some (shared,
        .finish (.resolved (.error (.internal (.publishedWithoutSeries tsid)))))
  | readEarliest tsid rest window answers =>
    match shared.catalog.series? tsid with
    | some series =>
      some (shared,
        .goOn (readLatest series.activity.earliest tsid rest window answers))
    | none => some (shared, fetchNext window answers rest)
  | readLatest earliest tsid rest window answers =>
    match shared.catalog.series? tsid with
    | some series =>
      if Activity.overlaps ⟨earliest, series.activity.latest⟩ window then
        some (shared, fetchNext window (tsid :: answers) rest)
      else some (shared, fetchNext window answers rest)
    | none => some (shared, fetchNext window answers rest)

end Task

/-- A thread: what it is still asked to do, what it is doing, and what it was
answered. -/
structure Thread where
  requests : List Request
  task : Option Task := none
  answers : List Answer := []

/-- The shared parts and the threads that work on them. -/
structure World where
  shared : Shared
  threads : List Thread

namespace World

/-- A world in which threads are about to work on an index. -/
def ofIndex (index : Index) (requests : List (List Request)) : World where
  shared := { index }
  threads := requests.map fun requests => { requests }

def isFinished (world : World) : Bool :=
  world.threads.all fun thread => thread.task.isNone && thread.requests.isEmpty

def isQuiet (world : World) : Bool :=
  world.threads.all fun thread => thread.task.isNone

/-- Lets one thread take its next step, unless it is done or has to wait. -/
def step (world : World) (number : Nat) : Option World :=
  match world.threads[number]? with
  | none => none
  | some thread =>
    match thread.task, thread.requests with
    | none, [] => none
    | none, request :: requests =>
      let thread :=
        { thread with requests, task := some (Task.start world.shared request) }
      some { world with threads := world.threads.set number thread }
    | some task, _ =>
      match task.step world.shared number with
      | none => none
      | some (shared, .goOn task) =>
        let thread := { thread with task := some task }
        some { shared, threads := world.threads.set number thread }
      | some (shared, .finish answer) =>
        let thread :=
          { thread with task := none, answers := thread.answers ++ [answer] }
        some { shared, threads := world.threads.set number thread }

/-- Follows a schedule; a thread that cannot take a step is passed over. -/
def run (world : World) (schedule : List Nat) : World :=
  schedule.foldl (fun world number => (world.step number).getD world) world

/-- Takes steps, always of the first thread that can take one. -/
def runInOrder (world : World) : Nat → World
  | 0 => world
  | steps + 1 =>
    match (List.range world.threads.length).findSome? world.step with
    | some world => world.runInOrder steps
    | none => world

end World

end SeriesIndex.Concurrent
