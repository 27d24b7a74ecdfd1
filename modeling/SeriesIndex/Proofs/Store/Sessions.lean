import SeriesIndex.Proofs.Store.Restriped

/-!
# Sessions with a store

A store is asked to register, to load a batch, or to tell what it holds, again
and again.  The answers of a session do not depend on the numbers of stripes.
Within a store that a session can reach, the fingerprint of a label set chooses
a slot that exists, the label set is written to that slot and to no other, and
it is found exactly if a published series has it.
-/

namespace SeriesIndex.Store

/-! ## Requests and answers -/

inductive Request where
  | register (timestamp : Timestamp) (labels : LabelSet)
  | importBatch (entries : List Series)
  | lookup (labels : LabelSet)
  | publishedSeries (tsid : Tsid)
  | storedSeries (tsid : Tsid)
  | published
  | snapshot
  | postings (name value : String)
  | union (name : String)
  | unionWhere (name : String) (select : String → Bool)
  | unionExcluding (name : String) (select : String → Bool)
  | unionWithout (name value : String)
  | evaluate (matcher : Matcher)
  | select (matchers : List Matcher)
  | resolve (matchers : List Matcher) (window : Window)
  | resolveSeries (matchers : List Matcher) (window : Window)
  | labelNames
  | labelValues (name : String)
  | storedBytes
  | figures

structure Figures where
  seriesCount : Nat
  nextTsid : Tsid
  limit : Nat
  nameCount : Nat
  pairCount : Nat
  insertionCount : Nat

def figures (store : Store) : Figures where
  seriesCount := store.catalog.seriesCount
  nextTsid := store.catalog.nextTsid
  limit := store.catalog.limit
  nameCount := store.inverted.nameCount
  pairCount := store.inverted.pairCount
  insertionCount := store.inverted.insertionCount

inductive Answer where
  | registration (outcome : Except Fault Registration)
  | batch (outcome : Except Fault Unit)
  | number (found : Option Tsid)
  | series (found : Except Fault Series)
  | stored (found : Option Series)
  | entries (entries : List Series)
  | postings? (found : Option Postings)
  | postings (found : Postings)
  | numbers (found : Except Fault (List Tsid))
  | answers (found : Except Fault (List Series))
  | texts (texts : List String)
  | bytes (count : Nat)
  | figures (figures : Figures)

def answer (store : Store) : Request → Answer × Store
  | .register timestamp labels =>
    (.registration (store.register timestamp labels).1,
      (store.register timestamp labels).2)
  | .importBatch entries =>
    (.batch (store.importBatch entries).1, (store.importBatch entries).2)
  | .lookup labels => (.number (store.catalog.lookup? labels), store)
  | .publishedSeries tsid =>
    (.series (store.catalog.publishedSeries tsid), store)
  | .storedSeries tsid => (.stored (store.catalog.series? tsid), store)
  | .published => (.postings store.catalog.published, store)
  | .snapshot => (.entries store.catalog.snapshot, store)
  | .postings name value =>
    (.postings? (store.inverted.postings? name value), store)
  | .union name => (.postings (store.inverted.union name), store)
  | .unionWhere name select =>
    (.postings (store.inverted.unionWhere name select), store)
  | .unionExcluding name select =>
    (.postings (store.inverted.unionExcluding name select), store)
  | .unionWithout name value =>
    (.postings (store.inverted.unionWithout name value), store)
  | .evaluate matcher => (.postings (store.inverted.evaluate matcher), store)
  | .select matchers => (.postings (store.select matchers), store)
  | .resolve matchers window =>
    (.numbers (store.resolve matchers window), store)
  | .resolveSeries matchers window =>
    (.answers (store.resolveSeries matchers window), store)
  | .labelNames => (.texts store.inverted.labelNames, store)
  | .labelValues name => (.texts (store.inverted.values name), store)
  | .storedBytes => (.bytes store.inverted.storedBytes, store)
  | .figures => (.figures store.figures, store)

def replies (store : Store) : List Request → List Answer
  | [] => []
  | request :: rest =>
    (store.answer request).1 :: (store.answer request).2.replies rest

def after (store : Store) (requests : List Request) : Store :=
  requests.foldl (fun store request => (store.answer request).2) store

/-! ## Answers of restriped stores -/

section Restriped

variable {left right : Store}

theorem Restriped.figures_eq (hrestriped : left.Restriped right) :
    left.figures = right.figures := by
  have hsame := hrestriped.sameTriples
  rw [figures, figures, hrestriped.seriesCount_eq, hrestriped.nextTsid_eq,
    hrestriped.limit_eq, hsame.nameCount_eq, hsame.pairCount_eq,
    hsame.insertionCount_eq]

/-- Both stores answer alike, whatever is asked. -/
theorem Restriped.answer_eq (hrestriped : left.Restriped right)
    (request : Request) :
    (left.answer request).1 = (right.answer request).1 := by
  have hsame := hrestriped.sameTriples
  cases request with
  | register timestamp labels =>
      exact congrArg Answer.registration
        (hrestriped.register_eq timestamp labels).1
  | importBatch entries =>
      exact congrArg Answer.batch (hrestriped.importBatch_eq entries).1
  | lookup labels => rw [answer, answer, hrestriped.lookup?_eq]
  | publishedSeries tsid =>
      rw [answer, answer, hrestriped.publishedSeries_eq]
  | storedSeries tsid => rw [answer, answer, hrestriped.series?_eq]
  | published => rw [answer, answer, hrestriped.published_eq]
  | snapshot => rw [answer, answer, hrestriped.snapshot_eq]
  | postings name value => rw [answer, answer, hsame.postings?_eq]
  | union name => rw [answer, answer, hsame.union_eq]
  | unionWhere name select => rw [answer, answer, hsame.unionWhere_eq]
  | unionExcluding name select => rw [answer, answer, hsame.unionExcluding_eq]
  | unionWithout name value => rw [answer, answer, hsame.unionWithout_eq]
  | evaluate matcher => rw [answer, answer, hsame.evaluate_eq]
  | select matchers => rw [answer, answer, hrestriped.select_eq]
  | resolve matchers window => rw [answer, answer, hrestriped.resolve_eq]
  | resolveSeries matchers window =>
      rw [answer, answer, hrestriped.resolveSeries_eq]
  | labelNames => rw [answer, answer, hsame.labelNames_eq]
  | labelValues name => rw [answer, answer, hsame.values_eq]
  | storedBytes => rw [answer, answer, hsame.storedBytes_eq]
  | figures => rw [answer, answer, hrestriped.figures_eq]

theorem Restriped.answer (hrestriped : left.Restriped right)
    (request : Request) :
    (left.answer request).2.Restriped (right.answer request).2 := by
  cases request with
  | register timestamp labels => exact hrestriped.register timestamp labels
  | importBatch entries => exact hrestriped.importBatch entries
  | _ => exact hrestriped

/-- A session has the same answers with restriped stores. -/
theorem Restriped.replies_eq (hrestriped : left.Restriped right)
    (requests : List Request) :
    left.replies requests = right.replies requests := by
  induction requests generalizing left right with
  | nil => rfl
  | cons request rest ih =>
      rw [replies, replies, hrestriped.answer_eq request,
        ih (hrestriped.answer request)]

end Restriped

/-! ## Slots -/

variable {store : Store}

/-- The keys that a store should have, with their numbers. -/
def keyEntries (store : Store) : List (LabelSet × Tsid) :=
  store.catalog.snapshot.map fun series => (series.labels, series.tsid)

/-- Where a store keeps its label sets and names.  The fingerprint of a label
set chooses its slot by a mask; look-ups read that slot, registrations and
batches write it, and no other one. -/
structure Slotted (store : Store) : Prop where
  slotOf_eq : ∀ labels : LabelSet,
    store.catalog.keys.slotOf labels.fingerprint =
      labels.fingerprint.toNat &&& (store.catalog.keys.size - 1)
  slotOf_lt : ∀ labels : LabelSet,
    store.catalog.keys.slotOf labels.fingerprint < store.catalog.keys.size
  nameSlotOf_eq : ∀ name,
    store.inverted.names.slotOf (InvertedIndex.nameHash name) =
      (InvertedIndex.nameHash name).toNat &&& (store.inverted.names.size - 1)
  nameSlotOf_lt : ∀ name,
    store.inverted.names.slotOf (InvertedIndex.nameHash name) <
      store.inverted.names.size
  /-- A label set is a key of one slot at most, which is the one that its
  fingerprint chooses. -/
  mem_slot_iff : ∀ slot (hslot : slot < store.catalog.keys.slots.size) labels,
    labels ∈ store.catalog.keys.slots[slot] ↔
      store.catalog.keys.slotOf labels.fingerprint = slot ∧
        (store.catalog.lookup? labels).isSome
  register_slot : ∀ timestamp labels slot,
    slot ≠ store.catalog.keys.slotOf labels.fingerprint →
      (store.register timestamp labels).2.catalog.keys.slots[slot]? =
        store.catalog.keys.slots[slot]?
  importBatch_slot : ∀ entries slot,
    (∀ entry ∈ entries,
      slot ≠ store.catalog.keys.slotOf entry.labels.fingerprint) →
      (store.importBatch entries).2.catalog.keys.slots[slot]? =
        store.catalog.keys.slots[slot]?
  /-- Label sets are told apart by their labels, whatever their fingerprints
  are. -/
  lookup?_iff : ∀ labels tsid,
    store.catalog.lookup? labels = some tsid ↔
      ∃ series ∈ store.catalog.snapshot,
        series.labels = labels ∧ series.tsid = tsid
  /-- Under any other fingerprint and in any other number of slots, the same
  would be found. -/
  lookup?_of_hash : ∀ wanted (hash : LabelSet → UInt64) labels,
    (((Striped.replicate wanted ∅).insertAll hash store.keyEntries).get
      (hash labels))[labels]? = store.catalog.lookup? labels

theorem getElem?_slots_enroll (store : Store) {series : Series} {slot : Nat}
    (hslot : slot ≠ store.catalog.keys.slotOf series.labels.fingerprint) :
    (store.enroll series).catalog.keys.slots[slot]? =
      store.catalog.keys.slots[slot]? := by
  have hother : ¬series.labels.fingerprint.toNat %
      store.catalog.keys.slots.size = slot := hslot.symm
  simp only [enroll, Catalog.addKey, Catalog.publish, Catalog.store,
    Striped.modify, Array.getElem?_modify, if_neg hother]

theorem slotOf_enroll (series : Series) (hash : UInt64) :
    (store.enroll series).catalog.keys.slotOf hash =
      store.catalog.keys.slotOf hash :=
  Striped.slotOf_modify _ _ _ _

theorem getElem?_slots_foldl_enroll (store : Store) {entries : List Series}
    {slot : Nat}
    (hslot : ∀ entry ∈ entries,
      slot ≠ store.catalog.keys.slotOf entry.labels.fingerprint) :
    (entries.foldl enroll store).catalog.keys.slots[slot]? =
      store.catalog.keys.slots[slot]? := by
  induction entries generalizing store with
  | nil => rfl
  | cons entry rest ih =>
      obtain ⟨hentry, hrest⟩ := List.forall_mem_cons.mp hslot
      rw [List.foldl_cons, ih, getElem?_slots_enroll store hentry]
      simpa only [slotOf_enroll] using hrest

/-- A registration touches no slot but that of its label set. -/
theorem Settled.register_slot (hsettled : store.Settled) (timestamp : Timestamp)
    (labels : LabelSet) {slot : Nat}
    (hslot : slot ≠ store.catalog.keys.slotOf labels.fingerprint) :
    (store.register timestamp labels).2.catalog.keys.slots[slot]? =
      store.catalog.keys.slots[slot]? := by
  have hcases := hsettled.registering timestamp labels
  generalize store.register timestamp labels = result at hcases ⊢
  cases hcases with
  | known _ _ => rfl
  | full _ _ => rfl
  | exhausted _ _ _ => rfl
  | new _ _ _ => exact getElem?_slots_enroll store.reserved hslot

/-- A batch touches no slots but those of its label sets. -/
theorem importBatch_slot (store : Store) {entries : List Series} {slot : Nat}
    (hslot : ∀ entry ∈ entries,
      slot ≠ store.catalog.keys.slotOf entry.labels.fingerprint) :
    (store.importBatch entries).2.catalog.keys.slots[slot]? =
      store.catalog.keys.slots[slot]? := by
  cases hcheck : store.catalog.checkBatch entries with
  | error fault => rw [importBatch_of_error hcheck]
  | ok value =>
      rw [importBatch_of_ok hcheck]
      exact getElem?_slots_foldl_enroll (store.opened entries) hslot

/-- A slot holds the known label sets whose fingerprints choose it. -/
theorem Settled.mem_slot_iff (hsettled : store.Settled) {slot : Nat}
    (hslot : slot < store.catalog.keys.slots.size) {labels : LabelSet} :
    labels ∈ store.catalog.keys.slots[slot] ↔
      store.catalog.keys.slotOf labels.fingerprint = slot ∧
        (store.catalog.lookup? labels).isSome := by
  have hread : store.catalog.keys.slotOf labels.fingerprint = slot →
      (labels ∈ store.catalog.keys.slots[slot] ↔
        (store.catalog.lookup? labels).isSome) := by
    rintro rfl
    rw [Std.ExtTreeMap.mem_iff_isSome_getElem?]
    rfl
  constructor
  · intro hmem
    have hchosen := hsettled.placed slot hslot labels hmem
    exact ⟨hchosen, (hread hchosen).mp hmem⟩
  · rintro ⟨hchosen, hfound⟩
    exact (hread hchosen).mpr hfound

theorem Settled.lookup?_iff_mem_snapshot (hsettled : store.Settled)
    {labels : LabelSet} {tsid : Tsid} :
    store.catalog.lookup? labels = some tsid ↔
      ∃ series ∈ store.catalog.snapshot,
        series.labels = labels ∧ series.tsid = tsid := by
  rw [hsettled.lookup?_eq_some_iff]
  constructor
  · rintro ⟨series, hseries, hlabels⟩
    have htsid := hsettled.tsid_eq tsid series hseries
    exact ⟨series, hsettled.mem_snapshot.mpr (htsid ▸ hseries), hlabels, htsid⟩
  · rintro ⟨series, hseries, hlabels, rfl⟩
    exact ⟨series, hsettled.mem_snapshot.mp hseries, hlabels⟩

/-- Label sets are found under any fingerprints by which they are placed. -/
theorem Settled.lookup?_of_hash (hsettled : store.Settled) (wanted : Nat)
    (hash : LabelSet → UInt64) (labels : LabelSet) :
    (((Striped.replicate wanted ∅).insertAll hash store.keyEntries).get
      (hash labels))[labels]? = store.catalog.lookup? labels := by
  have hkeys : store.keyEntries.map Prod.fst = store.registered := by
    rw [keyEntries, registered, List.map_map]
    rfl
  have hnodup : (store.keyEntries.map Prod.fst).Nodup :=
    hkeys ▸ hsettled.nodup_registered
  apply Option.ext
  intro tsid
  rw [Striped.getElem?_insertAll_eq_some_iff wanted hash hnodup,
    hsettled.lookup?_iff_mem_snapshot, keyEntries, List.mem_map]
  simp only [Prod.mk.injEq]

theorem Settled.answer (hsettled : store.Settled) (request : Request) :
    (store.answer request).2.Settled := by
  cases request with
  | register timestamp labels => exact hsettled.register timestamp labels
  | importBatch entries => exact hsettled.importBatch entries
  | _ => exact hsettled

theorem Settled.frame_answer (hsettled : store.Settled) (request : Request) :
    (store.answer request).2.frame = store.frame := by
  cases request with
  | register timestamp labels => exact hsettled.frame_register timestamp labels
  | importBatch entries => exact frame_importBatch store entries
  | _ => rfl

theorem Settled.after (hsettled : store.Settled) (requests : List Request) :
    (store.after requests).Settled ∧
      (store.after requests).frame = store.frame := by
  induction requests generalizing store with
  | nil => exact ⟨hsettled, rfl⟩
  | cons request rest ih =>
      obtain ⟨hafter, hframe⟩ := ih (hsettled.answer request)
      exact ⟨hafter, hframe.trans (hsettled.frame_answer request)⟩

/-- A settled store keeps its label sets where their fingerprints say. -/
theorem Settled.slotted (hsettled : store.Settled) {keys names limit : Nat}
    (hframe : store.frame = (Store.empty keys names limit).frame) :
    store.Slotted := by
  have hkeys : store.catalog.keys.size = Striped.slotCount keys :=
    calc
      store.catalog.keys.size =
          (Store.empty keys names limit).catalog.keys.size :=
        congrArg Frame.keyStripes hframe
      _ = Striped.slotCount keys := Array.size_replicate
  have hnames : store.inverted.names.size = Striped.slotCount names :=
    calc
      store.inverted.names.size =
          (Store.empty keys names limit).inverted.names.size :=
        congrArg Frame.nameStripes hframe
      _ = Striped.slotCount names := Array.size_replicate
  constructor
  case slotOf_eq => exact fun labels => Striped.slotOf_eq_and hkeys _
  case slotOf_lt => exact fun labels => Striped.slotOf_lt _ _
  case nameSlotOf_eq => exact fun name => Striped.slotOf_eq_and hnames _
  case nameSlotOf_lt => exact fun name => Striped.slotOf_lt _ _
  case mem_slot_iff =>
    exact fun slot hslot labels => hsettled.mem_slot_iff hslot
  case register_slot =>
    exact fun timestamp labels slot => hsettled.register_slot timestamp labels
  case importBatch_slot => exact fun entries slot => store.importBatch_slot
  case lookup?_iff =>
    exact fun labels tsid => hsettled.lookup?_iff_mem_snapshot
  case lookup?_of_hash => exact hsettled.lookup?_of_hash

theorem slotted_after (keys names limit : Nat) (requests : List Request) :
    ((Store.empty keys names limit).after requests).Slotted := by
  obtain ⟨hsettled, hframe⟩ :=
    (settled_empty keys names limit).after requests
  exact hsettled.slotted hframe

end SeriesIndex.Store
