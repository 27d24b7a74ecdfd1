import Mathlib
import SeriesIndex.Proofs.Query
import SeriesIndex.Proofs.Store.Settled

/-!
# What registrations and batches build

Any sequence of registrations and batches, successful or not, builds a store
whose parts agree: keys and stored series are inverse to one another, the
published set, the counters and the next number follow from them, and the
inverted index lists a series under a label exactly if the series has it.
Names, values and statistics of the index are therefore those of the registered
label sets.
-/

namespace SeriesIndex.Store

variable {store : Store}

/-! ## Numbers and failures -/

/-- The next number follows the greatest published one. -/
theorem Settled.nextTsid_eq (hsettled : store.Settled) :
    store.catalog.nextTsid.toNat =
      (store.catalog.published.toList.map UInt64.toNat).foldr max 0 + 1 := by
  have hlt : ∀ tsid ∈ store.catalog.published.toList,
      tsid.toNat + 1 ≤ store.catalog.nextTsid.toNat := by
    intro tsid htsid
    obtain ⟨series, hseries⟩ :=
      hsettled.mem_published_iff.mp (Std.ExtTreeSet.mem_toList.mp htsid)
    exact UInt64.lt_iff_toNat_lt.mp (hsettled.tsid_lt tsid series hseries)
  have hpos : 0 < store.catalog.nextTsid.toNat :=
    Nat.pos_of_ne_zero fun hzero =>
      hsettled.next_ne (UInt64.toNat_inj.mp hzero)
  have hle : (store.catalog.published.toList.map UInt64.toNat).foldr max 0 ≤
      store.catalog.nextTsid.toNat - 1 := by
    apply List.max_le_of_forall_le _ _
    intro number hnumber
    obtain ⟨tsid, htsid, rfl⟩ := List.mem_map.mp hnumber
    have hless := hlt tsid htsid
    omega
  rcases hsettled.top with hfirst | ⟨tsid, htsid, htop⟩
  · have hone : store.catalog.nextTsid.toNat = 1 := by
      rw [hfirst]
      rfl
    omega
  · rw [List.map_nil, or_iff_left List.not_mem_nil] at htsid
    have hmem : tsid ∈ store.catalog.published.toList := by
      rw [Std.ExtTreeSet.mem_toList, hsettled.mem_published_iff]
      exact Option.isSome_iff_exists.mp htsid
    have hge : tsid.toNat ≤
        (store.catalog.published.toList.map UInt64.toNat).foldr max 0 :=
      List.le_max_of_le (List.mem_map_of_mem hmem) (Nat.le_refl _)
    omega

/-- A registration fails for lack of room or of numbers only. -/
theorem Settled.register_ne (hsettled : store.Settled) (timestamp : Timestamp)
    (labels : LabelSet) (tsid : Tsid) :
    (store.register timestamp labels).1 ≠
      .error (.internal (.keyWithoutSeries tsid)) := by
  have hcases := hsettled.registering timestamp labels
  generalize store.register timestamp labels = result at hcases ⊢
  cases hcases <;> simp

/-! ## The inverted index of a settled store -/

def labels (store : Store) : Finset Label :=
  (store.registered.flatMap LabelSet.labels).toFinset

theorem mem_labels {label : Label} :
    label ∈ store.labels ↔
      ∃ labels ∈ store.registered, label ∈ labels.labels := by
  simp [labels]

theorem Settled.mem_labels_iff (hsettled : store.Settled)
    {triples : Finset Triple} (hrep : store.inverted.Represents triples)
    (label : Label) :
    label ∈ store.labels ↔
      ∃ tsid, (label.name, label.value, tsid) ∈ triples := by
  simp only [mem_labels, ← hrep.holds_iff, hsettled.holds_iff]
  constructor
  · rintro ⟨labels, hlabels, hlabel⟩
    obtain ⟨tsid, hkey⟩ := hsettled.mem_registered.mp hlabels
    obtain ⟨series, hseries, rfl⟩ := hsettled.lookup?_eq_some_iff.mp hkey
    exact ⟨tsid, series, hseries, hlabel⟩
  · rintro ⟨tsid, series, hseries, hlabel⟩
    refine ⟨series.labels, hsettled.mem_registered.mpr ⟨tsid, ?_⟩, hlabel⟩
    exact hsettled.keyed tsid series hseries

/-- A value is held under a name if a registered label set has it. -/
theorem Settled.exists_mem_triples_iff (hsettled : store.Settled)
    {triples : Finset Triple} (hrep : store.inverted.Represents triples)
    {name value : String} :
    (∃ tsid, (name, value, tsid) ∈ triples) ↔
      ∃ labels ∈ store.registered, labels.get? name = some value := by
  rw [← hsettled.mem_labels_iff hrep ⟨name, value⟩, mem_labels]
  simp only [LabelSet.get?_eq_some_iff]

def tripleList (series : Series) : List Triple :=
  series.labels.labels.map fun label => (label.name, label.value, series.tsid)

theorem nodup_tripleList (series : Series) : (tripleList series).Nodup := by
  apply series.labels.nodup_labels.map
  intro left right hsame
  simp only [Prod.mk.injEq] at hsame
  cases left
  cases right
  simp_all

/-- The inverted index holds the labels of the snapshot and nothing else. -/
theorem Settled.triples_eq (hsettled : store.Settled)
    {triples : Finset Triple} (hrep : store.inverted.Represents triples) :
    triples = (store.catalog.snapshot.flatMap tripleList).toFinset := by
  ext ⟨name, value, tsid⟩
  rw [List.mem_toFinset, List.mem_flatMap, ← hrep.mem_postings]
  change store.inverted.Holds ⟨name, value⟩ tsid ↔ _
  rw [hsettled.holds_iff]
  constructor
  · rintro ⟨series, hseries, hlabel⟩
    have htsid := hsettled.tsid_eq tsid series hseries
    refine ⟨series, hsettled.mem_snapshot.mpr (htsid ▸ hseries), ?_⟩
    exact List.mem_map.mpr ⟨⟨name, value⟩, hlabel, by rw [htsid]⟩
  · rintro ⟨series, hseries, hmem⟩
    obtain ⟨label, hlabel, hsame⟩ := List.mem_map.mp hmem
    simp only [Prod.mk.injEq] at hsame
    obtain ⟨rfl, rfl, rfl⟩ := hsame
    exact ⟨series, hsettled.mem_snapshot.mp hseries, hlabel⟩

theorem Settled.nodup_triples (hsettled : store.Settled) :
    (store.catalog.snapshot.flatMap tripleList).Nodup := by
  rw [List.nodup_flatMap]
  refine ⟨fun series _ => nodup_tripleList series, ?_⟩
  have hnodup : (store.catalog.snapshot.map Series.tsid).Nodup := by
    rw [hsettled.map_tsid_snapshot]
    exact Postings.nodup_toList _
  refine (List.pairwise_map.mp hnodup).imp fun hne triple hleft hright => ?_
  obtain ⟨left, -, hsameLeft⟩ := List.mem_map.mp hleft
  obtain ⟨right, -, hsameRight⟩ := List.mem_map.mp hright
  have hsame := hsameLeft.trans hsameRight.symm
  simp only [Prod.mk.injEq] at hsame
  exact hne hsame.2.2

/-- As many insertions were made as the registered label sets have labels. -/
theorem Settled.insertionCount_eq (hsettled : store.Settled) :
    store.inverted.insertionCount =
      (store.registered.map LabelSet.size).sum := by
  obtain ⟨triples, hrep⟩ := hsettled.represented
  rw [hrep.insertionCount, hsettled.triples_eq hrep,
    List.toFinset_card_of_nodup hsettled.nodup_triples, List.length_flatMap,
    registered, List.map_map]
  congr 1
  apply List.map_congr_left
  intro series _
  simp [tripleList, LabelSet.size]

/-- As many names are counted as occur in registered label sets. -/
theorem Settled.nameCount_eq (hsettled : store.Settled) :
    store.inverted.nameCount = (store.labels.image Label.name).card := by
  obtain ⟨triples, hrep⟩ := hsettled.represented
  rw [hrep.nameCount]
  congr 1
  ext name
  simp only [Finset.mem_image, hsettled.mem_labels_iff hrep]
  constructor
  · rintro ⟨⟨name, value, tsid⟩, hmem, rfl⟩
    exact ⟨⟨name, value⟩, ⟨tsid, hmem⟩, rfl⟩
  · rintro ⟨label, ⟨tsid, hmem⟩, rfl⟩
    exact ⟨_, hmem, rfl⟩

/-- As many pairs are counted as they have distinct labels. -/
theorem Settled.pairCount_eq (hsettled : store.Settled) :
    store.inverted.pairCount = store.labels.card := by
  obtain ⟨triples, hrep⟩ := hsettled.represented
  have hinjective :
      Function.Injective fun label : Label => (label.name, label.value) := by
    intro left right hsame
    cases left
    cases right
    simp_all
  rw [hrep.pairCount, ← Finset.card_image_of_injective _ hinjective]
  congr 1
  ext ⟨name, value⟩
  simp only [Finset.mem_image, hsettled.mem_labels_iff hrep]
  constructor
  · rintro ⟨⟨name, value, tsid⟩, hmem, hsame⟩
    exact ⟨⟨name, value⟩, ⟨tsid, hmem⟩, hsame⟩
  · rintro ⟨label, ⟨tsid, hmem⟩, hsame⟩
    exact ⟨_, hmem, hsame⟩

/-! ## Runs -/

inductive Call where
  | register (timestamp : Timestamp) (labels : LabelSet)
  | importBatch (entries : List Series)

def perform (store : Store) : Call → Store
  | .register timestamp labels => (store.register timestamp labels).2
  | .importBatch entries => (store.importBatch entries).2

def performAll (store : Store) (calls : List Call) : Store :=
  calls.foldl perform store

theorem Settled.perform (hsettled : store.Settled) (call : Call) :
    (store.perform call).Settled := by
  cases call with
  | register timestamp labels => exact hsettled.register timestamp labels
  | importBatch entries => exact hsettled.importBatch entries

theorem Settled.performAll (hsettled : store.Settled) (calls : List Call) :
    (store.performAll calls).Settled := by
  induction calls generalizing store with
  | nil => exact hsettled
  | cons call rest ih => exact ih (hsettled.perform call)

/-- The parts of a store describe the same series. -/
structure Faithful (store : Store) : Prop where
  /-- Keys and published series are inverse to one another. -/
  lookup?_iff_published : ∀ labels tsid,
    store.catalog.lookup? labels = some tsid ↔
      (store.catalog.publishedSeries tsid).map Series.labels = .ok labels
  /-- So are keys and stored series. -/
  lookup?_iff_stored : ∀ labels tsid,
    store.catalog.lookup? labels = some tsid ↔
      ∃ series, store.catalog.series? tsid = some series ∧
        series.tsid = tsid ∧ series.labels = labels
  /-- A label set is a key of no stripe but the one in which it is looked
  for. -/
  key_placed : ∀ slot (hslot : slot < store.catalog.keys.slots.size) labels,
    labels ∈ store.catalog.keys.slots[slot] →
      store.catalog.keys.slotOf labels.fingerprint = slot
  published_iff : ∀ tsid, tsid ∈ store.catalog.published ↔
    ∃ labels, store.catalog.lookup? labels = some tsid
  seriesCount_eq : store.catalog.seriesCount = store.catalog.published.size
  /-- The next number is one greater than the greatest, or one. -/
  nextTsid_eq : store.catalog.nextTsid.toNat =
    (store.catalog.published.toList.map UInt64.toNat).foldr max 0 + 1
  ordered : ∀ tsid series, store.catalog.series? tsid = some series →
    series.activity.earliest ≤ series.activity.latest
  mem_postings_iff : ∀ name value tsid,
    tsid ∈ store.inverted.postings name value ↔
      ∃ labels, store.catalog.lookup? labels = some tsid ∧
        labels.get? name = some value
  mem_union_iff : ∀ name tsid, tsid ∈ store.inverted.union name ↔
    ∃ labels value, store.catalog.lookup? labels = some tsid ∧
      labels.get? name = some value
  mem_registered_iff : ∀ labels, labels ∈ store.registered ↔
    ∃ tsid, store.catalog.lookup? labels = some tsid
  labelNames_ascending : store.inverted.labelNames.Pairwise (· < ·)
  mem_labelNames_iff : ∀ name, name ∈ store.inverted.labelNames ↔
    ∃ labels ∈ store.registered, ∃ value, labels.get? name = some value
  values_ascending : ∀ name, (store.inverted.values name).Pairwise (· < ·)
  mem_values_iff : ∀ name value, value ∈ store.inverted.values name ↔
    ∃ labels ∈ store.registered, labels.get? name = some value
  nameCount_eq :
    store.inverted.nameCount = (store.labels.image Label.name).card
  pairCount_eq : store.inverted.pairCount = store.labels.card
  insertionCount_eq :
    store.inverted.insertionCount = (store.registered.map LabelSet.size).sum
  /-- The snapshot lists every published series. -/
  snapshot_eq :
    store.catalog.snapshot.map Series.tsid = store.catalog.published.toList
  /-- No key is found without its series, and no query comes upon a published
  number without one. -/
  register_ne : ∀ timestamp labels tsid,
    (store.register timestamp labels).1 ≠
      .error (.internal (.keyWithoutSeries tsid))
  resolve_isOk : ∀ matchers window,
    ∃ answers, store.resolve matchers window = .ok answers

/-- A settled store is a faithful one. -/
theorem Settled.faithful (hsettled : store.Settled) : store.Faithful := by
  obtain ⟨triples, hrep⟩ := hsettled.represented
  constructor
  case lookup?_iff_published =>
    intro labels tsid
    rw [hsettled.lookup?_eq_some_iff]
    simp only [← hsettled.publishedSeries_eq_ok_iff]
    cases store.catalog.publishedSeries tsid with
    | error fault => simp [Except.map]
    | ok series => simp [Except.map]
  case lookup?_iff_stored =>
    intro labels tsid
    rw [hsettled.lookup?_eq_some_iff]
    refine exists_congr fun series => and_congr_right fun hseries => ?_
    exact (and_iff_right (hsettled.tsid_eq tsid series hseries)).symm
  case key_placed => exact hsettled.placed
  case published_iff =>
    intro tsid
    rw [hsettled.mem_published_iff]
    simp [hsettled.lookup?_eq_some_iff]
  case seriesCount_eq =>
    rw [hsettled.size_published]
    exact hsettled.count
  case nextTsid_eq => exact hsettled.nextTsid_eq
  case ordered => exact hsettled.ordered
  case mem_postings_iff =>
    intro name value tsid
    change store.inverted.Holds ⟨name, value⟩ tsid ↔ _
    rw [hsettled.holds_iff]
    simp [hsettled.lookup?_eq_some_iff, LabelSet.get?_eq_some_iff]
  case mem_union_iff =>
    intro name tsid
    have hholds : ∀ value, (name, value, tsid) ∈ triples ↔
        ∃ series, store.catalog.series? tsid = some series ∧
          ⟨name, value⟩ ∈ series.labels.labels := fun value => by
      rw [← hsettled.holds_iff, hrep.holds_iff]
    simp only [hrep.mem_union, hholds, hsettled.lookup?_eq_some_iff,
      LabelSet.get?_eq_some_iff]
    constructor
    · rintro ⟨value, series, hseries, hlabel⟩
      exact ⟨series.labels, value, ⟨series, hseries, rfl⟩, hlabel⟩
    · rintro ⟨labels, value, ⟨series, hseries, rfl⟩, hlabel⟩
      exact ⟨value, series, hseries, hlabel⟩
  case mem_registered_iff => exact fun labels => hsettled.mem_registered
  case labelNames_ascending =>
    exact InvertedIndex.labelNames_ascending hrep
  case mem_labelNames_iff =>
    intro name
    simp only [InvertedIndex.mem_labelNames hrep,
      hsettled.exists_mem_triples_iff hrep]
    constructor
    · rintro ⟨value, labels, hlabels, hvalue⟩
      exact ⟨labels, hlabels, value, hvalue⟩
    · rintro ⟨labels, hlabels, value, hvalue⟩
      exact ⟨value, labels, hlabels, hvalue⟩
  case values_ascending =>
    exact InvertedIndex.values_ascending store.inverted
  case mem_values_iff =>
    intro name value
    rw [InvertedIndex.mem_values hrep, hsettled.exists_mem_triples_iff hrep]
  case nameCount_eq => exact hsettled.nameCount_eq
  case pairCount_eq => exact hsettled.pairCount_eq
  case insertionCount_eq => exact hsettled.insertionCount_eq
  case snapshot_eq => exact hsettled.map_tsid_snapshot
  case register_ne => exact hsettled.register_ne
  case resolve_isOk =>
    exact fun matchers window => ⟨_, hsettled.resolve_eq matchers window⟩

/-- Whatever calls are made on an empty store, the parts of the store that they
leave describe the same series. -/
theorem performAll_faithful (keyStripes nameStripes limit : Nat)
    (calls : List Call) :
    ((Store.empty keyStripes nameStripes limit).performAll calls).Faithful :=
  ((settled_empty keyStripes nameStripes limit).performAll calls).faithful

end SeriesIndex.Store
