import SeriesIndex.Proofs.LabelPairs
import SeriesIndex.Proofs.Text.Bytes

/-!
# Label sets as canonical forms

A label set is a canonical form of the labels that it was made from: two lists
of labels make the same set exactly if one is a permutation of the other.  The
labels of a set stand in the order of the bytes of their names, and the same
order decides which of several repeated names is the fault of labels that make
no set, and where the value of a name is looked for.  Labels and pairs that are
taken out of a set make that set again.
-/

namespace SeriesIndex.LabelSet

/-- The name is given more than once, and comes first by its bytes among the
names that are. -/
def LeastRepeated (names : List String) (name : String) : Prop :=
  2 ≤ names.count name ∧ ∀ other, 2 ≤ names.count other →
    name.toUTF8.toList ≤ other.toUTF8.toList

/-- No name is given more than once, and none is empty. -/
def Usable (names : List String) : Prop :=
  names.Nodup ∧ "" ∉ names

theorem unusable_iff {names : List String} {cause : LabelFault} :
    Unusable names cause ↔
      (∃ name, LeastRepeated names name ∧ cause = .duplicateName name) ∨
        (names.Nodup ∧ "" ∈ names ∧ cause = .emptyName) := by
  simp only [LeastRepeated, ← Text.le_iff_bytes_le]
  constructor
  · intro hunusable
    cases hunusable with
    | duplicateName hrepeated hleast =>
        exact .inl ⟨_, ⟨hrepeated, hleast⟩, rfl⟩
    | emptyName hdistinct hempty => exact .inr ⟨hdistinct, hempty, rfl⟩
  · rintro (⟨name, ⟨hrepeated, hleast⟩, rfl⟩ | ⟨hdistinct, hempty, rfl⟩)
    · exact .duplicateName hrepeated hleast
    · exact .emptyName hdistinct hempty

theorem Usable.not_unusable {names : List String} {cause : LabelFault}
    (husable : Usable names) : ¬Unusable names cause := by
  intro hunusable
  cases hunusable with
  | duplicateName hrepeated _ =>
      exact not_two_le_count husable.1 _ hrepeated
  | emptyName _ hempty => exact husable.2 hempty

theorem usable_names (set : LabelSet) :
    Usable (set.labels.map Label.name) := by
  refine ⟨set.nodup_names, fun hempty => ?_⟩
  obtain ⟨label, hlabel, hname⟩ := List.mem_map.mp hempty
  exact set.named label hlabel hname

variable {set : LabelSet} {labels : List Label}
  {pairs : List (String × String)}

/-- Labels make a set if their names are distinct and none is empty. -/
theorem exists_ofLabels_iff :
    (∃ set, ofLabels labels = .ok set) ↔ Usable (labels.map Label.name) := by
  constructor
  · rintro ⟨set, hmade⟩
    have hnames := (ofLabels_eq_ok_iff.mp hmade).map Label.name
    obtain ⟨hdistinct, hnonempty⟩ := set.usable_names
    exact ⟨hnames.nodup_iff.mp hdistinct, hnames.mem_iff.not.mp hnonempty⟩
  · intro husable
    cases hmade : ofLabels labels with
    | ok set => exact ⟨set, rfl⟩
    | error cause =>
        exact absurd (ofLabels_eq_error_iff.mp hmade) husable.not_unusable

/-- The set has exactly these labels, in the order of the bytes of their names,
and gives the value of each name that is among them. -/
structure Orders (set : LabelSet) (labels : List Label) : Prop where
  perm : set.labels.Perm labels
  ascending :
    (set.labels.map fun label => label.name.toUTF8.toList).Pairwise (· < ·)
  get?_eq_some : ∀ label ∈ labels, set.get? label.name = some label.value
  get?_eq_none : ∀ name, name ∉ labels.map Label.name → set.get? name = none

/-- A label set orders the labels from which it is made. -/
theorem orders_of_perm (hperm : set.labels.Perm labels) :
    set.Orders labels where
  perm := hperm
  ascending := by
    have hnames : (set.labels.map Label.name).Pairwise (· < ·) :=
      List.pairwise_map.mpr set.ascending
    have hbytes := Text.pairwise_bytes hnames
    rwa [List.map_map] at hbytes
  get?_eq_some label hlabel :=
    get?_eq_some_iff.mpr (hperm.mem_iff.mpr hlabel)
  get?_eq_none name hname := by
    rw [Option.eq_none_iff_forall_ne_some]
    intro value hvalue
    have hmem := hperm.mem_iff.mp (get?_eq_some_iff.mp hvalue)
    exact hname (List.mem_map.mpr ⟨_, hmem, rfl⟩)

/-- Labels in any other order make the same set, and fail in the same way. -/
theorem ofLabels_eq_of_perm {others : List Label}
    (hperm : others.Perm labels) : ofLabels others = ofLabels labels := by
  cases hmade : ofLabels labels with
  | ok set =>
      rw [ofLabels_eq_ok_iff] at hmade ⊢
      exact hmade.trans hperm.symm
  | error cause =>
      rw [ofLabels_eq_error_iff] at hmade ⊢
      exact hmade.of_perm (hperm.map Label.name).symm

theorem ofPairs_toPairs (set : LabelSet) : ofPairs set.toPairs = .ok set :=
  ofPairs_eq_ok_iff.mpr (List.Perm.refl _)

theorem toPairs_ascending (set : LabelSet) :
    (set.toPairs.map fun pair => pair.1.toUTF8.toList).Pairwise (· < ·) := by
  rw [toPairs, List.map_map]
  exact (orders_of_perm (List.Perm.refl set.labels)).ascending

/-- Labels make a label set exactly if their names are distinct and not empty;
otherwise the fault is the least repeated name, or the empty name if none is
repeated.  The set orders the labels, and it is a canonical form of them: lists
of labels make the same set exactly if they are permutations of each other, and
then the hashes agree as well.  A set is made again from its labels and from its
pairs, and the pairs of a set that was made from pairs are these, in order. -/
theorem ofLabels_canonical (labels : List Label)
    (pairs : List (String × String)) :
    ((∃ set, ofLabels labels = .ok set) ↔
      Usable (labels.map Label.name)) ∧
    (∀ cause, ofLabels labels = .error cause ↔
      (∃ name, LeastRepeated (labels.map Label.name) name ∧
        cause = .duplicateName name) ∨
      ((labels.map Label.name).Nodup ∧ "" ∈ labels.map Label.name ∧
        cause = .emptyName)) ∧
    (∀ set, ofLabels labels = .ok set → set.Orders labels) ∧
    (∀ others, others.Perm labels → ofLabels others = ofLabels labels) ∧
    (∀ others set other, ofLabels labels = .ok set →
      ofLabels others = .ok other →
        (other = set ↔ others.Perm labels) ∧
        (others.Perm labels → other.digest = set.digest ∧
          other.fingerprint = set.fingerprint)) ∧
    (∀ set : LabelSet,
      ofLabels set.labels = .ok set ∧ ofPairs set.toPairs = .ok set) ∧
    ofPairs pairs = ofLabels (pairs.map fun pair => ⟨pair.1, pair.2⟩) ∧
    (∀ set, ofPairs pairs = .ok set → set.toPairs.Perm pairs ∧
      (set.toPairs.map fun pair => pair.1.toUTF8.toList).Pairwise (· < ·)) := by
  have hsame : ∀ others set other, ofLabels labels = .ok set →
      ofLabels others = .ok other → (other = set ↔ others.Perm labels) := by
    intro others set other hset hother
    rw [ofLabels_eq_ok_iff] at hset hother
    constructor
    · rintro rfl
      exact hother.symm.trans hset
    · intro hperm
      exact eq_of_perm ((hother.trans hperm).trans hset.symm)
  refine ⟨exists_ofLabels_iff, fun cause => ?_, fun set hset => ?_,
    fun others => ofLabels_eq_of_perm, fun others set other hset hother => ?_,
    fun set => ⟨set.ofLabels_labels, set.ofPairs_toPairs⟩, rfl,
    fun set hset => ⟨ofPairs_eq_ok_iff.mp hset, set.toPairs_ascending⟩⟩
  · rw [ofLabels_eq_error_iff, unusable_iff]
  · exact orders_of_perm (ofLabels_eq_ok_iff.mp hset)
  · refine ⟨hsame others set other hset hother, fun hperm => ?_⟩
    rw [(hsame others set other hset hother).mpr hperm]
    exact ⟨rfl, rfl⟩

end SeriesIndex.LabelSet
