import SeriesIndex.Hash.Sip
import SeriesIndex.Hash.Stream
import SeriesIndex.Text.Quoted

/-!
# Labels and label sets

A label is a name with a value.  A label set is the identity of a series: labels
in strictly ascending order of their names, none of which is empty.  The order
in which labels are given does not matter, so a label set is a canonical form of
its labels.
-/

namespace SeriesIndex

structure Label where
  name : String
  value : String
  deriving DecidableEq, Repr

inductive LabelFault where
  | duplicateName (name : String)
  | emptyName
  | tooManyLabels (count most : Nat)
  | nameTooLong (name : String) (length most : Nat)
  | valueTooLong (name : String) (length most : Nat)
  deriving DecidableEq, Repr

def LabelFault.message : LabelFault → String
  | duplicateName name => s!"duplicate label name '{name}'"
  | emptyName => "label name must not be empty"
  | tooManyLabels count most => s!"too many labels: {count} (max: {most})"
  | nameTooLong name length most =>
    s!"label name '{name}' is {length} bytes (max: {most})"
  | valueTooLong name length most =>
    s!"value of label '{name}' is {length} bytes (max: {most})"

namespace Label

/-- Labels are ordered by name, then by value. -/
instance : Ord Label where
  compare := compareLex (compareOn name) (compareOn value)

instance : Std.TransOrd Label :=
  inferInstanceAs (Std.TransCmp (compareLex (compareOn name) (compareOn value)))

instance : Std.LawfulEqOrd Label where
  eq_of_compare {a b} h := by
    have h : (compare a.name b.name).then (compare a.value b.value) = .eq := h
    rw [Ordering.then_eq_eq] at h
    cases a
    cases b
    simp_all

def text (label : Label) : String :=
  label.name ++ "=" ++ Text.Quoted.encode label.value

/-- Bytes that a label takes in memory besides its name and value. -/
def overhead : Nat := 48

def memoryBytes (label : Label) : Nat :=
  label.name.utf8ByteSize + label.value.utf8ByteSize + overhead

/-- Labels in ascending order of their names; labels of one name keep their
order. -/
def sortByName (labels : List Label) : List Label :=
  labels.mergeSort fun a b => a.name ≤ b.name

/-- The name of the first two neighbours that share one. -/
def repeated? : List Label → Option String
  | a :: b :: rest =>
    if a.name = b.name then some a.name else repeated? (b :: rest)
  | _ => none

/-- The place of a name among labels in ascending order of their names, if it is
at one of the `count` places from `base` on.  Of these, the upper half is kept
unless it begins after the name. -/
def place (labels : List Label) (name : String) (base count : Nat) : Nat :=
  if 1 < count then
    let half := count / 2
    if (labels[base + half]?).any fun label => name < label.name then
      place labels name base (count - half)
    else place labels name (base + half) (count - half)
  else base
termination_by count

theorem pairwise_sortByName (labels : List Label) :
    (sortByName labels).Pairwise fun a b => a.name ≤ b.name := by
  have htrans (a b c : Label) :
      decide (a.name ≤ b.name) = true → decide (b.name ≤ c.name) = true →
        decide (a.name ≤ c.name) = true := fun hab hbc =>
    decide_eq_true
      (String.le_trans (of_decide_eq_true hab) (of_decide_eq_true hbc))
  have htotal (a b : Label) :
      (decide (a.name ≤ b.name) || decide (b.name ≤ a.name)) = true := by
    rcases String.le_total a.name b.name with h | h <;> simp [h]
  exact (List.pairwise_mergeSort htrans htotal labels).imp of_decide_eq_true

/-- Labels in order of their names stay as they are. -/
theorem sortByName_of_pairwise {labels : List Label}
    (hsorted : labels.Pairwise fun a b => a.name ≤ b.name) :
    sortByName labels = labels :=
  List.mergeSort_of_pairwise (hsorted.imp fun h => decide_eq_true h)

/-- Sorted labels of which no two neighbours share a name ascend strictly. -/
theorem pairwise_lt_of_repeated?_eq_none {labels : List Label}
    (hsorted : labels.Pairwise fun a b => a.name ≤ b.name)
    (hdistinct : repeated? labels = none) :
    labels.Pairwise fun a b => a.name < b.name := by
  induction labels with
  | nil => exact .nil
  | cons a rest ih =>
    cases rest with
    | nil => simp
    | cons b rest =>
      rw [repeated?] at hdistinct
      split at hdistinct
      · simp at hdistinct
      · rename_i hne
        have hcons := List.pairwise_cons.mp hsorted
        have hrest := ih hcons.2 hdistinct
        have hab : a.name < b.name := by
          rcases Decidable.em (a.name < b.name) with h | h
          · exact h
          · have hle := hcons.1 b (by simp)
            exact absurd (String.le_antisymm hle (String.not_lt.mp h)) hne
        refine List.pairwise_cons.mpr ⟨fun c hc => ?_, hrest⟩
        rcases List.mem_cons.mp hc with rfl | hc
        · exact hab
        · exact String.lt_trans hab ((List.pairwise_cons.mp hrest).1 c hc)

theorem repeated?_eq_none_of_pairwise {labels : List Label}
    (hascending : labels.Pairwise fun a b => a.name < b.name) :
    repeated? labels = none := by
  fun_induction repeated? labels with
  | case1 a b rest hsame =>
    have hless : a.name < b.name :=
      (List.pairwise_cons.mp hascending).1 b (by simp)
    exact absurd (hsame ▸ hless) (String.lt_irrefl _)
  | case2 a b rest _ ih => exact ih (List.pairwise_cons.mp hascending).2
  | case3 => rfl

end Label

/-- The identity of a series. -/
structure LabelSet where
  labels : List Label
  ascending : labels.Pairwise fun a b => a.name < b.name
  named : ∀ label ∈ labels, label.name ≠ ""
  deriving DecidableEq

namespace LabelSet

theorem ext {a b : LabelSet} (hlabels : a.labels = b.labels) : a = b := by
  cases a
  cases b
  simp_all

def empty : LabelSet := ⟨[], .nil, by simp⟩

/-- The label set of labels given in any order.  Of several names that occur
twice the least is reported, and a repeated name before an empty one. -/
def ofLabels (labels : List Label) : Except LabelFault LabelSet :=
  match distinct : Label.repeated? (Label.sortByName labels) with
  | some name => .error (.duplicateName name)
  | none =>
    if named : ∀ label ∈ Label.sortByName labels, label.name ≠ "" then
      .ok ⟨Label.sortByName labels,
        Label.pairwise_lt_of_repeated?_eq_none
          (Label.pairwise_sortByName labels) distinct, named⟩
    else .error .emptyName

/-- The labels of a label set make that set again. -/
theorem ofLabels_labels (set : LabelSet) : ofLabels set.labels = .ok set := by
  have hsorted : Label.sortByName set.labels = set.labels :=
    Label.sortByName_of_pairwise (set.ascending.imp fun hless =>
      String.not_lt.mp fun hgreater =>
        String.lt_irrefl _ (String.lt_trans hless hgreater))
  have hdistinct : Label.repeated? (Label.sortByName set.labels) = none := by
    rw [hsorted]
    exact Label.repeated?_eq_none_of_pairwise set.ascending
  have hnamed : ∀ label ∈ Label.sortByName set.labels, label.name ≠ "" := by
    rw [hsorted]
    exact set.named
  rw [ofLabels]
  split
  · simp_all
  · rw [dif_pos hnamed]
    exact congrArg Except.ok (ext hsorted)

def ofPairs (pairs : List (String × String)) : Except LabelFault LabelSet :=
  ofLabels (pairs.map fun (name, value) => ⟨name, value⟩)

def toPairs (set : LabelSet) : List (String × String) :=
  set.labels.map fun label => (label.name, label.value)

def size (set : LabelSet) : Nat := set.labels.length

/-- The value of the label called `name`, which is looked for by halving the
labels. -/
def get? (set : LabelSet) (name : String) : Option String :=
  ((set.labels[Label.place set.labels name 0 set.size]?).filter fun label =>
    label.name = name).map (·.value)

/-- Label sets are ordered as lists of labels. -/
instance : Ord LabelSet where
  compare := compareOn labels

instance : Std.TransOrd LabelSet :=
  inferInstanceAs (Std.TransCmp (compareOn labels))

instance : Std.LawfulEqOrd LabelSet where
  eq_of_compare {a b} h := by
    have h : compare a.labels b.labels = .eq := h
    exact ext (Std.LawfulEqOrd.eq_of_compare h)

def text (set : LabelSet) : String :=
  "\x7b" ++ ", ".intercalate (set.labels.map Label.text) ++ "\x7d"

def memoryBytes (set : LabelSet) : Nat :=
  set.labels.foldr (fun label bytes => label.memoryBytes + bytes) 0

/-- The byte string of a label set: each name and each value, closed by the end
mark. -/
def stream (set : LabelSet) : List UInt8 :=
  set.labels.flatMap fun label =>
    Hash.textBytes label.name ++ Hash.textBytes label.value

/-- Spreads the bits of a digest. -/
def mix (digest : UInt64) : UInt64 :=
  let product := digest * 0x517cc1b727220a95
  product ^^^ (product >>> 32)

/-- A number that depends on the labels only, not on the order in which they
came. -/
def fingerprint (set : LabelSet) : UInt64 :=
  mix (Hash.Sip.digest set.stream)

/-- The hash of a label set: the digest of the number of its labels and its
stream. -/
def digest (set : LabelSet) : UInt64 :=
  Hash.Sip.digest (Hash.wordBytes set.size.toUInt64 ++ set.stream)

end LabelSet

end SeriesIndex
