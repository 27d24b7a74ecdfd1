import SeriesIndex.Proofs.Query
import SeriesIndex.Proofs.Triples

/-!
# Inverted indexes in different numbers of stripes

Two inverted indexes with the same triples may be cut into different numbers of
stripes, and then they are not equal.  But a name is looked for where it was
put, so everything that is read under a name is the same, and what is read of
all stripes together is a set of names or a sum, in which the stripes are lost.
-/

namespace SeriesIndex.InvertedIndex

def SameTriples (left right : InvertedIndex) : Prop :=
  ∃ triples, left.Represents triples ∧ right.Represents triples

namespace SameTriples

variable {left right : InvertedIndex}

/-! ## What is read under a name -/

theorem named?_eq (hsame : left.SameTriples right) :
    left.named? = right.named? := by
  obtain ⟨triples, hleft, hright⟩ := hsame
  funext name
  exact hleft.named?_eq hright name

theorem postings?_eq (hsame : left.SameTriples right) :
    left.postings? = right.postings? := by
  funext name value
  rw [postings?, postings?, hsame.named?_eq]

theorem postings_eq (hsame : left.SameTriples right) :
    left.postings = right.postings := by
  funext name value
  rw [postings, postings, hsame.postings?_eq]

theorem union_eq (hsame : left.SameTriples right) :
    left.union = right.union := by
  funext name
  rw [union, union, hsame.named?_eq]

theorem unionWhere_eq (hsame : left.SameTriples right) :
    left.unionWhere = right.unionWhere := by
  funext name select
  rw [unionWhere, unionWhere, hsame.named?_eq]

theorem unionExcluding_eq (hsame : left.SameTriples right) :
    left.unionExcluding = right.unionExcluding := by
  funext name select
  rw [unionExcluding, unionExcluding, hsame.named?_eq]

theorem unionWithout_eq (hsame : left.SameTriples right) :
    left.unionWithout = right.unionWithout := by
  funext name value
  rw [unionWithout, unionWithout, hsame.named?_eq]

theorem values_eq (hsame : left.SameTriples right) :
    left.values = right.values := by
  funext name
  rw [values, values, hsame.named?_eq]

theorem evaluate_eq (hsame : left.SameTriples right) :
    left.evaluate = right.evaluate := by
  funext matcher
  rw [evaluate, evaluate, hsame.postings_eq, hsame.unionWithout_eq,
    hsame.unionWhere_eq, hsame.unionExcluding_eq]

theorem operands?_eq (hsame : left.SameTriples right) :
    left.operands? = right.operands? := by
  funext matchers
  induction matchers with
  | nil => rfl
  | cons matcher rest ih => rw [operands?, operands?, hsame.evaluate_eq, ih]

/-! ## What is read of all stripes -/

theorem labelNames_eq (hsame : left.SameTriples right) :
    left.labelNames = right.labelNames := by
  obtain ⟨triples, hleft, hright⟩ := hsame
  apply (labelNames_ascending hleft).eq_of_mem_iff (labelNames_ascending hright)
  intro name
  rw [mem_labelNames hleft, mem_labelNames hright]

theorem nameCount_eq (hsame : left.SameTriples right) :
    left.nameCount = right.nameCount := by
  obtain ⟨triples, hleft, hright⟩ := hsame
  exact hleft.nameCount.trans hright.nameCount.symm

theorem pairCount_eq (hsame : left.SameTriples right) :
    left.pairCount = right.pairCount := by
  obtain ⟨triples, hleft, hright⟩ := hsame
  exact hleft.pairCount.trans hright.pairCount.symm

theorem insertionCount_eq (hsame : left.SameTriples right) :
    left.insertionCount = right.insertionCount := by
  obtain ⟨triples, hleft, hright⟩ := hsame
  exact hleft.insertionCount.trans hright.insertionCount.symm

/-- The stripes list their entries in different orders, but the sizes of the
entries are added up. -/
theorem storedBytes_eq (hsame : left.SameTriples right) :
    left.storedBytes = right.storedBytes := by
  have hnamed := hsame.named?_eq
  obtain ⟨triples, hleft, hright⟩ := hsame
  have hperm : left.names.entries.Perm right.names.entries :=
    hleft.placed.entries_perm hright.placed (congrFun hnamed)
  apply hperm.foldr_eq'
  intro first _ second _ bytes
  exact Nat.add_left_comm _ _ _

end SameTriples

end SeriesIndex.InvertedIndex
