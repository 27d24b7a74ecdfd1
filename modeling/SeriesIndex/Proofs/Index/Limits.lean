import Mathlib
import SeriesIndex.Index
import SeriesIndex.Proofs.Batch

/-!
# Limits of an index

Settings say under which limits an index works.  `Valid` describes the settings
that are accepted at all, and `Allows` the label sets that may reach the store.
A label set that is not allowed is refused for one reason, which `Refuses`
describes: it has too many labels, or the first label, by name, that does not
fit has a name or else a value that is too long.
-/

namespace SeriesIndex

/-- Where the elements come in an order, a check of all of them fails as it
does for the first one that is refused. -/
theorem Catalog.forM_eq_error_iff {α ε : Type} {check : α → Except ε Unit}
    {before : α → α → Prop} {list : List α} {fault : ε}
    (hasymm : ∀ a b, before a b → ¬before b a)
    (hordered : list.Pairwise before) :
    list.forM check = .error fault ↔
      ∃ element ∈ list, check element = .error fault ∧
        ∀ other ∈ list, before other element → check other = .ok () := by
  induction list with
  | nil => simp [pure, Except.pure]
  | cons first rest ih =>
      obtain ⟨hfirst, hrest⟩ := List.pairwise_cons.mp hordered
      have hcons : (first :: rest).forM check =
          (check first >>= fun _ => rest.forM check) := rfl
      rw [hcons]
      cases hcheck : check first with
      | error cause =>
          constructor
          · intro hfault
            cases hfault
            refine ⟨first, List.mem_cons_self, hcheck, ?_⟩
            intro other hother hless
            rcases List.mem_cons.mp hother with rfl | hother
            · exact absurd hless (hasymm _ _ hless)
            · exact absurd hless (hasymm _ _ (hfirst other hother))
          · rintro ⟨element, helement, hfault, hothers⟩
            rcases List.mem_cons.mp helement with rfl | helement
            · exact hcheck.symm.trans hfault
            · have hok :=
                hothers first List.mem_cons_self (hfirst element helement)
              rw [hcheck] at hok
              cases hok
      | ok value =>
          have hnext : (Except.ok value >>= fun _ => rest.forM check) =
              rest.forM check := rfl
          rw [hnext, ih hrest]
          constructor
          · rintro ⟨element, helement, hfault, hothers⟩
            refine ⟨element, List.mem_cons_of_mem _ helement, hfault, ?_⟩
            exact List.forall_mem_cons.mpr ⟨fun _ => hcheck, hothers⟩
          · rintro ⟨element, helement, hfault, hothers⟩
            rcases List.mem_cons.mp helement with rfl | helement
            · rw [hcheck] at hfault
              cases hfault
            · exact ⟨element, helement, hfault, fun other hother =>
                hothers other (List.mem_cons_of_mem _ hother)⟩

namespace Settings

variable {settings : Settings}

/-! ## Settings that are accepted -/

structure Valid (settings : Settings) : Prop where
  keyStripes : settings.keyStripes.isPowerOfTwo ∧
    settings.keyStripes ≤ stripesMost
  nameStripes : settings.nameStripes.isPowerOfTwo ∧
    settings.nameStripes ≤ stripesMost
  labelLimit : 0 < settings.labelLimit
  nameLimit : 0 < settings.nameLimit
  patternLimit : 0 < settings.patternLimit
  patternSizeLimit : 0 < settings.patternSizeLimit

/-- The next power of two stays where it is at powers of two only. -/
theorem nextPowerOfTwo_eq_iff {stripes : Nat} (hmost : stripes ≤ stripesMost) :
    stripes.nextPowerOfTwo = stripes ↔ stripes.isPowerOfTwo := by
  constructor
  · intro hnext
    rw [← hnext]
    exact Nat.isPowerOfTwo_nextPowerOfTwo stripes
  · rintro ⟨exponent, rfl⟩
    have hexponent : exponent ≤ 12 :=
      (Nat.pow_le_pow_iff_right (by decide)).mp hmost
    have hall : ∀ k ≤ 12, Nat.nextPowerOfTwo (2 ^ k) = 2 ^ k := by
      decide +kernel
    exact hall exponent hexponent

theorem checkStripes_eq_ok_iff {field : Field} :
    settings.checkStripes field = .ok () ↔
      (settings.get field).isPowerOfTwo ∧
        settings.get field ≤ stripesMost := by
  rw [checkStripes]
  by_cases hmost : settings.get field ≤ stripesMost
  · rw [if_neg (Nat.not_lt.mpr hmost), ← nextPowerOfTwo_eq_iff hmost]
    by_cases hnext : (settings.get field).nextPowerOfTwo = settings.get field
    · simp [hnext, hmost]
    · simp [hnext]
  · refine iff_of_false ?_ fun hvalid => hmost hvalid.2
    rw [if_pos (Nat.lt_of_not_le hmost)]
    split <;> exact nofun

/-- The check of settings says yes to the valid ones. -/
theorem check_eq_ok_iff : settings.check = .ok () ↔ settings.Valid := by
  have hkeys : settings.checkStripes .keyStripes = .ok () ↔
      settings.keyStripes.isPowerOfTwo ∧ settings.keyStripes ≤ stripesMost :=
    checkStripes_eq_ok_iff
  have hnames : settings.checkStripes .nameStripes = .ok () ↔
      settings.nameStripes.isPowerOfTwo ∧ settings.nameStripes ≤ stripesMost :=
    checkStripes_eq_ok_iff
  have hvalid : settings.Valid ↔
      settings.checkStripes .keyStripes = .ok () ∧
      settings.checkStripes .nameStripes = .ok () ∧
      settings.labelLimit ≠ 0 ∧ settings.nameLimit ≠ 0 ∧
      ¬(settings.patternLimit = 0 ∨ settings.patternSizeLimit = 0) := by
    rw [hkeys, hnames, not_or]
    simp only [← Nat.pos_iff_ne_zero]
    constructor
    · rintro ⟨hkeys, hnames, hlabels, hname, hpattern, hsize⟩
      exact ⟨hkeys, hnames, hlabels, hname, hpattern, hsize⟩
    · rintro ⟨hkeys, hnames, hlabels, hname, hpattern, hsize⟩
      exact ⟨hkeys, hnames, hlabels, hname, hpattern, hsize⟩
  rw [hvalid, check]
  cases settings.checkStripes .keyStripes with
  | error fault => simp [bind, Except.bind]
  | ok value =>
      cases settings.checkStripes .nameStripes with
      | error fault => simp [bind, Except.bind]
      | ok other =>
          simp only [bind, Except.bind, pure, Except.pure, throw, throwThe,
            MonadExceptOf.throw]
          split <;> simp_all
          split <;> simp_all

/-! ## Label sets that are allowed -/

def Fits (settings : Settings) (label : Label) : Prop :=
  label.name.utf8ByteSize ≤ settings.nameLimit ∧
    label.value.utf8ByteSize ≤ settings.valueLimit

/-- A label set with few enough labels, each of which fits. -/
def Allows (settings : Settings) (labels : LabelSet) : Prop :=
  labels.size ≤ settings.labelLimit ∧
    ∀ label ∈ labels.labels, settings.Fits label

/-- The first label of a label set, by name, that does not fit. -/
structure FirstUnfit (settings : Settings) (labels : LabelSet)
    (label : Label) : Prop where
  mem : label ∈ labels.labels
  unfit : ¬settings.Fits label
  first : ∀ other ∈ labels.labels, other.name < label.name →
    settings.Fits other

/-- Why a label set is not allowed.  Its labels are counted before they are
looked at, and of a label the name is looked at before the value. -/
inductive Refuses (settings : Settings) (labels : LabelSet) :
    LabelFault → Prop where
  | tooManyLabels (hmany : settings.labelLimit < labels.size) :
      Refuses settings labels (.tooManyLabels labels.size settings.labelLimit)
  | nameTooLong {label : Label} (hfew : labels.size ≤ settings.labelLimit)
      (hfirst : settings.FirstUnfit labels label)
      (hname : settings.nameLimit < label.name.utf8ByteSize) :
      Refuses settings labels
        (.nameTooLong label.name label.name.utf8ByteSize settings.nameLimit)
  | valueTooLong {label : Label} (hfew : labels.size ≤ settings.labelLimit)
      (hfirst : settings.FirstUnfit labels label)
      (hname : label.name.utf8ByteSize ≤ settings.nameLimit)
      (hvalue : settings.valueLimit < label.value.utf8ByteSize) :
      Refuses settings labels
        (.valueTooLong label.name label.value.utf8ByteSize settings.valueLimit)

variable {label : Label} {labels : LabelSet} {cause : LabelFault}

theorem checkLabel_eq_ok_iff :
    settings.checkLabel label = .ok () ↔ settings.Fits label := by
  rw [checkLabel, Fits, ← Nat.not_lt, ← Nat.not_lt]
  split
  · simp [*]
  · split <;> simp [*]

/-- Of a label that does not fit, the name is reported before the value. -/
theorem checkLabel_eq_error_iff :
    settings.checkLabel label = .error cause ↔
      (settings.nameLimit < label.name.utf8ByteSize ∧
        cause = .nameTooLong label.name label.name.utf8ByteSize
          settings.nameLimit) ∨
      (label.name.utf8ByteSize ≤ settings.nameLimit ∧
        settings.valueLimit < label.value.utf8ByteSize ∧
        cause = .valueTooLong label.name label.value.utf8ByteSize
          settings.valueLimit) := by
  rw [checkLabel, ← Nat.not_lt]
  split
  · simp [*, eq_comm]
  · split <;> simp [*, eq_comm]

/-- The check of labels says yes to the allowed ones. -/
theorem checkLabels_eq_ok_iff :
    settings.checkLabels labels = .ok () ↔ settings.Allows labels := by
  rw [checkLabels, Allows, ← Nat.not_lt]
  split
  · simp [*]
  · simp only [Catalog.forM_eq_ok_iff, checkLabel_eq_ok_iff, not_false_eq_true,
      true_and, *]

/-- The check of labels reports the fault for which they are refused. -/
theorem checkLabels_eq_error_iff :
    settings.checkLabels labels = .error cause ↔
      settings.Refuses labels cause := by
  have hasymm (a b : Label) (hless : a.name < b.name) : ¬b.name < a.name :=
    fun hgreater => String.lt_irrefl _ (String.lt_trans hless hgreater)
  rw [checkLabels]
  split
  · rename_i hmany
    constructor
    · intro hfault
      cases hfault
      exact .tooManyLabels hmany
    · intro hrefuses
      cases hrefuses with
      | tooManyLabels _ => rfl
      | nameTooLong hfew _ _ => exact absurd hmany (Nat.not_lt.mpr hfew)
      | valueTooLong hfew _ _ _ => exact absurd hmany (Nat.not_lt.mpr hfew)
  · rename_i hfew
    rw [Catalog.forM_eq_error_iff hasymm labels.ascending]
    simp only [checkLabel_eq_ok_iff, checkLabel_eq_error_iff]
    constructor
    · rintro ⟨label, hlabel, ⟨hname, rfl⟩ | ⟨hname, hvalue, rfl⟩, hfirst⟩
      · have hunfit : ¬settings.Fits label :=
          fun hfits => absurd hname (Nat.not_lt.mpr hfits.1)
        exact .nameTooLong (Nat.not_lt.mp hfew) ⟨hlabel, hunfit, hfirst⟩ hname
      · have hunfit : ¬settings.Fits label :=
          fun hfits => absurd hvalue (Nat.not_lt.mpr hfits.2)
        exact .valueTooLong (Nat.not_lt.mp hfew) ⟨hlabel, hunfit, hfirst⟩ hname
          hvalue
    · intro hrefuses
      cases hrefuses with
      | tooManyLabels hmany => exact absurd hmany hfew
      | nameTooLong _ hfirst hname =>
          exact ⟨_, hfirst.mem, .inl ⟨hname, rfl⟩, hfirst.first⟩
      | valueTooLong _ hfirst hname hvalue =>
          exact ⟨_, hfirst.mem, .inr ⟨hname, hvalue, rfl⟩, hfirst.first⟩

end Settings

end SeriesIndex
