import Mathlib
import SeriesIndex.Proofs.Firsts
import SeriesIndex.Proofs.Store.Canonical
import SeriesIndex.Proofs.Store.Registered

/-!
# Stores that go on from others

Registrations lead from one store to another one.  Which numbers they give out
depends on nothing but the order in which label sets are accepted: those that
were not registered at the start get the next numbers in turn, each when it is
accepted for the first time, and a registration that is refused leaves no gap.
-/

namespace SeriesIndex.Store

variable {start store : Store} {seen : List LabelSet} {labels : LabelSet}

/-- Of some label sets, those that are not registered at the start, in the order
in which they come first. -/
def newcomers (start : Store) (seen : List LabelSet) : List LabelSet :=
  (seen.filter fun labels =>
    (start.catalog.lookup? labels).isNone).eraseDups

/-- Newcomers are label sets that were not found at the start. -/
theorem mem_newcomers :
    labels ∈ start.newcomers seen ↔
      labels ∈ seen ∧ start.catalog.lookup? labels = none := by
  rw [newcomers, List.mem_eraseDups, List.mem_filter, Option.isNone_iff_eq_none]

theorem newcomers_concat_of_known
    (hknown : labels ∈ seen ∨ start.catalog.lookup? labels ≠ none) :
    start.newcomers (seen ++ [labels]) = start.newcomers seen := by
  rw [newcomers, List.filter_append]
  by_cases hkey : start.catalog.lookup? labels = none
  · have hmem := hknown.resolve_right (not_not_intro hkey)
    rw [List.filter_cons_of_pos (by rw [hkey]; rfl), List.filter_nil]
    apply eraseDups_concat_of_mem
    rw [List.mem_filter, hkey]
    exact ⟨hmem, rfl⟩
  · rw [List.filter_cons_of_neg (by rwa [Option.isNone_iff_eq_none]),
      List.filter_nil, List.append_nil, newcomers]

/-- A label set that was never seen before is the last of the newcomers. -/
theorem newcomers_concat_of_new (hnot : labels ∉ seen)
    (hkey : start.catalog.lookup? labels = none) :
    start.newcomers (seen ++ [labels]) = start.newcomers seen ++ [labels] := by
  rw [newcomers, List.filter_append,
    List.filter_cons_of_pos (by rw [hkey]; rfl), List.filter_nil]
  apply eraseDups_concat_of_not_mem
  exact fun hmem => hnot (List.mem_of_mem_filter hmem)

/-- A store to which registrations led from another one, in which these label
sets were accepted one after another. -/
structure Continues (start : Store) (seen : List LabelSet) (store : Store) :
    Prop where
  settled : store.Settled
  frame_eq : store.frame = start.frame
  nextTsid_eq : store.catalog.nextTsid.toNat =
    start.catalog.nextTsid.toNat + (start.newcomers seen).length
  seriesCount_eq : store.catalog.seriesCount =
    start.catalog.seriesCount + (start.newcomers seen).length
  lookup?_iff : ∀ labels tsid, store.catalog.lookup? labels = some tsid ↔
    start.catalog.lookup? labels = some tsid ∨
      ∃ place, (start.newcomers seen)[place]? = some labels ∧
        tsid.toNat = start.catalog.nextTsid.toNat + place

theorem continues_nil (hsettled : start.Settled) :
    start.Continues [] start where
  settled := hsettled
  frame_eq := rfl
  nextTsid_eq := rfl
  seriesCount_eq := rfl
  lookup?_iff labels tsid := by simp [newcomers]

/-- There is a number for every newcomer. -/
theorem Continues.exists_tsid (hcontinues : start.Continues seen store)
    {place : Nat} (hplace : (start.newcomers seen)[place]? = some labels) :
    ∃ tsid : Tsid, tsid.toNat = start.catalog.nextTsid.toNat + place ∧
      store.catalog.lookup? labels = some tsid := by
  obtain ⟨hlt, -⟩ := List.getElem?_eq_some_iff.mp hplace
  have hbound := store.catalog.nextTsid.toNat_lt_size
  have hnext := hcontinues.nextTsid_eq
  have hnumber :
      (UInt64.ofNat (start.catalog.nextTsid.toNat + place)).toNat =
        start.catalog.nextTsid.toNat + place :=
    UInt64.toNat_ofNat_of_lt' (by omega)
  refine ⟨_, hnumber, (hcontinues.lookup?_iff _ _).mpr (.inr ?_)⟩
  exact ⟨place, hplace, hnumber⟩

/-- What is registered was registered at the start or was accepted since. -/
theorem Continues.exists_lookup?_iff (hcontinues : start.Continues seen store) :
    (∃ tsid, store.catalog.lookup? labels = some tsid) ↔
      labels ∈ seen ∨ start.catalog.lookup? labels ≠ none := by
  constructor
  · rintro ⟨tsid, hkey⟩
    rcases (hcontinues.lookup?_iff labels tsid).mp hkey with
      hold | ⟨place, hplace, -⟩
    · rw [hold]
      exact .inr (Option.some_ne_none tsid)
    · exact .inl (mem_newcomers.mp (List.mem_of_getElem? hplace)).1
  · intro hknown
    by_cases hkey : start.catalog.lookup? labels = none
    · have hmem := hknown.resolve_right (not_not_intro hkey)
      obtain ⟨place, hplace⟩ :=
        List.mem_iff_getElem?.mp (mem_newcomers.mpr ⟨hmem, hkey⟩)
      obtain ⟨tsid, -, htsid⟩ := hcontinues.exists_tsid hplace
      exact ⟨tsid, htsid⟩
    · obtain ⟨tsid, hold⟩ := Option.ne_none_iff_exists'.mp hkey
      exact ⟨tsid, (hcontinues.lookup?_iff labels tsid).mpr (.inl hold)⟩

def acceptedBy (labels : LabelSet) :
    Except Fault Registration → List LabelSet
  | .ok _ => [labels]
  | .error _ => []

section Accepted

variable {after : Store} {timestamp : Timestamp}
  (hcontinues : start.Continues seen store)
  (hafter : after.Settled) (hframe : after.frame = store.frame)

include hcontinues hafter hframe

/-- Another sight of a registered label set changes none of the numbers. -/
theorem Continues.widens {series : Series}
    (hknown : series ∈ store.catalog.snapshot)
    (hwidens : store.Widens series timestamp after) :
    start.Continues (seen ++ [series.labels]) after := by
  have hsettled := hcontinues.settled
  have hkey := hsettled.keyed _ _ (hsettled.mem_snapshot.mp hknown)
  have hsame := newcomers_concat_of_known
    (hcontinues.exists_lookup?_iff.mp ⟨_, hkey⟩)
  constructor
  case settled => exact hafter
  case frame_eq => exact hframe.trans hcontinues.frame_eq
  case nextTsid_eq =>
    rw [hsame, hwidens.nextTsid_eq]
    exact hcontinues.nextTsid_eq
  case seriesCount_eq =>
    rw [hsame, hwidens.seriesCount_eq]
    exact hcontinues.seriesCount_eq
  case lookup?_iff =>
    intro other tsid
    rw [hsame, Catalog.lookup?, hwidens.keys_eq]
    exact hcontinues.lookup?_iff other tsid

/-- A label set that is new gets the next number. -/
theorem Continues.loads (hunknown : labels ∉ store.registered)
    (hloads : store.Loads
      [⟨store.catalog.nextTsid, labels, .single timestamp⟩] after) :
    start.Continues (seen ++ [labels]) after := by
  have hsettled := hcontinues.settled
  have hnone := mt hcontinues.exists_lookup?_iff.mpr
    (mt hsettled.mem_registered.mpr hunknown)
  rw [not_or, not_not] at hnone
  have happend := newcomers_concat_of_new hnone.1 hnone.2
  have hnext := hcontinues.nextTsid_eq
  constructor
  case settled => exact hafter
  case frame_eq => exact hframe.trans hcontinues.frame_eq
  case nextTsid_eq =>
    have hgreatest : greatest
        [⟨store.catalog.nextTsid, labels, .single timestamp⟩] =
          store.catalog.nextTsid.toNat := Nat.max_zero _
    rw [happend, hloads.nextTsid_eq, hgreatest, List.length_append,
      List.length_singleton]
    omega
  case seriesCount_eq =>
    rw [happend, hloads.seriesCount_eq, hcontinues.seriesCount_eq,
      List.length_append, Nat.add_assoc]
    rfl
  case lookup?_iff =>
    intro other tsid
    rw [happend, hloads.lookup?_iff, hcontinues.lookup?_iff, or_assoc]
    apply or_congr_right
    simp only [getElem?_concat_eq_some_iff, List.mem_singleton,
      exists_eq_left, or_and_right, exists_or, and_assoc]
    apply or_congr_right
    rw [← hnext, UInt64.toNat_inj]
    exact and_congr_right' eq_comm

end Accepted

/-- One more registration goes on from the same store. -/
theorem Continues.register (hcontinues : start.Continues seen store)
    (timestamp : Timestamp) (labels : LabelSet) :
    start.Continues
      (seen ++ acceptedBy labels (store.register timestamp labels).1)
      (store.register timestamp labels).2 := by
  have hsettled := hcontinues.settled
  have hafter := hsettled.register timestamp labels
  have hframe := hsettled.frame_register timestamp labels
  have hregisters := hsettled.registers timestamp labels
  generalize store.register timestamp labels = result at *
  cases hregisters with
  | known hknown hlabels hwidens =>
      subst hlabels
      exact hcontinues.widens hafter hframe hknown hwidens
  | full _ _ =>
      rw [acceptedBy, List.append_nil]
      exact hcontinues
  | exhausted _ _ _ =>
      rw [acceptedBy, List.append_nil]
      exact hcontinues
  | new hunknown hroom hlast hloads =>
      exact hcontinues.loads hafter hframe hunknown hloads

/-- A registration that is accepted is new if its label set was not accepted
before and not registered at the start. -/
theorem Continues.isNew_iff (hcontinues : start.Continues seen store)
    {timestamp : Timestamp} {labels : LabelSet} {registration : Registration}
    (hok : (store.register timestamp labels).1 = .ok registration) :
    registration.isNew = true ↔
      labels ∉ seen ∧ start.catalog.lookup? labels = none := by
  have hsettled := hcontinues.settled
  have hregisters := hsettled.registers timestamp labels
  have hknown :
      (∃ tsid, store.catalog.lookup? labels = some tsid) ↔ _ :=
    hcontinues.exists_lookup?_iff
  rw [← hsettled.mem_registered, ← not_iff_not, not_or, not_not] at hknown
  rw [← hknown]
  generalize store.register timestamp labels = result at *
  cases hregisters with
  | known hmem hlabels hwidens =>
      cases hok
      refine iff_of_false Bool.false_ne_true (not_not_intro ?_)
      exact List.mem_map.mpr ⟨_, hmem, hlabels⟩
  | full _ _ => cases hok
  | exhausted _ _ _ => cases hok
  | new hunknown _ _ _ =>
      cases hok
      exact iff_of_true rfl hunknown

/-- New numbers lie between the next number of the start and that of now. -/
theorem Continues.mem_published_iff (hcontinues : start.Continues seen store)
    (hstart : start.Settled) {tsid : Tsid} :
    tsid ∈ store.catalog.published ↔
      tsid ∈ start.catalog.published ∨
        start.catalog.nextTsid ≤ tsid ∧ tsid < store.catalog.nextTsid := by
  have hnext := hcontinues.nextTsid_eq
  rw [hcontinues.settled.faithful.published_iff, hstart.faithful.published_iff,
    UInt64.le_iff_toNat_le, UInt64.lt_iff_toNat_lt]
  simp only [hcontinues.lookup?_iff, exists_or]
  apply or_congr_right
  constructor
  · rintro ⟨labels, place, hplace, htsid⟩
    have hlt := (List.getElem?_eq_some_iff.mp hplace).1
    omega
  · rintro ⟨hle, hlt⟩
    have hplace : tsid.toNat - start.catalog.nextTsid.toNat <
        (start.newcomers seen).length := by
      omega
    exact ⟨_, _, List.getElem?_eq_getElem hplace, by omega⟩

/-! ## Room -/

/-- There are places and numbers for all newcomers. -/
structure Accommodates (start : Store) (arriving : List LabelSet) : Prop where
  room : start.catalog.limit = 0 ∨
    start.catalog.seriesCount + (start.newcomers arriving).length ≤
      start.catalog.limit
  numbers : start.catalog.nextTsid.toNat +
    (start.newcomers arriving).length ≤ Tsid.last.toNat

theorem newcomers_of_begins (start : Store) {arriving : List LabelSet}
    (hbegins : seen <+: arriving) :
    start.newcomers seen <+: start.newcomers arriving :=
  eraseDups_prefix_eraseDups (hbegins.filter _)

/-- In another order, the same label sets are new. -/
theorem newcomers_perm (start : Store) {arriving : List LabelSet}
    (hperm : seen.Perm arriving) :
    (start.newcomers seen).Perm (start.newcomers arriving) :=
  perm_eraseDups (hperm.filter _)

theorem Accommodates.of_begins {arriving : List LabelSet}
    (hall : start.Accommodates arriving) (hbegins : seen <+: arriving) :
    start.Accommodates seen := by
  have hle := (newcomers_of_begins start hbegins).length_le
  have hroom := hall.room
  have hnumbers := hall.numbers
  exact ⟨by omega, by omega⟩

theorem Accommodates.of_perm {arriving : List LabelSet}
    (hall : start.Accommodates arriving) (hperm : seen.Perm arriving) :
    start.Accommodates seen := by
  have hsame := (newcomers_perm start hperm).length_eq
  exact ⟨hsame ▸ hall.room, hsame ▸ hall.numbers⟩

/-- Where there is room, a registration is accepted. -/
theorem Continues.exists_registration (hcontinues : start.Continues seen store)
    {labels : LabelSet} (hroom : start.Accommodates (seen ++ [labels]))
    (timestamp : Timestamp) :
    ∃ registration,
      (store.register timestamp labels).1 = .ok registration := by
  have hsettled := hcontinues.settled
  have hcount := hcontinues.seriesCount_eq
  have hnext := hcontinues.nextTsid_eq
  have hlimit : store.catalog.limit = start.catalog.limit :=
    congrArg Frame.limit hcontinues.frame_eq
  have hone (hunknown : labels ∉ store.registered) :
      (start.newcomers (seen ++ [labels])).length =
        (start.newcomers seen).length + 1 := by
    have hnone := mt hcontinues.exists_lookup?_iff.mpr
      (mt hsettled.mem_registered.mpr hunknown)
    rw [not_or, not_not] at hnone
    rw [newcomers_concat_of_new hnone.1 hnone.2, List.length_append]
    rfl
  have hplaces := hroom.room
  have hnumbers := hroom.numbers
  have hregisters := hsettled.registers timestamp labels
  generalize store.register timestamp labels = result at *
  cases hregisters with
  | known _ _ _ => exact ⟨_, rfl⟩
  | full hunknown hfull =>
      have hlength := hone hunknown
      exact absurd (show store.HasRoom by rw [HasRoom]; omega) hfull
  | exhausted hunknown _ hlast =>
      have hlength := hone hunknown
      rw [hlast] at hnext
      omega
  | new _ _ _ _ => exact ⟨_, rfl⟩

end SeriesIndex.Store
