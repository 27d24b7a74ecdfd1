import Mathlib
import SeriesIndex.Proofs.Settings.Replacement
import SeriesIndex.Proofs.Toml.Lines
import SeriesIndex.Settings.File

/-!
# Settings come back from their file

Settings are written as a list of all their fields, and a file may list any of
them, in any order.  A listed field is what the file says, and every other one
is what it usually is.  The written form holds all fields, so it determines the
settings; it exists as long as every field is an integer of a document, and
otherwise nothing is written at all.
-/

namespace SeriesIndex.Settings

/-! ## Listings -/

theorem key_injective : Function.Injective Field.key := by
  intro left right hkey
  revert hkey
  cases left <;> cases right <;> decide

theorem isBare_key (field : Field) : Toml.IsBare field.key := by
  cases field <;> simp [Toml.IsBare, Field.key] <;> decide

/-- The names and numbers of a file that gives numbers to some fields. -/
def keyed (listing : List (Field × ℕ)) : List (String × ℕ) :=
  listing.map fun item => (item.1.key, item.2)

def listingText (listing : List (Field × ℕ)) : String :=
  String.join (listing.map fun item => s!"{item.1.key} = {item.2}\n")

/-- Settings are the usual ones but for the listed fields. -/
def Replaces (listing : List (Field × ℕ)) (settings : Settings) : Prop :=
  (∀ item ∈ listing, settings.get item.1 = item.2) ∧
    ∀ field ∉ listing.map Prod.fst,
      settings.get field = ({} : Settings).get field

theorem closes_newline (rest : List Char) : Toml.Closes ('\n' :: rest) rest :=
  ⟨[], [], _, rfl, by simp [Toml.IsBlanks], .inl rfl, .inl rfl⟩

theorem lists_listingText {listing : List (Field × ℕ)}
    (hnumbers : ∀ item ∈ listing, item.2 ≤ 2 ^ 63 - 1) :
    Toml.Lists (keyed listing) (listingText listing).toList := by
  have hblank : Toml.IsBlanks [' '] := by simp [Toml.IsBlanks, Toml.isBlank]
  induction listing with
  | nil => exact .nil
  | cons item rest ih =>
      obtain ⟨hnumber, hrest⟩ := List.forall_mem_cons.mp hnumbers
      have htext : (listingText (item :: rest)).toList =
          [] ++ (item.1.key.toList ++ ([' '] ++ '=' :: ([' '] ++
            (Nat.toDigits 10 item.2 ++
              '\n' :: (listingText rest).toList)))) := by
        simp [listingText, String.join_cons]
        rfl
      rw [htext]
      exact .entry (by simp [Toml.IsBlanks]) hblank hblank
        (isBare_key _) hnumber
        (closes_newline _) (ih hrest)

/-! ## Reading -/

theorem get?_integers (listing : List (Field × ℕ)) (field : Field) :
    (Toml.integers (keyed listing)).get? field.key =
      (listing.lookup field).map fun number => .value (.integer number) := by
  rw [Toml.Entries.get?, Toml.integers, keyed]
  induction listing with
  | nil => rfl
  | cons item rest ih =>
      rw [List.map_cons, List.map_cons, List.lookup_cons, List.lookup_cons, ih]
      by_cases hfield : field = item.1
      · simp [hfield]
      · have hkey : field.key ≠ item.1.key := key_injective.ne hfield
        rw [beq_false_of_ne hkey, beq_false_of_ne hfield]

theorem fieldOf?_integers (listing : List (Field × ℕ)) (field : Field) :
    fieldOf? (Toml.integers (keyed listing)) field =
      .ok (listing.lookup field) := by
  rw [fieldOf?, get?_integers]
  cases listing.lookup field with
  | none => rfl
  | some number => simp

theorem foldlM_readField {entries : Toml.Entries} {given : Field → Option ℕ}
    (hgiven : ∀ field, fieldOf? entries field = .ok (given field))
    (settings : Settings) (fields : List Field) :
    fields.foldlM (readField entries) settings =
      .ok (fields.foldl (replaceField given) settings) := by
  induction fields generalizing settings with
  | nil => rfl
  | cons field rest ih =>
      have hread : readField entries settings field =
          .ok (replaceField given settings field) := by
        rw [readField, hgiven, replaceField]
        cases given field <;> rfl
      rw [List.foldlM_cons, hread, List.foldl_cons]
      exact ih _

theorem lookup_eq_some_of_mem {listing : List (Field × ℕ)} {item : Field × ℕ}
    (hdistinct : (listing.map Prod.fst).Nodup) (hitem : item ∈ listing) :
    listing.lookup item.1 = some item.2 := by
  obtain ⟨before, after, rfl⟩ := List.append_of_mem hitem
  rw [List.map_append, List.map_cons, List.nodup_append] at hdistinct
  rw [List.lookup_eq_some_iff]
  refine ⟨before, after, rfl, fun other hother => ?_⟩
  have hne :=
    hdistinct.2.2 other.1 (List.mem_map_of_mem hother) item.1 (by simp)
  simpa using hne.symm

/-- A document that gives integers to some fields is read as settings with these
fields replaced. -/
theorem parse_integers {listing : List (Field × ℕ)} {text : String}
    (hdistinct : (listing.map Prod.fst).Nodup)
    (htext : Toml.Document.parse? text = some (Toml.integers (keyed listing))) :
    ∃ settings, parse text = .ok settings ∧ Replaces listing settings := by
  have hread := foldlM_readField (fieldOf?_integers listing) {} Field.all
  rw [parse, htext]
  refine ⟨_, hread, fun item hitem => ?_, fun field hfield => ?_⟩
  · rw [get_foldl_replaceField, if_pos (Field.mem_all item.1),
      lookup_eq_some_of_mem hdistinct hitem, Option.getD_some]
  · have hnone : listing.lookup field = none :=
      List.lookup_eq_none_iff.mpr fun item hitem => by
        have hne : field ≠ item.1 := fun heq =>
          hfield (heq ▸ List.mem_map_of_mem hitem)
        simpa using hne
    rw [get_foldl_replaceField, hnone, Option.getD_none, ite_self]

theorem fromUTF8?_toUTF8 (text : String) :
    String.fromUTF8? text.toUTF8 = some text :=
  dif_pos text.isValidUTF8

theorem ofFile_toUTF8 (text : String) :
    ofFile (some text.toUTF8) = parse text := by
  rw [ofFile, fromUTF8?_toUTF8]

/-- Where a text lists fields, or is read as the table of these, it gives the
usual settings with these fields replaced. -/
theorem ofFile_listing {listing : List (Field × ℕ)} {text : String}
    (hdistinct : (listing.map Prod.fst).Nodup)
    (htext : Toml.Lists (keyed listing) text.toList ∨
      Toml.Document.parse? text = some (Toml.integers (keyed listing))) :
    ∃ settings, ofFile (some text.toUTF8) = .ok settings ∧
      Replaces listing settings := by
  rw [ofFile_toUTF8]
  rcases htext with hlists | hparse
  · refine parse_integers hdistinct (hlists.parse?_eq ?_)
    have hkeys : (keyed listing).map Prod.fst =
        (listing.map Prod.fst).map Field.key := by
      simp [keyed]
    rw [hkeys]
    exact hdistinct.map key_injective
  · exact parse_integers hdistinct hparse

/-! ## Writing -/

def fields (settings : Settings) : List (Field × ℕ) :=
  Field.all.map fun field => (field, settings.get field)

theorem map_fst_fields (settings : Settings) :
    settings.fields.map Prod.fst = Field.all := by
  rw [fields, List.map_map]
  exact List.map_id _

theorem eq_of_replaces {settings loaded : Settings}
    (hloaded : Replaces settings.fields loaded) : loaded = settings :=
  ext_get fun field =>
    hloaded.1 (field, settings.get field)
      (List.mem_map_of_mem (Field.mem_all field))

theorem render_of_le {settings : Settings}
    (hfields : ∀ field, settings.get field ≤ 2 ^ 63 - 1) :
    settings.render = .ok (listingText settings.fields) := by
  have hall : (Field.all.all fun field => settings.get field ≤ integerMost) =
      true := by
    rw [List.all_eq_true]
    exact fun field _ => decide_eq_true (hfields field)
  rw [render, if_pos hall, listingText, fields, List.map_map]
  rfl

theorem render_of_lt {settings : Settings} {field : Field}
    (hfield : 2 ^ 63 - 1 < settings.get field) :
    settings.render = .error .numberTooGreat := by
  rw [render, if_neg]
  intro hall
  have hle :=
    of_decide_eq_true (List.all_eq_true.mp hall field (Field.mem_all field))
  exact absurd hfield (Nat.not_lt.mpr hle)

theorem saveAt_of_le {settings : Settings} {place : Place}
    (hfields : ∀ field, settings.get field ≤ 2 ^ 63 - 1)
    (hplace : place.directoryExists = true) :
    settings.saveAt place = (.ok (),
      { place with content := some (listingText settings.fields).toUTF8 }) := by
  rw [saveAt, save, render_of_le hfields, hplace]
  rfl

/-- Settings without a written form leave the place alone, and it makes no
difference whether the file could have been written. -/
theorem saveAt_of_lt {settings : Settings} {field : Field} (place : Place)
    (hfield : 2 ^ 63 - 1 < settings.get field) :
    settings.saveAt place = (.error (.form .numberTooGreat), place) := by
  rw [saveAt, save, render_of_lt hfield]

/-- Settings can be saved where there is a directory exactly if all their fields
are integers of a document; then the file gives these settings back, and
otherwise they have no written form, and the file is what it was, whether or not
it could have been written.

A file in which fields are listed with integers, in any order and layout, or
which is read as a document with these fields and integers only, gives the usual
settings with these fields replaced; and every choice of fields and integers is
listed in some file. -/
theorem files_round_trip :
    (∀ (settings : Settings) (place : Place),
      (place.directoryExists = true →
        ((settings.saveAt place).1 = .ok () ↔
          ∀ field, settings.get field ≤ 2 ^ 63 - 1) ∧
        ((settings.saveAt place).1 = .ok () →
          ofFile (settings.saveAt place).2.content = .ok settings)) ∧
      ((∃ field, 2 ^ 63 - 1 < settings.get field) →
        settings.saveAt place = (.error (.form .numberTooGreat), place))) ∧
    ∀ listing : List (Field × ℕ), (listing.map Prod.fst).Nodup →
      ((∀ item ∈ listing, item.2 ≤ 2 ^ 63 - 1) →
        Toml.Lists (keyed listing) (listingText listing).toList) ∧
      ∀ text : String,
        (Toml.Lists (keyed listing) text.toList ∨
          Toml.Document.parse? text = some (Toml.integers (keyed listing))) →
        ∃ settings, ofFile (some text.toUTF8) = .ok settings ∧
          Replaces listing settings := by
  refine ⟨fun settings place => ⟨fun hplace => ?_, ?_⟩,
    fun listing hdistinct => ⟨lists_listingText, fun text =>
      ofFile_listing hdistinct⟩⟩
  · by_cases hfields : ∀ field, settings.get field ≤ 2 ^ 63 - 1
    · rw [saveAt_of_le hfields hplace]
      have hdistinct : (settings.fields.map Prod.fst).Nodup := by
        rw [map_fst_fields]
        decide
      have hnumbers : ∀ item ∈ settings.fields, item.2 ≤ 2 ^ 63 - 1 := by
        intro item hitem
        obtain ⟨field, -, rfl⟩ := List.mem_map.mp hitem
        exact hfields field
      obtain ⟨loaded, hloaded, hreplaces⟩ :=
        ofFile_listing hdistinct (.inl (lists_listingText hnumbers))
      rw [eq_of_replaces hreplaces] at hloaded
      exact ⟨iff_of_true rfl hfields, fun _ => hloaded⟩
    · obtain ⟨field, hfield⟩ := not_forall.mp hfields
      rw [saveAt_of_lt place (Nat.lt_of_not_le hfield)]
      exact ⟨iff_of_false nofun hfields, nofun⟩
  · rintro ⟨field, hfield⟩
    exact saveAt_of_lt place hfield

end SeriesIndex.Settings
