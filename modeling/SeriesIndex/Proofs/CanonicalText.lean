import Mathlib
import SeriesIndex.Label
import SeriesIndex.Matcher
import SeriesIndex.Proofs.LabelPairs
import SeriesIndex.Proofs.Text.Quoted

/-!
# What a label set and a matcher show of themselves

Values are shown between quotes and are read back, but names are shown as they
are.  A name that holds what stands between the name and the value of a label,
or between two labels, is shown like these, so that a text may be that of
several label sets.  If no name holds an equals sign with a double quote after
it, labels are told apart from the left: the first such pair ends the name.  If
no name holds a double quote, a comma and a blank, they are told apart from the
right: the value is found from its closing quote, and the last such triple
stands before the name.  A matcher ends in a value as well, and of the signs
before it only the exclamation mark can be taken for the end of a name.
-/

namespace SeriesIndex

/-! ## Marks -/

namespace Text

/-- Nothing but the whole mark is found at both of its ends. -/
def Unbordered (mark : List Char) : Prop :=
  ∀ part ∈ mark.tails, part <+: mark → part = [] ∨ part = mark

instance (mark : List Char) : Decidable (Unbordered mark) :=
  inferInstanceAs (Decidable (∀ part ∈ mark.tails, _))

variable {mark head other rest tail : List Char}

/-- A mark that starts after an unbordered one starts behind it. -/
theorem Unbordered.eq_nil_or_infix (hmark : Unbordered mark)
    (hsame : mark ++ rest = other ++ (mark ++ tail)) :
    other = [] ∨ mark <:+: other ∧ mark <:+: rest := by
  rcases List.append_eq_append_iff.mp hsame with
    ⟨inner, hother, hrest⟩ | ⟨part, hsplit, hpart⟩
  · exact .inr ⟨hother ▸ List.infix_append [] mark inner,
      hrest ▸ List.infix_append' inner mark tail⟩
  · -- The second mark starts within the first, and the two share `part`.
    have hsuffix : part <:+ mark := ⟨other, hsplit.symm⟩
    have hprefix : part <+: mark :=
      List.prefix_of_prefix_length_le ⟨rest, hpart.symm⟩
        (List.prefix_append mark tail) hsuffix.length_le
    rcases hmark part ((List.mem_tails part mark).mpr hsuffix) hprefix with
      rfl | rfl
    · rw [List.append_nil] at hsplit
      rw [List.nil_append] at hpart
      exact .inr ⟨hsplit ▸ List.infix_rfl,
        hpart ▸ (List.prefix_append mark tail).isInfix⟩
    · exact .inl (List.self_eq_append_left.mp hsplit)

/-- If a text is cut in two ways around an unbordered mark, the mark is also
before one of the cuts and behind one of them. -/
theorem Unbordered.apart (hmark : Unbordered mark)
    (hsame : head ++ (mark ++ rest) = other ++ (mark ++ tail)) :
    (head = other ∧ rest = tail) ∨
      (mark <:+: head ∨ mark <:+: other) ∧
        (mark <:+: rest ∨ mark <:+: tail) := by
  rcases List.append_eq_append_iff.mp hsame with
    ⟨middle, rfl, hmiddle⟩ | ⟨middle, rfl, hmiddle⟩
  · rcases hmark.eq_nil_or_infix hmiddle with rfl | ⟨hinner, hrest⟩
    · exact .inl ⟨(List.append_nil head).symm,
        List.append_cancel_left hmiddle⟩
    · exact .inr ⟨.inr (hinner.trans (List.suffix_append head _).isInfix),
        .inl hrest⟩
  · rcases hmark.eq_nil_or_infix hmiddle with rfl | ⟨hinner, htail⟩
    · exact .inl ⟨List.append_nil other,
        (List.append_cancel_left hmiddle).symm⟩
    · exact .inr ⟨.inl (hinner.trans (List.suffix_append other _).isInfix),
        .inr htail⟩

end Text

/-! ## Labels -/

namespace Label

def separator : List Char := [',', ' ']

def opening : List Char := ['=', '\"']

def closing : List Char := ['\"', ',', ' ']

theorem unbordered_opening : Text.Unbordered opening := by
  decide

theorem unbordered_closing : Text.Unbordered closing := by
  decide

/-- The labels as they are shown behind another one. -/
def listing (labels : List Label) : List Char :=
  labels.flatMap fun label => separator ++ label.text.toList

theorem eq_of_fields {first second : Label}
    (hname : first.name.toList = second.name.toList)
    (hvalue : first.value = second.value) : first = second := by
  cases first
  cases second
  simp_all [String.toList_inj]

theorem toList_text (label : Label) :
    label.text.toList =
      label.name.toList ++ '=' :: (Text.Quoted.encode label.value).toList := by
  simp [text]

theorem listing_nil : listing [] = [] := rfl

theorem listing_cons (label : Label) (labels : List Label) :
    listing (label :: labels) =
      separator ++ (label.text.toList ++ listing labels) := by
  simp [listing]

theorem listing_append (front back : List Label) :
    listing (front ++ back) = listing front ++ listing back :=
  List.flatMap_append

theorem listing_concat (labels : List Label) (label : Label) :
    listing (labels ++ [label]) =
      listing labels ++ (separator ++ label.text.toList) := by
  simp [listing]

theorem listing_eq_nil_iff {labels : List Label} :
    listing labels = [] ↔ labels = [] := by
  cases labels <;> simp [listing_nil, listing_cons, separator]

/-- With a double quote before it, a listing ends in one: that of the last
value, if there are labels at all. -/
theorem exists_listing_eq (labels : List Label) :
    ∃ head, '\"' :: listing labels = head ++ ['\"'] := by
  rcases labels.eq_nil_or_concat with rfl | ⟨init, last, rfl⟩
  · exact ⟨[], rfl⟩
  · rw [List.concat_eq_append, listing_concat, toList_text,
      Text.Quoted.toList_encode]
    simp only [← List.cons_append, ← List.append_assoc]
    exact ⟨_, rfl⟩

/-- No name of the labels holds the mark. -/
def Avoid (mark : List Char) (labels : List Label) : Prop :=
  ∀ label ∈ labels, ¬ mark <:+: label.name.toList

instance (mark : List Char) (labels : List Label) :
    Decidable (Avoid mark labels) :=
  inferInstanceAs (Decidable (∀ label ∈ labels, _))

/-- If no name holds what opens a value, labels are read from the left. -/
theorem listing_inj_of_opening {left right : List Label}
    (hleft : Avoid opening left) (hright : Avoid opening right)
    (hsame : listing left = listing right) : left = right := by
  induction left generalizing right with
  | nil => exact (listing_eq_nil_iff.mp hsame.symm).symm
  | cons first left ih =>
      cases right with
      | nil => exact listing_eq_nil_iff.mp hsame
      | cons other right =>
          obtain ⟨hfirst, hleft⟩ := List.forall_mem_cons.mp hleft
          obtain ⟨hother, hright⟩ := List.forall_mem_cons.mp hright
          rw [listing_cons, listing_cons, toList_text, toList_text,
            Text.Quoted.toList_encode, Text.Quoted.toList_encode] at hsame
          have hnames := List.append_cancel_left hsame
          simp only [List.append_assoc, List.cons_append,
            List.nil_append] at hnames
          rcases unbordered_opening.apart hnames with
            ⟨hname, hrest⟩ | ⟨hname | hname, -⟩
          · obtain ⟨hvalue, hrest⟩ :=
              Text.Quoted.flatMap_encodeChar_inj hrest
            rw [eq_of_fields hname (String.toList_inj.mp hvalue),
              ih hleft hright hrest]
          · exact absurd hname hfirst
          · exact absurd hname hother

/-- If no name holds what closes a value, labels are read from the right. -/
theorem listing_inj_of_closing {left right : List Label}
    (hleft : Avoid closing left) (hright : Avoid closing right)
    (hsame : listing left = listing right) : left = right := by
  induction left using List.reverseRecOn generalizing right with
  | nil => exact (listing_eq_nil_iff.mp hsame.symm).symm
  | append_singleton left last ih =>
      rcases right.eq_nil_or_concat with rfl | ⟨right, other, rfl⟩
      · exact listing_eq_nil_iff.mp hsame
      · rw [List.concat_eq_append] at hright hsame ⊢
        obtain ⟨hleft, hlast⟩ := List.forall_mem_append.mp hleft
        obtain ⟨hright, hother⟩ := List.forall_mem_append.mp hright
        rw [listing_concat, listing_concat, toList_text, toList_text] at hsame
        simp only [← List.append_assoc] at hsame
        obtain ⟨hnames, -, hvalue⟩ :=
          Text.Quoted.append_encode_inj (by decide) (by decide) hsame
        -- With a double quote before it, each name has the mark before it,
        -- the first one included.
        obtain ⟨head, hhead⟩ := exists_listing_eq left
        obtain ⟨tail, htail⟩ := exists_listing_eq right
        have hcuts : head ++ (closing ++ last.name.toList) =
            tail ++ (closing ++ other.name.toList) :=
          calc
            head ++ (closing ++ last.name.toList) =
                '\"' :: listing left ++ separator ++ last.name.toList := by
              rw [hhead]
              simp [closing, separator]
            _ = '\"' :: listing right ++ separator ++ other.name.toList :=
              congrArg ('\"' :: ·) hnames
            _ = tail ++ (closing ++ other.name.toList) := by
              rw [htail]
              simp [closing, separator]
        rcases unbordered_closing.apart hcuts with
          ⟨hheads, hname⟩ | ⟨-, hname | hname⟩
        · have hlisting : '\"' :: listing left = '\"' :: listing right := by
            rw [hhead, htail, hheads]
          rw [eq_of_fields hname hvalue,
            ih hleft hright (List.cons.inj hlisting).2]
        · exact absurd hname (hlast last (List.mem_singleton_self last))
        · exact absurd hname (hother other (List.mem_singleton_self other))

/-- Two labels as one, whose name holds all that is shown before the value of
the second. -/
def merge (first second : Label) : Label where
  name := first.text ++ ", " ++ second.name
  value := second.value

/-- Two labels merged into one are listed as before. -/
theorem listing_merge (first second : Label) :
    listing [first.merge second] = listing [first, second] := by
  simp [listing, merge, text, separator]

theorem toList_lt_append_cons (head tail : List Char) (c : Char) :
    head < head ++ c :: tail := by
  induction head with
  | nil => exact List.nil_lt_cons c tail
  | cons first rest ih => exact List.cons_lt_cons_iff.mpr (.inr ⟨rfl, ih⟩)

theorem name_lt_merge (first second : Label) :
    first.name < (first.merge second).name := by
  rw [String.lt_iff_toList_lt, merge, String.toList_append,
    String.toList_append, toList_text, List.append_assoc, List.append_assoc]
  exact toList_lt_append_cons _ _ _

theorem exists_eq_append_pair {labels : List Label}
    (hmany : 2 ≤ labels.length) :
    ∃ front first last, labels = front ++ [first, last] := by
  rcases labels.eq_nil_or_concat with rfl | ⟨front, last, rfl⟩
  · contradiction
  · rcases front.eq_nil_or_concat with rfl | ⟨front, first, rfl⟩
    · contradiction
    · exact ⟨front, first, last, by simp⟩

theorem intercalate_eq_empty_iff {labels : List Label} :
    ", ".intercalate (labels.map text) = "" ↔ labels = [] := by
  cases labels with
  | nil => simp
  | cons first rest => cases rest <;> simp [text]

theorem listing_of_ne_nil {labels : List Label} (hlabels : labels ≠ []) :
    listing labels =
      separator ++ (", ".intercalate (labels.map text)).toList := by
  induction labels with
  | nil => exact absurd rfl hlabels
  | cons first rest ih =>
      cases rest with
      | nil => simp [listing]
      | cons next rest =>
          rw [listing_cons, ih (List.cons_ne_nil _ _)]
          simp [separator]

/-- Labels are joined alike exactly if they are listed alike. -/
theorem intercalate_eq_iff {left right : List Label} :
    ", ".intercalate (left.map text) = ", ".intercalate (right.map text) ↔
      listing left = listing right := by
  rcases eq_or_ne left [] with rfl | hleft
  · rw [List.map_nil, String.intercalate_nil, eq_comm,
      intercalate_eq_empty_iff, listing_nil, @eq_comm _ [], listing_eq_nil_iff]
  · rcases eq_or_ne right [] with rfl | hright
    · rw [List.map_nil, String.intercalate_nil, intercalate_eq_empty_iff,
        listing_nil, listing_eq_nil_iff]
    · rw [listing_of_ne_nil hleft, listing_of_ne_nil hright,
        List.append_right_inj, String.toList_inj]

end Label

namespace LabelSet

/-- Label sets are shown alike exactly if their labels are listed alike. -/
theorem text_eq_iff {a b : LabelSet} :
    a.text = b.text ↔ Label.listing a.labels = Label.listing b.labels := by
  rw [text, text, String.append_left_inj, String.append_right_inj,
    Label.intercalate_eq_iff]

/-- Label sets are told apart by their texts if no name of theirs holds what
opens a value, and if none holds what closes one. -/
theorem eq_of_text_eq {a b : LabelSet}
    (hnames : (Label.Avoid Label.opening a.labels ∧
        Label.Avoid Label.opening b.labels) ∨
      (Label.Avoid Label.closing a.labels ∧
        Label.Avoid Label.closing b.labels))
    (htext : a.text = b.text) : a = b := by
  have hlisting := text_eq_iff.mp htext
  rcases hnames with ⟨ha, hb⟩ | ⟨ha, hb⟩
  · exact ext (Label.listing_inj_of_opening ha hb hlisting)
  · exact ext (Label.listing_inj_of_closing ha hb hlisting)

/-- The text of a label set that holds two labels or more is also that of
another label set, with the last two labels merged into one. -/
theorem exists_text_eq {a : LabelSet} (hsize : 2 ≤ a.size) :
    ∃ b : LabelSet, b ≠ a ∧ b.text = a.text := by
  obtain ⟨front, first, last, hlabels⟩ := Label.exists_eq_append_pair hsize
  have hascending := a.ascending
  rw [hlabels] at hascending
  obtain ⟨hfront, -, hacross⟩ := List.pairwise_append.mp hascending
  have hmerged : (front ++ [first.merge last]).Pairwise
      fun a b => a.name < b.name := by
    refine List.pairwise_append.mpr ⟨hfront, List.pairwise_singleton _ _, ?_⟩
    intro label hlabel other hother
    rw [List.mem_singleton.mp hother]
    exact String.lt_trans (hacross label hlabel first List.mem_cons_self)
      (first.name_lt_merge last)
  have hnamed : ∀ label ∈ front ++ [first.merge last], label.name ≠ "" := by
    intro label hlabel
    rcases List.mem_append.mp hlabel with hlabel | hlabel
    · exact a.named label (hlabels ▸ List.mem_append_left _ hlabel)
    · rw [List.mem_singleton.mp hlabel]
      simp [Label.merge]
  refine ⟨⟨_, hmerged, hnamed⟩, fun hsame => ?_, text_eq_iff.mpr ?_⟩
  · have hlength := congrArg size hsame
    rw [size, size, hlabels] at hlength
    simp at hlength
  · rw [hlabels, Label.listing_append, Label.listing_append,
      Label.listing_merge]

end LabelSet

/-! ## Matchers -/

namespace MatchOp

def sign : MatchOp → Char
  | equal | notEqual => '='
  | regex | notRegex => '~'

def stem : MatchOp → List Char
  | equal => []
  | notEqual | notRegex => ['!']
  | regex => ['=']

theorem toList_symbol (op : MatchOp) :
    op.symbol.toList = op.stem ++ [op.sign] := by
  cases op <;> rfl

theorem sign_ne (op : MatchOp) : op.sign ≠ '\\' := by
  cases op <;> decide

/-- Where one name ends and the operator begins is plain from the signs, but for
an exclamation mark in front of an equals sign. -/
theorem append_stem_cases {left right : MatchOp} {name other : List Char}
    (hstem : name ++ left.stem = other ++ right.stem)
    (hsign : left.sign = right.sign) :
    (left = right ∧ name = other) ∨
      (left = .equal ∧ right = .notEqual ∧ name = other ++ ['!']) ∨
        (right = .equal ∧ left = .notEqual ∧ other = name ++ ['!']) := by
  cases left <;> cases right <;> simp_all [sign, stem]

end MatchOp

namespace Matcher

/-- The name of a matcher for equality ends in the exclamation mark that another
one, for inequality, has in its operator. -/
structure Blurs (left right : Matcher) : Prop where
  left_op : left.op = .equal
  right_op : right.op = .notEqual
  name_eq : left.name = right.name ++ "!"
  value_eq : left.value = right.value

theorem toList_text (matcher : Matcher) :
    matcher.text.toList =
      (matcher.name.toList ++ matcher.op.stem) ++
        matcher.op.sign :: (Text.Quoted.encode matcher.value).toList := by
  simp [text, MatchOp.toList_symbol]

/-- Matchers that blur have one text. -/
theorem Blurs.text_eq {left right : Matcher} (hblurs : left.Blurs right) :
    left.text = right.text := by
  have hsymbol : MatchOp.notEqual.symbol = "!" ++ MatchOp.equal.symbol := rfl
  rw [text, text, hblurs.left_op, hblurs.right_op, hblurs.name_eq,
    hblurs.value_eq, hsymbol, ← String.append_assoc]

/-- Matchers are shown alike only if they are equal, or if an exclamation mark
is taken for the end of a name. -/
theorem text_eq_iff {left right : Matcher} :
    left.text = right.text ↔
      left = right ∨ left.Blurs right ∨ right.Blurs left := by
  constructor
  · intro htext
    have hsigns := congrArg String.toList htext
    rw [toList_text, toList_text] at hsigns
    obtain ⟨hstem, hsign, hvalue⟩ :=
      Text.Quoted.append_encode_inj left.op.sign_ne right.op.sign_ne hsigns
    rcases MatchOp.append_stem_cases hstem hsign with
      ⟨hop, hname⟩ | ⟨hleft, hright, hname⟩ | ⟨hright, hleft, hname⟩
    · exact .inl (ext hop (String.toList_inj.mp hname) hvalue)
    · exact .inr (.inl
        ⟨hleft, hright, String.toList_inj.mp (by simp [hname]), hvalue⟩)
    · exact .inr (.inr
        ⟨hright, hleft, String.toList_inj.mp (by simp [hname]), hvalue.symm⟩)
  · rintro (rfl | hblurs | hblurs)
    · rfl
    · exact hblurs.text_eq
    · exact hblurs.text_eq.symm

end Matcher

/-! ## What a text identifies -/

/-- A text is that of one label set only, if the names of the label sets hold
nothing that opens a value, or nothing that closes one, and of one matcher only,
unless an exclamation mark is taken for the end of a name. -/
theorem texts_identify :
    (∀ a b : LabelSet,
      (Label.Avoid Label.opening a.labels ∧
          Label.Avoid Label.opening b.labels) ∨
        (Label.Avoid Label.closing a.labels ∧
          Label.Avoid Label.closing b.labels) →
      a.text = b.text → a = b) ∧
    ∀ left right : Matcher, left.text = right.text ↔
      left = right ∨ left.Blurs right ∨ right.Blurs left :=
  ⟨fun _ _ => LabelSet.eq_of_text_eq, fun _ _ => Matcher.text_eq_iff⟩

/-- Labels are shown alike in whatever order they come, with signs that open and
close a value in their values, and an exclamation mark at the end of a name is
no more than that if the operators are the same. -/
theorem texts_identify_values :
    (∃ a b : LabelSet,
      LabelSet.ofPairs [("b", "="), ("a", "\", b=\"")] = .ok a ∧
      LabelSet.ofPairs [("a", "\", b=\""), ("b", "=")] = .ok b ∧
      a.text = b.text ∧ a = b) ∧
    ∃ left right : Matcher,
      Matcher.build {} .equal "a!" "v" = .ok left ∧
      Matcher.build {} .equal "a" "!v" = .ok right ∧
      left.text ≠ right.text := by
  constructor
  · let set : LabelSet :=
      ⟨[⟨"a", "\", b=\""⟩, ⟨"b", "="⟩], by decide, by decide⟩
    have hset : LabelSet.ofPairs [("a", "\", b=\""), ("b", "=")] = .ok set :=
      LabelSet.ofLabels_labels set
    have hopening : Label.Avoid Label.opening set.labels := by
      decide +kernel
    refine ⟨set, set, ?_, hset, rfl, ?_⟩
    · exact (LabelSet.ofPairs_eq_of_perm (.swap _ _ [])).trans hset
    · exact texts_identify.1 set set (.inl ⟨hopening, hopening⟩) rfl
  · refine ⟨_, _, rfl, rfl, fun hsame => ?_⟩
    rcases (texts_identify.2 _ _).mp hsame with heq | hblurs | hblurs
    · exact absurd (congrArg Matcher.name heq) (by decide)
    · exact absurd hblurs.right_op (by decide)
    · exact absurd hblurs.right_op (by decide)

/-- The text of two labels is also that of one label, and the text of a matcher
for inequality is also that of a matcher for equality. -/
theorem texts_shared :
    (∃ a b : LabelSet,
      LabelSet.ofLabels [⟨"a", "1"⟩, ⟨"b", "2"⟩] = .ok a ∧
      LabelSet.ofLabels [⟨"a=\"1\", b", "2"⟩] = .ok b ∧
      a.text = b.text ∧ a ≠ b) ∧
    ∃ left right : Matcher,
      Matcher.build {} .equal "a!" "v" = .ok left ∧
      Matcher.build {} .notEqual "a" "v" = .ok right ∧
      left.text = right.text ∧ left ≠ right := by
  refine ⟨⟨⟨[⟨"a", "1"⟩, ⟨"b", "2"⟩], by decide, by decide⟩,
    ⟨[⟨"a=\"1\", b", "2"⟩], by decide, by decide⟩, ?_, ?_, ?_, ?_⟩, ?_⟩
  · exact LabelSet.ofLabels_labels ⟨_, _, _⟩
  · exact LabelSet.ofLabels_labels ⟨_, _, _⟩
  · decide +kernel
  · decide
  · exact ⟨_, _, rfl, rfl, by decide +kernel, by decide⟩

end SeriesIndex
