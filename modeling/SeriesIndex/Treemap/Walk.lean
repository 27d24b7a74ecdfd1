/-!
# Ascending lists, combined by keys

Buckets stand in a list with ascending keys, and so do the numbers of a small
container.  A combination of two such lists goes through both in step.  Done in
place, it looks up each key of one list in the other instead.
-/

namespace SeriesIndex

/-- The ways in which two sets make a third one. -/
inductive Combination where
  | inter
  | union
  | diff
  deriving DecidableEq

namespace Combination

/-- Whether what only the first set has stays. -/
def keepsFirst : Combination → Bool
  | inter => false
  | union => true
  | diff => true

/-- Whether what only the second set has stays. -/
def keepsSecond : Combination → Bool
  | inter => false
  | union => true
  | diff => false

/-- Whether what both sets have stays. -/
def keepsBoth : Combination → Bool
  | inter => true
  | union => true
  | diff => false

end Combination

namespace Walk

variable {ε κ : Type} [LT κ] [DecidableLT κ] [DecidableEq κ]
variable (key : ε → κ) (how : Combination) (both : ε → ε → Option ε)

/-- What becomes of the entries that the two lists have for one key. -/
def made : Option ε → Option ε → Option ε
  | some entry, some other => both entry other
  | some entry, none => if how.keepsFirst then some entry else none
  | none, some other => if how.keepsSecond then some other else none
  | none, none => none

/-- Goes through two lists in step, always by the lesser key. -/
@[specialize]
def inStep : List ε → List ε → List ε
  | [], others => others.filterMap fun other => made how both none (some other)
  | entries, [] =>
    entries.filterMap fun entry => made how both (some entry) none
  | entry :: entries, other :: others =>
    if key entry < key other then
      (made how both (some entry) none).toList ++
        inStep entries (other :: others)
    else if key other < key entry then
      (made how both none (some other)).toList ++
        inStep (entry :: entries) others
    else (made how both (some entry) (some other)).toList ++
      inStep entries others
termination_by entries others => entries.length + others.length

/-- The entry with a key. -/
@[specialize]
def under? (wanted : κ) (entries : List ε) : Option ε :=
  entries.find? fun entry => key entry == wanted

/-- Puts an entry where its key belongs, instead of one that has this key. -/
@[specialize]
def put (entry : ε) : List ε → List ε
  | [] => [entry]
  | other :: others =>
    if key entry < key other then entry :: other :: others
    else if key other < key entry then other :: put entry others
    else entry :: others

/-- Goes through the first list and looks up each key in the second one. -/
@[specialize]
def retain (entries others : List ε) : List ε :=
  entries.filterMap fun entry =>
    made how both (some entry) (under? key (key entry) others)

/-- Puts the entries of the second list into the first one. -/
@[specialize]
def absorb (entries others : List ε) : List ε :=
  others.foldl (fun entries other =>
    match made how both (under? key (key other) entries) (some other) with
    | some entry => put key entry entries
    | none => entries) entries

/-- Combines the second list into the first one. -/
@[specialize]
def inPlace (entries others : List ε) : List ε :=
  if how.keepsSecond then absorb key how both entries others
  else retain key how both entries others

end Walk

end SeriesIndex
