import SeriesIndex.Toml.Scalar

/-!
# Tables

A document is a table, and tables hold named nodes.  How a table came to be
decides what may be added to it later: a header opens a table once, the parts of
a dotted key open tables that only dotted keys of the same table go on with, and
an inline table is closed.  Of an array of tables only the last one can still
grow, so only that one is kept.
-/

namespace SeriesIndex.Toml

/-- How a table came to be: by a header of its own, as part of the way of a
header, as part of a dotted key, or as an inline value. -/
inductive Origin where
  | header
  | way
  | dotted
  | inline
  deriving DecidableEq, Repr

/-- What stands under a name: a scalar or an array, a table, or an array of
tables of which the last is kept. -/
inductive Node where
  | value (scalar : Scalar)
  | table (origin : Origin) (entries : List (String × Node))
  | tables (last : List (String × Node))

abbrev Entries := List (String × Node)

namespace Entries

def get? (entries : Entries) (name : String) : Option Node :=
  entries.lookup name

def put (name : String) (node : Node) : Entries → Entries
  | [] => [(name, node)]
  | (other, old) :: rest =>
    if other = name then (name, node) :: rest
    else (other, old) :: put name node rest

def add (entries : Entries) (name : String) (node : Node) : Option Entries :=
  if (entries.get? name).isSome then none else some (entries.put name node)

/-- Puts a node under a dotted key.  Its parts open tables, or go on with tables
that no header opened; the table that takes the node must have been opened by a
dotted key. -/
def addDotted (entries : Entries) (node : Node) : List String → Option Entries
  | [] => none
  | [name] => entries.add name node
  | part :: rest =>
    match (entries.get? part).getD (.table .dotted []) with
    | .value _ => none
    | .table origin inner =>
      if origin = .dotted ∨ origin = .way ∧ rest.length ≠ 1 then
        (addDotted inner node rest).map fun inner =>
          entries.put part (.table origin inner)
      else none
    | .tables last =>
      if rest.length = 1 then none
      else (addDotted last node rest).map fun last =>
        entries.put part (.tables last)

/-- Changes the table at the end of a way of names.  Tables that are missing on
the way are opened, values and inline tables block it. -/
def within (entries : Entries) (change : Entries → Option Entries) :
    List String → Option Entries
  | [] => change entries
  | part :: rest =>
    match (entries.get? part).getD (.table .way []) with
    | .value _ | .table .inline _ => none
    | .table origin inner =>
      (within inner change rest).map fun inner =>
        entries.put part (.table origin inner)
    | .tables last =>
      (within last change rest).map fun last => entries.put part (.tables last)

/-- Opens the table of a header; it must be new, or have been opened on the way
of others. -/
def openTable (name : String) (entries : Entries) : Option Entries :=
  match entries.get? name with
  | none => some (entries.put name (.table .header []))
  | some (.table .way inner) => some (entries.put name (.table .header inner))
  | some _ => none

/-- Opens the next table of an array of tables. -/
def openElement (name : String) (entries : Entries) : Option Entries :=
  match entries.get? name with
  | none | some (.tables _) => some (entries.put name (.tables []))
  | some _ => none

/-- Follows a header: opens a table, or the next table of an array. -/
def follow (entries : Entries) (element : Bool) (way : List String) :
    Option Entries := do
  let name ← way.getLast?
  entries.within (if element then openElement name else openTable name)
    way.dropLast

end Entries

end SeriesIndex.Toml
