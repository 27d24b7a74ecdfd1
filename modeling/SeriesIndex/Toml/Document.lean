import SeriesIndex.Toml.Table

/-!
# Documents

A document is read line by line.  A line holds a header, which says to what
table the lines after it belong, or a key with a value.  Values may go over
several lines: an array does between its brackets, an inline table does not.
-/

namespace SeriesIndex.Toml

mutual

/-- Reads a value.  `depth` is how deeply arrays and inline tables may still be
nested.  Every two steps take at least one character. -/
def value (depth : Nat) : Nat → List Char → Option (Node × List Char)
  | 0, _ => none
  | steps + 1, text =>
    match text, depth with
    | '\"' :: _, _ | '\'' :: _, _ => (Quoted.skip? text).map (.value .other, ·)
    | '[' :: _, 0 | '{' :: _, 0 => none
    | '[' :: rest, depth + 1 => (items depth steps rest).map (.value .other, ·)
    | '{' :: rest, depth + 1 =>
      match skipBlanks rest with
      | '}' :: rest => some (.table .inline [], rest)
      | rest => (pairs depth steps [] rest).map fun (entries, rest) =>
        (.table .inline entries, rest)
    | _, _ => (Scalar.read text).map fun (scalar, rest) => (.value scalar, rest)

/-- Passes over the items of an array up to its closing bracket.  A comma may
stand after the last one. -/
def items (depth : Nat) : Nat → List Char → Option (List Char)
  | 0, _ => none
  | steps + 1, text =>
    match skipLines false text with
    | ']' :: rest => some rest
    | text =>
      match value depth steps text with
      | none => none
      | some (_, rest) =>
        match skipLines false rest with
        | ']' :: rest => some rest
        | ',' :: rest => items depth steps rest
        | _ => none

/-- Reads the pairs of an inline table up to its closing brace, and adds them to
those before. -/
def pairs (depth : Nat) :
    Nat → Entries → List Char → Option (Entries × List Char)
  | 0, _, _ => none
  | steps + 1, entries, text =>
    match key text with
    | some (parts, '=' :: rest) =>
      match value depth steps (skipBlanks rest) with
      | none => none
      | some (node, rest) =>
        match entries.addDotted node parts, skipBlanks rest with
        | some entries, '}' :: rest => some (entries, rest)
        | some entries, ',' :: rest => pairs depth steps entries rest
        | _, _ => none
    | _ => none

end

/-- A document as far as it was read: its table, and the way to the table that
the next lines belong to. -/
structure Document where
  root : Entries := []
  way : List String := []

namespace Document

def header (document : Document) (element : Bool) (text : List Char) :
    Option (Document × List Char) := do
  let (way, rest) ← key text
  let rest ←
    match element, rest with
    | true, ']' :: ']' :: rest | false, ']' :: rest => lineEnd? rest
    | _, _ => none
  return ({ root := ← document.root.follow element way, way }, rest)

def pair (document : Document) (text : List Char) :
    Option (Document × List Char) := do
  let (parts, rest) ← key text
  match rest with
  | '=' :: rest =>
    let (node, rest) ←
      value (depthBound - 1) (2 * rest.length + 2) (skipBlanks rest)
    let rest ← lineEnd? rest
    let root ←
      document.root.within
        (fun entries => entries.addDotted node parts) document.way
    return ({ document with root }, rest)
  | _ => none

/-- Reads the lines of a text one after another.  Every line takes at least one
character, so the length of the text is steps enough. -/
def lines : Nat → Document → List Char → Option Document
  | 0, _, _ => none
  | steps + 1, document, text =>
    match skipBlanks text with
    | [] => some document
    | '[' :: '[' :: rest =>
      (document.header true rest).bind fun (document, rest) =>
        lines steps document rest
    | '[' :: rest =>
      (document.header false rest).bind fun (document, rest) =>
        lines steps document rest
    | '#' :: rest => (lineEnd? ('#' :: rest)).bind (lines steps document)
    | '\n' :: rest | '\r' :: '\n' :: rest => lines steps document rest
    | text =>
      (document.pair text).bind fun (document, rest) =>
        lines steps document rest

/-- The entries of a document, if it is well formed.  A byte order mark may come
first. -/
def parse? (text : String) : Option Entries :=
  let text :=
    match text.toList with
    | '\ufeff' :: rest => rest
    | text => text
  (lines (text.length + 1) {} text).map root

end Document

end SeriesIndex.Toml
