import SeriesIndex.Unicode.Property

/-!
# Blanks in patterns

In verbose mode a pattern may hold blanks and comments between its parts.  A
comment runs from a number sign to the end of the line.  The readers below work
on what is left of a pattern and return what is left after them.
-/

namespace SeriesIndex.Pattern

open Unicode

def isBlank (c : Char) : Bool :=
  Property.whiteSpace.contains c

/-- Drops blanks and comments; `inComment` says that a comment is open. -/
def skipVerbose (inComment : Bool) : List Char → List Char
  | [] => []
  | c :: rest =>
    if inComment then skipVerbose (c != '\n') rest
    else if isBlank c then skipVerbose false rest
    else if c == '#' then skipVerbose true rest
    else c :: rest

/-- Drops what may stand between two parts: nothing, unless the mode is
verbose. -/
def skip (verbose : Bool) (text : List Char) : List Char :=
  if verbose then skipVerbose false text else text

/-- Reads up to a closing brace, dropping what may be dropped on the way. -/
def untilBrace (verbose inComment : Bool) :
    List Char → Option (List Char × List Char)
  | [] => none
  | c :: rest =>
    if inComment then untilBrace verbose (c != '\n') rest
    else if verbose && isBlank c then untilBrace verbose false rest
    else if verbose && c == '#' then untilBrace verbose true rest
    else if c == '}' then some ([], rest)
    else (untilBrace verbose false rest).map fun (body, rest) =>
      (c :: body, rest)

/-- Reads decimal digits, dropping what may be dropped around them. -/
def digitRun (verbose inComment : Bool) : List Char → List Char × List Char
  | [] => ([], [])
  | c :: rest =>
    if inComment then digitRun verbose (c != '\n') rest
    else if verbose && isBlank c then digitRun verbose false rest
    else if verbose && c == '#' then digitRun verbose true rest
    else if c.isDigit then
      let (digits, rest) := digitRun verbose false rest
      (c :: digits, rest)
    else ([], c :: rest)

/-- The next character that is no blank, looking past the sign that opens a
comment but not past the comment. -/
def peek (verbose : Bool) (text : List Char) : Option Char :=
  if verbose then
    match text.dropWhile isBlank with
    | '#' :: rest => (rest.dropWhile isBlank).head?
    | rest => rest.head?
  else text.head?

end SeriesIndex.Pattern
