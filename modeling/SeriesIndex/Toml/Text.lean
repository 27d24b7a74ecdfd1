import SeriesIndex.Text.Hexadecimal

/-!
# Lines, strings and keys

The smallest parts of a TOML document.  Each reader works on what is left of the
text and returns what is left after it, or nothing if the text is malformed
there.
-/

namespace SeriesIndex.Toml

def isBlank (c : Char) : Bool := c == ' ' || c == '\t'

def skipBlanks (text : List Char) : List Char := text.dropWhile isBlank

/-- Characters that may stand in a comment: all but the control characters of
ASCII, of which only the tab is allowed. -/
def isCommentChar (c : Char) : Bool :=
  c == '\t' || (0x20 ≤ c.toNat && c.toNat != 0x7F)

def skipComment : List Char → List Char
  | '#' :: rest => rest.dropWhile isCommentChar
  | text => text

/-- Reads a line end, with or without a carriage return. -/
def newline? : List Char → Option (List Char)
  | '\n' :: rest | '\r' :: '\n' :: rest => some rest
  | _ => none

/-- Reads what may follow at the end of a line: blanks, a comment, and a line
end or the end of the text. -/
def lineEnd? (text : List Char) : Option (List Char) :=
  match skipComment (skipBlanks text) with
  | [] => some []
  | rest => newline? rest

/-- Drops blanks, line ends and comments; `inComment` says that a comment is
open. -/
def skipLines (inComment : Bool) : List Char → List Char
  | [] => []
  | '\r' :: '\n' :: rest => skipLines false rest
  | c :: rest =>
    if inComment && isCommentChar c then skipLines true rest
    else if c == '#' then skipLines true rest
    else if isBlank c || c == '\n' then skipLines false rest
    else c :: rest

namespace Quoted

/-- Characters that stand for themselves between double quotes. -/
def isBasicChar (c : Char) : Bool :=
  isCommentChar c && c != '\"' && c != '\\'

/-- Characters that stand for themselves between single quotes. -/
def isLiteralChar (c : Char) : Bool :=
  isCommentChar c && c != '\''

def escaped? : Char → Option Char
  | 'b' => some '\x08'
  | 'f' => some '\x0c'
  | 'n' => some '\n'
  | 'r' => some '\r'
  | 't' => some '\t'
  | '\"' => some '\"'
  | '\\' => some '\\'
  | _ => none

def basic : List Char → Option (List Char × List Char)
  | [] => none
  | '\"' :: rest => some ([], rest)
  | '\\' :: 'u' :: a :: b :: c :: d :: rest => do
    let first ← Text.Hexadecimal.char? [a, b, c, d]
    let (others, rest) ← basic rest
    return (first :: others, rest)
  | '\\' :: 'U' :: a :: b :: c :: d :: e :: f :: g :: h :: rest => do
    let first ← Text.Hexadecimal.char? [a, b, c, d, e, f, g, h]
    let (others, rest) ← basic rest
    return (first :: others, rest)
  | '\\' :: c :: rest => do
    let first ← escaped? c
    let (others, rest) ← basic rest
    return (first :: others, rest)
  | c :: rest =>
    if isBasicChar c then
      (basic rest).map fun (others, rest) => (c :: others, rest)
    else none

def literal : List Char → Option (List Char × List Char)
  | [] => none
  | c :: rest =>
    if c == '\'' then some ([], rest)
    else if isLiteralChar c then
      (literal rest).map fun (others, rest) => (c :: others, rest)
    else none

/-- Passes over a string of several lines in double quotes, after the three
opening ones.  It ends with three quotes, before which up to two may stand as
text.  A backslash may hide a line end: `joining` says that only blanks have
followed it so far. -/
def basicLines (joining : Bool) : List Char → Option (List Char)
  | [] => none
  | '\r' :: '\n' :: rest => basicLines false rest
  | '\n' :: rest => basicLines false rest
  | c :: rest =>
    if joining then if isBlank c then basicLines true rest else none
    else
      match c, rest with
      | '\"', '\"' :: '\"' :: '\"' :: '\"' :: rest
      | '\"', '\"' :: '\"' :: '\"' :: rest
      | '\"', '\"' :: '\"' :: rest => some rest
      | '\"', rest => basicLines false rest
      | '\\', 'u' :: a :: b :: c :: d :: rest =>
        if (Text.Hexadecimal.char? [a, b, c, d]).isSome then
          basicLines false rest
        else none
      | '\\', 'U' :: a :: b :: c :: d :: e :: f :: g :: h :: rest =>
        if (Text.Hexadecimal.char? [a, b, c, d, e, f, g, h]).isSome then
          basicLines false rest
        else none
      | '\\', c :: rest =>
        if (escaped? c).isSome then basicLines false rest
        else if isBlank c || c == '\r' || c == '\n' then
          basicLines true (c :: rest)
        else none
      | c, rest => if isBasicChar c then basicLines false rest else none

/-- Passes over a string of several lines in single quotes, after the three
opening ones. -/
def literalLines : List Char → Option (List Char)
  | [] => none
  | '\'' :: '\'' :: '\'' :: '\'' :: '\'' :: rest
  | '\'' :: '\'' :: '\'' :: '\'' :: rest
  | '\'' :: '\'' :: '\'' :: rest => some rest
  | '\r' :: '\n' :: rest => literalLines rest
  | c :: rest =>
    if isLiteralChar c || c == '\'' || c == '\n' then literalLines rest
    else none

/-- Passes over a string of any form. -/
def skip? : List Char → Option (List Char)
  | '\"' :: '\"' :: '\"' :: rest => basicLines false rest
  | '\'' :: '\'' :: '\'' :: rest => literalLines rest
  | '\"' :: rest => (basic rest).map (·.2)
  | '\'' :: rest => (literal rest).map (·.2)
  | _ => none

end Quoted

def isBareChar (c : Char) : Bool :=
  c.isAlphanum || c == '_' || c == '-'

def keyPart : List Char → Option (String × List Char)
  | '\"' :: rest =>
    (Quoted.basic rest).map fun (part, rest) => (String.ofList part, rest)
  | '\'' :: rest =>
    (Quoted.literal rest).map fun (part, rest) => (String.ofList part, rest)
  | text =>
    match text.takeWhile isBareChar with
    | [] => none
    | part => some (String.ofList part, text.dropWhile isBareChar)

/-- A key has fewer parts than this, and values are nested less deeply. -/
def depthBound : Nat := 80

/-- Reads at most `most` parts of a key, with points between them and blanks
around them. -/
def keyParts : Nat → List Char → Option (List String × List Char)
  | 0, _ => none
  | most + 1, text => do
    let (part, rest) ← keyPart (skipBlanks text)
    match skipBlanks rest with
    | '.' :: rest =>
      let (parts, rest) ← keyParts most rest
      return (part :: parts, rest)
    | rest => return ([part], rest)

def key (text : List Char) : Option (List String × List Char) :=
  keyParts (depthBound - 1) text

end SeriesIndex.Toml
