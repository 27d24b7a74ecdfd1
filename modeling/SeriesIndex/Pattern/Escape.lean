import SeriesIndex.Pattern.Blank
import SeriesIndex.Pattern.Syntax

/-!
# Escapes

What may follow a backslash: a sign taken literally, a control character, a code
point in hexadecimal, a class, or a place.  References to groups are refused.
-/

namespace SeriesIndex.Pattern

open Unicode

inductive Atom where
  | literal (literal : Literal)
  | place (place : Place)
  | charClass (inner : ClassSyntax)

namespace Escape

def fixedDigits (verbose : Bool) :
    Nat → Nat → List Char → Option (Nat × List Char)
  | 0, value, text => some (value, text)
  | _ + 1, _, [] => none
  | count + 1, value, c :: rest => do
    let digit ← Text.Hexadecimal.digit? c
    fixedDigits verbose count (value * 16 + digit) (skip verbose rest)

/-- A code point in hexadecimal, in braces or with as many digits as its letter
asks for. -/
def hexadecimal (verbose : Bool) (count : Nat) (text : List Char) :
    Option (Literal × List Char) :=
  match skip verbose text with
  | '{' :: rest => do
    let (digits, rest) ← untilBrace verbose false rest
    let c ← Text.Hexadecimal.char? digits
    return (⟨c, false⟩, rest)
  | text => do
    let (value, rest) ← fixedDigits verbose count 0 text
    let c ← Text.Hexadecimal.charOf? value
    return (⟨c, count == 2⟩, rest)

def cutAt? (mark : List Char) : List Char → Option (List Char × List Char)
  | [] => none
  | c :: rest =>
    if mark.isPrefixOf (c :: rest) then some ([], (c :: rest).drop mark.length)
    else (cutAt? mark rest).map fun (front, back) => (c :: front, back)

/-- A name, or a property and a value with `:` or `=` between them. -/
def propertyName (text : List Char) : PropertyName :=
  match (cutAt? [':'] text).or (cutAt? ['='] text) with
  | some (property, value) =>
    .valued (String.ofList property) (String.ofList value)
  | none => .single (String.ofList text)

/-- What stands in the braces of a named set.  The sign `!=` between a property
and a value negates once more. -/
def propertyClass (negated : Bool) (text : List Char) : ClassSyntax :=
  match cutAt? ['!', '='] text with
  | some (property, value) =>
    .property (.valued (String.ofList property) (String.ofList value)) !negated
  | none => .property (propertyName text) negated

/-- A named set of code points: a name in braces or a single character. -/
def property (verbose negated : Bool) (text : List Char) :
    Option (ClassSyntax × List Char) :=
  match skip verbose text with
  | [] => none
  | '{' :: rest => do
    let (name, rest) ← untilBrace verbose false rest
    return (propertyClass negated name, rest)
  | c :: rest =>
    if c == '\\' then none
    else some (.property (.single (String.singleton c)) negated, rest)

def placeNamed? : List Char → Option Place
  | ['s', 't', 'a', 'r', 't'] => some .wordStart
  | ['e', 'n', 'd'] => some .wordEnd
  | ['s', 't', 'a', 'r', 't', '-', 'h', 'a', 'l', 'f'] => some .wordStartHalf
  | ['e', 'n', 'd', '-', 'h', 'a', 'l', 'f'] => some .wordEndHalf
  | _ => none

/-- The edge of a word, or one of the places named after it in braces.  A brace
that no letter or hyphen follows is left for a repetition count. -/
def wordPlace (verbose : Bool) (text : List Char) :
    Option (Place × List Char) :=
  match text with
  | '{' :: rest =>
    match skip verbose rest with
    | [] => none
    | c :: _ =>
      if c.isAlpha || c == '-' then do
        let (name, rest) ← untilBrace verbose false rest
        let place ← placeNamed? name
        return (place, rest)
      else some (.wordEdge, text)
  | _ => some (.wordEdge, text)

/-- Whether a backslash makes the sign stand for itself: every ASCII character
but letters, digits and angle brackets. -/
def isLiteralSign (c : Char) : Bool :=
  c.toNat < 0x80 && !c.isAlphanum && c != '<' && c != '>'

def control? : Char → Option Char
  | 'a' => some '\x07'
  | 'f' => some '\x0c'
  | 't' => some '\t'
  | 'n' => some '\n'
  | 'r' => some '\r'
  | 'v' => some '\x0b'
  | _ => none

def shorthand? : Char → Option ClassSyntax
  | 'd' => some (.shorthand .digit false)
  | 's' => some (.shorthand .space false)
  | 'w' => some (.shorthand .word false)
  | 'D' => some (.shorthand .digit true)
  | 'S' => some (.shorthand .space true)
  | 'W' => some (.shorthand .word true)
  | _ => none

def place? : Char → Option Place
  | 'A' => some .textStart
  | 'z' => some .textEnd
  | 'B' => some .notWordEdge
  | '<' => some .wordStart
  | '>' => some .wordEnd
  | _ => none

end Escape

open Escape in
def escape (verbose : Bool) : List Char → Option (Atom × List Char)
  | [] => none
  | c :: rest =>
    if isLiteralSign c then some (.literal ⟨c, false⟩, rest)
    else
      match c with
      | 'x' =>
        (hexadecimal verbose 2 rest).map fun (l, rest) => (.literal l, rest)
      | 'u' =>
        (hexadecimal verbose 4 rest).map fun (l, rest) => (.literal l, rest)
      | 'U' =>
        (hexadecimal verbose 8 rest).map fun (l, rest) => (.literal l, rest)
      | 'p' =>
        (property verbose false rest).map fun (s, rest) => (.charClass s, rest)
      | 'P' =>
        (property verbose true rest).map fun (s, rest) => (.charClass s, rest)
      | 'b' => (wordPlace verbose rest).map fun (p, rest) => (.place p, rest)
      | c =>
        match control? c, shorthand? c, place? c with
        | some control, _, _ => some (.literal ⟨control, false⟩, rest)
        | _, some inner, _ => some (.charClass inner, rest)
        | _, _, some place => some (.place place, rest)
        | none, none, none => none

end SeriesIndex.Pattern
