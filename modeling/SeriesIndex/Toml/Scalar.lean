import SeriesIndex.Toml.Text

/-!
# Scalars

Numbers, dates and the words for truth values.  Only integers are kept; of all
other values it is enough to know that they are well formed.
-/

namespace SeriesIndex.Toml

/-- A value without parts.  Of one that is no integer nothing is kept. -/
inductive Scalar where
  | integer (value : Int)
  | other
  deriving DecidableEq, Repr

namespace Scalar

def fixedDigits : Nat → List Char → Option (Nat × List Char) :=
  go 0
where
  go (value : Nat) : Nat → List Char → Option (Nat × List Char)
    | 0, text => some (value, text)
    | _ + 1, [] => none
    | count + 1, c :: rest =>
      if c.isDigit then go (value * 10 + (c.toNat - '0'.toNat)) count rest
      else none

/-- Reads a number of two digits between two bounds. -/
def pair (least most : Nat) (text : List Char) : Option (Nat × List Char) :=
  match fixedDigits 2 text with
  | some (value, rest) =>
    if least ≤ value ∧ value ≤ most then some (value, rest) else none
  | none => none

/-- Reads digits, between any two of which an underscore may stand, onto those
before. -/
def moreDigits (isDigit : Char → Bool) :
    List Char → Option (List Char × List Char)
  | '_' :: c :: rest =>
    if isDigit c then
      (moreDigits isDigit rest).map fun (digits, rest) => (c :: digits, rest)
    else none
  | c :: rest =>
    if isDigit c then
      (moreDigits isDigit rest).map fun (digits, rest) => (c :: digits, rest)
    else if c == '_' then none
    else some ([], c :: rest)
  | [] => some ([], [])

/-- Reads digits of which there is at least one. -/
def digits (isDigit : Char → Bool) : List Char → Option (List Char × List Char)
  | c :: rest =>
    if isDigit c then
      (moreDigits isDigit rest).map fun (digits, rest) => (c :: digits, rest)
    else none
  | [] => none

def decimal (digits : List Char) : Nat :=
  digits.foldl (fun value c => value * 10 + (c.toNat - '0'.toNat)) 0

def daysOf (year month : Nat) : Nat :=
  if month = 2 then
    if year % 4 = 0 ∧ (year % 100 ≠ 0 ∨ year % 400 = 0) then 29 else 28
  else if month = 4 ∨ month = 6 ∨ month = 9 ∨ month = 11 then 30
  else 31

def skipFraction : List Char → List Char
  | '.' :: c :: rest =>
    if c.isDigit then rest.dropWhile Char.isDigit else '.' :: c :: rest
  | text => text

def afterHour (text : List Char) : Option (List Char) :=
  match pair 0 59 text with
  | some (_, ':' :: rest) =>
    (pair 0 60 rest).map fun (_, rest) => skipFraction rest
  | _ => none

/-- Reads the distance from the time of the prime meridian, if one follows. -/
def offset (text : List Char) : Option (List Char) :=
  match text with
  | 'Z' :: rest | 'z' :: rest => some rest
  | '+' :: rest | '-' :: rest =>
    match pair 0 23 rest with
    | some (_, ':' :: rest) => (pair 0 59 rest).map (·.2)
    | _ => none
  | rest => some rest

/-- Reads a time that may follow a date.  What has no hour and colon is no
time. -/
def timeOfDate (text : List Char) : Option (List Char) :=
  match text with
  | c :: rest =>
    if c == 'T' || c == 't' || c == ' ' then
      match pair 0 23 rest with
      | some (_, ':' :: rest) => (afterHour rest).bind offset
      | _ => some text
    else some text
  | [] => some []

/-- Reads a date after its year and the hyphen. -/
def afterYear (year : Nat) (text : List Char) : Option (List Char) :=
  match pair 1 12 text with
  | some (month, '-' :: rest) =>
    (pair 1 (daysOf year month) rest).bind fun (_, rest) => timeOfDate rest
  | _ => none

/-- Greatest and least 64-bit numbers bound the integers. -/
def integer? (value : Int) : Option Scalar :=
  if Int64.minValue.toInt ≤ value ∧ value ≤ Int64.maxValue.toInt then
    some (.integer value)
  else none

/-- Whether `mantissa * 10 ^ exponent` is so great that the nearest double is
infinite. -/
def isInfinite (mantissa : Nat) (exponent : Int) : Bool :=
  let length := (Nat.toDigits 10 mantissa).length
  if mantissa = 0 ∨ length + exponent < 308 then false
  else if 310 < length + exponent then true
  else
    (Nat.pow 2 1024 - Nat.pow 2 970) * Nat.pow 10 (-exponent).toNat ≤
      mantissa * Nat.pow 10 exponent.toNat

def exponent? (text : List Char) : Option (Option Int × List Char) :=
  match text with
  | c :: rest =>
    if c == 'e' || c == 'E' then
      match rest with
      | '-' :: rest =>
        (digits Char.isDigit rest).map fun (run, rest) =>
          (some (-(decimal run : Int)), rest)
      | '+' :: rest | rest =>
        (digits Char.isDigit rest).map fun (run, rest) =>
          (some (decimal run : Int), rest)
    else some (none, text)
  | [] => some (none, [])

/-- Reads a decimal number after its sign: an integer, or a float with a
fraction or an exponent.  An integer has no leading zeros. -/
def number (negative : Bool) (text : List Char) :
    Option (Scalar × List Char) := do
  let (whole, rest) ←
    match text with
    | '0' :: rest => some (['0'], rest)
    | _ => digits Char.isDigit text
  let (fraction, rest) ←
    match rest with
    | '.' :: rest =>
      (digits Char.isDigit rest).map fun (run, rest) => (some run, rest)
    | _ => some (none, rest)
  let (exponent, rest) ← exponent? rest
  if fraction.isNone && exponent.isNone then
    let magnitude : Int := decimal whole
    return (← integer? (if negative then -magnitude else magnitude), rest)
  else
    let places := fraction.getD []
    if !negative && isInfinite (decimal (whole ++ places))
        (exponent.getD 0 - places.length) then
      none
    else return (.other, rest)

/-- Reads an integer in another base, after the letter of the base. -/
def based (base : Nat) (text : List Char) : Option (Scalar × List Char) := do
  let isDigit := fun c => (Text.Hexadecimal.digit? c).any (· < base)
  let (run, rest) ← digits isDigit text
  let value := run.foldl (fun value c =>
    value * base + (Text.Hexadecimal.digit? c).getD 0) 0
  return (← integer? value, rest)

/-- Reads a decimal number or one of the words for infinity and for no number,
after its sign. -/
def signed (negative : Bool) : List Char → Option (Scalar × List Char)
  | 'i' :: 'n' :: 'f' :: rest | 'n' :: 'a' :: 'n' :: rest => some (.other, rest)
  | text => number negative text

/-- Reads a scalar that is no string.  Four digits and a hyphen begin a date, an
hour and a colon a time. -/
def read (text : List Char) : Option (Scalar × List Char) :=
  match text with
  | 't' :: 'r' :: 'u' :: 'e' :: rest
  | 'f' :: 'a' :: 'l' :: 's' :: 'e' :: rest =>
    some (.other, rest)
  | '0' :: 'x' :: rest => based 16 rest
  | '0' :: 'o' :: rest => based 8 rest
  | '0' :: 'b' :: rest => based 2 rest
  | '+' :: rest => signed false rest
  | '-' :: rest => signed true rest
  | _ =>
    match fixedDigits 4 text, pair 0 23 text with
    | some (year, '-' :: rest), _ => (afterYear year rest).map (.other, ·)
    | _, some (_, ':' :: rest) => (afterHour rest).map (.other, ·)
    | _, _ => signed false text

end Scalar

end SeriesIndex.Toml
