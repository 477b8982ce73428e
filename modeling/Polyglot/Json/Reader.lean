import Polyglot.Json
import Polyglot.Text.Numeral

/-!
# Reading JSON

A text is read into the JSON value that it writes. A number without a decimal point and without an
exponent is an integer as long as 64 bits hold it; every other number is the nearest floating-point
number, and so is `-0`. The fields of an object are sorted by their keys, and of several fields
with one key the last counts.
-/

set_option autoImplicit false

namespace Polyglot.Json

/-- Whether a character may stand between the parts of a value. -/
def isBlank (c : Char) : Bool :=
  [' ', '\t', '\n', '\r'].contains c

/-- The text behind its blanks. -/
def skipBlanks (cs : List Char) : List Char :=
  cs.dropWhile isBlank

/-- The code unit of four hexadecimal digits. -/
def unit? (a b c d : Char) : Option Nat := do
  let a ← Text.hexValue? a
  let b ← Text.hexValue? b
  let c ← Text.hexValue? c
  let d ← Text.hexValue? d
  return ((a * 16 + b) * 16 + c) * 16 + d

/-- The character that a letter behind a backslash stands for. -/
def escaped? : Char → Option Char
  | '"' => some '"'
  | '\\' => some '\\'
  | '/' => some '/'
  | 'b' => some '\x08'
  | 'f' => some '\x0c'
  | 'n' => some '\n'
  | 'r' => some '\r'
  | 't' => some '\t'
  | _ => none

/-- The characters of code points and surrogates; two surrogates make one character. -/
def joinUnits : List Nat → List Char
  | [] => []
  | [unit] => [Char.ofNat unit]
  | high :: low :: rest =>
    if 0xD800 ≤ high ∧ high < 0xDC00 ∧ 0xDC00 ≤ low ∧ low < 0xE000 then
      Char.ofNat (0x10000 + (high - 0xD800) * 0x400 + (low - 0xDC00)) :: joinUnits rest
    else Char.ofNat high :: joinUnits (low :: rest)

/-- The code units of a string up to its closing quote, and what is behind the quote. -/
def units? : List Char → Option (List Nat × List Char)
  | [] => none
  | '"' :: cs => some ([], cs)
  | '\\' :: 'u' :: a :: b :: c :: d :: cs => do
    let unit ← unit? a b c d
    let (units, rest) ← units? cs
    return (unit :: units, rest)
  | '\\' :: c :: cs => do
    let c ← escaped? c
    let (units, rest) ← units? cs
    return (c.toNat :: units, rest)
  | c :: cs => do
    let (units, rest) ← units? cs
    return (c.toNat :: units, rest)

/-- A string behind its opening quote. -/
def readString? (cs : List Char) : Option (String × List Char) :=
  (units? cs).map fun (units, rest) => (String.ofList (joinUnits units), rest)

/-- The number that digits write. -/
def ofDigits (digits : List Char) : Nat :=
  digits.foldl (fun n c => 10 * n + (c.toNat - '0'.toNat)) 0

/-- The exponent at the start of a text, none if no exponent stands there. -/
def exponent? : List Char → Option (Int × List Char)
  | e :: cs =>
    if e = 'e' ∨ e = 'E' then
      let (negative, cs) := match cs with
        | '-' :: rest => (true, rest)
        | '+' :: rest => (false, rest)
        | _ => (false, cs)
      let (digits, rest) := cs.span Char.isDigit
      let n : Int := ofDigits digits
      some (if negative then -n else n, rest)
    else none
  | [] => none

/-- A number without its sign. -/
def readNumber? (negative : Bool) (cs : List Char) : Option (Json × List Char) :=
  let (whole, rest) := cs.span Char.isDigit
  let (places, rest, pointed) := match rest with
    | '.' :: rest => let (places, rest) := rest.span Char.isDigit; (places, rest, true)
    | _ => ([], rest, false)
  let (power, rest, raised) := match exponent? rest with
    | some (power, rest) => (power, rest, true)
    | none => (0, rest, false)
  let digits := ofDigits (whole ++ places)
  let value : Int := if negative then -digits else digits
  if whole.isEmpty then none
  else if !pointed && !raised && !(negative && digits == 0) &&
      decide (-9223372036854775808 ≤ value ∧ value < 18446744073709551616) then
    some (.integer value, rest)
  else (Double.ofDecimal? negative digits (power - places.length)).map fun d => (.real d, rest)

/-- A field put in front of fields whose keys are greater or equal; an equal key is that of a later
field, which stays. -/
def insertField (field : String × Json) : List (String × Json) → List (String × Json)
  | [] => [field]
  | other :: fields =>
    if field.1 < other.1 then field :: other :: fields
    else if field.1 = other.1 then other :: fields
    else other :: insertField field fields

/-- An object of fields in the order in which they are written. -/
def ofEntries (fields : List (String × Json)) : Json :=
  .object (fields.foldr insertField [])

mutual

/-- The value at the start of a text and what is behind it. Every step takes a character, so as
many steps as there are characters are enough. -/
def readValue? : Nat → List Char → Option (Json × List Char)
  | 0, _ => none
  | fuel + 1, cs =>
    match skipBlanks cs with
    | 'n' :: 'u' :: 'l' :: 'l' :: rest => some (.null, rest)
    | 't' :: 'r' :: 'u' :: 'e' :: rest => some (.bool true, rest)
    | 'f' :: 'a' :: 'l' :: 's' :: 'e' :: rest => some (.bool false, rest)
    | '"' :: rest => (readString? rest).map fun (s, rest) => (.string s, rest)
    | '-' :: rest => readNumber? true rest
    | '[' :: rest =>
      match skipBlanks rest with
      | ']' :: rest => some (.array [], rest)
      | rest => (readItems? fuel rest).map fun (items, rest) => (.array items, rest)
    | '\x7b' :: rest =>
      match skipBlanks rest with
      | '\x7d' :: rest => some (.object [], rest)
      | rest => (readFields? fuel rest).map fun (fields, rest) => (ofEntries fields, rest)
    | rest => readNumber? false rest

/-- The items up to the end of an array. -/
def readItems? : Nat → List Char → Option (List Json × List Char)
  | 0, _ => none
  | fuel + 1, cs =>
    match readValue? fuel cs with
    | none => none
    | some (item, rest) =>
      match skipBlanks rest with
      | ',' :: rest => (readItems? fuel rest).map fun (items, rest) => (item :: items, rest)
      | ']' :: rest => some ([item], rest)
      | _ => none

/-- The fields up to the end of an object. -/
def readFields? : Nat → List Char → Option (List (String × Json) × List Char)
  | 0, _ => none
  | fuel + 1, cs =>
    match readField? fuel cs with
    | none => none
    | some (field, rest) =>
      match skipBlanks rest with
      | ',' :: rest => (readFields? fuel rest).map fun (fields, rest) => (field :: fields, rest)
      | '\x7d' :: rest => some ([field], rest)
      | _ => none

/-- A field with its key. -/
def readField? : Nat → List Char → Option ((String × Json) × List Char)
  | 0, _ => none
  | fuel + 1, cs =>
    match skipBlanks cs with
    | '"' :: rest =>
      match readString? rest with
      | none => none
      | some (key, rest) =>
        match skipBlanks rest with
        | ':' :: rest => (readValue? fuel rest).map fun (value, rest) => ((key, value), rest)
        | _ => none
    | _ => none

end

/-- The value that a whole text writes. -/
def parse? (s : String) : Option Json :=
  let cs := s.toList
  match readValue? (2 * cs.length + 1) cs with
  | some (value, rest) => if (skipBlanks rest).isEmpty then some value else none
  | none => none

end Polyglot.Json
