import Polyglot.Text.Numeral

/-!
# Words of a TOML document

The parts of a document that contain no other values: blanks, comments and line ends, strings of
all four kinds, numbers, dates, and keys. A reader takes the part from the front of the text and
leaves the rest, or refuses.
-/

set_option autoImplicit false

namespace Polyglot.Toml

/-- Takes something from the front of a text and leaves the rest. -/
abbrev Reader (α : Type) :=
  List Char → Option (α × List Char)

/-- Blanks within a line. -/
def isSpace (c : Char) : Bool :=
  c == ' ' || c == '\t'

/-- The characters of comments and strings: no controls but the tab. -/
def isVisible (c : Char) : Bool :=
  c == '\t' || (decide (0x20 ≤ c.toNat) && decide (c.toNat ≠ 0x7F))

/-- The text behind the blanks at its front. -/
def skipSpaces (cs : List Char) : List Char :=
  cs.dropWhile isSpace

/-- The text behind a line break, if there is one at its front. -/
def afterBreak? : List Char → Option (List Char)
  | '\n' :: cs => some cs
  | '\r' :: '\n' :: cs => some cs
  | _ => none

/-- The text behind a comment, if there is one at its front. -/
def skipComment : List Char → List Char
  | '#' :: cs => cs.dropWhile isVisible
  | cs => cs

/-- The text behind the rest of a line: blanks, perhaps a comment, and a break or the end. -/
def afterLine? (cs : List Char) : Option (List Char) :=
  match skipComment (skipSpaces cs) with
  | [] => some []
  | rest => afterBreak? rest

/-- The text behind blanks, breaks and comments. A comment here ends in a break. -/
def skipLines? (inComment : Bool) : List Char → Option (List Char)
  | [] => if inComment then none else some []
  | '\r' :: '\n' :: cs => skipLines? false cs
  | c :: cs =>
    if c = '\n' then skipLines? false cs
    else if inComment then (if isVisible c then skipLines? true cs else none)
    else if isSpace c then skipLines? false cs
    else if c = '#' then skipLines? true cs
    else some (c :: cs)

/-! ### Strings -/

/-- The character of a code point in hexadecimal digits. -/
def scalar? (digits : List Char) : Option Char := do
  let values ← digits.mapM Text.hexValue?
  let n := values.foldl (fun n d => 16 * n + d) 0
  if h : n.isValidChar then some (Char.ofNatAux n h) else none

/-- The character of an escape with a single letter. -/
def simpleEscape? : Char → Option Char
  | 'b' => some '\x08'
  | 't' => some '\t'
  | 'n' => some '\n'
  | 'f' => some '\x0c'
  | 'r' => some '\r'
  | '"' => some '"'
  | '\\' => some '\\'
  | _ => none

/-- Puts a character in front of what a reader took. -/
def prepend (c : Char) (r : Option (List Char × List Char)) : Option (List Char × List Char) :=
  r.map fun (cs, rest) => (c :: cs, rest)

/-- The rest of a string in double quotes. -/
def basicBody : Reader (List Char)
  | '"' :: cs => some ([], cs)
  | '\\' :: 'u' :: a :: b :: c :: d :: cs =>
    (scalar? [a, b, c, d]).bind fun x => prepend x (basicBody cs)
  | '\\' :: 'U' :: a :: b :: c :: d :: e :: f :: g :: h :: cs =>
    (scalar? [a, b, c, d, e, f, g, h]).bind fun x => prepend x (basicBody cs)
  | '\\' :: c :: cs => (simpleEscape? c).bind fun x => prepend x (basicBody cs)
  | c :: cs => if c ≠ '\\' ∧ isVisible c then prepend c (basicBody cs) else none
  | [] => none

/-- Whether only blanks stand between a backslash and the end of its line. -/
def endsLine (cs : List Char) : Bool :=
  (afterBreak? (skipSpaces cs)).isSome

/-- The rest of a string in triple double quotes. Up to two quotes may stand before the closing
ones. Behind a backslash at the end of a line, blanks and breaks are skipped. -/
def longBasicBody (skipping : Bool) : Reader (List Char)
  | '"' :: '"' :: '"' :: '"' :: '"' :: cs => some (['"', '"'], cs)
  | '"' :: '"' :: '"' :: '"' :: cs => some (['"'], cs)
  | '"' :: '"' :: '"' :: cs => some ([], cs)
  | '\r' :: '\n' :: cs =>
    if skipping then longBasicBody true cs else prepend '\n' (longBasicBody false cs)
  | '\\' :: 'u' :: a :: b :: c :: d :: cs =>
    (scalar? [a, b, c, d]).bind fun x => prepend x (longBasicBody false cs)
  | '\\' :: 'U' :: a :: b :: c :: d :: e :: f :: g :: h :: cs =>
    (scalar? [a, b, c, d, e, f, g, h]).bind fun x => prepend x (longBasicBody false cs)
  | '\\' :: c :: cs =>
    if endsLine (c :: cs) then longBasicBody true (c :: cs)
    else (simpleEscape? c).bind fun x => prepend x (longBasicBody false cs)
  | c :: cs =>
    if skipping && (isSpace c || c == '\n') then longBasicBody true cs
    else if c = '\n' ∨ c ≠ '\\' ∧ isVisible c then prepend c (longBasicBody false cs)
    else none
  | [] => none

/-- The rest of a string in single quotes. -/
def literalBody : Reader (List Char)
  | '\'' :: cs => some ([], cs)
  | c :: cs => if isVisible c then prepend c (literalBody cs) else none
  | [] => none

/-- The rest of a string in triple single quotes. -/
def longLiteralBody : Reader (List Char)
  | '\'' :: '\'' :: '\'' :: '\'' :: '\'' :: cs => some (['\'', '\''], cs)
  | '\'' :: '\'' :: '\'' :: '\'' :: cs => some (['\''], cs)
  | '\'' :: '\'' :: '\'' :: cs => some ([], cs)
  | '\r' :: '\n' :: cs => prepend '\n' (longLiteralBody cs)
  | c :: cs => if c = '\n' ∨ isVisible c then prepend c (longLiteralBody cs) else none
  | [] => none

/-- A string on one line. -/
def shortString? : Reader (List Char)
  | '"' :: cs => basicBody cs
  | '\'' :: cs => literalBody cs
  | _ => none

/-- A string of any kind. A break behind three opening quotes does not count. -/
def string? : Reader (List Char)
  | '"' :: '"' :: '"' :: cs => longBasicBody false ((afterBreak? cs).getD cs)
  | '\'' :: '\'' :: '\'' :: cs => longLiteralBody ((afterBreak? cs).getD cs)
  | cs => shortString? cs

/-! ### Numbers -/

/-- Digits of the class, each but the first perhaps behind a low line. -/
def moreDigits (isDigit : Char → Bool) : List Char → List Char × List Char
  | '_' :: c :: cs =>
    if isDigit c then
      let (ds, rest) := moreDigits isDigit cs
      (c :: ds, rest)
    else ([], '_' :: c :: cs)
  | c :: cs =>
    if isDigit c then
      let (ds, rest) := moreDigits isDigit cs
      (c :: ds, rest)
    else ([], c :: cs)
  | [] => ([], [])

/-- At least one digit of the class. -/
def digits? (isDigit : Char → Bool) : Reader (List Char)
  | c :: cs =>
    if isDigit c then
      let (ds, rest) := moreDigits isDigit cs
      some (c :: ds, rest)
    else none
  | [] => none

/-- The value of digits in a base. -/
def valueOf (base : Nat) (ds : List Char) : Nat :=
  ds.foldl (fun n d => base * n + (Text.hexValue? d).getD 0) 0

/-- A sign, and whether it is a minus. -/
def sign : List Char → Bool × List Char
  | '-' :: cs => (true, cs)
  | '+' :: cs => (false, cs)
  | cs => (false, cs)

/-- A decimal integer without a sign; only zero begins with a zero. -/
def unsigned? : Reader (List Char)
  | '0' :: cs => some (['0'], cs)
  | cs => digits? Char.isDigit cs

/-- Whether a signed integer has 63 bits. -/
def fits (negative : Bool) (n : Nat) : Bool :=
  if negative then decide (n ≤ Nat.pow 2 63) else decide (n < Nat.pow 2 63)

/-- An integer in a base other than ten, behind the letter of the base. -/
def based? (base : Nat) (isDigit : Char → Bool) (cs : List Char) : Option (Unit × List Char) := do
  let (ds, rest) ← digits? isDigit cs
  if fits false (valueOf base ds) then some ((), rest) else none

/-- An integer. -/
def integer? : Reader Unit
  | '0' :: 'x' :: cs => based? 16 (fun c => (Text.hexValue? c).isSome) cs
  | '0' :: 'o' :: cs => based? 8 (fun c => decide ('0' ≤ c) && decide (c ≤ '7')) cs
  | '0' :: 'b' :: cs => based? 2 (fun c => c == '0' || c == '1') cs
  | cs => do
    let (negative, cs) := sign cs
    let (ds, rest) ← unsigned? cs
    if fits negative (valueOf 10 ds) then some ((), rest) else none

/-- Whether `n` times ten to the power of `e` is too great for a floating-point number of 64
bits: it is nearer to two to the power of 1024 than to the greatest such number. -/
def isTooGreat (n : Nat) (e : Int) (size : Nat) : Bool :=
  let bound := Nat.pow 2 1024 - Nat.pow 2 970
  if n = 0 then false
  else if 400 < e + size then true
  else if e + size < 0 then false
  else if 0 ≤ e then decide (bound ≤ n * Nat.pow 10 e.toNat)
  else decide (bound * Nat.pow 10 (-e).toNat ≤ n)

/-- The decimal places of a number, if there are any. -/
def places? : Reader (List Char)
  | '.' :: cs => digits? Char.isDigit cs
  | _ => none

/-- The exponent of a number, if there is one. -/
def exponent? : Reader Int
  | c :: cs =>
    if c = 'e' ∨ c = 'E' then do
      let (negative, cs) := sign cs
      let (ds, rest) ← digits? Char.isDigit cs
      let n := valueOf 10 ds
      some (if negative then -(n : Int) else n, rest)
    else none
  | [] => none

/-- A number with decimal places, an exponent or both. -/
def decimal? (cs : List Char) : Option (Unit × List Char) := do
  let (negative, cs) := sign cs
  let (whole, cs) ← unsigned? cs
  let (fraction, cs') := (places? cs).getD ([], cs)
  let (e, rest) := (exponent? cs').getD (0, cs')
  if rest.length = cs.length then none
  else
    let ds := (whole ++ fraction).dropWhile (· == '0')
    if !negative && isTooGreat (valueOf 10 ds) (e - fraction.length) ds.length then none
    else some ((), rest)

/-- Infinity or no number, perhaps with a sign. -/
def special? (cs : List Char) : Option (Unit × List Char) :=
  match (sign cs).2 with
  | 'i' :: 'n' :: 'f' :: rest => some ((), rest)
  | 'n' :: 'a' :: 'n' :: rest => some ((), rest)
  | _ => none

/-- A number of any kind. -/
def number? (cs : List Char) : Option (Unit × List Char) :=
  (decimal? cs).or ((special? cs).or (integer? cs))

/-! ### Dates -/

/-- A number of exactly so many digits, between two bounds. -/
def fixed? (width low high : Nat) (cs : List Char) : Option (Nat × List Char) :=
  let ds := cs.take width
  let n := valueOf 10 ds
  if ds.length = width ∧ ds.all Char.isDigit ∧ low ≤ n ∧ n ≤ high then some (n, cs.drop width)
  else none

/-- The text behind a character of the class. -/
def after? (p : Char → Bool) : List Char → Option (List Char)
  | c :: cs => if p c then some cs else none
  | [] => none

/-- The number of days of a month. -/
def daysOf (year month : Nat) : Nat :=
  let leap := year % 4 == 0 && (year % 100 != 0 || year % 400 == 0)
  if month = 2 then (if leap then 29 else 28)
  else if month ∈ [4, 6, 9, 11] then 30
  else 31

/-- A day of a year. -/
def day? (cs : List Char) : Option (Unit × List Char) := do
  let (year, cs) ← fixed? 4 0 9999 cs
  let (month, cs) ← (after? (· == '-') cs).bind (fixed? 2 1 12)
  let (_, cs) ← (after? (· == '-') cs).bind (fixed? 2 1 (daysOf year month))
  return ((), cs)

/-- A time of the day with seconds, and perhaps with parts of a second. -/
def time? (cs : List Char) : Option (Unit × List Char) := do
  let (_, cs) ← fixed? 2 0 23 cs
  let (_, cs) ← (after? (· == ':') cs).bind (fixed? 2 0 59)
  let (_, cs) ← (after? (· == ':') cs).bind (fixed? 2 0 60)
  match cs with
  | '.' :: rest =>
    let ds := rest.takeWhile Char.isDigit
    return ((), if ds.isEmpty then cs else rest.dropWhile Char.isDigit)
  | _ => return ((), cs)

/-- The distance of a clock from universal time. -/
def offset? : Reader Unit
  | c :: cs =>
    if c = 'Z' ∨ c = 'z' then some ((), cs)
    else if c = '+' ∨ c = '-' then do
      let (_, cs) ← fixed? 2 0 23 cs
      let (_, cs) ← (after? (· == ':') cs).bind (fixed? 2 0 59)
      return ((), cs)
    else none
  | [] => none

/-- A date with or without a time, or a time alone. -/
def date? (cs : List Char) : Option (Unit × List Char) :=
  match day? cs with
  | some (_, rest) =>
    match (after? (fun c => c == 'T' || c == 't' || c == ' ') rest).bind time? with
    | some (_, rest') => some ((offset? rest').getD ((), rest'))
    | none => some ((), rest)
  | none => time? cs

/-! ### Keys -/

/-- The characters of a key without quotes. -/
def isBare (c : Char) : Bool :=
  c.isAlphanum || c == '-' || c == '_'

/-- One part of a key. -/
def simpleKey? (cs : List Char) : Option (String × List Char) :=
  match cs with
  | '"' :: _ | '\'' :: _ => (shortString? cs).map fun (name, rest) => (String.ofList name, rest)
  | _ =>
    let name := cs.takeWhile isBare
    if name.isEmpty then none else some (String.ofList name, cs.dropWhile isBare)

/-- A part of a key with the blanks around it. -/
def keyPart? (cs : List Char) : Option (String × List Char) :=
  (simpleKey? (skipSpaces cs)).map fun (name, rest) => (name, skipSpaces rest)

/-- The parts of a key behind its first one, each behind a dot. -/
def moreParts? (cs : List Char) : Option (List String × List Char) :=
  match cs with
  | '.' :: rest =>
    match keyPart? rest with
    | some (name, rest') =>
      if rest'.length ≤ rest.length then
        (moreParts? rest').map fun (names, rest'') => (name :: names, rest'')
      else none
    | none => none
  | _ => some ([], cs)
termination_by cs.length

/-- How many parts a key may have, and how deep values may be nested, is less than this. -/
def depthLimit : Nat :=
  80

/-- A key: the path of all its parts but the last, and the last. -/
def key? (cs : List Char) : Option ((List String × String) × List Char) := do
  let (first, rest) ← keyPart? cs
  let (names, rest) ← moreParts? rest
  let path := first :: names
  if path.length < depthLimit then
    return ((path.dropLast, path.getLast (List.cons_ne_nil first names)), rest)
  else none

end Polyglot.Toml
