import Polyglot.Text.Numeral
import Polyglot.Text.Pieces
import Polyglot.Total

/-!
# Numeric addresses

A host may be a numeric address. One of 32 bits is written in up to four parts between dots, each
decimal, octal behind a zero or hexadecimal behind `0x`; the last part fills the bytes that the
others leave. One of 128 bits is written in eight groups between colons, hexadecimal, of which
two colons may leave out some that are zero, and the last two of which may be written as an
address of four decimal parts. Each address has one written form.
-/

set_option autoImplicit false

namespace Polyglot.Uri

/-- The number that digits of a base write, none if another character stands among them. -/
def numeral? (base : Nat) (cs : List Char) : Option Nat :=
  cs.foldlM (fun n c => do
    let digit ← Text.hexValue? c
    if digit < base then return base * n + digit else none) 0

/-- A part of an address of 32 bits, whose start tells its base. A mere sign of the base is
zero. -/
def addressPart? : List Char → Option Nat
  | [] => none
  | ['0'] => some 0
  | '0' :: c :: cs => if c = 'x' ∨ c = 'X' then numeral? 16 cs else numeral? 8 (c :: cs)
  | cs => numeral? 10 cs

/-- The parts of a name between its dots, without an empty one at the end. -/
def addressParts (name : List Char) : List (List Char) :=
  let parts := Text.splitAt (· == '.') name
  if parts.getLast? = some [] then parts.dropLast else parts

/-- Whether a name ends in a number and so has to be an address. -/
def endsInNumber (name : List Char) : Bool :=
  match (addressParts name).getLast? with
  | none => false
  | some last => (!last.isEmpty && last.all Char.isDigit) || (addressPart? last).isSome

/-- The address of 32 bits that a name writes. -/
def shortAddress? (name : List Char) : Option Nat := do
  let numbers ← (addressParts name).mapM addressPart?
  let last ← numbers.getLast?
  let bytes := numbers.dropLast
  if 3 < bytes.length ∨ bytes.any (255 < ·) ∨ Nat.pow 256 (4 - bytes.length) ≤ last then none
  else return total (fun (byte, n) => byte * Nat.pow 256 (3 - n)) bytes.zipIdx + last

/-- The written form of an address of 32 bits. -/
def shortAddressText (address : Nat) : String :=
  ".".intercalate ([3, 2, 1, 0].map fun n => Text.decimal (address / Nat.pow 256 n % 256))

/-- A decimal part without zeros in front, of one byte. -/
def decimalByte? : List Char → Option Nat
  | [] => none
  | ['0'] => some 0
  | '0' :: _ => none
  | cs => (numeral? 10 cs).filter fun n => decide (n ≤ 255)

/-- A group of up to four hexadecimal digits. -/
def group? (cs : List Char) : Option Nat :=
  if cs.isEmpty ∨ 4 < cs.length then none else numeral? 16 cs

/-- The groups at the end of an address: one, or the two of an address of four decimal parts. -/
def lastGroups? (cs : List Char) : Option (List Nat) :=
  match (Text.splitAt (· == '.') cs).mapM decimalByte? with
  | some [a, b, c, d] => some [256 * a + b, 256 * c + d]
  | _ => (group? cs).map ([·])

/-- Groups between colons, of which the last may be written decimally if they end the address. -/
def groups? (atEnd : Bool) : List (List Char) → Option (List Nat)
  | [] => some []
  | [last] => if atEnd then lastGroups? last else (group? last).map ([·])
  | piece :: pieces => do return (← group? piece) :: (← groups? atEnd pieces)

/-- The groups of a text, none in an empty one. -/
def groupsOf? (atEnd : Bool) (cs : List Char) : Option (List Nat) :=
  if cs.isEmpty then some [] else groups? atEnd (Text.splitAt (· == ':') cs)

/-- A text in front of the first two colons and the text behind them. -/
def cutAtColons : List Char → List Char × Option (List Char)
  | ':' :: ':' :: cs => ([], some cs)
  | c :: cs => let (front, back?) := cutAtColons cs; (c :: front, back?)
  | [] => ([], none)

/-- The eight groups of the address of 128 bits that a text writes. -/
def longAddress? (cs : List Char) : Option (List Nat) :=
  match cutAtColons cs with
  | (front, none) => (groupsOf? true front).filter fun groups => decide (groups.length = 8)
  | (front, some back) => do
    let left ← groupsOf? false front
    let right ← groupsOf? true back
    let count := left.length + right.length
    if 7 < count then none else return left ++ List.replicate (8 - count) 0 ++ right

/-- How many groups are zero from a place on. -/
def zerosFrom (groups : List Nat) (n : Nat) : Nat :=
  ((groups.drop n).takeWhile (· = 0)).length

/-- The place of the longest run of zeros, the first of several. -/
def longestZeros (groups : List Nat) : Nat :=
  (List.range groups.length).foldl
    (fun best n => if zerosFrom groups best < zerosFrom groups n then n else best) 0

/-- Groups between colons. -/
def groupsText (groups : List Nat) : String :=
  ":".intercalate (groups.map fun n => String.ofList (Text.hexDigits n))

/-- The written form of an address of 128 bits. The longest run of zeros is left out if it has two
groups or more. -/
def longAddressText (groups : List Nat) : String :=
  let place := longestZeros groups
  let count := zerosFrom groups place
  if count < 2 then groupsText groups
  else groupsText (groups.take place) ++ "::" ++ groupsText (groups.drop (place + count))

end Polyglot.Uri
