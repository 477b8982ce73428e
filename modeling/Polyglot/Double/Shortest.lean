import Polyglot.Double.Basic

/-!
# The shortest decimal text

A floating-point number is written with the fewest digits that no other floating-point number is
nearer to; of several such digits the ones nearest to the number are taken. Numbers with a decimal
exponent from -5 to 15 are written without an exponent and then always with a decimal point.
-/

set_option autoImplicit false

namespace Polyglot.Double

/-- The numbers between which everything rounds to the same floating-point number, in quarters of
its unit: the lower end and the upper end. -/
def neighbourhood (d : Double) : Nat × Nat :=
  let narrow := d.mantissa * 2 = mantissaBound ∧ d.exponent ≠ leastExponent
  (4 * d.mantissa - if narrow then 1 else 2, 4 * d.mantissa + 2)

/-- Whether digits times a power of ten round to the number. The ends of the neighbourhood do so
where the mantissa is even. -/
def readsBack (d : Double) (digits : Nat) (power : Int) : Bool :=
  let (up, down) := powerOfTwo (d.exponent - 2)
  let value := digits * Nat.pow 10 power.toNat * down
  let unit := Nat.pow 10 (-power).toNat * up
  let (low, high) := neighbourhood d
  if d.mantissa % 2 = 0 then low * unit ≤ value && value ≤ high * unit
  else low * unit < value && value < high * unit

/-- The size of a number in units of a power of ten, as a quotient. -/
def inUnits (d : Double) (power : Int) : Nat × Nat :=
  let (up, down) := powerOfTwo d.exponent
  (d.mantissa * up * Nat.pow 10 (-power).toNat, down * Nat.pow 10 power.toNat)

/-- The position of the first digit: the power of ten at or below a positive number. -/
def decimalExponent (d : Double) : Int :=
  let (num, den) := inUnits d 0
  if den ≤ num then (Nat.toDigits 10 (num / den)).length - 1
  else
    -((Nat.toDigits 10 ((den - 1) / num)).length : Int)

/-- The digits of a number in units of a power of ten, if they read back: those below or those
above, whichever are nearer. -/
def digitsAt? (d : Double) (power : Int) : Option Nat :=
  let (num, den) := inUnits d power
  let near := roundQuotient num den
  let far := if near * den ≤ num then near + 1 else near - 1
  if readsBack d near power then some near
  else if readsBack d far power then some far
  else none

/-- The first digits that read back when their count grows, with their power of ten. -/
def grow (d : Double) : Nat → Int → Nat × Int
  | 0, power => let (num, den) := inUnits d power; (roundQuotient num den, power)
  | more + 1, power =>
    match digitsAt? d power with
    | some digits => (digits, power)
    | none => grow d more (power - 1)

/-- The digits of a positive number without zeros at the end, and the position of the first. -/
def shortest (d : Double) : List Char × Int :=
  let (digits, power) := grow d 16 (decimalExponent d)
  let written := Nat.toDigits 10 digits
  let first := power + written.length - 1
  ((written.reverse.dropWhile (· == '0')).reverse, first)

/-- Digits with their decimal point, of which the first stands at the given position. -/
def positional (digits : List Char) (first : Int) : List Char :=
  if first < 0 then '0' :: '.' :: (List.replicate (-first - 1).toNat '0' ++ digits)
  else
    let whole := first.toNat + 1
    let padded := digits ++ List.replicate (whole - digits.length) '0'
    let behind := padded.drop whole
    padded.take whole ++ '.' :: (if behind.isEmpty then ['0'] else behind)

/-- Digits with an exponent, which always has a sign. -/
def scientific (digits : List Char) (first : Int) : List Char :=
  let point := if digits.length ≤ 1 then digits else digits.take 1 ++ '.' :: digits.drop 1
  let sign := if first < 0 then '-' else '+'
  point ++ 'e' :: sign :: Nat.toDigits 10 first.natAbs

/-- The text of a floating-point number. -/
def text (d : Double) : String :=
  let sign := if d.negative then ['-'] else []
  let body :=
    if d.mantissa = 0 then ['0', '.', '0']
    else
      let (digits, first) := shortest d
      if -5 ≤ first ∧ first ≤ 15 then positional digits first else scientific digits first
  String.ofList (sign ++ body)

end Polyglot.Double
