/-!
# Floating-point numbers

A floating-point number of 64 bits that is finite: a sign, and a mantissa of at most 53 bits times
a power of two. A positive rational number is rounded to the nearest of them; of two that are
equally near, the one with the even mantissa is taken.
-/

set_option autoImplicit false

namespace Polyglot

/-- A finite floating-point number of 64 bits. Its size is `mantissa * 2 ^ exponent`. -/
structure Double where
  negative : Bool
  mantissa : Nat
  exponent : Int
deriving DecidableEq, Repr

namespace Double

/-- The least exponent. -/
def leastExponent : Int :=
  -1074

/-- The greatest exponent. -/
def greatestExponent : Int :=
  971

/-- The first number with more bits than a mantissa has. -/
def mantissaBound : Nat :=
  Nat.pow 2 53

/-- Zero, with either sign. -/
def zero (negative : Bool) : Double :=
  ⟨negative, 0, leastExponent⟩

/-- The power of two as a quotient. -/
def powerOfTwo (e : Int) : Nat × Nat :=
  (Nat.pow 2 e.toNat, Nat.pow 2 (-e).toNat)

/-- The natural number nearest to a quotient, the even one of two. -/
def roundQuotient (num den : Nat) : Nat :=
  let q := num / den
  let twice := 2 * (num % den)
  if den < twice ∨ (twice = den ∧ q % 2 = 1) then q + 1 else q

/-- The quotient, rounded, in units of a power of two. -/
def roundTo (e : Int) (num den : Nat) : Nat :=
  let (up, down) := powerOfTwo e
  roundQuotient (num * down) (den * up)

/-- The exponent for a positive quotient: the least that keeps the mantissa within its bits. -/
def exponentFor (num den : Nat) : Int :=
  let guess : Int := (num.log2 : Int) - (den.log2 : Int) - 53
  let (up, down) := powerOfTwo guess
  let fits := num * down < mantissaBound * (den * up)
  max leastExponent (if fits then guess else guess + 1)

/-- The floating-point number nearest to a quotient with a sign, none if it is too large. -/
def ofQuotient? (negative : Bool) (num den : Nat) : Option Double :=
  if num = 0 then some (zero negative)
  else
    let e := exponentFor num den
    let m := roundTo e num den
    let (m, e) := if m = mantissaBound then (m / 2, e + 1) else (m, e)
    if greatestExponent < e then none else some ⟨negative, m, e⟩

/-- The floating-point number nearest to decimal digits times a power of ten, none if it is too
large. Numbers far beyond either end of the range are told by the count of their digits. -/
def ofDecimal? (negative : Bool) (digits : Nat) (power : Int) : Option Double :=
  let count : Int := (Nat.toDigits 10 digits).length
  if digits = 0 ∨ count + power < -400 then some (zero negative)
  else if 400 < count + power then none
  else ofQuotient? negative (digits * Nat.pow 10 power.toNat) (Nat.pow 10 (-power).toNat)

end Double

end Polyglot
