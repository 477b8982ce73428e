import Polyglot.Text.Pieces

/-!
# Punycode

A label of a domain name that has characters beyond the seven-bit range is written within it: its
seven-bit characters come first, and behind a hyphen numbers tell where each of the others, from the
smallest on, goes in. A number says how many ways of going in it passes over: the ways are counted
by the character, from `0x80` on, and then by the place. Numbers are written in base 36, lowest
digit first, and each digit has a threshold below which it is the last one; the thresholds follow
the size of the numbers before.
-/

set_option autoImplicit false

namespace Polyglot.Uri.Punycode

/-- The letter or decimal digit that stands for a digit of base 36. -/
def digit (n : Nat) : Char :=
  if n < 26 then Char.ofNat ('a'.toNat + n) else Char.ofNat ('0'.toNat + (n - 26))

/-- The digit of base 36 that a character stands for. -/
def digitValue? (c : Char) : Option Nat :=
  if c.isLower then some (c.toNat - 'a'.toNat)
  else if c.isUpper then some (c.toNat - 'A'.toNat)
  else if c.isDigit then some (c.toNat - '0'.toNat + 26)
  else none

/-- The threshold of the digit at a place, which counts in steps of 36. -/
def threshold (bias place : Nat) : Nat :=
  min 26 (max 1 (place - bias))

/-- No threshold is zero. -/
theorem threshold_pos (bias place : Nat) : 0 < threshold bias place := by
  unfold threshold; omega

/-- Every threshold is below the number of digits. -/
theorem threshold_lt (bias place : Nat) : threshold bias place < 36 := by
  unfold threshold; omega

/-- The bias after a number that has been scaled down. -/
def settle (n : Nat) : Nat :=
  if 455 < n then 36 + settle (n / 35) else 36 * n / (n + 38)
termination_by n

/-- The bias after a number, with which `count` characters are in place. -/
def adapt (n count : Nat) (isFirst : Bool) : Nat :=
  let scaled := if isFirst then n / 700 else n / 2
  settle (scaled + scaled / count)

/-- The digits of a number, from a place on. -/
def digitsFrom (bias place n : Nat) : List Char :=
  let t := threshold bias place
  if n < t then [digit n]
  else digit (t + (n - t) % (36 - t)) :: digitsFrom bias (place + 36) ((n - t) / (36 - t))
termination_by n
decreasing_by
  have := threshold_pos bias place
  have := threshold_lt bias place
  have := Nat.div_le_self (n - threshold bias place) (36 - threshold bias place)
  omega

/-- Where the writing of a label stands. -/
structure Writing where
  /-- The digits so far, in reverse. -/
  digits : List Char
  /-- How many ways the next character has passed over. -/
  passed : Nat
  bias : Nat
  /-- How many characters are in place. -/
  count : Nat
  isFirst : Bool

/-- The writing past a character of the label, for the way of `next`. -/
def Writing.step (next : Char) (w : Writing) (c : Char) : Writing :=
  if c < next then { w with passed := w.passed + 1 }
  else if c = next then
    { digits := (digitsFrom w.bias 36 w.passed).reverse ++ w.digits
      passed := 0
      bias := adapt w.passed (w.count + 1) w.isFirst
      count := w.count + 1
      isFirst := false }
  else w

/-- The writing of the characters in order, with `floor` the first code point not looked at. -/
def Writing.insert (label : List Char) : Writing → Nat → List Char → Writing
  | w, _, [] => w
  | w, floor, next :: rest =>
    let w := { w with passed := w.passed + (next.toNat - floor) * (w.count + 1) }
    let w := label.foldl (step next) w
    insert label { w with passed := w.passed + 1 } (next.toNat + 1) rest

/-- A label within the seven-bit range. -/
def encode (label : List Char) : List Char :=
  let plain := label.filter fun c => decide (c.toNat < 0x80)
  let others := (label.filter fun c => decide (0x80 ≤ c.toNat)).mergeSort (· ≤ ·)
  let w := Writing.insert label ⟨[], 0, 72, plain.length, true⟩ 0x80 others.eraseDups
  plain ++ (if plain.isEmpty then [] else ['-']) ++ w.digits.reverse

/-- Where the reading of a label stands. -/
structure Reading where
  label : List Char
  /-- The code point of the character that went in last. -/
  code : Nat
  /-- The place behind that character. -/
  place : Nat
  bias : Nat
  /-- The number so far, and the weight and the place of its next digit; none between numbers. -/
  number? : Option (Nat × Nat × Nat)

/-- The reading past a number, none if it leads to no character. -/
def Reading.enter? (r : Reading) (n : Nat) : Option Reading :=
  let count := r.label.length + 1
  let code := r.code + (r.place + n) / count
  let place := (r.place + n) % count
  if code.isValidChar then
    some { label := r.label.take place ++ Char.ofNat code :: r.label.drop place
           code := code
           place := place + 1
           bias := adapt n count (r.place == 0)
           number? := none }
  else none

/-- The reading past a digit. -/
def Reading.step? (r : Reading) (c : Char) : Option Reading := do
  let (n, weight, place) := r.number?.getD (0, 1, 36)
  let d ← digitValue? c
  let n := n + d * weight
  let t := threshold r.bias place
  if d < t then r.enter? n
  else return { r with number? := some (n, weight * (36 - t), place + 36) }

/-- The label that a text within the seven-bit range writes, none if it writes no label. -/
def decode? (cs : List Char) : Option (List Char) := do
  let (plain, digits) := (Text.cutAtLast? (· == '-') cs).getD ([], cs)
  let r ← digits.foldlM Reading.step? ⟨plain, 0x80, 0, 72, none⟩
  if r.number?.isSome then none else return r.label

end Polyglot.Uri.Punycode
