import Polyglot.Double.Basic

/-!
# JSON values

The messages of the protocol and their parts as JSON values. There are two sorts of numbers:
integers of 64 bits, with or without a sign, and floating-point numbers. How a number is written
decides its sort, so that `1.0` is not the integer `1`. An object keeps the order of its fields.
-/

set_option autoImplicit false

namespace Polyglot

/-- A JSON value. -/
inductive Json where
  | null
  | bool (value : Bool)
  | integer (value : Int)
  | real (value : Double)
  | string (value : String)
  | array (items : List Json)
  | object (fields : List (String × Json))

namespace Json

instance : Inhabited Json where
  default := null

/-- A natural number as an integer. -/
def nat (n : Nat) : Json :=
  .integer n

/-- A value, or null where there is none. -/
def orNull : Option Json → Json
  | some value => value
  | none => .null

/-- An object of the fields that have a value. -/
def ofFields (fields : List (String × Option Json)) : Json :=
  .object (fields.filterMap fun f => f.2.map fun value => (f.1, value))

/-- The value of a field of an object; of several the last counts. -/
def field? (key : String) : Json → Option Json
  | .object fields => (fields.reverse.find? fun f => decide (f.1 = key)).map Prod.snd
  | _ => none

/-- The value at the end of keys, null where there is none. -/
def at? (value : Json) : List String → Option Json
  | [] => some value
  | key :: keys => (value.field? key).bind fun inner => inner.at? keys

/-- A text. -/
def string? : Json → Option String
  | .string value => some value
  | _ => none

/-- An integer that is not negative. -/
def nat? : Json → Option Nat
  | .integer value => if 0 ≤ value then some value.toNat else none
  | _ => none

/-- An integer. -/
def int? : Json → Option Int
  | .integer value => some value
  | _ => none

/-- Whether an integer is a natural number of 32 bits. -/
def isWord (n : Int) : Bool :=
  decide (0 ≤ n ∧ n < 4294967296)

/-- Whether an integer has 32 bits with its sign. -/
def isSignedWord (n : Int) : Bool :=
  decide (-2147483648 ≤ n ∧ n < 2147483648)

/-- A natural number of 32 bits. -/
def word? (value : Json) : Option Nat :=
  value.nat?.filter fun n => decide (n < 4294967296)

/-- The items of an array. -/
def array? : Json → Option (List Json)
  | .array items => some items
  | _ => none

end Json

end Polyglot
