import Polyglot.Json.Compact
import Polyglot.Text.Quoted

/-!
# Shapes of JSON values

A shape says which JSON values stand for something: a number, a text, a record of fields. Reading
a value by its shape gives its plain form, or the first reason why it has not that shape.

A record is written as an object or, in the order of its fields, as an array; its plain form is
an object of the fields that it has. The fields of an object are read in the order in which they
stand there, and only then the missing ones are found, in the order of the record. A record that
is merged from several parts is written as an object only. The fields of its parts are gathered
first, and a value that was gathered differs from others in one error text only.
-/

set_option autoImplicit false

namespace Polyglot

/-- Why a value has not a shape. -/
inductive Mismatch where
  | wrongType (found : Json) (expected : String)
  | wrongValue (found : Json) (expected : String)
  | wrongLength (length : Nat) (expected : String)
  | missingField (key : String)
  | unknownName (name : String) (known : List String)
  | noAlternative (name : String)
  | unreadable (reason text : String)

namespace Mismatch

/-- What a value is, for an error text. -/
def describe : Json → String
  | .null => "null"
  | .bool value => "boolean `" ++ (if value then "true" else "false") ++ "`"
  | .integer value => "integer `" ++ Json.integerText value ++ "`"
  | .real value => "floating point `" ++ value.text ++ "`"
  | .string value => "string " ++ Text.quoted value
  | .array _ => "sequence"
  | .object _ => "map"

/-- The names that are known, for an error text. -/
def knownText : List String → String
  | [] => "there are no variants"
  | [one] => "expected `" ++ one ++ "`"
  | [one, other] => "expected `" ++ one ++ "` or `" ++ other ++ "`"
  | names => "expected one of " ++ ", ".intercalate (names.map fun name => "`" ++ name ++ "`")

/-- The text of a mismatch. -/
def message : Mismatch → String
  | wrongType found expected => "invalid type: " ++ describe found ++ ", expected " ++ expected
  | wrongValue found expected => "invalid value: " ++ describe found ++ ", expected " ++ expected
  | wrongLength length expected =>
    "invalid length " ++ Text.decimal length ++ ", expected " ++ expected
  | missingField key => "missing field `" ++ key ++ "`"
  | unknownName name known => "unknown variant `" ++ name ++ "`, " ++ knownText known
  | noAlternative name => "data did not match any variant of untagged enum " ++ name
  | unreadable reason text => reason ++ ": " ++ Text.quoted text

end Mismatch

/-- Whether a value stands where it was written or was gathered for a part of a record. -/
inductive Place where
  | written
  | gathered
deriving DecidableEq, Repr

/-- A shape, given by how values are read by it. -/
structure Shape where
  read : Place → Json → Except Mismatch Json

/-- Where a field may be missing. -/
inductive Presence where
  | required
  | optionalInObject
  | optional
deriving DecidableEq, Repr

/-- A field of a record. -/
structure Field where
  key : String
  shape : Shape
  presence : Presence

namespace Shape

instance : Inhabited Shape where
  default := ⟨fun _ value => .ok value⟩

/-- Every value. -/
def any : Shape where
  read := fun _ value => .ok value

/-- Null only. -/
def unit : Shape where
  read := fun _ value =>
    match value with
    | .null => .ok .null
    | other => .error (.wrongType other "unit")

/-- A truth value. -/
def boolean : Shape where
  read := fun _ value =>
    match value with
    | .bool b => .ok (.bool b)
    | other => .error (.wrongType other "a boolean")

/-- A text. -/
def text : Shape where
  read := fun _ value =>
    match value with
    | .string s => .ok (.string s)
    | other => .error (.wrongType other "a string")

/-- An integer of the class that the name stands for. -/
def integer (holds : Int → Bool) (name : String) : Shape where
  read := fun _ value =>
    match value with
    | .integer n => if holds n then .ok (.integer n) else .error (.wrongValue (.integer n) name)
    | other => .error (.wrongType other name)

/-- A natural number of 32 bits. -/
def word : Shape :=
  integer Json.isWord "u32"

/-- An integer of 32 bits with its sign. -/
def signedWord : Shape :=
  integer Json.isSignedWord "i32"

/-- A number of either sort. -/
def number : Shape where
  read := fun _ value =>
    match value with
    | .integer n => .ok (.integer n)
    | .real d => .ok (.real d)
    | other => .error (.wrongType other "f32")

/-- Null, or a value of the shape. -/
def nullable (s : Shape) : Shape where
  read := fun place value =>
    match value with
    | .null => .ok .null
    | other => s.read place other

/-- A list of values of the shape. -/
def list (s : Shape) : Shape where
  read := fun place value =>
    match value with
    | .array items => (items.mapM (s.read place)).map .array
    | other => .error (.wrongType other "a sequence")

/-- Exactly so many values of the shape. -/
def tuple (count : Nat) (s : Shape) : Shape where
  read := fun place value =>
    match value with
    | .array items =>
      if items.length = count then (items.mapM (s.read place)).map .array
      else .error (.wrongLength items.length ("an array of length " ++ Text.decimal count))
    | other => .error (.wrongType other ("an array of length " ++ Text.decimal count))

/-- An object with keys and values of the two shapes. -/
def dictionary (expected : String) (key value : Shape) : Shape where
  read := fun place found =>
    match found with
    | .object fields => do
      let fields ← fields.mapM fun f => do
        let _ ← key.read place (.string f.1)
        return (f.1, ← value.read place f.2)
      return .object fields
    | other => .error (.wrongType other expected)

/-- One of several names, as a text or as the only key of an object, which has null under it. -/
def choice (names : List String) : Shape where
  read := fun place value =>
    let named (name : String) : Except Mismatch Json :=
      if names.contains name then .ok (.string name) else .error (.unknownName name names)
    match value with
    | .string name => named name
    | .object [(name, inner)] => do
      let chosen ← named name
      let _ ← unit.read place inner
      return chosen
    | .object fields => .error (.wrongValue (.object fields) "map with a single key")
    | other => .error (.wrongType other "string or map")

/-- The plain form of the first shape that a value has. -/
def firstOf (place : Place) (value : Json) : List Shape → Option Json
  | [] => none
  | s :: shapes =>
    match s.read place value with
    | .ok plain => some plain
    | .error _ => firstOf place value shapes

/-- A value of one of several shapes. Why it has none of them is not told. -/
def oneOf (name : String) (shapes : List Shape) : Shape where
  read := fun _ value =>
    match firstOf .gathered value shapes with
    | some plain => .ok plain
    | none => .error (.noAlternative name)

/-- A count with a word that it counts. -/
def counted (count : Nat) (word : String) : String :=
  Text.decimal count ++ " " ++ word ++ (if count = 1 then "" else "s")

/-- The fields of an object that a record has, read in the order of the object. -/
def readFields (place : Place) (fields : List Field) :
    List (String × Json) → Except Mismatch (List (String × Json))
  | [] => .ok []
  | (key, value) :: entries =>
    match fields.find? fun f => decide (f.key = key) with
    | none => readFields place fields entries
    | some f => do
      let plain ← f.shape.read place value
      return (key, plain) :: (← readFields place fields entries)

/-- Finds the first required field that is missing. -/
def requireFields (found : List (String × Json)) : List Field → Except Mismatch Unit
  | [] => .ok ()
  | f :: fields =>
    if f.presence = .required ∧ found.all fun e => decide (e.1 ≠ f.key) then
      .error (.missingField f.key)
    else requireFields found fields

/-- The fields of a record that is written as an object. -/
def readObject (place : Place) (fields : List Field) (entries : List (String × Json)) :
    Except Mismatch (List (String × Json)) := do
  let found ← readFields place fields entries
  requireFields found fields
  return found

/-- The fields of a record that is written as an array. The number is that of the fields before
those in the list. -/
def readItems (place : Place) (expected : String) (before : Nat) :
    List Field → List Json → Except Mismatch (List (String × Json))
  | [], [] => .ok []
  | [], rest =>
    .error (.wrongLength (before + rest.length)
      (match place with
        | .written => "fewer elements in array"
        | .gathered => counted before "element" ++ " in sequence"))
  | f :: fields, [] =>
    if f.presence = .optional then readItems place expected (before + 1) fields []
    else .error (.wrongLength before expected)
  | f :: fields, item :: items => do
    let plain ← f.shape.read place item
    return (f.key, plain) :: (← readItems place expected (before + 1) fields items)

/-- A record of fields under a name. -/
def record (name : String) (fields : List Field) : Shape where
  read := fun place value =>
    let expected := "struct " ++ name
    match value with
    | .object entries => (readObject place fields entries).map .object
    | .array items =>
      let whole := expected ++ " with " ++ counted fields.length "element"
      (readItems place whole 0 fields items).map .object
    | other => .error (.wrongType other expected)

/-- A part of a merged record: fields, or everything that is not a field of the record itself. -/
inductive Part where
  | fields (fields : List Field)
  | rest (shape : Shape)

/-- Reads a part from what was gathered. -/
def readPart (entries : List (String × Json)) :
    Part → Except Mismatch (List (String × Json))
  | .fields fields => readObject .gathered fields entries
  | .rest s => entries.mapM fun e => do return (e.1, ← s.read .gathered e.2)

/-- Whether a list of fields has a key. -/
def hasKey (fields : List Field) (key : String) : Bool :=
  fields.any fun f => decide (f.key = key)

/-- A record of fields of its own, into which parts are merged. -/
def merged (name : String) (own : List Field) (parts : List Part) : Shape where
  read := fun _ value =>
    match value with
    | .object entries => do
      let found ← readObject .written own entries
      let gathered := entries.filter fun e => !hasKey own e.1
      let others ← parts.mapM (readPart gathered)
      return .object (found ++ others.flatten)
    | other => .error (.wrongType other ("struct " ++ name))

end Shape

namespace Field

/-- A field that must be there. -/
def required (key : String) (shape : Shape) : Field :=
  ⟨key, shape, .required⟩

/-- A field that may be null, or missing from an object. -/
def nullable (key : String) (shape : Shape) : Field :=
  ⟨key, shape.nullable, .optionalInObject⟩

/-- A field that may be missing but not null. -/
def optional (key : String) (shape : Shape) : Field :=
  ⟨key, shape, .optional⟩

end Field

end Polyglot
