/-!
# TOML tables

A TOML document is a table of values under keys. How a table came about decides what may still be
put into it: a table that was only passed by a header may be defined by a later one, dotted keys
add to the tables that dotted keys made, and nothing adds to a table that is written in braces.

`Table.alter` changes the table at the end of a path, `Table.define` and `Table.append` carry out
headers, and `Table.assign` puts a value under a dotted key.
-/

set_option autoImplicit false

namespace Polyglot.Toml

/-- How a table came about. -/
inductive Origin where
  /-- It is the document, or a header defines it. -/
  | header
  /-- It lies on the way of a header to a table inside it. -/
  | passed
  /-- It lies on the way of a dotted key. -/
  | dotted
  /-- It is written in braces. -/
  | braces
deriving DecidableEq, Repr

/-- A TOML value. Numbers and dates are not kept, for no settings use them. -/
inductive Value where
  | string (text : String)
  | number
  | date
  | boolean (value : Bool)
  | array (items : List Value)
  | table (origin : Origin) (entries : List (String × Value))
  /-- The tables of all headers in double brackets with one path. -/
  | tables (items : List (List (String × Value)))

/-- A table: how it came about, and its entries in order. -/
structure Table where
  origin : Origin
  entries : List (String × Value)

namespace Table

/-- The table of a document before its first line. -/
def root : Table :=
  ⟨.header, []⟩

/-- The value under a key. -/
def find? (t : Table) (key : String) : Option Value :=
  (t.entries.find? fun e => decide (e.1 = key)).map Prod.snd

/-- The entries with a value under a key, in the key's place or at the end. -/
def putInto (key : String) (value : Value) :
    List (String × Value) → List (String × Value)
  | [] => [(key, value)]
  | e :: es => if e.1 = key then (key, value) :: es else e :: putInto key value es

/-- The table with a value under a key. -/
def put (t : Table) (key : String) (value : Value) : Table :=
  { t with entries := putInto key value t.entries }

/-- The table as a value. -/
def toValue (t : Table) : Value :=
  .table t.origin t.entries

/-- Whether a path may lead into a table of this origin. A dotted key may not lead into one that a
header defines, and nothing leads into braces. -/
def admits (byDots : Bool) : Origin → Bool
  | .header => !byDots
  | .passed | .dotted => true
  | .braces => false

/-- Changes the table at the end of a path and makes the tables on the way that are missing. Of a
list of tables the path leads into the last. -/
def alter (byDots : Bool) (change : Table → Option Table) : List String → Table → Option Table
  | [], t => change t
  | key :: path, t => do
    let value ←
      match t.find? key with
      | none =>
        let inner ← alter byDots change path ⟨if byDots then .dotted else .passed, []⟩
        pure inner.toValue
      | some (.table origin entries) =>
        if admits byDots origin then
          let inner ← alter byDots change path ⟨origin, entries⟩
          pure inner.toValue
        else none
      | some (.tables items) =>
        let last ← items.getLast?
        let inner ← alter byDots change path ⟨.header, last⟩
        pure (.tables (items.dropLast ++ [inner.entries]))
      | some _ => none
    return t.put key value

/-- Defines the table of a header in single brackets, which must not be defined yet. -/
def define (path : List String) (key : String) (t : Table) : Option Table :=
  t.alter false (fun parent =>
    match parent.find? key with
    | none => some (parent.put key (.table .header []))
    | some (.table .passed entries) => some (parent.put key (.table .header entries))
    | some _ => none) path

/-- Adds the table of a header in double brackets to the tables of its path. -/
def append (path : List String) (key : String) (t : Table) : Option Table :=
  t.alter false (fun parent =>
    match parent.find? key with
    | none => some (parent.put key (.tables [[]]))
    | some (.tables items) => some (parent.put key (.tables (items ++ [[]])))
    | some _ => none) path

/-- Puts a value under a dotted key. The key must be new, and its table must be one that dotted
keys made exactly if the key has a dot. -/
def assign (path : List String) (key : String) (value : Value) (t : Table) : Option Table :=
  t.alter true (fun inner =>
    if decide (inner.origin = .dotted) == path.isEmpty then none
    else if (inner.find? key).isSome then none
    else some (inner.put key value)) path

end Table

end Polyglot.Toml
