import Polyglot.Toml.Lexeme
import Polyglot.Toml.Value

/-!
# TOML documents

A document is read line by line: headers open tables, and the other lines put values under keys
into the table opened last. The reader takes version 1.0 of the format, refuses every text that is
not in it, and keeps the values of no numbers and dates.
-/

set_option autoImplicit false

namespace Polyglot.Toml

/-- A key, an equals sign and a value. -/
structure Assignment where
  path : List String
  key : String
  value : Value

/-- The rest of an array: items with commas between them, perhaps one behind the last. -/
def items? (item : Reader Value) (cs : List Char) : Option (List Value × List Char) := do
  match ← skipLines? false cs with
  | ']' :: rest => return ([], rest)
  | start =>
    let (value, rest) ← item start
    match ← skipLines? false rest with
    | ']' :: rest => return ([value], rest)
    | ',' :: rest =>
      if rest.length < cs.length then
        let (values, rest) ← items? item rest
        return (value :: values, rest)
      else none
    | _ => none
termination_by cs.length

/-- A value under a key. -/
def assignment? (item : Reader Value) (cs : List Char) : Option (Assignment × List Char) := do
  let ((path, key), rest) ← key? cs
  match rest with
  | '=' :: rest =>
    let (value, rest) ← item (skipSpaces rest)
    return (⟨path, key, value⟩, rest)
  | _ => none

/-- The rest of a table in braces behind its first value: further ones behind commas. -/
def moreAssignments? (item : Reader Value) (t : Table) (cs : List Char) :
    Option (Table × List Char) := do
  let (a, rest) ← assignment? item cs
  let t ← t.assign a.path a.key a.value
  match skipSpaces rest with
  | '\x7d' :: rest => return (t, rest)
  | ',' :: rest => if rest.length < cs.length then moreAssignments? item t rest else none
  | _ => none
termination_by cs.length

/-- The rest of a table in braces, on one line and without a comma behind the last value. -/
def braces? (item : Reader Value) (cs : List Char) : Option (Value × List Char) :=
  let empty : Table := ⟨.braces, []⟩
  match skipSpaces cs with
  | '\x7d' :: rest => some (empty.toValue, rest)
  | rest => (moreAssignments? item empty rest).map fun (t, rest) => (t.toValue, rest)

/-- A value with at most so many levels of arrays and braces. -/
def value? : Nat → Reader Value
  | depth, cs =>
    match cs with
    | [] => none
    | c :: rest =>
      if c = '"' ∨ c = '\'' then
        (string? cs).map fun (text, rest) => (.string (String.ofList text), rest)
      else if c = '[' then
        match depth with
        | 0 => none
        | depth + 1 => (items? (value? depth) rest).map fun (values, rest) => (.array values, rest)
      else if c = '\x7b' then
        match depth with
        | 0 => none
        | depth + 1 => braces? (value? depth) rest
      else match cs with
        | 't' :: 'r' :: 'u' :: 'e' :: rest => some (.boolean true, rest)
        | 'f' :: 'a' :: 'l' :: 's' :: 'e' :: rest => some (.boolean false, rest)
        | _ =>
          match date? cs with
          | some (_, rest) => some (.date, rest)
          | none => (number? cs).map fun (_, rest) => (.number, rest)

/-- A document while it is read: all that was read, and the path of the table opened last. -/
structure Reading where
  root : Table
  path : List String

/-- A header in brackets, of which the opening ones are already taken. -/
def header? (double : Bool) (r : Reading) (cs : List Char) : Option (Reading × List Char) := do
  let ((path, key), rest) ← key? cs
  let rest ←
    match double, rest with
    | true, ']' :: ']' :: rest => some rest
    | false, ']' :: rest => some rest
    | _, _ => none
  let root ← if double then r.root.append path key else r.root.define path key
  return (⟨root, path ++ [key]⟩, rest)

/-- What stands on a line behind its blanks, up to the blanks in front of a comment. -/
def line? (r : Reading) (cs : List Char) : Option (Reading × List Char) :=
  match cs with
  | '[' :: '[' :: rest => header? true r rest
  | '[' :: rest => header? false r rest
  | _ => do
    let (a, rest) ← assignment? (value? (depthLimit - 1)) cs
    let root ← r.root.alter false (Table.assign a.path a.key a.value) r.path
    return (⟨root, r.path⟩, rest)

/-- Whether a line has nothing on it but blanks and a comment. -/
def isEmptyLine : List Char → Bool
  | [] => true
  | c :: _ => c == '#' || c == '\n' || c == '\r'

/-- Reads the lines of a document. -/
def lines? (r : Reading) (cs : List Char) : Option Table := do
  let start := skipSpaces cs
  let (r, rest) ← if isEmptyLine start then some (r, start) else line? r start
  let rest ← afterLine? rest
  if rest.isEmpty then return r.root
  else if rest.length < cs.length then lines? r rest
  else none
termination_by cs.length

/-- The table of a document. A byte order mark at the front counts for nothing. -/
def parse? (text : String) : Option Table :=
  let cs := match text.toList with
    | '\ufeff' :: cs => cs
    | cs => cs
  lines? ⟨.root, []⟩ cs

end Polyglot.Toml
