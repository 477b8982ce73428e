import Polyglot.Text.Classes
import Polyglot.Text.Pieces
import Polyglot.Uri.Escape

/-!
# Paths of URIs

A divided path is a list of names, each behind a slash. Reading it carries out the names that mean
the directory itself and the one above. A name that is a drive letter is never climbed over; at the
root of a file path it is written with a colon and leaves no room for a host, and a break that is
skipped behind it ends it.
-/

set_option autoImplicit false

namespace Polyglot.Uri

/-- Whether a character inside a URI counts for nothing: a tab or a break. -/
def isSkipped (c : Char) : Bool :=
  c == '\t' || Text.isBreak c

/-- The characters that count. -/
def visible (cs : List Char) : List Char :=
  cs.filter fun c => !isSkipped c

/-- Whether a name is a drive letter with a colon or a bar. -/
def isDrive : List Char → Bool
  | [c, d] => c.isAlpha && (d == ':' || d == '|')
  | _ => false

/-- Whether a name starts as one that is not climbed over. -/
def startsWithDrive (name : List Char) : Bool :=
  isDrive (name.take 2) && (name.length == 2 || (name.drop 2).head? == some '\\')

/-- Whether a name means the directory itself. -/
def isDot (name : List Char) : Bool :=
  name.map Char.toLower ∈ [".".toList, "%2e".toList]

/-- Whether a name means the directory above. -/
def isDoubleDot (name : List Char) : Bool :=
  name.map Char.toLower ∈
    ["..".toList, ".%2e".toList, "%2e.".toList, "%2e%2e".toList]

/-- The names, in reverse, of the directory above. -/
def climb : List (List Char) → List (List Char)
  | [] => []
  | name :: above => if startsWithDrive name then name :: above else above

/-- What is behind a drive letter with its colon and a break that ends it. -/
def behindDriveBreak? (piece : List Char) : Option (Char × List Char) :=
  match piece.dropWhile isSkipped with
  | [] => none
  | letter :: rest =>
    match rest.dropWhile isSkipped with
    | ':' :: c :: rest =>
      let back := visible rest
      if letter.isAlpha && isSkipped c && !back.isEmpty then some (letter, back) else none
    | _ => none

/-- The names along a path. -/
structure Walk where
  /-- The names, in reverse. -/
  names : List (List Char)
  /-- Whether a drive letter stands at the root, so that there is no host. -/
  startsAtDrive : Bool

/-- The walk with a piece that is a name. -/
def enter (isFile : Bool) (w : Walk) (piece : List Char) : Walk :=
  let name := visible piece
  let atRoot := isFile && w.names.isEmpty
  if atRoot && isDrive name then ⟨[name.take 1 ++ [':']], true⟩
  else
    match behindDriveBreak? piece with
    | some (letter, back) =>
      if atRoot then { w with names := [escape escapedInPath back, [letter, ':']] }
      else { w with names := escape escapedInPath name :: w.names }
    | none => { w with names := escape escapedInPath name :: w.names }

/-- The walk along pieces between slashes. A path that ends in a directory has an empty name at its
end. -/
def follow (isFile : Bool) : Walk → List (List Char) → Walk
  | w, [] => { w with names := w.names.reverse }
  | w, piece :: pieces =>
    let name := visible piece
    let ended (names : List (List Char)) := if pieces.isEmpty then [] :: names else names
    let w' :=
      if isDoubleDot name then { w with names := ended (climb w.names) }
      else if isDot name then { w with names := ended w.names }
      else enter isFile w piece
    follow isFile w' pieces

/-- The names without empty ones at the start, but for the last. -/
def dropEmpty : List (List Char) → List (List Char)
  | [] :: next :: rest => dropEmpty (next :: rest)
  | names => names

/-- The walk along the pieces of a text between its slashes. A file path has no empty names at its
start. -/
def walk (isFile : Bool) (isSlash : Char → Bool) (text : List Char) : Walk :=
  let w := follow isFile ⟨[], false⟩ (Text.splitAt isSlash text)
  if isFile then { w with names := dropEmpty w.names } else w

/-- The text behind a slash at its start. -/
def behindSlash (isSlash : Char → Bool) (text : List Char) : List Char :=
  match text.dropWhile isSkipped with
  | [] => []
  | c :: cs => if isSlash c then cs else c :: cs

end Polyglot.Uri
