/-!
# File trees

A file tree is a directory with files and directories in it, as far down as it goes. A path is a
text with slashes, taken as the list of what stands between them. An empty name and a single dot
mean the directory itself, and the name `..` leads to the directory that really is above, so what
is in front of them must be a directory. The parent of a path, in contrast, is the path without
its last name, whatever that is; it keeps the spelling of the rest.

Every path is read from the top of a tree, as if it began with a slash. A file system that reads a
path from a working directory answers differently at two places: there the parent of `./a` is `.`,
where it is the empty path here, and the empty path names no directory, where it names the top here.
-/

set_option autoImplicit false

namespace Polyglot

/-- A file with its bytes, or a directory with what its names stand for. -/
inductive FileTree where
  | file (bytes : List UInt8)
  | directory (entries : List (String × FileTree))

/-- What stands between the slashes of a text, from the top of a tree. -/
abbrev Path :=
  List String

namespace Path

/-- The path of a text. -/
def ofText (text : String) : Path :=
  text.splitOn "/"

/-- Whether a part of a path is a name and does not stand for the directory itself. -/
def isName (part : String) : Bool :=
  decide (part ≠ "" ∧ part ≠ ".")

/-- A path in reverse without what stands behind its last name. -/
def dropBlanks (reversed : List String) : List String :=
  reversed.dropWhile fun part => !isName part

/-- A path and all paths above it, in reverse, the nearest first. -/
def upwardFrom : List String → List (List String)
  | [] => [[]]
  | part :: parts => if isName part then (part :: parts) :: upwardFrom parts else upwardFrom parts

/-- A path and all paths above it, the nearest first. -/
def upward (path : Path) : List Path :=
  (upwardFrom path.reverse).map List.reverse

/-- The text of a path without what means nothing at its ends. -/
def text (path : Path) : String :=
  "/".intercalate (dropBlanks (dropBlanks path.reverse).reverse)

end Path

namespace FileTree

/-- The directory without entries. -/
def empty : FileTree :=
  .directory []

/-- What a name stands for in a list of entries. -/
def lookup (name : String) (entries : List (String × FileTree)) : Option FileTree :=
  (entries.find? fun e => decide (e.1 = name)).map Prod.snd

/-- Follows a path from a place in the tree, of which the directories above are given, the nearest
first. There is nothing above the top but the top. -/
def follow (above : List FileTree) (here : FileTree) : List String → Option FileTree
  | [] => some here
  | name :: names =>
    match here with
    | .file _ => none
    | .directory entries =>
      if !Path.isName name then follow above here names
      else if name = ".." then
        match above with
        | [] => follow [] here names
        | parent :: above => follow above parent names
      else
        match lookup name entries with
        | some child => follow (here :: above) child names
        | none => none

/-- What is at the end of a path. -/
def find? (tree : FileTree) (path : Path) : Option FileTree :=
  follow [] tree path

/-- The bytes of the file at the end of a path, if there is a file. -/
def read? (tree : FileTree) (path : Path) : Option (List UInt8) :=
  match tree.find? path with
  | some (.file bytes) => some bytes
  | _ => none

/-- The names of the directories in the directory at the end of a path, sorted. -/
def directoriesAt (tree : FileTree) (path : Path) : List String :=
  match tree.find? path with
  | some (.directory entries) =>
    let names := entries.filterMap fun e =>
      match e.2 with
      | .directory _ => some e.1
      | .file _ => none
    names.mergeSort fun a b => decide (a ≤ b)
  | _ => []

/-- The entries with something under a name, in the name's place or at the end. -/
def putInto (name : String) (child : FileTree) :
    List (String × FileTree) → List (String × FileTree)
  | [] => [(name, child)]
  | e :: es => if e.1 = name then (name, child) :: es else e :: putInto name child es

/-- Puts something at the end of names, with the directories on the way that are missing. A file
on the way is replaced by a directory. -/
def put (content : FileTree) : List String → FileTree → FileTree
  | [], _ => content
  | name :: names, tree =>
    let entries := match tree with
      | .directory entries => entries
      | .file _ => []
    .directory (putInto name (put content names ((lookup name entries).getD empty)) entries)

/-- The tree with a file at the end of a path. -/
def write (tree : FileTree) (path : Path) (bytes : List UInt8) : FileTree :=
  put (.file bytes) (path.filter Path.isName) tree

/-- The tree with a directory at the end of a path; one that is there keeps its entries. -/
def makeDirectory (tree : FileTree) (path : Path) : FileTree :=
  match tree.find? path with
  | some (.directory _) => tree
  | _ => put empty (path.filter Path.isName) tree

end FileTree

end Polyglot
