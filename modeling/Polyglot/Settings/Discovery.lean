import Polyglot.FileTree
import Polyglot.Settings.Basic

/-!
# Finding settings

Settings are looked for in a file `settings.toml`, first in a directory and the directories above
it, the nearest first, and then in the directories immediately inside it, in the order of their
names. The first such file decides, also if it cannot be read; then nothing is configured. Where
there is no such file, nothing is configured either, and the directory is the one from which the
search began.
-/

set_option autoImplicit false

namespace Polyglot.Settings

/-- The name of settings files. -/
def fileName : String :=
  "settings.toml"

/-- The settings in a file with the given bytes; a file that cannot be read configures nothing. -/
def ofBytes (bytes : List UInt8) : Settings :=
  match String.fromUTF8? ⟨bytes.toArray⟩ with
  | some text => (parse text).toOption.getD unset
  | none => unset

/-- The settings in the file at the end of a path. -/
def load (tree : FileTree) (path : Path) : Settings :=
  ((tree.read? path).map ofBytes).getD unset

/-- The settings in the settings file of a directory, if it has one. -/
def inDirectory? (tree : FileTree) (directory : Path) : Option (Settings × Path) :=
  (tree.read? (directory ++ [fileName])).map fun bytes => (ofBytes bytes, directory)

/-- The path of a directory inside another one. A slash at the end of the path is not doubled. -/
def inside (directory : Path) (name : String) : Path :=
  if directory.getLast? = some "" then directory.dropLast ++ [name] else directory ++ [name]

/-- The settings that hold in a directory, and the directory in which they were found. -/
def discover (tree : FileTree) (start : Path) : Settings × Path :=
  let inside := (tree.directoriesAt start).map (inside start)
  ((start.upward ++ inside).findSome? (inDirectory? tree)).getD (unset, start)

end Polyglot.Settings
