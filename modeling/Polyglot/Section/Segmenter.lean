import Polyglot.Section.Basic

/-!
# Segmentation

The segmenter splits a text into sections. Blank space apart, a declaration line is `###` followed
by a name of word characters. Each declaration opens a section that runs to the line before the
next one. Lines before the first declaration make an implicit section in the default grammar if
one of them is not blank; blank ones are counted to the first declared section. A text without
declarations is one implicit section.

The empty line behind a break at the end of the text belongs to no section, and neither does a line
that the number of lines does not reach as it wraps around.
-/

set_option autoImplicit false

namespace Polyglot

/-- The grammar of implicit sections where nothing else is configured. -/
def defaultGrammar : String :=
  "Pure"

/-- The grammar that a line declares: its content without blanks is `###` and a name. -/
def declaredGrammar? (content : List Char) : Option String :=
  match Text.trim Text.isBlank content with
  | '#' :: '#' :: '#' :: name =>
    if !name.isEmpty && name.all Text.isWord then some (String.ofList name) else none
  | _ => none

/-- A line that declares a grammar. -/
structure DeclarationLine where
  line : Nat
  grammar : String
deriving DecidableEq, Repr

namespace LineIndex

/-- The last line that belongs to a section: not the empty one behind a last break. It is found
from the number of lines, and wraps around with it. -/
def lastSectionLine (index : LineIndex) : Nat :=
  if 0 < index.lastCountedLine && index.hasTrailingBreak then index.lastCountedLine - 1
  else index.lastCountedLine

/-- What a line declares, if anything. -/
def declarationAt? (index : LineIndex) (line : Nat) : Option DeclarationLine := do
  let content ← (index.contentChars line).toOption
  let grammar ← declaredGrammar? content
  return ⟨line, grammar⟩

/-- Whether a line of the text has a character that is not blank. -/
def hasContent (index : LineIndex) (line : Nat) : Bool :=
  match index.contentChars line with
  | .ok content => !(Text.trim Text.isBlank content).isEmpty
  | .error _ => false

/-- The declarations of a text, from top to bottom. -/
def declarations (index : LineIndex) : List DeclarationLine :=
  (List.range (index.lastSectionLine + 1)).filterMap index.declarationAt?

end LineIndex

/-- Splits texts; sections without a declaration get the default grammar. -/
structure Segmenter where
  grammar : String
deriving DecidableEq, Repr

namespace Segmenter

instance : Inhabited Segmenter :=
  ⟨⟨defaultGrammar⟩⟩

/-- The implicit section from the first line of the text. -/
def implicit (segmenter : Segmenter) (stop : Nat) : Section :=
  ⟨segmenter.grammar, 0, stop, none⟩

/-- The sections of the declarations: the first one starts at `start`, the others where they are
declared, and each ends before the next declaration or at the last line. -/
def declared (last : Nat) : Nat → List DeclarationLine → List Section
  | _, [] => []
  | start, [d] => [⟨d.grammar, start, last, some d.line⟩]
  | start, d :: e :: ds =>
    ⟨d.grammar, start, e.line - 1, some d.line⟩ :: declared last e.line (e :: ds)

/-- The sections of a text, in order. -/
def segment (segmenter : Segmenter) (index : LineIndex) : List Section :=
  let last := index.lastSectionLine
  match index.declarations with
  | [] => [segmenter.implicit last]
  | first :: rest =>
    if (List.range first.line).any index.hasContent then
      segmenter.implicit (first.line - 1) :: declared last first.line (first :: rest)
    else declared last 0 (first :: rest)

end Segmenter

end Polyglot
