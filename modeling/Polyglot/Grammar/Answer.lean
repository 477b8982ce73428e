import Polyglot.Position

/-!
# Answers of a grammar

What the handler of a grammar finds in a section or offers for it: declared entities, diagnostics,
completions and commands. Locations are those of the whole document.
-/

set_option autoImplicit false

namespace Polyglot

/-- A named entity that a section declares, with the entities inside it. -/
structure Declaration where
  identifier : String
  kind : String
  location : Location
  children : List Declaration

/-- How grave a diagnostic is. -/
inductive Severity where
  | error
  | warning
  | information
  | hint
deriving DecidableEq, Repr

/-- The stage of processing that found a fault. -/
inductive Stage where
  | parser
  | compiler
deriving DecidableEq, Repr

/-- A fault found in a section. -/
structure Diagnostic where
  location : Location
  severity : Severity
  message : String
  stage : Stage
deriving DecidableEq, Repr

/-- A text offered at a position. -/
structure Completion where
  label : String
  detail : Option String
  insertText : Option String
deriving DecidableEq, Repr

/-- A command offered for a section. -/
structure Command where
  id : String
  title : String
deriving DecidableEq, Repr

/-- How a command ended. -/
inductive CommandOutcome where
  | completed (message : String)
  | cancelled
  | failed (message : String)
deriving DecidableEq, Repr

namespace Stage

/-- The stage as diagnostics name it. -/
def label : Stage → String
  | parser => "parser"
  | compiler => "compiler"

end Stage

end Polyglot
