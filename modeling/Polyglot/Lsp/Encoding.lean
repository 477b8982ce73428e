import Polyglot.Json
import Polyglot.Lsp.Position

/-!
# Positions and ranges as JSON

The form in which positions, ranges and locations stand in messages.
-/

set_option autoImplicit false

namespace Polyglot.Lsp

/-- A position by its line and its character. -/
def Position.toJson (p : Position) : Json :=
  .object [("line", .nat p.line), ("character", .nat p.character)]

/-- A range by its start and its end. -/
def Range.toJson (r : Range) : Json :=
  .object [("start", r.start.toJson), ("end", r.stop.toJson)]

/-- A location by its URI and its range. -/
def Location.toJson (l : Location) : Json :=
  .object [("uri", .string l.uri), ("range", l.range.toJson)]

end Polyglot.Lsp
