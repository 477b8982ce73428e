import Polyglot.LineIndex.Utf16
import Polyglot.Lsp.Position
import Polyglot.Uri.Basic
import Polyglot.Workspace.Basic

/-!
# Navigation

Where a location lies for a client. The source of the location must be a URI. If its document is
open, the columns are converted by its text, and a location that does not fit the text has no
place. If it is not open, the columns are taken over as they are, and the range ends behind its
last column; columns are words of 32 bits, so the column behind the greatest one is zero.
-/

set_option autoImplicit false

namespace Polyglot.Lsp

/-- The range of an interval in a text that is not at hand. -/
def rawRange (i : Interval) : Range :=
  ⟨⟨i.start.line, i.start.column⟩, ⟨i.stop.line, lowWord (i.stop.column + 1)⟩⟩

/-- The place of a location for a client of the workspace. -/
def locationOf? (w : Workspace) (l : Polyglot.Location) : Option Location := do
  let uri ← Uri.parse? l.source
  let range ←
    match w.document? l.source with
    | some d => (d.index.rangeOf l.interval).toOption
    | none => some (rawRange l.interval)
  return ⟨uri.text, range⟩

end Polyglot.Lsp
