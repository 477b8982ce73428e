import Polyglot.Grammar.Answer
import Polyglot.LineIndex.Utf16
import Polyglot.Lsp.Encoding

/-!
# Diagnostics for a client

A client gets the diagnostics of one document. Those that are about another source, and those
whose interval does not fit the text any more, are left out; the order of the others stays.
-/

set_option autoImplicit false

namespace Polyglot.Lsp

/-- A diagnostic as a client gets it. -/
structure DiagnosticItem where
  range : Range
  severity : Severity
  stage : Stage
  message : String
deriving DecidableEq, Repr

/-- The number of a severity: the graver, the smaller. -/
def severityNumber : Severity → Nat
  | .error => 1
  | .warning => 2
  | .information => 3
  | .hint => 4

/-- The code of the diagnostics of a stage. -/
def stageCode : Stage → String
  | .parser => "parse-error"
  | .compiler => "compile-error"

namespace DiagnosticItem

/-- The diagnostic of a document, if it is about the document and fits its text. -/
def ofDiagnostic? (id : String) (index : LineIndex) (d : Diagnostic) : Option DiagnosticItem :=
  if d.location.source = id then
    match index.rangeOf d.location.interval with
    | .ok range => some ⟨range, d.severity, d.stage, d.message⟩
    | .error _ => none
  else none

/-- The item as JSON. -/
def toJson (item : DiagnosticItem) : Json :=
  .object [("range", item.range.toJson), ("severity", .nat (severityNumber item.severity)),
    ("code", .string (stageCode item.stage)), ("source", .string item.stage.label),
    ("message", .string item.message)]

end DiagnosticItem

/-- The diagnostics that a client gets for a document. -/
def diagnosticItems (diagnostics : List Diagnostic) (id : String) (index : LineIndex) :
    List DiagnosticItem :=
  diagnostics.filterMap (DiagnosticItem.ofDiagnostic? id index)

/-- The diagnostics as JSON. -/
def diagnosticItemsJson (items : List DiagnosticItem) : Json :=
  .array (items.map DiagnosticItem.toJson)

end Polyglot.Lsp
