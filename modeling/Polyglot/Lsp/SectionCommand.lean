import Polyglot.Json

/-!
# Section commands as client commands

A client knows one command, which runs a command of a section. Its arguments are the URI of the
document, a line of the section, and the identifier of the section's command. What is written as
arguments is read back as it was (`ofArguments?_arguments`).
-/

set_option autoImplicit false

namespace Polyglot.Lsp

/-- A client command with its arguments. -/
structure Invocation where
  name : String
  arguments : List Json

/-- A command of the section at a line of a document. -/
structure SectionCommand where
  uri : String
  line : Nat
  id : String
deriving DecidableEq, Repr

namespace SectionCommand

/-- The name of the client command that runs a section's command. -/
def name : String :=
  "seclsp.sectionCommand"

/-- The arguments that stand for a section's command. -/
def arguments (c : SectionCommand) : List Json :=
  [.string c.uri, .nat c.line, .string c.id]

/-- The section's command for which arguments stand. -/
def ofArguments? : List Json → Option SectionCommand
  | [uri, line, id] => do return ⟨← uri.string?, ← line.word?, ← id.string?⟩
  | _ => none

/-- The client command with the arguments for a section's command. -/
def invocation (c : SectionCommand) : Invocation :=
  ⟨name, c.arguments⟩

/-- The arguments of a command whose line is a word stand for that command. -/
theorem ofArguments?_arguments (c : SectionCommand) (h : c.line < 4294967296) :
    ofArguments? c.arguments = some c := by
  simp [ofArguments?, arguments, Json.string?, Json.word?, Json.nat?, Json.nat, Option.filter, h]

end SectionCommand

/-- A client command under a title. -/
structure Action where
  title : String
  call : Invocation

namespace Action

/-- The action as JSON. -/
def toJson (a : Action) : Json :=
  .object [("title", .string a.title), ("command", .string a.call.name),
    ("arguments", .array a.call.arguments)]

end Action

end Polyglot.Lsp
