import Polyglot.Lsp.Position
import Polyglot.Lsp.SectionCommand
import Polyglot.Lsp.Shape.Request

/-!
# Parameters of messages

What a client asks and tells, and how it is taken from the parameters of a message. Parameters are
read by their shape first; what is taken from them afterwards is there. The URIs of documents are
taken in their written form, so that two spellings of a URI name one document.
-/

set_option autoImplicit false

namespace Polyglot.Lsp

/-- Why parameters cannot be used. -/
inductive ParamsError where
  | missing
  | unexpected (params : Json)
  | mismatched (mismatch : Mismatch)

namespace ParamsError

/-- The text of an error. -/
def message : ParamsError → String
  | missing => "Missing params field"
  | unexpected params => "Unexpected params: " ++ params.compact
  | mismatched mismatch => mismatch.message

end ParamsError

/-- The directories that a client opens: its workspace folders, and the root of older clients. -/
structure Roots where
  folders : List Uri
  root? : Option Uri
deriving DecidableEq, Repr

/-- A question of a client about a document, or a command to run. -/
inductive Request where
  | completion (uri : String) (position : Position)
  | definition (uri : String) (position : Position)
  | outline (uri : String)
  | actions (uri : String) (range : Range)
  | execute (call : Invocation)

/-- What a client tells: that it is ready, and what becomes of its documents. A change comes with
whole texts, in the order in which they were made. -/
inductive Notice where
  | ready
  | opened (uri : String) (version : Int) (text : String)
  | changed (uri : String) (version : Int) (texts : List String)
  | closed (uri : String)
deriving DecidableEq, Repr

namespace Params

/-- How something is taken from parameters: the shape that they must have, and what they stand for
in their plain form. -/
structure Reader (α : Type) where
  shape : Shape
  take : Json → α

/-- Reads parameters. -/
def Reader.read {α : Type} (r : Reader α) (params : Json) : Except ParamsError α :=
  match r.shape.read .written params with
  | .ok plain => .ok (r.take plain)
  | .error mismatch => .error (.mismatched mismatch)

/-- The text at the end of keys. -/
def textAt (keys : List String) (j : Json) : String :=
  ((j.at? keys).bind Json.string?).getD ""

/-- The natural number at the end of keys. -/
def natAt (keys : List String) (j : Json) : Nat :=
  ((j.at? keys).bind Json.nat?).getD 0

/-- The integer at the end of keys. -/
def intAt (keys : List String) (j : Json) : Int :=
  ((j.at? keys).bind Json.int?).getD 0

/-- The items of the list at the end of keys, none where there is no list. -/
def itemsAt (keys : List String) (j : Json) : List Json :=
  ((j.at? keys).bind Json.array?).getD []

/-- The URI of the document in question. -/
def documentOf : Json → String :=
  textAt ["textDocument", "uri"]

/-- The version of the document in question. -/
def versionOf : Json → Int :=
  intAt ["textDocument", "version"]

/-- The position at the end of keys. -/
def positionAt (keys : List String) (j : Json) : Position :=
  ⟨natAt (keys ++ ["line"]) j, natAt (keys ++ ["character"]) j⟩

/-- The range at the end of keys. -/
def rangeAt (keys : List String) (j : Json) : Range :=
  ⟨positionAt (keys ++ ["start"]) j, positionAt (keys ++ ["end"]) j⟩

/-- The directories that a client opens. -/
def roots : Reader Roots where
  shape := Shape.start
  take := fun j =>
    ⟨(itemsAt ["workspaceFolders"] j).filterMap fun folder => Uri.parse? (textAt ["uri"] folder),
      ((j.at? ["rootUri"]).bind Json.string?).bind Uri.parse?⟩

/-- A question about completions. -/
def completion : Reader Request where
  shape := Shape.completion
  take := fun j => .completion (documentOf j) (positionAt ["position"] j)

/-- A question about a definition. -/
def definition : Reader Request where
  shape := Shape.definition
  take := fun j => .definition (documentOf j) (positionAt ["position"] j)

/-- A question about an outline. -/
def outline : Reader Request where
  shape := Shape.outline
  take := fun j => .outline (documentOf j)

/-- A question about actions. -/
def actions : Reader Request where
  shape := Shape.actions
  take := fun j => .actions (documentOf j) (rangeAt ["range"] j)

/-- A command to run. -/
def execute : Reader Request where
  shape := Shape.execute
  take := fun j => .execute ⟨textAt ["command"] j, itemsAt ["arguments"] j⟩

/-- The notice that the client is ready. -/
def ready : Reader Notice where
  shape := Shape.ready
  take := fun _ => .ready

/-- The notice of a document that was opened. -/
def opened : Reader Notice where
  shape := Shape.opened
  take := fun j => .opened (documentOf j) (versionOf j) (textAt ["textDocument", "text"] j)

/-- The notice of a document that was changed. -/
def changed : Reader Notice where
  shape := Shape.changed
  take := fun j =>
    .changed (documentOf j) (versionOf j) ((itemsAt ["contentChanges"] j).map (textAt ["text"]))

/-- The notice of a document that was closed. -/
def closed : Reader Notice where
  shape := Shape.closed
  take := fun j => .closed (documentOf j)

/-- A request of which only the shape of its parameters matters. -/
def ignored (shape : Shape) : Reader Unit where
  shape := shape
  take := fun _ => ()

end Params

end Polyglot.Lsp
