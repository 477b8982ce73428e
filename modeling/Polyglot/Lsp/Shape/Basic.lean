import Polyglot.Json.Shape
import Polyglot.Uri.Basic

/-!
# Shapes of the protocol

The shapes that many messages of the protocol share: URIs, positions and ranges, documents,
diagnostics, edits, and the tokens that every request may bring. A URI is taken in its written
form, so that two spellings of a URI become one text.
-/

set_option autoImplicit false

namespace Polyglot.Lsp.Shape

open Polyglot.Shape

/-- A URI, whose plain form is its written form. -/
def uri : Shape where
  read := fun _ value =>
    match value with
    | .string s =>
      match Uri.parse s with
      | .ok u => .ok (.string u.text)
      | .error e => .error (.unreadable e.message s)
    | other => .error (.wrongType other "a string representing an URL")

/-- Fields that may be missing, all of one shape. -/
def nullables (shape : Shape) (keys : List String) : List Field :=
  keys.map fun key => .nullable key shape

/-- Fields for truth values that may be missing. -/
def flags (keys : List String) : List Field :=
  nullables boolean keys

/-- A line and a character. -/
def position : Shape :=
  record "Position" [.required "line" word, .required "character" word]

/-- A start and an end. -/
def range : Shape :=
  record "Range" [.required "start" position, .required "end" position]

/-- A range in a document. -/
def location : Shape :=
  record "Location" [.required "uri" uri, .required "range" range]

/-- A document by its URI. -/
def document : Shape :=
  record "TextDocumentIdentifier" [.required "uri" uri]

/-- A document with a version. -/
def versionedDocument : Shape :=
  record "VersionedTextDocumentIdentifier"
    [.required "uri" uri, .required "version" signedWord]

/-- A document with all that belongs to it. -/
def wholeDocument : Shape :=
  record "TextDocumentItem"
    [.required "uri" uri, .required "languageId" text, .required "version" signedWord,
      .required "text" text]

/-- A number or a text. -/
def token : Shape :=
  oneOf "NumberOrString" [signedWord, text]

/-- The part of a request that names a position in a document. -/
def placed : Part :=
  .fields [.required "textDocument" document, .required "position" position]

/-- The part of a request under whose token the server may tell how far it has come. -/
def progress : Part :=
  .fields [.nullable "workDoneToken" token]

/-- The part of a request under whose token the server may answer bit by bit. -/
def partialAnswer : Part :=
  .fields [.nullable "partialResultToken" token]

/-- An edit of a text. -/
def textEdit : Shape :=
  record "TextEdit" [.required "range" range, .required "newText" text]

/-- A command. -/
def command : Shape :=
  record "Command"
    [.required "title" text, .required "command" text, .nullable "arguments" (list any)]

/-- The two sorts of marked text. -/
def markupKind : Shape :=
  choice ["plaintext", "markdown"]

/-- A text, plain or marked. -/
def markedText (name : String) : Shape :=
  oneOf name
    [text, record "MarkupContent" [.required "kind" markupKind, .required "value" text]]

/-- A diagnostic. -/
def diagnostic : Shape :=
  let related := record "DiagnosticRelatedInformation"
    [.required "location" location, .required "message" text]
  record "Diagnostic"
    [.required "range" range, .nullable "severity" signedWord, .nullable "code" token,
      .nullable "codeDescription" (record "CodeDescription" [.required "href" uri]),
      .nullable "source" text, .required "message" text,
      .nullable "relatedInformation" (list related), .nullable "tags" (list signedWord),
      .nullable "data" any]

end Polyglot.Lsp.Shape
