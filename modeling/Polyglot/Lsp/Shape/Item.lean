import Polyglot.Lsp.Shape.Basic

/-!
# Things that a client sends back

The shapes of things that a server offers to a client and that the client sends back with a later
request, for more about them: completions, actions, hints, symbols and the like.
-/

set_option autoImplicit false

namespace Polyglot.Lsp.Shape

open Polyglot.Shape

/-- An edit that puts in or replaces a text. -/
def completionEdit : Shape :=
  oneOf "CompletionTextEdit"
    [textEdit,
      record "InsertReplaceEdit"
        [.required "newText" text, .required "insert" range, .required "replace" range]]

/-- A completion. -/
def completionItem : Shape :=
  record "CompletionItem"
    [.required "label" text,
      .nullable "labelDetails"
        (record "CompletionItemLabelDetails" (nullables text ["detail", "description"])),
      .nullable "kind" signedWord, .nullable "detail" text,
      .nullable "documentation" (markedText "Documentation"),
      .nullable "deprecated" boolean, .nullable "preselect" boolean,
      .nullable "sortText" text, .nullable "filterText" text, .nullable "insertText" text,
      .nullable "insertTextFormat" signedWord, .nullable "insertTextMode" signedWord,
      .nullable "textEdit" completionEdit, .nullable "additionalTextEdits" (list textEdit),
      .nullable "command" command, .nullable "commitCharacters" (list text),
      .nullable "data" any, .nullable "tags" (list signedWord)]

/-- An operation on a file, told by its kind. -/
def fileOperation : Shape :=
  let operation (kind : String) (fields : List Field) : Shape :=
    record "FileOperation" (.required "kind" (choice [kind]) :: fields)
  let settings (keys : List String) : Field := .nullable "options" (record "Options" (flags keys))
  oneOf "ResourceOp"
    [operation "create"
      [.required "uri" uri, settings ["overwrite", "ignoreIfExists"],
        .nullable "annotationId" text],
      operation "rename"
        [.required "oldUri" uri, .required "newUri" uri,
          settings ["overwrite", "ignoreIfExists"], .nullable "annotationId" text],
      operation "delete" [.required "uri" uri, settings ["recursive", "ignoreIfNotExists"]]]

/-- The edits of a document. -/
def documentEdit : Shape :=
  let target := record "OptionalVersionedTextDocumentIdentifier"
    [.required "uri" uri, .nullable "version" signedWord]
  let annotated := merged "AnnotatedTextEdit" [.required "annotationId" text]
    [.fields [.required "range" range, .required "newText" text]]
  record "TextDocumentEdit"
    [.required "textDocument" target,
      .required "edits" (list (oneOf "OneOf" [textEdit, annotated]))]

/-- The edits of a workspace. -/
def workspaceEdit : Shape :=
  let annotation := record "ChangeAnnotation"
    [.required "label" text, .nullable "needsConfirmation" boolean,
      .nullable "description" text]
  record "WorkspaceEdit"
    [.optional "changes" (dictionary "map" uri (list textEdit)).nullable,
      .nullable "documentChanges"
        (oneOf "DocumentChanges"
          [list documentEdit,
            list (oneOf "DocumentChangeOperation" [fileOperation, documentEdit])]),
      .nullable "changeAnnotations" (dictionary "a map" text annotation)]

/-- An action. -/
def codeAction : Shape :=
  record "CodeAction"
    [.required "title" text, .nullable "kind" text, .nullable "diagnostics" (list diagnostic),
      .nullable "edit" workspaceEdit, .nullable "command" command,
      .nullable "isPreferred" boolean,
      .nullable "disabled" (record "CodeActionDisabled" [.required "reason" text]),
      .nullable "data" any]

/-- An action that stands for a line. -/
def codeLens : Shape :=
  record "CodeLens"
    [.required "range" range, .nullable "command" command, .nullable "data" any]

/-- A link in a document. -/
def documentLink : Shape :=
  record "DocumentLink"
    [.required "range" range, .nullable "target" uri, .nullable "tooltip" text,
      .nullable "data" any]

/-- A hint that is shown inside a text. -/
def inlayHint : Shape :=
  let part := record "InlayHintLabelPart"
    [.required "value" text, .nullable "tooltip" (markedText "InlayHintLabelPartTooltip"),
      .nullable "location" location, .nullable "command" command]
  record "InlayHint"
    [.required "position" position, .required "label" (oneOf "InlayHintLabel" [text, list part]),
      .nullable "kind" signedWord, .nullable "textEdits" (list textEdit),
      .nullable "tooltip" (markedText "InlayHintTooltip"), .nullable "paddingLeft" boolean,
      .nullable "paddingRight" boolean, .nullable "data" any]

/-- The fields of an item of a hierarchy, in which the tags have a shape of their own. -/
def hierarchyFields (tags : Shape) : List Field :=
  [.required "name" text, .required "kind" signedWord, .nullable "tags" tags,
    .nullable "detail" text, .required "uri" uri, .required "range" range,
    .required "selectionRange" range, .nullable "data" any]

/-- An item of a hierarchy of calls. -/
def callItem : Shape :=
  record "CallHierarchyItem" (hierarchyFields (list signedWord))

/-- An item of a hierarchy of types. -/
def typeItem : Shape :=
  record "TypeHierarchyItem" (hierarchyFields signedWord)

/-- A symbol of a workspace. -/
def workspaceSymbol : Shape :=
  let place := oneOf "OneOf" [location, record "WorkspaceLocation" [.required "uri" uri]]
  record "WorkspaceSymbol"
    [.required "name" text, .required "kind" signedWord, .nullable "tags" (list signedWord),
      .nullable "containerName" text, .required "location" place, .nullable "data" any]

/-- The signatures of something that is called. -/
def signatureHelp : Shape :=
  let parameter := record "ParameterInformation"
    [.required "label" (oneOf "ParameterLabel" [text, tuple 2 word]),
      .nullable "documentation" (markedText "Documentation")]
  let signature := record "SignatureInformation"
    [.required "label" text, .nullable "documentation" (markedText "Documentation"),
      .nullable "parameters" (list parameter), .nullable "activeParameter" word]
  record "SignatureHelp"
    [.required "signatures" (list signature), .nullable "activeSignature" word,
      .nullable "activeParameter" word]

end Polyglot.Lsp.Shape
