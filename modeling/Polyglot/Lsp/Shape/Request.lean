import Polyglot.Lsp.Shape.Capabilities
import Polyglot.Lsp.Shape.Item

/-!
# Parameters of requests and notices

The shapes of the parameters of all messages of the protocol whose parameters are read: those that
the server serves, and the requests that it knows but does not serve.
-/

set_option autoImplicit false

namespace Polyglot.Lsp.Shape

open Polyglot.Shape

/-- The parameters with which a client initializes the server. -/
def start : Shape :=
  let client := record "ClientInfo" [.required "name" text, .nullable "version" text]
  let folder := record "WorkspaceFolder" [.required "uri" uri, .required "name" text]
  record "InitializeParams"
    [.nullable "processId" word, .nullable "rootPath" text, .optional "rootUri" uri.nullable,
      .nullable "initializationOptions" any, .required "capabilities" clientCapabilities,
      .optional "trace" (choice ["off", "messages", "verbose"]).nullable,
      .nullable "workspaceFolders" (list folder), .nullable "clientInfo" client,
      .nullable "locale" text]

/-- The parameters of a client that is ready. -/
def ready : Shape :=
  record "InitializedParams" []

/-- The parameters of an opened document. -/
def opened : Shape :=
  record "DidOpenTextDocumentParams" [.required "textDocument" wholeDocument]

/-- The parameters of a changed document. -/
def changed : Shape :=
  let change := record "TextDocumentContentChangeEvent"
    [.nullable "range" range, .nullable "rangeLength" word, .required "text" text]
  record "DidChangeTextDocumentParams"
    [.required "textDocument" versionedDocument, .required "contentChanges" (list change)]

/-- The parameters of a closed document. -/
def closed : Shape :=
  record "DidCloseTextDocumentParams" [.required "textDocument" document]

/-- A question about a position in a document. -/
def placedQuestion (name : String) (own : List Field) : Shape :=
  merged name own [placed, progress, partialAnswer]

/-- A question about a document. -/
def documentQuestion (name : String) (own : List Field) : Shape :=
  merged name (.required "textDocument" document :: own) [progress, partialAnswer]

/-- The parameters of a question about completions. -/
def completion : Shape :=
  placedQuestion "CompletionParams"
    [.nullable "context"
      (record "CompletionContext"
        [.required "triggerKind" signedWord, .nullable "triggerCharacter" text])]

/-- The parameters of a question about a definition. -/
def definition : Shape :=
  placedQuestion "GotoDefinitionParams" []

/-- The parameters of a question about an outline. -/
def outline : Shape :=
  documentQuestion "DocumentSymbolParams" []

/-- The parameters of a question about actions. -/
def actions : Shape :=
  let context := record "CodeActionContext"
    [.required "diagnostics" (list diagnostic), .nullable "only" (list text),
      .nullable "triggerKind" signedWord]
  documentQuestion "CodeActionParams" [.required "range" range, .required "context" context]

/-- The parameters of a command to run. -/
def execute : Shape :=
  merged "ExecuteCommandParams" [.required "command" text, .optional "arguments" (list any)]
    [progress]

/-- How a document is formatted. -/
def formatting : Shape :=
  merged "FormattingOptions"
    (.required "tabSize" word :: .required "insertSpaces" boolean ::
      flags ["trimTrailingWhitespace", "insertFinalNewline", "trimFinalNewlines"])
    [.rest (oneOf "FormattingProperty" [boolean, signedWord, text])]

/-- A record of one list of files, of which texts are told under keys. -/
def files (name file : String) (keys : List String) : Shape :=
  record name [.required "files" (list (record file (keys.map fun key => .required key text)))]

/-- The requests that the server does not serve, with the shapes of their parameters. -/
def unserved : List (String × Shape) :=
  let color := record "Color" (["red", "green", "blue", "alpha"].map fun key =>
    .required key number)
  [("textDocument/willSaveWaitUntil",
      record "WillSaveTextDocumentParams"
        [.required "textDocument" document, .required "reason" signedWord]),
    ("textDocument/declaration", definition),
    ("textDocument/typeDefinition", definition),
    ("textDocument/implementation", definition),
    ("textDocument/references",
      placedQuestion "ReferenceParams"
        [.required "context"
          (record "ReferenceContext" [.required "includeDeclaration" boolean])]),
    ("textDocument/prepareCallHierarchy",
      merged "CallHierarchyPrepareParams" [] [placed, progress]),
    ("callHierarchy/incomingCalls",
      merged "CallHierarchyIncomingCallsParams" [.required "item" callItem]
        [progress, partialAnswer]),
    ("callHierarchy/outgoingCalls",
      merged "CallHierarchyOutgoingCallsParams" [.required "item" callItem]
        [progress, partialAnswer]),
    ("textDocument/prepareTypeHierarchy",
      merged "TypeHierarchyPrepareParams" [] [placed, progress]),
    ("typeHierarchy/supertypes",
      merged "TypeHierarchySupertypesParams" [.required "item" typeItem]
        [progress, partialAnswer]),
    ("typeHierarchy/subtypes",
      merged "TypeHierarchySubtypesParams" [.required "item" typeItem]
        [progress, partialAnswer]),
    ("textDocument/documentHighlight", placedQuestion "DocumentHighlightParams" []),
    ("textDocument/documentLink", documentQuestion "DocumentLinkParams" []),
    ("documentLink/resolve", documentLink),
    ("textDocument/hover", merged "HoverParams" [] [placed, progress]),
    ("textDocument/codeLens", documentQuestion "CodeLensParams" []),
    ("codeLens/resolve", codeLens),
    ("textDocument/foldingRange", documentQuestion "FoldingRangeParams" []),
    ("textDocument/selectionRange",
      documentQuestion "SelectionRangeParams" [.required "positions" (list position)]),
    ("textDocument/semanticTokens/full", documentQuestion "SemanticTokensParams" []),
    ("textDocument/semanticTokens/full/delta",
      documentQuestion "SemanticTokensDeltaParams" [.required "previousResultId" text]),
    ("textDocument/semanticTokens/range",
      documentQuestion "SemanticTokensRangeParams" [.required "range" range]),
    ("textDocument/inlineValue",
      merged "InlineValueParams"
        [.required "textDocument" document, .required "range" range,
          .required "context"
            (record "InlineValueContext"
              [.required "frameId" signedWord, .required "stoppedLocation" range])]
        [progress]),
    ("textDocument/inlayHint",
      merged "InlayHintParams"
        [.required "textDocument" document, .required "range" range] [progress]),
    ("inlayHint/resolve", inlayHint),
    ("textDocument/moniker", placedQuestion "MonikerParams" []),
    ("completionItem/resolve", completionItem),
    ("textDocument/diagnostic",
      documentQuestion "DocumentDiagnosticParams"
        [.nullable "identifier" text, .nullable "previousResultId" text]),
    ("workspace/diagnostic",
      merged "WorkspaceDiagnosticParams"
        [.nullable "identifier" text,
          .required "previousResultIds"
            (list (record "PreviousResultId" [.required "uri" uri, .required "value" text]))]
        [progress, partialAnswer]),
    ("textDocument/signatureHelp",
      merged "SignatureHelpParams"
        [.nullable "context"
          (record "SignatureHelpContext"
            [.required "triggerKind" signedWord, .nullable "triggerCharacter" text,
              .required "isRetrigger" boolean, .nullable "activeSignatureHelp" signatureHelp])]
        [placed, progress]),
    ("codeAction/resolve", codeAction),
    ("textDocument/documentColor", documentQuestion "DocumentColorParams" []),
    ("textDocument/colorPresentation",
      documentQuestion "ColorPresentationParams"
        [.required "color" color, .required "range" range]),
    ("textDocument/formatting",
      merged "DocumentFormattingParams"
        [.required "textDocument" document, .required "options" formatting] [progress]),
    ("textDocument/rangeFormatting",
      merged "DocumentRangeFormattingParams"
        [.required "textDocument" document, .required "range" range,
          .required "options" formatting]
        [progress]),
    ("textDocument/onTypeFormatting",
      merged "DocumentOnTypeFormattingParams"
        [.required "ch" text, .required "options" formatting] [placed]),
    ("textDocument/rename",
      merged "RenameParams" [.required "newName" text] [placed, progress]),
    ("textDocument/prepareRename",
      record "TextDocumentPositionParams"
        [.required "textDocument" document, .required "position" position]),
    ("textDocument/linkedEditingRange",
      merged "LinkedEditingRangeParams" [] [placed, progress]),
    ("workspace/symbol",
      merged "WorkspaceSymbolParams" [.required "query" text] [partialAnswer, progress]),
    ("workspaceSymbol/resolve", workspaceSymbol),
    ("workspace/willCreateFiles", files "CreateFilesParams" "FileCreate" ["uri"]),
    ("workspace/willRenameFiles",
      files "RenameFilesParams" "FileRename" ["oldUri", "newUri"]),
    ("workspace/willDeleteFiles", files "DeleteFilesParams" "FileDelete" ["uri"])]

end Polyglot.Lsp.Shape
