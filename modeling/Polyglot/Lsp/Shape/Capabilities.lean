import Polyglot.Lsp.Shape.Basic

/-!
# What a client can do

The shape of the capabilities that a client tells when it initializes the server. The server makes
no use of them, but refuses a client whose capabilities have not this shape.
-/

set_option autoImplicit false

namespace Polyglot.Lsp.Shape

open Polyglot.Shape

/-- The capability of a feature that can be registered later on. -/
def registration : Shape :=
  record "DynamicRegistrationClientCapabilities" (flags ["dynamicRegistration"])

/-- A record with the one field `refreshSupport`. -/
def refresh (name : String) : Shape :=
  record name (flags ["refreshSupport"])

/-- A record with the one field `properties`, a list of names. -/
def properties (name : String) : Shape :=
  record name [.required "properties" (list text)]

/-- A record of the values that a client knows. -/
def valueSet (name : String) (value : Shape) : Shape :=
  record name [.nullable "valueSet" (list value)]

/-- The tags that a client knows. A truth value may stand in their place. -/
def tags : Field :=
  let known := record "TagSupport" [.required "valueSet" (list signedWord)]
  .optional "tagSupport"
    { read := fun place value =>
        match value with
        | .null => .ok .null
        | .bool b => .ok (.bool b)
        | other => known.read place other }

/-- Capabilities for edits of a workspace. -/
def workspaceEditCapabilities : Shape :=
  record "WorkspaceEditClientCapabilities"
    [.nullable "documentChanges" boolean,
      .nullable "resourceOperations" (list (choice ["create", "rename", "delete"])),
      .nullable "failureHandling"
        (choice ["abort", "transactional", "textOnlyTransactional", "undo"]),
      .nullable "normalizesLineEndings" boolean,
      .nullable "changeAnnotationSupport"
        (record "ChangeAnnotationWorkspaceEditClientCapabilities" (flags ["groupsOnLabel"]))]

/-- Capabilities for symbols, whose fields follow those that two features share. -/
def symbolFields : List Field :=
  [.nullable "dynamicRegistration" boolean,
    .nullable "symbolKind" (valueSet "SymbolKindCapability" signedWord)]

/-- Capabilities for symbols of a workspace. -/
def workspaceSymbolCapabilities : Shape :=
  record "WorkspaceSymbolClientCapabilities"
    (symbolFields ++ [tags,
      .nullable "resolveSupport" (properties "WorkspaceSymbolResolveSupportCapability")])

/-- Capabilities for a workspace. -/
def workspaceCapabilities : Shape :=
  record "WorkspaceClientCapabilities"
    [.nullable "applyEdit" boolean,
      .nullable "workspaceEdit" workspaceEditCapabilities,
      .nullable "didChangeConfiguration" registration,
      .nullable "didChangeWatchedFiles"
        (record "DidChangeWatchedFilesClientCapabilities"
          (flags ["dynamicRegistration", "relativePatternSupport"])),
      .nullable "symbol" workspaceSymbolCapabilities,
      .nullable "executeCommand" registration,
      .nullable "workspaceFolders" boolean,
      .nullable "configuration" boolean,
      .nullable "semanticTokens" (refresh "SemanticTokensWorkspaceClientCapabilities"),
      .nullable "codeLens" (refresh "CodeLensWorkspaceClientCapabilities"),
      .nullable "fileOperations"
        (record "WorkspaceFileOperationsClientCapabilities"
          (flags ["dynamicRegistration", "didCreate", "willCreate", "didRename", "willRename",
            "didDelete", "willDelete"])),
      .nullable "inlineValue" (refresh "InlineValueWorkspaceClientCapabilities"),
      .nullable "inlayHint" (refresh "InlayHintWorkspaceClientCapabilities"),
      .nullable "diagnostic" (refresh "DiagnosticWorkspaceClientCapabilities")]

/-- Capabilities for completions. -/
def completionCapabilities : Shape :=
  let item := record "CompletionItemCapability"
    (flags ["snippetSupport", "commitCharactersSupport"] ++
      [.nullable "documentationFormat" (list markupKind)] ++
      flags ["deprecatedSupport", "preselectSupport"] ++
      [tags, .nullable "insertReplaceSupport" boolean,
        .nullable "resolveSupport" (properties "CompletionItemCapabilityResolveSupport"),
        .nullable "insertTextModeSupport"
          (record "InsertTextModeSupport" [.required "valueSet" (list signedWord)]),
        .nullable "labelDetailsSupport" boolean])
  record "CompletionClientCapabilities"
    [.nullable "dynamicRegistration" boolean,
      .nullable "completionItem" item,
      .nullable "completionItemKind" (valueSet "CompletionItemKindCapability" signedWord),
      .nullable "contextSupport" boolean,
      .nullable "insertTextMode" signedWord,
      .nullable "completionList"
        (record "CompletionListCapability" [.nullable "itemDefaults" (list text)])]

/-- Capabilities for signatures. -/
def signatureCapabilities : Shape :=
  let parameter := record "ParameterInformationSettings" (flags ["labelOffsetSupport"])
  let information := record "SignatureInformationSettings"
    [.nullable "documentationFormat" (list markupKind),
      .nullable "parameterInformation" parameter,
      .nullable "activeParameterSupport" boolean]
  record "SignatureHelpClientCapabilities"
    [.nullable "dynamicRegistration" boolean, .nullable "signatureInformation" information,
      .nullable "contextSupport" boolean]

/-- Capabilities for code actions. -/
def codeActionCapabilities : Shape :=
  let kind := record "CodeActionKindLiteralSupport" [.required "valueSet" (list text)]
  record "CodeActionClientCapabilities"
    [.nullable "dynamicRegistration" boolean,
      .nullable "codeActionLiteralSupport"
        (record "CodeActionLiteralSupport" [.required "codeActionKind" kind]),
      .nullable "isPreferredSupport" boolean,
      .nullable "disabledSupport" boolean,
      .nullable "dataSupport" boolean,
      .nullable "resolveSupport" (properties "CodeActionCapabilityResolveSupport"),
      .nullable "honorsChangeAnnotations" boolean]

/-- Capabilities for folding ranges. -/
def foldingCapabilities : Shape :=
  record "FoldingRangeClientCapabilities"
    [.nullable "dynamicRegistration" boolean, .nullable "rangeLimit" word,
      .nullable "lineFoldingOnly" boolean,
      .nullable "foldingRangeKind"
        (valueSet "FoldingRangeKindCapability" (choice ["comment", "imports", "region"])),
      .nullable "foldingRange" (record "FoldingRangeCapability" (flags ["collapsedText"]))]

/-- Capabilities for semantic tokens. -/
def semanticTokensCapabilities : Shape :=
  let delta := record "SemanticTokensFullOptions" (flags ["delta"])
  let requests := record "SemanticTokensClientCapabilitiesRequests"
    [.nullable "range" boolean,
      .nullable "full" (oneOf "SemanticTokensFullOptions" [boolean, delta])]
  record "SemanticTokensClientCapabilities"
    ([.nullable "dynamicRegistration" boolean, .required "requests" requests,
      .required "tokenTypes" (list text), .required "tokenModifiers" (list text),
      .required "formats" (list text)] ++
      flags ["overlappingTokenSupport", "multilineTokenSupport", "serverCancelSupport",
        "augmentsSyntaxTokens"])

/-- Capabilities for published diagnostics. -/
def publishedCapabilities : Shape :=
  record "PublishDiagnosticsClientCapabilities"
    (.nullable "relatedInformation" boolean :: tags ::
      flags ["versionSupport", "codeDescriptionSupport", "dataSupport"])

/-- Capabilities for renaming. -/
def renameCapabilities : Shape :=
  record "RenameClientCapabilities"
    [.nullable "dynamicRegistration" boolean, .nullable "prepareSupport" boolean,
      .nullable "prepareSupportDefaultBehavior" signedWord,
      .nullable "honorsChangeAnnotations" boolean]

/-- The capability to go to a target. -/
def goto : Shape :=
  record "GotoCapability" (flags ["dynamicRegistration", "linkSupport"])

/-- Capabilities for the text of documents. -/
def documentCapabilities : Shape :=
  record "TextDocumentClientCapabilities"
    [.nullable "synchronization"
        (record "TextDocumentSyncClientCapabilities"
          (flags ["dynamicRegistration", "willSave", "willSaveWaitUntil", "didSave"])),
      .nullable "completion" completionCapabilities,
      .nullable "hover"
        (record "HoverClientCapabilities"
          [.nullable "dynamicRegistration" boolean,
            .nullable "contentFormat" (list markupKind)]),
      .nullable "signatureHelp" signatureCapabilities,
      .nullable "references" registration,
      .nullable "documentHighlight" registration,
      .nullable "documentSymbol"
        (record "DocumentSymbolClientCapabilities"
          (symbolFields ++ [.nullable "hierarchicalDocumentSymbolSupport" boolean, tags])),
      .nullable "formatting" registration,
      .nullable "rangeFormatting" registration,
      .nullable "onTypeFormatting" registration,
      .nullable "declaration" goto,
      .nullable "definition" goto,
      .nullable "typeDefinition" goto,
      .nullable "implementation" goto,
      .nullable "codeAction" codeActionCapabilities,
      .nullable "codeLens" registration,
      .nullable "documentLink"
        (record "DocumentLinkClientCapabilities"
          (flags ["dynamicRegistration", "tooltipSupport"])),
      .nullable "colorProvider" registration,
      .nullable "rename" renameCapabilities,
      .nullable "publishDiagnostics" publishedCapabilities,
      .nullable "foldingRange" foldingCapabilities,
      .nullable "selectionRange"
        (record "SelectionRangeClientCapabilities" (flags ["dynamicRegistration"])),
      .nullable "linkedEditingRange" registration,
      .nullable "callHierarchy" registration,
      .nullable "semanticTokens" semanticTokensCapabilities,
      .nullable "moniker" registration,
      .nullable "typeHierarchy" registration,
      .nullable "inlineValue" registration,
      .nullable "inlayHint"
        (record "InlayHintClientCapabilities"
          [.nullable "dynamicRegistration" boolean,
            .nullable "resolveSupport" (properties "InlayHintResolveClientCapabilities")]),
      .nullable "diagnostic"
        (record "DiagnosticClientCapabilities"
          (flags ["dynamicRegistration", "relatedDocumentSupport"]))]

/-- Capabilities for the window. -/
def windowCapabilities : Shape :=
  let item := record "MessageActionItemCapabilities" (flags ["additionalPropertiesSupport"])
  record "WindowClientCapabilities"
    [.nullable "workDoneProgress" boolean,
      .nullable "showMessage"
        (record "ShowMessageRequestClientCapabilities" [.nullable "messageActionItem" item]),
      .nullable "showDocument"
        (record "ShowDocumentClientCapabilities" [.required "support" boolean])]

/-- General capabilities. -/
def generalCapabilities : Shape :=
  record "GeneralClientCapabilities"
    [.nullable "regularExpressions"
        (record "RegularExpressionsClientCapabilities"
          [.required "engine" text, .nullable "version" text]),
      .nullable "markdown"
        (record "MarkdownClientCapabilities"
          [.required "parser" text, .nullable "version" text,
            .nullable "allowedTags" (list text)]),
      .nullable "staleRequestSupport"
        (record "StaleRequestSupportClientCapabilities"
          [.required "cancel" boolean, .required "retryOnContentModified" (list text)]),
      .nullable "positionEncodings" (list text)]

/-- All capabilities of a client. -/
def clientCapabilities : Shape :=
  record "ClientCapabilities"
    [.nullable "workspace" workspaceCapabilities, .nullable "textDocument" documentCapabilities,
      .nullable "window" windowCapabilities, .nullable "general" generalCapabilities,
      .nullable "experimental" any]

end Polyglot.Lsp.Shape
