import Polyglot.LineIndex.Utf16
import Polyglot.Lsp.Encoding
import Polyglot.Workspace.Document

/-!
# Outlines

The outline of a document has one symbol for each section, in order, and below it the declarations
that lie in the section, nested as they were declared. A declaration whose interval does not fit
the text is left out together with all that is inside it.
-/

set_option autoImplicit false

namespace Polyglot.Lsp

/-- The kinds of symbols that outlines use. -/
inductive SymbolKind where
  | namespaceKind
  | packageKind
  | classKind
  | propertyKind
  | enumKind
  | interfaceKind
  | functionKind
  | objectKind
deriving DecidableEq, Repr

namespace SymbolKind

/-- The number of a kind. -/
def number : SymbolKind → Nat
  | namespaceKind => 3
  | packageKind => 4
  | classKind => 5
  | propertyKind => 7
  | enumKind => 10
  | interfaceKind => 11
  | functionKind => 12
  | objectKind => 19

/-- The kind of a declaration's symbol, by the kind of the declaration with its letters made
small. -/
def ofDeclarationKind (kind : String) : SymbolKind :=
  match String.ofList (kind.toList.map Char.toLower) with
  | "class" => classKind
  | "enum" | "enumeration" => enumKind
  | "function" => functionKind
  | "property" => propertyKind
  | "association" => interfaceKind
  | "profile" | "package" => packageKind
  | _ => objectKind

end SymbolKind

/-- A symbol of an outline, with the symbols inside it. -/
structure Symbol where
  name : String
  detail : String
  kind : SymbolKind
  range : Range
  selectionRange : Range
  children : List Symbol

mutual

/-- The symbol of a declaration, if its interval fits the text. -/
def declarationSymbol? (index : LineIndex) : Declaration → Option Symbol
  | ⟨identifier, kind, location, children⟩ =>
    match index.rangeOf location.interval with
    | .ok range => some ⟨identifier, kind, .ofDeclarationKind kind, range, range,
        declarationSymbols index children⟩
    | .error _ => none

/-- The symbols of those declarations whose intervals fit the text. -/
def declarationSymbols (index : LineIndex) : List Declaration → List Symbol
  | [] => []
  | d :: ds => (declarationSymbol? index d).toList ++ declarationSymbols index ds

end

/-- The range of a line's content. -/
def contentRange? (index : LineIndex) (line : Nat) : Option Range := do
  let content ← (index.contentChars line).toOption
  let start ← (index.lineStart line).toOption
  let first ← (index.toLsp start).toOption
  let last ← (index.toLsp (start + Text.byteSize content)).toOption
  return ⟨first, last⟩

/-- The symbol of a section that belongs to the document, with those of the declarations that lie
in it. An explicit section is selected by its declaration line. -/
def sectionSymbol? (d : Document) (declarations : List Declaration) (state : SectionState) :
    Option Symbol := do
  let location ← (d.view state).location.toOption
  let range ← (d.index.rangeOf location.interval).toOption
  let inside := declarations.filter fun declaration => location.subsumes declaration.location
  let selection := (state.current.declaration.bind (contentRange? d.index)).getD range
  return ⟨state.current.grammar, "section", .namespaceKind, range, selection,
    declarationSymbols d.index inside⟩

/-- The outline of a document with the given declarations. -/
def outline (d : Document) (declarations : List Declaration) : List Symbol :=
  d.sections.filterMap (sectionSymbol? d declarations)

mutual

/-- The symbol as JSON; without symbols inside it the field for them is left out. -/
def Symbol.toJson : Symbol → Json
  | ⟨name, detail, kind, range, selectionRange, children⟩ =>
    let inside := Symbol.listToJson children
    .ofFields [("name", some (.string name)), ("detail", some (.string detail)),
      ("kind", some (.nat kind.number)), ("range", some range.toJson),
      ("selectionRange", some selectionRange.toJson),
      ("children", if inside.isEmpty then none else some (.array inside))]

/-- The symbols as JSON, one by one. -/
def Symbol.listToJson : List Symbol → List Json
  | [] => []
  | s :: ss => s.toJson :: Symbol.listToJson ss

end

end Polyglot.Lsp
