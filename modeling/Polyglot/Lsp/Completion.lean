import Polyglot.Grammar.Answer
import Polyglot.Json
import Polyglot.Text.Numeral

/-!
# Completions for a client

A client sorts completions by their sort texts, so each gets one that begins with its place in the
handler's list, in at least four digits. Where nothing is offered there is no response, and the
client may fall back to its own completion of words.
-/

set_option autoImplicit false

namespace Polyglot.Lsp

/-- A completion as a client gets it. Every one is of the kind `keyword`. -/
structure CompletionItem where
  label : String
  detail : Option String
  sortText : String
  insertText : Option String
deriving DecidableEq, Repr

namespace CompletionItem

/-- The number of the kind `keyword`. -/
def keywordKind : Nat :=
  14

/-- The sort text of the completion at a place of the list. -/
def sortTextOf (place : Nat) (label : String) : String :=
  String.ofList (Text.padZeros 4 (Nat.toDigits 10 place)) ++ "_" ++ label

/-- The completion at a place of the list. -/
def ofCompletion (place : Nat) (c : Completion) : CompletionItem :=
  ⟨c.label, c.detail, sortTextOf place c.label, c.insertText⟩

/-- The item as JSON. -/
def toJson (item : CompletionItem) : Json :=
  .ofFields [("label", some (.string item.label)), ("kind", some (.nat keywordKind)),
    ("detail", item.detail.map .string), ("sortText", some (.string item.sortText)),
    ("insertText", item.insertText.map .string)]

end CompletionItem

/-- The items for a list of completions, if it is not empty. -/
def completionResponse (completions : List Completion) : Option (List CompletionItem) :=
  if completions.isEmpty then none
  else some (completions.zipIdx.map fun c => .ofCompletion c.2 c.1)

/-- The response as JSON: the items, or null. -/
def completionResponseJson (response : Option (List CompletionItem)) : Json :=
  .orNull (response.map fun items => .array (items.map CompletionItem.toJson))

end Polyglot.Lsp
