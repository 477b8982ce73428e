import Polyglot.Grammar.Registry
import Polyglot.Workspace.Document

/-!
# Workspaces

A workspace holds the open documents by their identifiers, the last revision of each identifier
that is closed, the handlers of the grammars, the tokens of running work, and the context against
which references are resolved. Documents that were closed or replaced stay as retired ones for
those who still know their keys.

The journal tells, from the first entry on, what was delivered to the handlers and what they
reported.
-/

set_option autoImplicit false

namespace Polyglot

/-- What happened between the workspace and a handler: a change was delivered for a state, with
the view at that moment, or the handler reported something. -/
inductive JournalEntry where
  | delivered (state : SectionKey) (change : SectionChange) (view : SectionView)
  | reported (report : Report)

/-- The open documents and all that they share. -/
structure Workspace where
  grammars : GrammarRegistry
  segmenter : Segmenter
  opened : Dictionary Document
  retired : List Document
  closed : Dictionary Nat
  cancellations : Cancellations String
  context? : Option Context
  properties : Properties
  journal : List JournalEntry

namespace Workspace

/-- The workspace without documents. -/
def empty (grammars : GrammarRegistry) (segmenter : Segmenter) : Workspace :=
  ⟨grammars, segmenter, .empty, [], .empty, .empty, none, ∅, []⟩

/-- The open document of an identifier. -/
def document? (w : Workspace) (id : String) : Option Document :=
  w.opened.find? id

/-- The identifiers of the open documents, sorted. -/
def ids (w : Workspace) : List String :=
  w.opened.sortedKeys

/-- The open documents in the order of their identifiers. -/
def documents (w : Workspace) : List Document :=
  w.ids.filterMap w.document?

/-- The open document of a key. -/
def openDocument? (w : Workspace) (key : DocumentKey) : Option Document :=
  (w.document? key.id).filter fun d => decide (d.key = key)

/-- The document of a key, whether it is open or retired. -/
def documentOf? (w : Workspace) (key : DocumentKey) : Option Document :=
  (w.openDocument? key).or (w.retired.find? fun d => decide (d.key = key))

/-- The view of a state that an open or a retired document has or had. -/
def view? (w : Workspace) (key : SectionKey) : Option SectionView := do
  let d ← w.documentOf? key.document
  let state ← d.state? key
  return d.view state

/-- The document of a state, unless the document has dropped it. -/
def owner? (w : Workspace) (key : SectionKey) : Option Document := do
  let d ← w.documentOf? key.document
  let state ← d.state? key
  if state.attached then some d else none

/-- The workspace with a document put in the place of the one with its key. -/
def setDocument (w : Workspace) (d : Document) : Workspace :=
  if (w.openDocument? d.key).isSome then { w with opened := w.opened.insert d.id d }
  else { w with retired := w.retired.map fun other => if other.key = d.key then d else other }

/-- The workspace with the properties of a state replaced. -/
def setProperties (w : Workspace) (key : SectionKey) (properties : Properties) : Workspace :=
  match w.documentOf? key.document with
  | some d => w.setDocument (d.setProperties key properties)
  | none => w

/-- The workspace with an entry at the end of the journal. -/
def log (w : Workspace) (entry : JournalEntry) : Workspace :=
  { w with journal := w.journal ++ [entry] }

/-- The token as a handler sees it. -/
def tokenView (w : Workspace) (token : TokenKey) : TokenView :=
  ⟨w.cancellations.idOf token, w.cancellations.isCancelled token⟩

/-- Carries out what a handler asked for its token. -/
def serve (token : TokenKey) (w : Workspace) : TokenRequest → Workspace
  | .cancel => { w with cancellations := w.cancellations.cancel token }
  | .close => { w with cancellations := w.cancellations.close token }

/-- Takes over what a handler left for a state: its properties, its reports, and what it asked for
the token it was given, if it was given one. -/
def absorb {β : Type} (w : Workspace) (key : SectionKey) (token? : Option TokenKey)
    (reply : Reply β) : Workspace :=
  let w := w.setProperties key reply.properties
  let w := { w with journal := w.journal ++ reply.reports.map .reported }
  match token? with
  | some token => reply.requests.foldl (serve token) w
  | none => w

/-- The workspace with another context for its references, or with none. -/
def setContext (w : Workspace) (context? : Option Context) : Workspace :=
  { w with context? := context? }

/-- The workspace as debugging output shows it. -/
def debug (w : Workspace) : String :=
  Text.record "GlobalState" [("documents", Text.decimal w.opened.size),
    ("grammars", w.grammars.debug), ("default_grammar", Text.quoted w.segmenter.grammar)]

/-- A section state as debugging output shows it. -/
def debugState (w : Workspace) (state : SectionState) : String :=
  Text.record "SectionState" [("document_id", Text.quoted state.key.document.id),
    ("section", state.current.debug),
    ("has_handler", Text.truth (w.grammars.handler? state.current.grammar).isSome)]

end Workspace

end Polyglot
