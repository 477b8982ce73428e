import Polyglot.Workspace.Basic
import Polyglot.Workspace.Reconcile

/-!
# Editing a workspace

Documents are opened, changed and closed. Each edit first takes effect as a whole and then tells
the handlers: `install`, `replace` and `withdraw` do the first and give the list of what is to be
told, `deliver` does the second. A handler that breaks off when it is told of a change disturbs
neither the edit nor those that are told after it.

The revisions of an identifier go on counting when it is closed and opened again, so no revision
of an identifier is repeated.
-/

set_option autoImplicit false

namespace Polyglot

/-- An edit of the documents. -/
inductive Edit where
  | openText (id text : String)
  | changeText (id text : String)
  | close (id : String)
deriving DecidableEq, Repr

namespace Edit

/-- The identifier of the edited document. -/
def id : Edit → String
  | openText id _ => id
  | changeText id _ => id
  | close id => id

end Edit

namespace Workspace

/-- Tells the handler of a state's grammar of a change; without a handler nothing happens. -/
def deliverOne (w : Workspace) (n : Notification) : Workspace :=
  match w.view? n.state with
  | none => w
  | some view =>
    match w.grammars.handler? view.current.grammar with
    | none => w
    | some handler =>
      (w.log (.delivered n.state n.change view)).absorb n.state none
        (handler.sectionChanged view n.change)

/-- Tells the handlers of changes, one after the other. -/
def deliver (w : Workspace) (ns : List Notification) : Workspace :=
  ns.foldl deliverOne w

/-- The revision of the next document to be opened under an identifier. -/
def nextRevision (w : Workspace) (id : String) : Nat :=
  match w.document? id with
  | some old => old.revision + 1
  | none => ((w.closed.find? id).map (· + 1)).getD 0

/-- The workspace with the document of an identifier dropped and retired, if one is open, and what
is to be told of it. -/
def retire (w : Workspace) (id : String) : Workspace × List Notification :=
  match w.document? id with
  | some old =>
    ({ w with opened := w.opened.erase id, retired := w.retired ++ [old.release] },
      old.notifications .removed)
  | none => (w, [])

/-- Puts a new document under an identifier, in place of any other. -/
def install (w : Workspace) (id text : String) : Workspace × List Notification :=
  let d := Document.create id (w.nextRevision id) text w.segmenter
  let (rest, removed) := w.retire id
  ({ rest with opened := rest.opened.insert id d, closed := rest.closed.erase id },
    removed ++ d.notifications .created)

/-- Gives the document of an identifier another text. -/
def replace (w : Workspace) (id text : String) : Except Error (Workspace × List Notification) :=
  match w.document? id with
  | some d =>
    let (d', ns) := d.revise text w.segmenter
    .ok ({ w with opened := w.opened.insert id d' }, ns)
  | none => .error (.unknownDocument id)

/-- Takes the document of an identifier away and remembers its revision. -/
def withdraw (w : Workspace) (id : String) : Except Error (Workspace × List Notification) :=
  match w.document? id with
  | some d =>
    let (rest, removed) := w.retire id
    .ok ({ rest with closed := rest.closed.insert id d.revision }, removed)
  | none => .error (.unknownDocument id)

/-- Opens a document, also in place of one that is open under the identifier. -/
def openText (w : Workspace) (id text : String) : Workspace :=
  let (w', ns) := w.install id text
  w'.deliver ns

/-- Changes the text of an open document. -/
def changeText (w : Workspace) (id text : String) : Except Error Workspace :=
  (w.replace id text).map fun (w', ns) => w'.deliver ns

/-- Closes an open document. -/
def close (w : Workspace) (id : String) : Except Error Workspace :=
  (w.withdraw id).map fun (w', ns) => w'.deliver ns

/-- Carries out an edit. -/
def edit (w : Workspace) : Edit → Except Error Workspace
  | .openText id text => .ok (w.openText id text)
  | .changeText id text => w.changeText id text
  | .close id => w.close id

/-- Carries out an edit; one that fails leaves the workspace as it is. -/
def apply (w : Workspace) (e : Edit) : Workspace :=
  match w.edit e with
  | .ok w' => w'
  | .error _ => w

/-- Carries out edits one after the other. -/
def run (w : Workspace) (es : List Edit) : Workspace :=
  es.foldl apply w

end Workspace

end Polyglot
