import Polyglot.Lsp.Navigation
import Polyglot.Lsp.Response
import Polyglot.Settings.Discovery
import Polyglot.Workspace.Edit
import Polyglot.Workspace.Task

/-!
# The server

A server keeps one workspace for its client. The client tells it what becomes of the documents;
after each opening and each change the server publishes the diagnostics of the document, and after
closing it publishes that there are none.

The diagnostics of a document are collected under one token. Collecting them again cancels what is
still running, and a collection that was cancelled publishes nothing.
-/

set_option autoImplicit false

namespace Polyglot

/-- What a server is ready for: to be initialized, to serve, only to refuse what is asked, or for
nothing any more. -/
inductive Phase where
  | waiting
  | serving
  | stopped
  | left
deriving DecidableEq, Repr

/-- A server: the files that it can see, its phase, its workspace, and how many commands it has
begun to run. -/
structure Server where
  files : FileTree
  phase : Phase
  workspace : Workspace
  commandCount : Nat

namespace Server

/-- The server for a list of handlers, before its client has said anything. -/
def create (files : FileTree) (grammars : GrammarRegistry) : Server :=
  ⟨files, .waiting, .empty grammars default, 0⟩

/-- The directory of a client: that of its first workspace folder if it is a directory of files,
or else that of its root. -/
def directoryOf? (roots : Lsp.Roots) : Option Path :=
  (roots.folders.head?.bind Uri.filePath?).or (roots.root?.bind Uri.filePath?)

/-- Begins to serve. The settings that hold in the client's directory choose the grammar of text
without a declaration line. -/
def start (s : Server) (roots : Lsp.Roots) : Server :=
  let segmenter := match directoryOf? roots with
    | some directory => (Settings.discover s.files directory).1.segmenter
    | none => s.workspace.segmenter
  { s with phase := .serving, workspace := { s.workspace with segmenter := segmenter } }

/-- Ceases to serve. -/
def stop (s : Server) : Server :=
  { s with phase := .stopped }

/-- Leaves the client. -/
def leave (s : Server) : Server :=
  { s with phase := .left }

/-- The identifier of the task that collects the diagnostics of a document. -/
def diagnosticsTask (uri : String) : String :=
  "diagnostics:" ++ uri

/-- The diagnostics of a document as a client gets them. -/
def diagnosticItems (uri : String) (token : TokenKey) : Query (List Lsp.DiagnosticItem) := do
  let d ← Query.document uri
  return Lsp.diagnosticItems (← Query.diagnostics uri token) uri d.index

/-- Collects the diagnostics of a document. They are published unless a handler broke off or the
task was cancelled. -/
def publish (w : Workspace) (uri : String) (version : Int) :
    Workspace × List Lsp.Announcement :=
  let (task, w') := (w.cancelTask (diagnosticsTask uri)).runTask (diagnosticsTask uri)
    (diagnosticItems uri)
  match task.result with
  | .ok items => (w', if task.cancelled then [] else [.published uri items (some version)])
  | .error _ => (w', [])

/-- The workspace with the text of a document changed, or with the document opened if it was not
open. -/
def putText (w : Workspace) (uri text : String) : Workspace :=
  match w.changeText uri text with
  | .ok w' => w'
  | .error _ => w.openText uri text

/-- The workspace with a document closed; one that is not open stays so. -/
def dropText (w : Workspace) (uri : String) : Workspace :=
  (w.cancelTask (diagnosticsTask uri)).apply (.close uri)

/-- The message for a client that is ready. -/
def greeting (w : Workspace) : String :=
  "seclsp initialized (grammars: " ++ ", ".intercalate w.grammars.names ++ ")"

/-- Does what a notice demands of the workspace. A change has one text, which is the first if
there are several; without a text nothing is done. -/
def heed (w : Workspace) : Lsp.Notice → Workspace × List Lsp.Announcement
  | .ready => (w, [.logged (greeting w)])
  | .opened uri version text => publish (w.openText uri text) uri version
  | .changed _ _ [] => (w, [])
  | .changed uri version (text :: _) => publish (putText w uri text) uri version
  | .closed uri => (dropText w uri, [.published uri [] none])

/-- Hears a notice. -/
def hear (s : Server) (n : Lsp.Notice) : Server × List Lsp.Announcement :=
  let (w, announcements) := heed s.workspace n
  ({ s with workspace := w }, announcements)

end Server

end Polyglot
