import Polyglot.Server.Reply

/-!
# Messages to the server

A message names a method. One with an identifier is a request and gets a response, one without is
a notice and gets none. A method is of one of these two sorts as well. A notice is passed over if
its method is that of a request, and a request is refused if its method is that of a notice.

Until the client has initialized the server, and after it has shut it down, all requests of known
methods are refused and all notices passed over. A method that is not known is refused at any time,
unless its name begins as those of optional methods do. Leaving is heeded at any time, with or
without an identifier, and after it nothing is answered any more.
-/

set_option autoImplicit false

namespace Polyglot

/-- A message of a client. -/
structure Message where
  method : String
  id? : Option Json
  params? : Option Json

/-- What becomes of a message: the server afterwards, the response, and what the client is told
meanwhile. -/
structure Handled where
  server : Server
  response? : Option Lsp.Response
  announcements : List Lsp.Announcement

/-- What a method is. -/
inductive Method where
  | start
  | stop
  | leave
  | withdraw
  | request (reader : Lsp.Params.Reader Lsp.Request)
  | notice (reader : Lsp.Params.Reader Lsp.Notice)
  | unserved (reader : Lsp.Params.Reader Unit)
  | unheeded
  | unknown

namespace Method

/-- The notices of the protocol that the server does not heed. -/
def unheededNames : List String :=
  ["textDocument/willSave", "textDocument/didSave", "workspace/didChangeConfiguration",
    "workspace/didChangeWorkspaceFolders", "workspace/didCreateFiles", "workspace/didRenameFiles",
    "workspace/didDeleteFiles", "workspace/didChangeWatchedFiles"]

/-- The method of a name. -/
def ofName : String → Method
  | "initialize" => start
  | "shutdown" => stop
  | "exit" => leave
  | "$/cancelRequest" => withdraw
  | "initialized" => notice Lsp.Params.ready
  | "textDocument/didOpen" => notice Lsp.Params.opened
  | "textDocument/didChange" => notice Lsp.Params.changed
  | "textDocument/didClose" => notice Lsp.Params.closed
  | "textDocument/completion" => request Lsp.Params.completion
  | "textDocument/definition" => request Lsp.Params.definition
  | "textDocument/documentSymbol" => request Lsp.Params.outline
  | "textDocument/codeAction" => request Lsp.Params.actions
  | "workspace/executeCommand" => request Lsp.Params.execute
  | name =>
    match Lsp.Shape.unserved.lookup name with
    | some shape => unserved (Lsp.Params.ignored shape)
    | none => if name ∈ unheededNames then unheeded else unknown

end Method

namespace Message

/-- What the parameters say. -/
def read {α : Type} (m : Message) (reader : Lsp.Params.Reader α) : Except Lsp.ParamsError α :=
  match m.params? with
  | some params => reader.read params
  | none => .error .missing

/-- Holds for a method that takes no parameters. -/
def readNone (m : Message) : Except Lsp.ParamsError Unit :=
  match m.params? with
  | some params => .error (.unexpected params)
  | none => .ok ()

end Message

namespace Server

/-- Passes a message over. -/
def pass (s : Server) : Handled :=
  ⟨s, none, []⟩

/-- Responds to a message without announcing anything, if it is a request. -/
def respond (s : Server) (m : Message) (result : Except Lsp.RequestError Lsp.Answer) : Handled :=
  ⟨s, m.id?.map fun id => ⟨id, result⟩, []⟩

/-- Refuses a message for which the server is not in the right phase. -/
def refuse (s : Server) (m : Message) : Handled :=
  match s.phase with
  | .waiting => s.respond m (.error .notInitialized)
  | .serving | .stopped | .left => s.respond m (.error .invalidRequest)

/-- Responds to the request to begin. It is refused from the second time on. -/
def handleStart (s : Server) (m : Message) : Handled :=
  match s.phase, m.id? with
  | .waiting, none => s.pass
  | .waiting, some _ =>
    match m.read Lsp.Params.roots with
    | .ok roots => (s.start roots).respond m (.ok .capabilities)
    | .error cause => s.respond m (.error (.badParams cause))
  | .serving, _ | .stopped, _ | .left, _ => s.respond m (.error .invalidRequest)

/-- Responds to the request to cease. -/
def handleStop (s : Server) (m : Message) : Handled :=
  match m.readNone with
  | .ok () => s.stop.respond m (.ok .farewell)
  | .error cause => s.stop.respond m (.error (.badParams cause))

/-- Responds to a request. -/
def handleRequest (s : Server) (m : Message) (reader : Lsp.Params.Reader Lsp.Request) :
    Handled :=
  match m.id? with
  | none => s.pass
  | some id =>
    match m.read reader with
    | .ok request =>
      let (s', announcements, result) := s.reply request
      ⟨s', some ⟨id, result⟩, announcements⟩
    | .error cause => s.respond m (.error (.badParams cause))

/-- Responds to a request that the server does not serve. -/
def handleUnserved (s : Server) (m : Message) (reader : Lsp.Params.Reader Unit) : Handled :=
  match m.read reader with
  | .ok () => s.respond m (.error .unservedMethod)
  | .error cause => s.respond m (.error (.badParams cause))

/-- Refuses a request of the method of a notice; a notice is passed over. -/
def handleUnheeded (s : Server) (m : Message) : Handled :=
  s.respond m (.error .invalidRequest)

/-- Hears a notice. -/
def handleNotice (s : Server) (m : Message) (reader : Lsp.Params.Reader Lsp.Notice) : Handled :=
  match m.id?, m.read reader with
  | some _, _ => s.handleUnheeded m
  | none, .ok notice =>
    let (s', announcements) := s.hear notice
    ⟨s', none, announcements⟩
  | none, .error _ => s.pass

/-- Handles a message of a known method other than those that are heeded in every phase. -/
def handleServing (s : Server) (m : Message) : Method → Handled
  | .stop => s.handleStop m
  | .request reader => s.handleRequest m reader
  | .notice reader => s.handleNotice m reader
  | .unserved reader => s.handleUnserved m reader
  | .unheeded => s.handleUnheeded m
  | .start | .leave | .withdraw | .unknown => s.pass

/-- Handles a message of an unknown method. -/
def handleUnknown (s : Server) (m : Message) : Handled :=
  if "$/".isPrefixOf m.method then s.pass else s.respond m (.error (.unknownMethod m.method))

/-- Handles a message that arrives before the server has left. -/
def handlePresent (s : Server) (m : Message) : Handled :=
  match Method.ofName m.method with
  | .start => s.handleStart m
  | .leave => s.leave.pass
  | .withdraw => s.handleUnheeded m
  | .unknown => s.handleUnknown m
  | method => if s.phase = .serving then s.handleServing m method else s.refuse m

/-- Handles a message. -/
def handle (s : Server) (m : Message) : Handled :=
  if s.phase = .left then s.pass else s.handlePresent m

/-- Handles messages one after the other. -/
def run (s : Server) (ms : List Message) : Server :=
  ms.foldl (fun s m => (s.handle m).server) s

end Server

end Polyglot
