import Polyglot.Server.Basic

/-!
# Answers of the server

A question about a document that is not open, or about a line that it does not have, is answered
with nothing. A command of a section runs as a task of its own and its outcome becomes the
response: a failure is shown to the client as well.
-/

set_option autoImplicit false

namespace Polyglot.Server

/-- The position in an open document for a position of the client, and nothing if there is none. -/
def positionIn? (w : Workspace) (uri : String) (p : Lsp.Position) : Option Position := do
  let d ← w.document? uri
  d.index.positionOfLsp? p

/-- The result of a query, with `default` in place of a refusal. A handler that broke off is an
internal error. -/
def settle {β : Type} (default : β) : Except QueryFailure β → Except Lsp.RequestError β
  | .ok answer => .ok answer
  | .error (.refused _) => .ok default
  | .error (.broken _) => .error .internal

/-- Asks the workspace, with `default` in place of a refusal. -/
def consult {β : Type} (w : Workspace) (q : Query β) (default : β) (answer : β → Lsp.Answer) :
    Workspace × Except Lsp.RequestError Lsp.Answer :=
  let (result, w') := q.run w
  (w', (settle default result).map answer)

/-- The completions at a position. -/
def complete (w : Workspace) (uri : String) (p : Lsp.Position) :
    Workspace × Except Lsp.RequestError Lsp.Answer :=
  match positionIn? w uri p with
  | none => (w, .ok (.completions none))
  | some position =>
    consult w (.completions uri position) [] fun cs => .completions (Lsp.completionResponse cs)

/-- The target of the reference at a position. -/
def define (w : Workspace) (uri : String) (p : Lsp.Position) :
    Workspace × Except Lsp.RequestError Lsp.Answer :=
  match positionIn? w uri p with
  | none => (w, .ok (.definition none))
  | some position =>
    consult w (.definition uri position) none fun target? =>
      .definition (target?.bind (Lsp.locationOf? w))

/-- The outline of a document. -/
def outline (w : Workspace) (uri : String) : Workspace × Except Lsp.RequestError Lsp.Answer :=
  match w.document? uri with
  | none => (w, .ok (.outline none))
  | some d => consult w (.declarations uri) [] fun ds => .outline (some (Lsp.outline d ds))

/-- The action that runs a command offered at a line. -/
def actionOf (uri : String) (line : Nat) (c : Command) : Lsp.Action :=
  ⟨c.title, (Lsp.SectionCommand.mk uri line c.id).invocation⟩

/-- The actions for a range, which are those of its first line. -/
def actions (w : Workspace) (uri : String) (r : Lsp.Range) :
    Workspace × Except Lsp.RequestError Lsp.Answer :=
  consult w (.commands uri r.start.line) [] fun cs => .actions (cs.map (actionOf uri r.start.line))

/-- The identifier of the task that runs the command with a number. -/
def commandTask (number : Nat) : String :=
  "command-" ++ Text.decimal number

/-- What a client gets for the end of a command. -/
def outcome : Except QueryFailure CommandOutcome →
    List Lsp.Announcement × Except Lsp.RequestError Lsp.Answer
  | .ok (.completed message) => ([], .ok (.output message))
  | .ok .cancelled => ([], .error .cancelled)
  | .ok (.failed message) => ([.shown message], .error (.failed message))
  | .error (.refused error) => ([], .error (.refused error))
  | .error (.broken _) => ([], .error .internal)

/-- The section's command that a client command stands for. -/
def commandOf (call : Lsp.Invocation) : Except Lsp.RequestError Lsp.SectionCommand :=
  if call.name = Lsp.SectionCommand.name then
    match Lsp.SectionCommand.ofArguments? call.arguments with
    | some command => .ok command
    | none => .error .badArguments
  else .error (.unknownCommand call.name)

/-- Runs a section's command. -/
def execute (s : Server) (c : Lsp.SectionCommand) :
    Server × List Lsp.Announcement × Except Lsp.RequestError Lsp.Answer :=
  let (task, w) :=
    s.workspace.runTask (commandTask s.commandCount) (Query.execute c.uri c.line c.id)
  ({ s with workspace := w, commandCount := s.commandCount + 1 }, outcome task.result)

/-- Replies to a question about the workspace, which announces nothing. -/
def replyWith (s : Server) (result : Workspace × Except Lsp.RequestError Lsp.Answer) :
    Server × List Lsp.Announcement × Except Lsp.RequestError Lsp.Answer :=
  ({ s with workspace := result.1 }, [], result.2)

/-- Replies to a request. -/
def reply (s : Server) :
    Lsp.Request → Server × List Lsp.Announcement × Except Lsp.RequestError Lsp.Answer
  | .completion uri p => s.replyWith (complete s.workspace uri p)
  | .definition uri p => s.replyWith (define s.workspace uri p)
  | .outline uri => s.replyWith (Server.outline s.workspace uri)
  | .actions uri r => s.replyWith (Server.actions s.workspace uri r)
  | .execute call =>
    match commandOf call with
    | .ok command => s.execute command
    | .error error => (s, [], .error error)

end Polyglot.Server
