import Polyglot.Workspace.Basic

/-!
# Asking the handlers of a workspace

A query finds the sections it concerns and asks their handlers. It ends with an answer, is refused
with an error, or is broken off by a handler; in each case the workspace keeps what the handlers
did to it. A section whose grammar has no handler contributes nothing.
-/

set_option autoImplicit false

namespace Polyglot

/-- Why a query has no answer. -/
inductive QueryFailure where
  | refused (error : Error)
  | broken (panic : Panic)
deriving DecidableEq, Repr

/-- A computation on the workspace that may fail. -/
abbrev Query :=
  ExceptT QueryFailure (StateM Workspace)

namespace Query

variable {β : Type}

/-- Runs a query on a workspace. -/
def run (q : Query β) (w : Workspace) : Except QueryFailure β × Workspace :=
  ExceptT.run q w

/-- The workspace as it stands. -/
def workspace : Query Workspace :=
  get

/-- The open document of an identifier; it is an error if there is none. -/
def document (id : String) : Query Document := do
  match (← workspace).document? id with
  | some d => return d
  | none => throw (.refused (.unknownDocument id))

/-- The handler of a section, if its grammar has one. -/
def handler? (state : SectionState) : Query (Option Handler) := do
  return (← workspace).grammars.handler? state.current.grammar

/-- Asks a handler's function about a state of a document and takes over what it leaves. The view
shows what earlier handlers have made of the state. -/
def ask (d : Document) (state : SectionState) (token? : Option TokenKey)
    (call : SectionView → Reply β) : Query β := do
  let view := ((← workspace).view? state.key).getD (d.view state)
  let reply := call view
  modify fun w => w.absorb state.key token? reply
  match reply.answer with
  | .ok answer => return answer
  | .error panic => throw (.broken panic)

/-- Asks the handler of each section in order and strings the answers together. A section without
a handler, or whose handler lacks the function, is passed over. -/
def gather (d : Document) (call? : Handler → Option (SectionView → Reply (List β))) :
    List SectionState → Query (List β)
  | [] => return []
  | state :: states => do
    let answer ←
      match (← handler? state).bind call? with
      | some call => ask d state none call
      | none => pure []
    return answer ++ (← gather d call? states)

/-- Whether a token is cancelled. -/
def isCancelled (token : TokenKey) : Query Bool := do
  return (← workspace).cancellations.isCancelled token

/-- Gathers the diagnostics of sections in order, and stops with what there is before the first
section at which the token is cancelled. -/
def gatherDiagnostics (d : Document) (token : TokenKey) :
    List SectionState → Query (List Diagnostic)
  | [] => return []
  | state :: states => do
    if ← isCancelled token then return []
    let seen := (← workspace).tokenView token
    let answer ←
      match ← handler? state with
      | some handler => ask d state (some token) (handler.diagnostics · seen)
      | none => pure []
    return answer ++ (← gatherDiagnostics d token states)

/-- The diagnostics of a document, section by section. -/
def diagnostics (id : String) (token : TokenKey) : Query (List Diagnostic) := do
  let d ← document id
  gatherDiagnostics d token d.sections

/-- The declarations of a document, section by section. -/
def declarations (id : String) : Query (List Declaration) := do
  let d ← document id
  gather d (fun handler => some handler.declarations) d.sections

/-- The references of a document, section by section. -/
def references (id : String) : Query (List Resolver) := do
  let d ← document id
  gather d Handler.references? d.sections

/-- Asks the handler of the section at a line; where there is no section or no handler, or the
handler lacks the function, the answer is empty. -/
def askAt (d : Document) (line : Nat) (call? : Handler → Option (SectionView → Reply (List β))) :
    Query (List β) := do
  match d.sectionAt? line with
  | none => return []
  | some state => gather d call? [state]

/-- The completions at a position. -/
def completions (id : String) (p : Position) : Query (List Completion) := do
  let d ← document id
  askAt d p.line fun handler => some (handler.completions · p)

/-- The commands offered at a line. -/
def commands (id : String) (line : Nat) : Query (List Command) := do
  let d ← document id
  askAt d line fun handler => some handler.commands

/-- Runs a command for the section at a line. A line without a section is an error. Without
a handler the command fails, and with a cancelled token it does not start. -/
def execute (id : String) (line : Nat) (command : String) (token : TokenKey) :
    Query CommandOutcome := do
  let d ← document id
  match d.sectionAt? line with
  | none => throw (.refused (.bounds .line line (.upTo d.index.lastCountedLine)))
  | some state =>
    match ← handler? state with
    | none => return .failed ("no handler for grammar '" ++ state.current.grammar ++ "'")
    | some handler =>
      if ← isCancelled token then return .cancelled
      let seen := (← workspace).tokenView token
      ask d state (some token) (handler.execute · command seen)

/-- The target of the reference at a position, if there is a reference and it has a target in the
context of the workspace. -/
def definition (id : String) (p : Position) : Query (Option Location) := do
  let d ← document id
  let resolvers ← askAt d p.line Handler.references?
  match resolverAt resolvers id p with
  | none => return none
  | some resolver => return (resolver.resolveWith (← workspace).context?).toOption

end Query

end Polyglot
