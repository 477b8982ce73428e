import Polyglot.Grammar.Handler

/-!
# Keyword grammars

A keyword grammar is made from a few settings. It reads its sections line by line: a line that is
the keyword, a space and a name declares the name, and with a second keyword a line refers to a
name. Lines that begin with a severity are reported as diagnostics. It can keep its declarations
among the properties of a section, under `decls`, until it is told that the section was updated.

Some lines and commands are orders to the handler: they make it cancel its token or break off.
-/

set_option autoImplicit false

namespace Polyglot

/-- The settings of a keyword grammar. -/
structure KeywordGrammar where
  name : String
  /-- Lines with this keyword declare a name. -/
  keyword? : Option String
  /-- The kind of the declared entities; the keyword where there is none. -/
  kind? : Option String
  /-- Whether declarations are kept among the properties. -/
  cached : Bool
  /-- What is offered behind a completion that shows the position. -/
  completions? : Option (List Completion)
  commands : List Command
  /-- The change at whose notification the handler breaks off. -/
  panicOn? : Option SectionChange
  /-- Lines with this keyword refer to a name. -/
  referenceKeyword? : Option String
  /-- Whether references are pinned to the revision in which they were found. -/
  pinned : Bool

/-- A name on a line of a section. -/
structure KeywordMatch where
  name : String
  interval : Interval
deriving DecidableEq, Repr

namespace SectionView

/-- The lines of the section, each with its number and its content. -/
def contentLines (view : SectionView) : Except Error (List (Nat × List Char)) := do
  let content ← view.content
  let count := view.current.stop + 1 - view.current.start
  ((List.range count).map (view.current.start + ·)).mapM fun line => do
    let cs ← content.index.contentChars line
    return (line, cs)

end SectionView

/-- The rest of a line behind a keyword and a space, if the line begins so and has a rest. -/
def afterKeyword? (keyword line : List Char) : Option (List Char) :=
  match keyword, line with
  | [], ' ' :: rest => if rest.isEmpty then none else some rest
  | k :: ks, c :: cs => if k = c then afterKeyword? ks cs else none
  | _, _ => none

/-- The name behind the keyword on a line, with its place on the line. -/
def keywordMatch? (keyword : List Char) (line : Nat × List Char) : Option KeywordMatch := do
  let rest ← afterKeyword? keyword line.2
  let interval ← Interval.between? ⟨line.1, Text.byteSize keyword + 1⟩
    ⟨line.1, Text.byteSize line.2 - 1⟩
  return ⟨String.ofList rest, interval⟩

/-- The names behind the keyword on the lines of a section. -/
def scanKeyword (keyword : String) (view : SectionView) : List KeywordMatch :=
  match view.contentLines with
  | .ok lines => lines.filterMap (keywordMatch? keyword.toList)
  | .error _ => []

namespace KeywordGrammar

/-- The property under which declarations are kept. -/
def cacheKey : String :=
  "decls"

/-- The declarations of a section, read from its lines. -/
def readDeclarations (g : KeywordGrammar) (view : SectionView) : List Declaration :=
  match g.keyword? with
  | none => []
  | some keyword => (scanKeyword keyword view).map fun m =>
    ⟨m.name, g.kind?.getD keyword, view.locationOf m.interval, []⟩

/-- The declarations of a section, from its properties if they are kept there. -/
def declarations (g : KeywordGrammar) (view : SectionView) : Reply (List Declaration) :=
  if g.cached then
    let computed := view.properties.getOrCompute PropertyKind.declarations cacheKey fun _ =>
      .ok (g.readDeclarations view)
    let reports := if computed.ran then [.computed g.name view.current.start] else []
    match computed.value with
    | .ok (.ok found) => ⟨.ok found, computed.store, [], reports⟩
    | .ok (.error _) => ⟨.ok [], computed.store, [], reports⟩
    | .error panic => ⟨.error panic, computed.store, [], reports⟩
  else .answering view (g.readDeclarations view)

/-- What a word at the start of a line makes of the line: how grave it is, and at which stage. -/
def severityOf? : String → Option (Severity × Stage)
  | "error" => some (.error, .compiler)
  | "warning" | "far" | "stale" => some (.warning, .parser)
  | "info" => some (.information, .compiler)
  | "hint" => some (.hint, .parser)
  | _ => none

/-- A line cut at its first space; without a space there is nothing to report. -/
def cutAtSpace? (line : List Char) : Option (String × String) :=
  match line.dropWhile (· != ' ') with
  | [] => none
  | _ :: rest => some (String.ofList (line.takeWhile (· != ' ')), String.ofList rest)

/-- The diagnostic of a line that begins with a severity. A `far` one is about another source, a
`stale` one about a line far below. -/
def lineDiagnostic? (view : SectionView) (line : Nat × List Char) : Option Diagnostic := do
  let (word, message) ← cutAtSpace? line.2
  let (severity, stage) ← severityOf? word
  let row := if word = "stale" then line.1 + 1000 else line.1
  let interval ← Interval.between? ⟨row, 0⟩ ⟨row, Text.byteSize line.2 - 1⟩
  let source := if word = "far" then "elsewhere" else view.documentId
  return ⟨⟨source, interval⟩, severity, message, stage⟩

/-- Reads lines one after the other: diagnostics and orders to cancel are gathered, and an order to
break off ends the reading. -/
def diagnose (view : SectionView) (found : List Diagnostic) (requests : List TokenRequest) :
    List (Nat × List Char) → Reply (List Diagnostic)
  | [] => ⟨.ok found, view.properties, requests, []⟩
  | line :: lines =>
    if line.2 = "!panic".toList then
      ⟨.error (.ofMessage "diagnostics failure"), view.properties, requests, []⟩
    else if line.2 = "!cancel".toList then diagnose view found (requests ++ [.cancel]) lines
    else diagnose view (found ++ (lineDiagnostic? view line).toList) requests lines

/-- The diagnostics of a section. -/
def diagnostics (view : SectionView) (_ : TokenView) : Reply (List Diagnostic) :=
  match view.contentLines with
  | .ok lines => diagnose view [] [] lines
  | .error _ => .answering view []

/-- The completions at a position: first one that shows the position, then those configured. -/
def completions (g : KeywordGrammar) (view : SectionView) (p : Position) :
    Reply (List Completion) :=
  match g.completions? with
  | none => .answering view []
  | some items => .answering view (⟨g.name ++ "@" ++ p.text, none, none⟩ :: items)

/-- What the command `count` says about a section. -/
def summary (view : SectionView) : String :=
  view.current.grammar ++ " " ++ Text.decimal view.current.start ++ "-" ++
    Text.decimal view.current.stop ++ " rev " ++
    Text.decimal (view.revision.toOption.getD 0)

/-- Carries out a command. -/
def execute (view : SectionView) (command : String) (token : TokenView) : Reply CommandOutcome :=
  match command with
  | "count" => .answering view (.completed (summary view))
  | "token" => .answering view (.completed token.id)
  | "cancel" => ⟨.ok .cancelled, view.properties, [.cancel], []⟩
  | "panic" => .panicking view (.ofMessage "command failure")
  | _ =>
    match command.toList with
    | 'f' :: 'a' :: 'i' :: 'l' :: ':' :: message =>
      .answering view (.failed (String.ofList message))
    | _ => .answering view (unsupportedCommand command)

/-- Takes note of a change: kept declarations go when the section was updated. -/
def sectionChanged (g : KeywordGrammar) (view : SectionView) (change : SectionChange) :
    Reply Unit :=
  let properties :=
    if g.cached && change == .updated then view.properties.remove cacheKey else view.properties
  let answer :=
    if g.panicOn? = some change then .error (.ofMessage "notification failure") else .ok ()
  ⟨answer, properties, [], [.changed change view]⟩

/-- How the target of a name is found: two names are orders, any other is looked up in the model. -/
def resolverOf (location : Location) (name : String) : Resolver :=
  match name with
  | "!panic" => .ofTarget location fun _ => .error (.ofMessage "resolver failure")
  | "!ambiguous" => .ofTarget location fun _ => .ok (.error (.ambiguous 2))
  | _ => .inModel location fun model => model.entities.find? name

/-- The references of a section. -/
def references (g : KeywordGrammar) (keyword : String) (view : SectionView) :
    Reply (List Resolver) :=
  .answering view <| (scanKeyword keyword view).map fun m =>
    let resolver := resolverOf (view.locationOf m.interval) m.name
    if g.pinned then resolver.atRevision (view.revision.toOption.getD 0) else resolver

/-- The handler of a keyword grammar. -/
def handler (g : KeywordGrammar) : Handler where
  name := g.name
  declarations := g.declarations
  diagnostics := diagnostics
  completions := g.completions
  commands := fun view => .answering view g.commands
  execute := execute
  sectionChanged := g.sectionChanged
  references? := g.referenceKeyword?.map g.references

end KeywordGrammar

end Polyglot
