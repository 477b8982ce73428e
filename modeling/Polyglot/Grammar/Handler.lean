import Polyglot.Cancellation.Registry
import Polyglot.Reference
import Polyglot.Section.View

/-!
# Grammar handlers

A handler serves the sections of one grammar. It is a record of functions on views. Besides its
answer, a function may change the properties of the section it was called for, cancel or close the
token it was given, and leave reports; it can change nothing else. It may break off instead of
answering, and what it did before stays done.

Every function but the name has a default, so a handler says only what its grammar supports.
-/

set_option autoImplicit false

namespace Polyglot

/-- How a section changed when the text of its document changed. -/
inductive SectionChange where
  /-- The section is new and has no properties yet. -/
  | created
  /-- The section was kept, and its lines or their text changed. -/
  | updated
  /-- The section was dropped. -/
  | removed
deriving DecidableEq, Repr

namespace SectionChange

/-- The change in a word. -/
def label : SectionChange → String
  | created => "Created"
  | updated => "Updated"
  | removed => "Removed"

end SectionChange

/-- What a handler makes known about its work. -/
inductive Report where
  /-- The handler of a grammar computed a list of declarations for the section that starts here. -/
  | computed (grammar : String) (start : Nat)
  /-- The handler was told of a change. -/
  | changed (change : SectionChange) (view : SectionView)

/-- What a handler may do with the token that it was given. -/
inductive TokenRequest where
  | cancel
  | close
deriving DecidableEq, Repr

/-- A token as a handler sees it. -/
structure TokenView where
  id : String
  cancelled : Bool
deriving DecidableEq, Repr

/-- What a handler's function leaves: the answer or a panic, the section's properties, what is to
be done with the token, in order, and reports. -/
structure Reply (β : Type) where
  answer : Except Panic β
  properties : Properties
  requests : List TokenRequest
  reports : List Report

namespace Reply

variable {β : Type}

/-- Answers and changes nothing. -/
def answering (view : SectionView) (answer : β) : Reply β :=
  ⟨.ok answer, view.properties, [], []⟩

/-- Breaks off and changes nothing. -/
def panicking (view : SectionView) (panic : Panic) : Reply β :=
  ⟨.error panic, view.properties, [], []⟩

end Reply

/-- What a section does with a command that it does not know. -/
def unsupportedCommand (command : String) : CommandOutcome :=
  .failed ("unsupported command: " ++ command)

/-- The functions of a grammar. Finding references is a capability that a handler may lack. -/
structure Handler where
  name : String
  declarations : SectionView → Reply (List Declaration) :=
    fun view => .answering view []
  diagnostics : SectionView → TokenView → Reply (List Diagnostic) :=
    fun view _ => .answering view []
  completions : SectionView → Position → Reply (List Completion) :=
    fun view _ => .answering view []
  commands : SectionView → Reply (List Command) :=
    fun view => .answering view []
  execute : SectionView → String → TokenView → Reply CommandOutcome :=
    fun view command _ => .answering view (unsupportedCommand command)
  sectionChanged : SectionView → SectionChange → Reply Unit :=
    fun view _ => .answering view ()
  references? : Option (SectionView → Reply (List Resolver)) :=
    none

namespace Handler

/-- The handler that supports nothing. -/
def plain (name : String) : Handler where
  name := name

end Handler

end Polyglot
