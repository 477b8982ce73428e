import Polyglot.Grammar.Handler
import Polyglot.Section.Segmenter

/-!
# Documents

A document holds its text at a revision and one state for each section of the text. A section
state has an identity that outlives edits: the document, the revision in which the state was made,
and its place among the sections of that revision. No two states share one, for a document never
repeats a revision.

States that an edit dropped stay with the document as former ones, so that whoever still knows
their identity finds what they last held. They are detached, and their views have no content.
-/

set_option autoImplicit false

namespace Polyglot

/-- The identity of a document: its identifier and the revision with which it was opened. -/
structure DocumentKey where
  id : String
  opening : Nat
deriving DecidableEq, Repr

/-- The identity of a section state: its document, the revision in which it was made, and its
place among the sections of that revision. -/
structure SectionKey where
  document : DocumentKey
  revision : Nat
  place : Nat
deriving DecidableEq, Repr

/-- A section with its identity and its properties. An attached one belongs to its document. -/
structure SectionState where
  key : SectionKey
  current : Section
  attached : Bool
  properties : Properties

namespace SectionState

/-- A state for a section that is new. -/
def fresh (key : SectionKey) (s : Section) : SectionState :=
  ⟨key, s, true, ∅⟩

/-- The state once its document has dropped the section. -/
def detach (state : SectionState) : SectionState :=
  { state with attached := false }

end SectionState

/-- What a handler is to be told: the state of a section and its change. -/
structure Notification where
  state : SectionKey
  change : SectionChange
deriving DecidableEq, Repr

/-- A document: its text at a revision, the states of its sections in order, the states that edits
have dropped, and properties that last until the next edit. -/
structure Document where
  key : DocumentKey
  revision : Nat
  index : LineIndex
  sections : List SectionState
  former : List SectionState
  properties : Properties

namespace Document

/-- New states for the sections of a text at a revision. -/
def freshStates (key : DocumentKey) (revision : Nat) (sections : List Section) :
    List SectionState :=
  sections.zipIdx.map fun s => .fresh ⟨key, revision, s.2⟩ s.1

/-- A document opened with a text, at a revision. -/
def create (id : String) (revision : Nat) (text : String) (segmenter : Segmenter) : Document :=
  let key : DocumentKey := ⟨id, revision⟩
  let index := LineIndex.ofText text
  ⟨key, revision, index, freshStates key revision (segmenter.segment index), [], ∅⟩

/-- The identifier under which the document was opened. -/
def id (d : Document) : String :=
  d.key.id

/-- The text of the document. -/
def text (d : Document) : String :=
  d.index.text

/-- The number of sections. -/
def sectionCount (d : Document) : Nat :=
  d.sections.length

/-- The view of one of the document's states. -/
def view (d : Document) (state : SectionState) : SectionView :=
  ⟨d.id, state.current, state.properties,
    if state.attached then some ⟨d.index, d.revision⟩ else none⟩

/-- The state of a key among the present and the former ones. -/
def state? (d : Document) (key : SectionKey) : Option SectionState :=
  (d.sections ++ d.former).find? fun state => decide (state.key = key)

/-- How the section at a place stands to a line; behind the last place everything is greater. -/
def compareAt (d : Document) (line place : Nat) : Ordering :=
  match d.sections[place]? with
  | some state => state.current.compareLine line
  | none => .gt

/-- The state of the section to which a line belongs, by binary search. The empty line behind a
break at the end of the text belongs to the last section. A line that the number of lines does not
reach belongs to none. -/
def sectionAt? (d : Document) (line : Nat) : Option SectionState :=
  if line < d.index.lineCount then
    match Search.locate d.sections.length (d.compareAt line) with
    | .found place => d.sections[place]?
    | .absent place => if place = d.sections.length then d.sections.getLast? else none
  else none

/-- The document with the properties of one of its states replaced. -/
def setProperties (d : Document) (key : SectionKey) (properties : Properties) : Document :=
  let put := fun state : SectionState =>
    if state.key = key then { state with properties := properties } else state
  { d with sections := d.sections.map put, former := d.former.map put }

/-- The document after all its sections were dropped. -/
def release (d : Document) : Document :=
  { d with sections := d.sections.map SectionState.detach }

/-- Tells of the present states that they underwent a change. -/
def notifications (d : Document) (change : SectionChange) : List Notification :=
  d.sections.map fun state => ⟨state.key, change⟩

/-- The document as debugging output shows it. -/
def debug (d : Document) : String :=
  Text.record "DocumentState" [("id", Text.quoted d.id), ("revision", Text.decimal d.revision),
    ("sections", Text.decimal d.sectionCount)]

end Document

namespace Section

/-- The section as debugging output shows it. -/
def debug (s : Section) : String :=
  Text.record "Section" [("grammar_name", Text.quoted s.grammar),
    ("start_line", Text.decimal s.start), ("end_line", Text.decimal s.stop),
    ("declaration_line", Text.optional (s.declaration.map Text.decimal))]

end Section

end Polyglot
