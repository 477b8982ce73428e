import Polyglot.Workspace.Document

/-!
# Reconciling sections with a new text

When the text of a document is replaced, the states of its old sections are matched with the
sections of the new text. Both lists are ordered by first lines, so one pass over both suffices:
old states that begin before the next new section can match nothing any more and are dropped; the
old state then at the head is kept if it has the identity of the new section, and otherwise waits
for a later section while a new state is made.

A kept state takes over the new section, with its properties; it counts as updated if the section
or the text of its lines is not what it was.
-/

set_option autoImplicit false

namespace Polyglot

/-- The outcome of matching: the states of the new sections in order, the old states that were
dropped, and what the handlers are to be told, in order. -/
structure Reconciliation where
  kept : List SectionState
  dropped : List SectionState
  notifications : List Notification

namespace Reconciliation

/-- Drops states, before all that the rest of the pass does. -/
def dropping (states : List SectionState) (r : Reconciliation) : Reconciliation where
  kept := r.kept
  dropped := states.map SectionState.detach ++ r.dropped
  notifications := states.map (fun state => ⟨state.key, .removed⟩) ++ r.notifications

/-- Puts a state in front, with what its handler is to be told. -/
def keeping (state : SectionState) (change? : Option SectionChange) (r : Reconciliation) :
    Reconciliation where
  kept := state :: r.kept
  dropped := r.dropped
  notifications := (change?.map fun change => ⟨state.key, change⟩).toList ++ r.notifications

end Reconciliation

/-- Two texts between which a document changes, and the revision that the change makes. -/
structure Revising where
  key : DocumentKey
  revision : Nat
  before : LineIndex
  after : LineIndex

namespace Revising

/-- The lines of a section as a text, if the section fits. -/
def sectionText? (index : LineIndex) (s : Section) : Option String :=
  (index.lines s.start s.stop).toOption

/-- Whether a kept section is not what it was: its record or the text of its lines differs. -/
def differs (r : Revising) (old new : Section) : Bool :=
  decide (old ≠ new) || decide (sectionText? r.before old ≠ sectionText? r.after new)

/-- The old states that begin before a section, and the others. -/
def passed (s : Section) (old : List SectionState) : List SectionState × List SectionState :=
  old.span fun state => decide (state.current.start < s.start)

/-- Matches old states with the new sections, of which the first has the given place. -/
def reconcile (r : Revising) : List SectionState → Nat → List Section → Reconciliation
  | old, _, [] => .dropping old ⟨[], [], []⟩
  | old, place, s :: rest =>
    let (gone, remaining) := passed s old
    let fresh := SectionState.fresh ⟨r.key, r.revision, place⟩ s
    match remaining with
    | [] => .dropping gone (.keeping fresh (some .created) (r.reconcile [] (place + 1) rest))
    | state :: others =>
      if state.current.sameIdentity s then
        let change? := if r.differs state.current s then some .updated else none
        .dropping gone (.keeping { state with current := s } change?
          (r.reconcile others (place + 1) rest))
      else
        .dropping gone (.keeping fresh (some .created)
          (r.reconcile (state :: others) (place + 1) rest))

end Revising

namespace Document

/-- The document with another text, at the next revision and without properties of its own, and
what the handlers are to be told. -/
def revise (d : Document) (text : String) (segmenter : Segmenter) :
    Document × List Notification :=
  let after := LineIndex.ofText text
  let r : Revising := ⟨d.key, d.revision + 1, d.index, after⟩
  let outcome := r.reconcile d.sections 0 (segmenter.segment after)
  ({ key := d.key, revision := d.revision + 1, index := after, sections := outcome.kept,
     former := d.former ++ outcome.dropped, properties := ∅ }, outcome.notifications)

end Document

end Polyglot
