import Polyglot.Property.Store
import Polyglot.Section.Basic

/-!
# A section as its handler sees it

A view shows a section together with the content of its document at one revision, so that all that
is read through it belongs to the same text. The view of a section that its document has dropped
has no content; whatever needs the content fails there with the unknown document.
-/

set_option autoImplicit false

namespace Polyglot

/-- The text of a document at a revision. -/
structure DocumentContent where
  index : LineIndex
  revision : Nat
deriving DecidableEq, Repr

/-- A section, its properties, and the content of its document unless it was dropped. -/
structure SectionView where
  documentId : String
  current : Section
  properties : Properties
  content? : Option DocumentContent

namespace SectionView

/-- The content of the document, which a dropped section does not have. -/
def content (v : SectionView) : Except Error DocumentContent :=
  match v.content? with
  | some content => .ok content
  | none => .error (.unknownDocument v.documentId)

/-- What a function makes of the document's index and the section, which belong to one revision. -/
def withIndex {β : Type} (v : SectionView) (f : LineIndex → Section → Except Error β) :
    Except Error β := do
  let content ← v.content
  f content.index v.current

/-- The characters of the section's lines. -/
def chars (v : SectionView) : Except Error (List Char) := do
  let content ← v.content
  content.index.lineChars v.current.start v.current.stop

/-- The text of the section's lines. -/
def text (v : SectionView) : Except Error String :=
  v.chars.map String.ofList

/-- The interval of the section. -/
def interval (v : SectionView) : Except Error Interval :=
  v.content.map fun content => v.current.interval content.index

/-- The place of an interval in the section's document. -/
def locationOf (v : SectionView) (interval : Interval) : Location :=
  ⟨v.documentId, interval⟩

/-- The place of the section in its document. -/
def location (v : SectionView) : Except Error Location :=
  v.interval.map v.locationOf

/-- The revision of the document. -/
def revision (v : SectionView) : Except Error Nat :=
  v.content.map DocumentContent.revision

/-- Whether the section belongs to its document. -/
def isAttached (v : SectionView) : Bool :=
  v.content?.isSome

/-- The text of a view is that of the lines of its section. -/
theorem text_eq_withIndex (v : SectionView) :
    v.text = v.withIndex fun index s => index.lines s.start s.stop := by
  unfold text chars withIndex LineIndex.lines
  cases v.content <;> rfl

/-- The interval of a view is that of its section. -/
theorem interval_eq_withIndex (v : SectionView) :
    v.interval = v.withIndex fun index s => .ok (s.interval index) := by
  unfold interval withIndex
  cases v.content <;> rfl

end SectionView

end Polyglot
