import Polyglot.LineIndex.Basic

/-!
# Sections

A document is a sequence of sections, and a section is a run of lines in one grammar. A
declaration line such as `###Mapping` opens a section and names its grammar; a section without
one is implicit.
-/

set_option autoImplicit false

namespace Polyglot

/-- A run of lines, both ends included, in the grammar of the given name. An explicit section
knows the line that declares it. -/
structure Section where
  grammar : String
  start : Nat
  stop : Nat
  declaration : Option Nat
deriving DecidableEq, Repr

namespace Section

/-- Whether a line declares the section. -/
def isExplicit (s : Section) : Bool :=
  s.declaration.isSome

/-- Whether the line belongs to the section. -/
def containsLine (s : Section) (line : Nat) : Bool :=
  decide (s.start ≤ line) && decide (line ≤ s.stop)

/-- Whether two sections of successive texts count as one: same grammar, same first line, and both
declared or both implicit. Where they end does not matter, so a section may grow and shrink. -/
def sameIdentity (s t : Section) : Bool :=
  decide (s.grammar = t.grammar) && decide (s.start = t.start) &&
    s.isExplicit == t.isExplicit

/-- How the lines of the section stand to a line: before it, after it, or around it. -/
def compareLine (s : Section) (line : Nat) : Ordering :=
  if s.containsLine line then .eq
  else if s.stop < line then .lt
  else .gt

/-- The column of the last character of a line's content, as a word, or zero if there is none. -/
def lastCharColumn (content : List Char) : Nat :=
  lowWord (Text.byteSize content.dropLast)

/-- The interval of the section: from the start of its first line to the first byte of the last
character of its last line. A section that does not fit gives the position where it starts. -/
def interval (s : Section) (index : LineIndex) : Interval :=
  let column := ((index.contentChars s.stop).toOption.map lastCharColumn).getD 0
  (Interval.between? ⟨s.start, 0⟩ ⟨s.stop, column⟩).getD (.point ⟨s.start, 0⟩)

/-- Sections have the same identity by their grammars, their starts and whether they are explicit.
-/
theorem sameIdentity_iff {s t : Section} : s.sameIdentity t = true ↔
    s.grammar = t.grammar ∧ s.start = t.start ∧ s.isExplicit = t.isExplicit := by
  simp [sameIdentity, and_assoc]

end Section

end Polyglot
