import Polyglot.LineIndex.Basic
import Polyglot.Lsp.Position

/-!
# Line index and UTF-16 columns

Offsets, positions and intervals in the terms of a client, and back. An offset inside a character
goes to the column behind the character. A column inside a character goes to the offset behind the
character, and a column past the content of its line to the end of the content. The columns are
words, and they are counted in words.
-/

set_option autoImplicit false

namespace Polyglot.LineIndex

/-- The client position of an offset. -/
def toLsp (index : LineIndex) (offset : Nat) : Except Error Lsp.Position := do
  let line ← index.lineOf offset
  let start ← index.lineStart line
  let cs ← index.lineChars line line
  return ⟨line, lowWord (Text.unitsBeforeByte (offset - start) cs)⟩

/-- The bytes of the characters that are passed until a count of units comes to `n`. The count is a
word, and it stands at `column` before the first character. -/
def bytesToColumn (n : Nat) : Nat → List Char → Nat
  | _, [] => 0
  | column, c :: cs =>
    if n ≤ column then 0
    else c.utf8Size + bytesToColumn n (lowWord (column + Text.unitWidth c)) cs

/-- The offset of a client position, if its line is in the text. -/
def ofLsp? (index : LineIndex) (p : Lsp.Position) : Option Nat := do
  let cs ← (index.contentChars p.line).toOption
  let start ← (index.lineStart p.line).toOption
  return start + bytesToColumn p.character 0 cs

/-- The position of a client position, if its line is in the text. -/
def positionOfLsp? (index : LineIndex) (p : Lsp.Position) : Option Position := do
  let offset ← index.ofLsp? p
  (index.positionOf offset).toOption

/-- The client position of a position. -/
def lspOfPosition (index : LineIndex) (p : Position) : Except Error Lsp.Position := do
  let offset ← index.offsetOf p
  index.toLsp offset

/-- The client range of an interval: it ends behind the interval's last character. -/
def rangeOf (index : LineIndex) (interval : Interval) : Except Error Lsp.Range := do
  let start ← index.lspOfPosition interval.start
  let offset ← index.exclusiveEnd interval
  let stop ← index.toLsp offset
  return ⟨start, stop⟩

end Polyglot.LineIndex
