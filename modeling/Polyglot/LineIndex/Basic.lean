import Polyglot.Error
import Polyglot.Search
import Polyglot.Text.Classes
import Polyglot.Text.Measure
import Polyglot.Word

/-!
# Line index

A line index is a text together with the byte offsets at which its lines start. A line ends behind
a line feed, behind a carriage return, or behind the two in this order as one break; what follows
the last break is a line as well, so the empty text has one line and a text that ends in a break
has an empty last one.

The index answers questions in lines, in bytes, and in positions, and refuses every address that
is not in the text with an error that names the argument at fault.

Offsets are not bounded, but lines and columns are words. Where the index gives the number of its
lines or finds the line and the column of an offset, a number that does not fit into a word wraps
around.
-/

set_option autoImplicit false

namespace Polyglot

/-- The offsets behind the breaks of a text whose first character is at `offset`. -/
def startsAfterBreaks : Nat → List Char → List Nat
  | _, [] => []
  | offset, '\r' :: '\n' :: cs => (offset + 2) :: startsAfterBreaks (offset + 2) cs
  | offset, c :: cs =>
    if Text.isBreak c then (offset + 1) :: startsAfterBreaks (offset + 1) cs
    else startsAfterBreaks (offset + c.utf8Size) cs

/-- The offsets at which the lines of a text start. -/
def lineStarts (text : List Char) : List Nat :=
  0 :: startsAfterBreaks 0 text

/-- A text and the offsets of its lines. -/
structure LineIndex where
  text : String
  starts : Array Nat
  starts_eq : starts = (lineStarts text.toList).toArray
deriving DecidableEq

namespace LineIndex

/-- The index of a text. -/
def ofText (text : String) : LineIndex :=
  ⟨text, _, rfl⟩

/-- An index is determined by its text. -/
theorem eq_ofText (index : LineIndex) : index = ofText index.text := by
  obtain ⟨text, starts, rfl⟩ := index
  rfl

instance : Repr LineIndex where
  reprPrec index _ := "LineIndex.ofText " ++ repr index.text

/-- The characters of the text. -/
def chars (index : LineIndex) : List Char :=
  index.text.toList

/-- The size of the text in bytes. -/
def length (index : LineIndex) : Nat :=
  Text.byteSize index.chars

/-- How many lines the text has; there is at least one. -/
def height (index : LineIndex) : Nat :=
  index.starts.size

/-- A line starts behind each break, and one at the beginning. -/
theorem height_eq (index : LineIndex) :
    index.height = (startsAfterBreaks 0 index.chars).length + 1 := by
  simp [height, index.starts_eq, lineStarts, chars]

/-- A text has a line, even if it is empty. -/
theorem height_pos (index : LineIndex) : 0 < index.height := by
  rw [height_eq]
  exact Nat.succ_pos _

/-- The number of lines as a word. -/
def lineCount (index : LineIndex) : Nat :=
  lowWord index.height

/-- The line before the number of lines, as a word. -/
def lastCountedLine (index : LineIndex) : Nat :=
  previousWord index.lineCount

/-- Whether the text ends in a break, which leaves an empty last line. -/
def hasTrailingBreak (index : LineIndex) : Bool :=
  index.chars.getLast?.any Text.isBreak

/-- The number of the last line. -/
def lastLine (index : LineIndex) : Nat :=
  index.height - 1

/-- Below the greatest word the number of lines is given as it is. -/
theorem lineCount_of_lt {index : LineIndex} (h : index.height < UInt32.size) :
    index.lineCount = index.height :=
  lowWord_of_lt h

/-- Going back by one is the same in words as in lines. -/
theorem lastCountedLine_eq (index : LineIndex) : index.lastCountedLine = lowWord index.lastLine :=
  previousWord_lowWord index.height_pos

/-- Below the greatest word the last line that is counted is the last one of the text. -/
theorem lastCountedLine_of_lt {index : LineIndex} (h : index.height < UInt32.size) :
    index.lastCountedLine = index.lastLine := by
  rw [lastCountedLine_eq]
  exact lowWord_of_lt (Nat.lt_of_le_of_lt (Nat.sub_le _ _) h)

/-- The error for a line that is not in the text. -/
def noSuchLine (index : LineIndex) (argument : Argument) (line : Nat) : Error :=
  .bounds argument line (.upTo index.lastLine)

/-- The offset behind a line of the text: the start of the next line, or the end of the text. -/
def endOf (index : LineIndex) (line : Nat) : Nat :=
  index.starts[line + 1]?.getD index.length

/-- The offset at which a line starts. -/
def lineStart (index : LineIndex) (line : Nat) : Except Error Nat :=
  if h : line < index.starts.size then .ok index.starts[line]
  else .error (index.noSuchLine .line line)

/-- The offset behind a line and its break. -/
def lineEnd (index : LineIndex) (line : Nat) : Except Error Nat :=
  if line < index.starts.size then .ok (index.endOf line)
  else .error (index.noSuchLine .line line)

/-- The size of a line in bytes, with its break. -/
def lineLength (index : LineIndex) (line : Nat) : Except Error Nat := do
  let stop ← index.lineEnd line
  let start ← index.lineStart line
  return stop - start

/-- The characters from the first line through the last one, with the last break. -/
def lineChars (index : LineIndex) (first last : Nat) : Except Error (List Char) :=
  if h : first < index.starts.size then
    if last < index.starts.size then
      if first ≤ last then
        .ok (Text.slice index.starts[first] (index.endOf last) index.chars)
      else .error (.bounds .startLine first (.upTo last))
    else .error (index.noSuchLine .endLine last)
  else .error (index.noSuchLine .startLine first)

/-- The text from the first line through the last one, with the last break. -/
def lines (index : LineIndex) (first last : Nat) : Except Error String :=
  (index.lineChars first last).map String.ofList

/-- The text of a line, with its break. -/
def line (index : LineIndex) (line : Nat) : Except Error String :=
  index.lines line line

/-- The characters of a line without its break. -/
def contentChars (index : LineIndex) (line : Nat) : Except Error (List Char) :=
  (index.lineChars line line).map (Text.trimEnd Text.isBreak)

/-- The text of a line without its break. -/
def lineContent (index : LineIndex) (line : Nat) : Except Error String :=
  (index.contentChars line).map String.ofList

/-- The offset of a column on a line; the column may be the length of the line. -/
def offsetOf (index : LineIndex) (p : Position) : Except Error Nat := do
  let length ← index.lineLength p.line
  if p.column ≤ length then
    let start ← index.lineStart p.line
    return start + p.column
  else throw (.bounds .column p.column (.upTo length))

/-- The line on which an offset lies, as a word: the last line that does not start after it. -/
def lineOf (index : LineIndex) (offset : Nat) : Except Error Nat :=
  if offset ≤ index.length then
    match Search.locate index.starts.size fun i => compare (index.starts[i]?.getD 0) offset with
    | .found line => .ok (lowWord line)
    | .absent place => .ok (lowWord (place - 1))
  else .error (.bounds .offset offset (.upTo index.length))

/-- The position of an offset, in words. -/
def positionOf (index : LineIndex) (offset : Nat) : Except Error Position := do
  let line ← index.lineOf offset
  let start ← index.lineStart line
  return ⟨line, lowWord (offset - start)⟩

/-- The offset behind the last character of an interval. If the interval ends inside a character
or at the end of the text, that end is taken as it is. -/
def exclusiveEnd (index : LineIndex) (interval : Interval) : Except Error Nat := do
  let stop ← index.offsetOf interval.stop
  return stop + Text.widthAt stop index.chars

/-- Refuses an offset inside a character and names the boundaries on both sides. -/
def checkBoundary (index : LineIndex) (argument : Argument) (offset : Nat) : Except Error Unit :=
  if Text.isBoundary offset index.chars then .ok ()
  else .error (.bounds argument offset
    (.oneOf (Text.boundaryBefore offset index.chars) (Text.boundaryAfter offset index.chars)))

/-- The text of an interval, with the character at its end. -/
def intervalText (index : LineIndex) (interval : Interval) : Except Error String := do
  let start ← index.offsetOf interval.start
  let stop ← index.exclusiveEnd interval
  index.checkBoundary .intervalStart start
  index.checkBoundary .intervalEnd stop
  return String.ofList (Text.slice start stop index.chars)

end LineIndex

end Polyglot
