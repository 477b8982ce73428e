import Polyglot.LineIndex.Basic

/-!
# The lines of a text

`brokenLines` cuts a text behind its breaks and keeps every character (`flatten_brokenLines`). The
line index finds the same lines: the offset at which a line starts is the size of all lines above
it (`starts_getElem?`), and the characters from one line through another are those lines strung
together (`lineChars_eq`).
-/

set_option autoImplicit false

namespace Polyglot

/-- A character put in front of the first line. -/
def consLine (c : Char) : List (List Char) → List (List Char)
  | [] => [[c]]
  | line :: lines => (c :: line) :: lines

/-- The lines of a text, each with its break; what follows the last break is a line as well. -/
def brokenLines : List Char → List (List Char)
  | [] => [[]]
  | '\r' :: '\n' :: cs => ['\r', '\n'] :: brokenLines cs
  | c :: cs => if Text.isBreak c then [c] :: brokenLines cs else consLine c (brokenLines cs)

/-- The offsets at which lines start, if the first one starts at `offset`. -/
def lineOffsets (offset : Nat) : List (List Char) → List Nat
  | [] => []
  | line :: lines => offset :: lineOffsets (offset + Text.byteSize line) lines

/-- Every text has a line. -/
theorem brokenLines_ne_nil (cs : List Char) : brokenLines cs ≠ [] := by
  fun_cases brokenLines cs with
  | case1 => exact List.cons_ne_nil _ _
  | case2 cs => exact List.cons_ne_nil _ _
  | case3 c cs _ hbreak => exact List.cons_ne_nil _ _
  | case4 c cs _ hbreak =>
      cases hlines : brokenLines cs with
      | nil => exact List.cons_ne_nil _ _
      | cons line lines => exact List.cons_ne_nil _ _

/-- Cutting a text into lines loses no character. -/
theorem flatten_brokenLines (cs : List Char) : (brokenLines cs).flatten = cs := by
  fun_induction brokenLines cs with
  | case1 => rfl
  | case2 cs ih => rw [List.flatten_cons, ih]; rfl
  | case3 c cs _ hbreak ih => rw [List.flatten_cons, ih]; rfl
  | case4 c cs _ hbreak ih =>
      obtain ⟨line, lines, hlines⟩ := List.exists_cons_of_ne_nil (brokenLines_ne_nil cs)
      rw [hlines] at ih ⊢
      rw [consLine, List.flatten_cons, List.cons_append, ← List.flatten_cons, ih]

/-- The line behind a break at the end of a text is empty. -/
theorem getLast?_brokenLines (cs : List Char) (h : cs.getLast?.any Text.isBreak = true) :
    (brokenLines cs).getLast? = some [] := by
  have hcons : ∀ (line : List Char) (ds : List Char), (brokenLines ds).getLast? = some [] →
      (line :: brokenLines ds).getLast? = some [] := by
    intro line ds hds
    obtain ⟨line', lines, hlines⟩ := List.exists_cons_of_ne_nil (brokenLines_ne_nil ds)
    rw [hlines] at hds ⊢
    rwa [List.getLast?_cons_cons]
  fun_induction brokenLines cs with
  | case1 => rfl
  | case2 cs ih =>
      cases cs with
      | nil => rfl
      | cons d cs =>
          rw [List.getLast?_cons_cons, List.getLast?_cons_cons] at h
          exact hcons _ _ (ih h)
  | case3 c cs _ hbreak ih =>
      cases cs with
      | nil => rfl
      | cons d cs =>
          rw [List.getLast?_cons_cons] at h
          exact hcons _ _ (ih h)
  | case4 c cs _ hbreak ih =>
      cases cs with
      | nil => exact absurd h hbreak
      | cons d cs =>
          rw [List.getLast?_cons_cons] at h
          have hlast := ih h
          obtain ⟨line, lines, hlines⟩ := List.exists_cons_of_ne_nil (brokenLines_ne_nil (d :: cs))
          rw [hlines] at hlast ⊢
          cases lines with
          | nil =>
              obtain rfl : line = [] := by simpa using hlast
              have hflat := flatten_brokenLines (d :: cs)
              rw [hlines] at hflat
              cases hflat
          | cons line' lines =>
              rw [consLine, List.getLast?_cons_cons]
              rwa [List.getLast?_cons_cons] at hlast

/-- The breaks are found where the lines end. -/
theorem startsAfterBreaks_eq (offset : Nat) (cs : List Char) :
    startsAfterBreaks offset cs = (lineOffsets offset (brokenLines cs)).tail := by
  have hcons : ∀ (start : Nat) (ds : List Char),
      start :: (lineOffsets start (brokenLines ds)).tail = lineOffsets start (brokenLines ds) := by
    intro start ds
    obtain ⟨line, lines, hlines⟩ := List.exists_cons_of_ne_nil (brokenLines_ne_nil ds)
    rw [hlines]
    rfl
  fun_induction startsAfterBreaks offset cs with
  | case1 offset => rfl
  | case2 offset cs ih =>
      rw [ih, hcons, brokenLines, lineOffsets]
      rfl
  | case3 offset c cs hno hbreak ih =>
      have hsize : c.utf8Size = 1 := by
        simp only [Text.isBreak, Bool.or_eq_true, beq_iff_eq] at hbreak
        rcases hbreak with rfl | rfl <;> rfl
      rw [ih, hcons, brokenLines.eq_3 c cs hno, if_pos hbreak, lineOffsets, List.tail_cons]
      simp only [Text.byteSize, hsize]
  | case4 offset c cs hno hbreak ih =>
      obtain ⟨line, lines, hlines⟩ := List.exists_cons_of_ne_nil (brokenLines_ne_nil cs)
      rw [ih, brokenLines.eq_3 c cs hno, if_neg hbreak, hlines]
      simp only [consLine, lineOffsets, List.tail_cons, Text.byteSize, Nat.add_assoc]

/-- Each line has an offset. -/
theorem length_lineOffsets (offset : Nat) (lines : List (List Char)) :
    (lineOffsets offset lines).length = lines.length := by
  induction lines generalizing offset with
  | nil => rfl
  | cons line lines ih => rw [lineOffsets, List.length_cons, ih, List.length_cons]

/-- A line starts behind all lines above it. -/
theorem getElem?_lineOffsets (offset : Nat) (lines : List (List Char)) (i : Nat)
    (h : i < lines.length) :
    (lineOffsets offset lines)[i]? = some (offset + Text.byteSize (lines.take i).flatten) := by
  induction lines generalizing offset i with
  | nil => cases h
  | cons line lines ih =>
      cases i with
      | zero => rfl
      | succ i =>
          have hi : i < lines.length := Nat.lt_of_succ_lt_succ h
          rw [lineOffsets, List.getElem?_cons_succ, ih _ i hi, List.take_succ_cons,
            List.flatten_cons, Text.byteSize_append, Nat.add_assoc]

/-- A run of lines ends where another one begins. -/
theorem drop_eq_append_drop {α : Type} (xs : List α) {i j : Nat} (hij : i ≤ j)
    (hj : j ≤ xs.length) : xs.drop i = (xs.take j).drop i ++ xs.drop j := by
  have hlength : i ≤ (xs.take j).length := by
    rw [List.length_take]
    omega
  have happend : (xs.take j ++ xs.drop j).drop i = (xs.take j).drop i ++ xs.drop j :=
    List.drop_append_of_le_length hlength
  rw [List.take_append_drop] at happend
  exact happend

namespace Text

/-- A slice from boundary to boundary is what stands between the two. -/
theorem slice_of_append (before middle after : List Char) :
    slice (byteSize before) (byteSize (before ++ middle)) (before ++ middle ++ after) = middle := by
  rw [slice, byteSize_append, Nat.add_sub_cancel_left, List.append_assoc,
    dropBytes_byteSize_append, takeBytes_byteSize_append]

end Text

namespace LineIndex

variable (index : LineIndex)

/-- The lines of the text, each with its break. -/
def lineList : List (List Char) :=
  brokenLines index.chars

/-- The lines of an index make up its text. -/
theorem flatten_lineList : index.lineList.flatten = index.chars :=
  flatten_brokenLines index.chars

/-- The starts that an index keeps are the offsets of its lines. -/
theorem starts_toList : index.starts.toList = lineOffsets 0 index.lineList := by
  obtain ⟨line, lines, hlines⟩ := List.exists_cons_of_ne_nil (brokenLines_ne_nil index.chars)
  rw [index.starts_eq, lineStarts, startsAfterBreaks_eq]
  change 0 :: (lineOffsets 0 (brokenLines index.chars)).tail =
    lineOffsets 0 (brokenLines index.chars)
  rw [hlines]
  rfl

/-- The index has a start for each line. -/
theorem height_eq_length : index.height = index.lineList.length := by
  rw [height, ← Array.length_toList, starts_toList, length_lineOffsets]

/-- A line starts behind all lines above it. -/
theorem starts_getElem? {line : Nat} (h : line < index.height) :
    index.starts[line]? = some (Text.byteSize (index.lineList.take line).flatten) := by
  rw [height_eq_length] at h
  rw [← Array.getElem?_toList, starts_toList, getElem?_lineOffsets 0 _ _ h, Nat.zero_add]

/-- A line ends behind itself and all lines above it. -/
theorem endOf_eq (line : Nat) :
    index.endOf line = Text.byteSize (index.lineList.take (line + 1)).flatten := by
  by_cases h : line + 1 < index.height
  · rw [endOf, index.starts_getElem? h, Option.getD_some]
  · have hsize : index.starts.size ≤ line + 1 := Nat.le_of_not_lt h
    have hlength : index.lineList.length ≤ line + 1 := by
      rw [← height_eq_length]
      exact hsize
    rw [endOf, Array.getElem?_eq_none hsize, Option.getD_none, List.take_of_length_le hlength,
      flatten_lineList, length]

/-- The characters from one line through another are those lines strung together. -/
theorem lineChars_eq {first last : Nat} (hle : first ≤ last) (hlast : last < index.height) :
    index.lineChars first last = .ok ((index.lineList.take (last + 1)).drop first).flatten := by
  have hfirst : first < index.height := Nat.lt_of_le_of_lt hle hlast
  have hsize : first < index.starts.size := hfirst
  have hsize' : last < index.starts.size := hlast
  have hstart : index.starts[first] = Text.byteSize (index.lineList.take first).flatten := by
    have h := index.starts_getElem? hfirst
    rwa [Array.getElem?_eq_getElem hsize, Option.some.injEq] at h
  have htake := List.take_append_drop first (index.lineList.take (last + 1))
  rw [List.take_take, Nat.min_eq_left (by omega)] at htake
  have hupper : (index.lineList.take (last + 1)).flatten =
      (index.lineList.take first).flatten ++
        ((index.lineList.take (last + 1)).drop first).flatten := by
    rw [← List.flatten_append, htake]
  have hchars : index.chars = (index.lineList.take first).flatten ++
      ((index.lineList.take (last + 1)).drop first).flatten ++
        (index.lineList.drop (last + 1)).flatten := by
    rw [← hupper, ← List.flatten_append, List.take_append_drop, flatten_lineList]
  rw [lineChars, dif_pos hsize, if_pos hsize', if_pos hle, hstart, endOf_eq, hupper]
  rw [hchars, Text.slice_of_append]

end LineIndex

end Polyglot
