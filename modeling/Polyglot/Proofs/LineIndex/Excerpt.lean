import Polyglot.Proofs.LineIndex.Contents

/-!
# Lines as a text of their own

A run of lines of a text is a text itself. Cut into lines again it has the lines of the run, and an
empty line behind them if the last line of the run has a break (`IsExcerpt.lineList_eq`). So each
line of the run keeps its content, under a number that counts from the first line of the run
(`IsExcerpt.contentChars_eq`).
-/

set_option autoImplicit false

namespace Polyglot

namespace Canonical

variable {lines : List (List Char)} {first last n : Nat}

/-- Lines from some line on are canonical. -/
theorem drop (h : Canonical lines) (hn : n < lines.length) : Canonical (lines.drop n) := by
  induction h generalizing n with
  | last content unbroken =>
      obtain rfl : n = 0 := by simpa using hn
      exact .last content unbroken
  | cons content ending next rest unbroken isLineBreak apart tail ih =>
      cases n with
      | zero => exact .cons content ending next rest unbroken isLineBreak apart tail
      | succ n => exact ih (Nat.lt_of_succ_lt_succ hn)

/-- Lines up to one that is not the last are canonical if the empty line behind its break is put
to them. -/
theorem take_append (h : Canonical lines) (hn : n + 1 < lines.length) :
    Canonical (lines.take (n + 1) ++ [[]]) := by
  induction h generalizing n with
  | last content => simp at hn
  | cons content ending next rest unbroken isLineBreak apart tail ih =>
      cases n with
      | zero =>
          exact .cons content ending [] [] unbroken isLineBreak (by simp) (.last [] isUnbroken_nil)
      | succ n =>
          have hrest := ih (Nat.lt_of_succ_lt_succ hn)
          rw [List.take_succ_cons, List.cons_append] at hrest ⊢
          exact .cons content ending next _ unbroken isLineBreak apart hrest

/-- A run of lines is cut into its lines again. -/
theorem brokenLines_flatten_run (h : Canonical lines) (hle : first ≤ last)
    (hlast : last < lines.length) :
    brokenLines ((lines.take (last + 1)).drop first).flatten =
      (lines.take (last + 1)).drop first ++ if last + 1 < lines.length then [[]] else [] := by
  split
  · rename_i hnext
    have hcanonical := (h.take_append hnext).drop (n := first) (by simp; omega)
    rw [List.drop_append_of_le_length (by simp; omega)] at hcanonical
    have hlines := hcanonical.brokenLines_flatten
    rwa [List.flatten_append, List.flatten_singleton, List.append_nil] at hlines
  · rw [List.take_of_length_le (by omega), List.append_nil]
    exact (h.drop (by omega)).brokenLines_flatten

end Canonical

namespace LineIndex

variable {index part : LineIndex} {first last l : Nat}

/-- The text of the second index is that of the lines of the first one from `first` through
`last`. -/
structure IsExcerpt (index : LineIndex) (first last : Nat) (part : LineIndex) : Prop where
  first_le_last : first ≤ last
  last_lt_height : last < index.height
  lineChars_eq : index.lineChars first last = .ok part.chars

/-- Lines of a text have a text. -/
theorem exists_isExcerpt (hle : first ≤ last) (hlast : last < index.height) :
    ∃ text, index.lines first last = .ok text ∧ index.IsExcerpt first last (ofText text) := by
  have hchars := index.lineChars_eq hle hlast
  refine ⟨_, by rw [lines, hchars]; rfl, hle, hlast, ?_⟩
  rw [hchars, chars, ofText, String.toList_ofList]

namespace IsExcerpt

variable (h : index.IsExcerpt first last part)
include h

/-- The lines of an excerpt are the lines that it was taken from, and an empty one behind their last
break. -/
theorem lineList_eq : part.lineList = (index.lineList.take (last + 1)).drop first ++
    if last + 1 < index.height then [[]] else [] := by
  have hlast := h.last_lt_height
  have hchars := h.lineChars_eq
  rw [index.lineChars_eq h.first_le_last hlast, Except.ok.injEq] at hchars
  rw [height_eq_length] at hlast ⊢
  rw [lineList, ← hchars]
  exact index.canonical_lineList.brokenLines_flatten_run h.first_le_last hlast

/-- An excerpt has as many lines as it was taken from, and one more behind their last break. -/
theorem height_eq :
    part.height = last - first + if last + 1 < index.height then 2 else 1 := by
  have hle := h.first_le_last
  have hlast := h.last_lt_height
  rw [part.height_eq_length, h.lineList_eq]
  rw [height_eq_length] at hlast ⊢
  split <;> simp <;> omega

/-- The lines of the run are found again. -/
theorem getElem?_lineList (hl : l ≤ last - first) :
    part.lineList[l]? = index.lineList[first + l]? := by
  have hle := h.first_le_last
  have hlast := h.last_lt_height
  rw [height_eq_length] at hlast
  rw [h.lineList_eq, List.getElem?_append_left (by simp; omega), List.getElem?_drop,
    List.getElem?_take_of_lt (by omega)]

/-- The contents of the lines of an excerpt are those of the lines that it was taken from. -/
theorem contentChars_eq (hl : l ≤ last - first) :
    part.contentChars l = index.contentChars (first + l) := by
  have hle := h.first_le_last
  have hlast := h.last_lt_height
  obtain ⟨line, hline⟩ := index.exists_line (l := first + l) (by omega)
  rw [index.contentChars_eq hline, part.contentChars_eq ((h.getElem?_lineList hl).trans hline)]

/-- The line behind the run is empty. -/
theorem contentChars_behind (hnext : last + 1 < index.height) :
    part.contentChars (last - first + 1) = .ok [] := by
  have hle := h.first_le_last
  have hline : part.lineList[last - first + 1]? = some [] := by
    rw [height_eq_length] at hnext
    rw [h.lineList_eq, List.getElem?_append_right (by simp; omega), height_eq_length,
      if_pos hnext]
    have hplace : last - first + 1 - ((index.lineList.take (last + 1)).drop first).length = 0 := by
      simp
      omega
    rw [hplace]
    rfl
  rw [part.contentChars_eq hline]
  rfl

end IsExcerpt

end LineIndex

end Polyglot
