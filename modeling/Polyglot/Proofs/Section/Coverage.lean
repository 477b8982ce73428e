import Polyglot.Proofs.LineIndex.Lines
import Polyglot.Proofs.Section.Partition

/-!
# Sections cover their text

Sections that tile the lines of a text have texts that make up the text of these lines
(`Tiles.exists_lineChars`). The sections of the segmenter leave out at most the empty line behind a
last break if the number of lines fits into a word, so their texts make up the whole text
(`Segmenter.exists_lineChars_segment`).
-/

set_option autoImplicit false

namespace Polyglot

variable {index : LineIndex}

/-- The texts of sections that tile lines exist, and together they are the text of these lines. -/
theorem Tiles.exists_lineChars {last first : Nat} {sections : List Section}
    (h : Tiles last first sections) (hlast : last < index.height) :
    ∃ parts : List (List Char),
      sections.map (fun s => index.lineChars s.start s.stop) = parts.map Except.ok ∧
        parts.flatten = ((index.lineList.take (last + 1)).drop first).flatten := by
  induction h with
  | single s hstop hordered =>
      have hchars := index.lineChars_eq hordered (hstop ▸ hlast)
      rw [hstop] at hchars
      refine ⟨[((index.lineList.take (last + 1)).drop s.start).flatten], ?_, ?_⟩
      · rw [List.map_cons, List.map_nil, hstop, hchars]
        rfl
      · rw [List.flatten_cons, List.flatten_nil, List.append_nil]
  | cons s rest hordered htail ih =>
      obtain ⟨parts, hparts, hflatten⟩ := ih
      have hle : s.stop + 1 ≤ last := htail.first_le_last
      have hchars := index.lineChars_eq hordered (Nat.lt_of_le_of_lt (Nat.le_of_lt hle) hlast)
      refine ⟨((index.lineList.take (s.stop + 1)).drop s.start).flatten :: parts, ?_, ?_⟩
      · rw [List.map_cons, List.map_cons, hchars, hparts]
      · have hlength : s.stop + 1 ≤ (index.lineList.take (last + 1)).length := by
          have hcount := index.height_eq_length
          rw [List.length_take]
          omega
        have hsplit := drop_eq_append_drop (index.lineList.take (last + 1))
          (Nat.le_succ_of_le hordered) hlength
        rw [List.take_take, Nat.min_eq_left (by omega)] at hsplit
        rw [List.flatten_cons, hflatten, hsplit, List.flatten_append]

/-- The lines that belong to sections hold the whole text, if the number of lines fits into a
word. -/
theorem LineIndex.flatten_take_lastSectionLine (hheight : index.height < UInt32.size) :
    (index.lineList.take (index.lastSectionLine + 1)).flatten = index.chars := by
  have hcount := index.height_eq_length
  have hpos := index.height_pos
  have hwhole := index.flatten_lineList
  rw [lastSectionLine_of_lt hheight]
  unfold lastLine
  split
  · rename_i hphantom
    obtain ⟨hseveral, hbreak⟩ : 0 < index.height - 1 ∧ index.hasTrailingBreak = true := by
      simpa [lastLine] using hphantom
    obtain ⟨lines, hlines⟩ := List.getLast?_eq_some_iff.1 (getLast?_brokenLines index.chars hbreak)
    change index.lineList = lines ++ [[]] at hlines
    have hlength : index.height - 1 - 1 + 1 = lines.length := by
      rw [hcount, hlines, List.length_append, List.length_singleton] at hseveral ⊢
      omega
    rw [hlength, hlines, List.take_left', ← hwhole, hlines, List.flatten_append,
      List.flatten_singleton, List.append_nil]
    rfl
  · have hlength : index.height - 1 + 1 = index.lineList.length := by omega
    rw [hlength, List.take_length, hwhole]

/-- The texts of the sections of a text exist, and together they are the text of all lines that
belong to sections. If the number of lines fits into a word, this is the whole text. -/
theorem Segmenter.exists_lineChars_segment (segmenter : Segmenter) (index : LineIndex) :
    ∃ parts : List (List Char),
      (segmenter.segment index).map (fun s => index.lineChars s.start s.stop) =
          parts.map Except.ok ∧
        index.lineChars 0 index.lastSectionLine = .ok parts.flatten ∧
          (index.height < UInt32.size → parts.flatten = index.chars) := by
  obtain ⟨parts, hparts, hflatten⟩ := (segmenter.tiles_segment index).exists_lineChars
    (index.lt_height_of_le_lastSectionLine (Nat.le_refl _))
  refine ⟨parts, hparts, ?_, fun hheight => ?_⟩
  · rw [hflatten]
    exact index.lineChars_eq (Nat.zero_le _)
      (index.lt_height_of_le_lastSectionLine (Nat.le_refl _))
  · rw [hflatten, List.drop_zero, LineIndex.flatten_take_lastSectionLine hheight]

end Polyglot
