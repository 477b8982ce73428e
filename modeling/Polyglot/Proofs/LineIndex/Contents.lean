import Polyglot.Proofs.LineIndex.Units

/-!
# What the contents of lines decide

The contents of all lines say where a text has breaks, and leave open of which kind these are. They
decide whether the text ends in a break: it does exactly if the last line is empty and not the only
one (`hasTrailingBreak_iff`). They also decide the position to which a client position leads,
although the way goes through an offset, which depends on the sizes of the breaks above it
(`positionOfLsp?_eq`). So both are the same for texts that agree but for the style of their breaks
(`AgreesButForBreaks`).
-/

set_option autoImplicit false

namespace Polyglot

/-- What stands before an empty last line ends in a break. -/
theorem Canonical.exists_getLast?_flatten {lines : List (List Char)} (h : Canonical lines)
    (hseveral : 1 < lines.length) (hlast : lines.getLast? = some []) :
    ∃ c, lines.flatten.getLast? = some c ∧ Text.isBreak c = true := by
  induction h with
  | last content => simp at hseveral
  | cons content ending next rest _ isLineBreak _ tail ih =>
      cases rest with
      | nil =>
          obtain rfl : next = [] := by simpa using hlast
          have hne := isLineBreak.ne_nil
          refine ⟨ending.getLast hne, ?_, isLineBreak.isBreak _ (List.getLast_mem hne)⟩
          simp [List.getLast?_append_of_ne_nil _ hne, List.getLast?_eq_some_getLast hne]
      | cons after rest =>
          rw [List.getLast?_cons_cons] at hlast
          obtain ⟨c, hc, hbreak⟩ := ih (by simp) hlast
          refine ⟨c, ?_, hbreak⟩
          rw [List.flatten_cons, List.getLast?_append, hc, Option.some_or]

namespace LineIndex

open Text

variable {index index' : LineIndex} {l : Nat} {content : List Char} {p : Lsp.Position}

/-- The last line is a line of the text. -/
theorem lastLine_lt_height : index.lastLine < index.height :=
  Nat.sub_lt index.height_pos Nat.one_pos

/-- The last line is the last item of the list of lines. -/
theorem getElem?_lastLine : index.lineList[index.lastLine]? = index.lineList.getLast? := by
  rw [List.getLast?_eq_getElem?, lastLine, height_eq_length]

/-- The last line has no break, so it is its own content. -/
theorem contentChars_lastLine :
    index.contentChars index.lastLine = index.lineChars index.lastLine index.lastLine := by
  obtain ⟨content, ending, hline, hcontent, _, ⟨hnext, _⟩ | ⟨_, rfl⟩⟩ :=
    index.exists_break lastLine_lt_height
  · rw [lastLine] at hnext
    omega
  · rw [List.append_nil] at hline
    rw [hcontent, index.lineChars_self hline]

/-- A break ends the line before it, so there are at least two lines. -/
theorem lastLine_pos_of_hasTrailingBreak (h : index.hasTrailingBreak = true) :
    0 < index.lastLine := by
  obtain ⟨lines, hlines⟩ := List.getLast?_eq_some_iff.1 (getLast?_brokenLines index.chars h)
  have hcount := index.height_eq_length
  have hwhole := index.flatten_lineList
  change index.lineList = lines ++ [[]] at hlines
  rw [hlines] at hcount hwhole
  cases lines with
  | nil =>
      have hempty : index.chars = [] := hwhole.symm
      rw [hasTrailingBreak, hempty] at h
      cases h
  | cons first rest =>
      rw [List.length_append, List.length_cons, List.length_singleton] at hcount
      rw [lastLine]
      omega

/-- A text ends in a break exactly if its last line is empty and not the only one. -/
theorem hasTrailingBreak_iff : index.hasTrailingBreak = true ↔
    0 < index.lastLine ∧ index.contentChars index.lastLine = .ok [] := by
  obtain ⟨line, hline⟩ := index.exists_line lastLine_lt_height
  rw [contentChars_lastLine, index.lineChars_self hline, Except.ok.injEq]
  rw [getElem?_lastLine] at hline
  constructor
  · intro h
    have hempty : index.lineList.getLast? = some [] := getLast?_brokenLines index.chars h
    exact ⟨lastLine_pos_of_hasTrailingBreak h, Option.some.inj (hline.symm.trans hempty)⟩
  · rintro ⟨hpos, rfl⟩
    have hseveral : 1 < index.lineList.length := by
      rw [← height_eq_length]
      exact Nat.lt_sub_iff_add_lt.1 hpos
    obtain ⟨c, hc, hbreak⟩ :=
      index.canonical_lineList.exists_getLast?_flatten hseveral hline
    rw [flatten_lineList] at hc
    rw [hasTrailingBreak, hc]
    exact hbreak

/-- Behind a break at the end there is nothing. -/
theorem line_lastLine (h : index.hasTrailingBreak = true) :
    index.line index.lastLine = .ok "" := by
  have hempty := (hasTrailingBreak_iff.1 h).2
  rw [contentChars_lastLine] at hempty
  rw [line, lines, hempty]
  rfl

/-- A client position is on its own line, behind what it passes of the content. -/
theorem positionOfLsp?_eq (hfits : p.line < UInt32.size) (hl : p.line < index.height)
    (hcontent : index.contentChars p.line = .ok content) :
    index.positionOfLsp? p = some ⟨p.line, lowWord (bytesToColumn p.character 0 content)⟩ := by
  obtain ⟨content', ending, hline, hcontent', hending⟩ := index.exists_content hl
  obtain rfl := Except.ok.inj (hcontent.symm.trans hcontent')
  have hn := bytesToColumn_le p.character 0 content
  have hposition := positionOf_eq (startOf_add_le_length hline hn)
    (liesOn_of_le_content hl hline hending hn) hfits
  rw [Nat.add_sub_cancel_left] at hposition
  simp only [positionOfLsp?, ofLsp?_eq_bytesToColumn hl hcontent, Option.bind_eq_bind,
    Option.bind_some, hposition]
  rfl

/-- A client position below the text leads nowhere. -/
theorem positionOfLsp?_eq_none (hl : index.height ≤ p.line) : index.positionOfLsp? p = none := by
  rw [positionOfLsp?, (ofLsp?_eq_none_iff p).2 hl]
  rfl

/-- The texts have the same lines but for the style of the breaks. -/
structure AgreesButForBreaks (index index' : LineIndex) : Prop where
  height_eq : index.height = index'.height
  lineContent_eq : ∀ l < index.height, index.lineContent l = index'.lineContent l

namespace AgreesButForBreaks

variable (h : AgreesButForBreaks index index')
include h

/-- Texts that agree but for breaks have the same last line. -/
theorem lastLine_eq : index.lastLine = index'.lastLine := by
  rw [lastLine, h.height_eq, lastLine]

/-- Texts that agree but for breaks have the same contents of lines. -/
theorem contentChars_eq (hl : l < index.height) :
    index.contentChars l = index'.contentChars l := by
  obtain ⟨line, hline⟩ := index.exists_line hl
  obtain ⟨line', hline'⟩ := index'.exists_line (h.height_eq ▸ hl)
  have hcontent := h.lineContent_eq l hl
  rw [index.lineContent_eq hline, index'.lineContent_eq hline'] at hcontent
  rw [index.contentChars_eq hline, index'.contentChars_eq hline',
    String.ofList_injective (Except.ok.inj hcontent)]

/-- Texts that agree but for breaks end in a break both or neither. -/
theorem hasTrailingBreak_eq : index.hasTrailingBreak = index'.hasTrailingBreak := by
  rw [Bool.eq_iff_iff, hasTrailingBreak_iff, hasTrailingBreak_iff,
    h.contentChars_eq lastLine_lt_height, h.lastLine_eq]

/-- A client position leads to the same position in both texts. -/
theorem positionOfLsp?_eq (hfits : p.line < UInt32.size) :
    index.positionOfLsp? p = index'.positionOfLsp? p := by
  rcases Nat.lt_or_ge p.line index.height with hl | hl
  · obtain ⟨content, _, _, hcontent, _⟩ := index.exists_content hl
    rw [LineIndex.positionOfLsp?_eq hfits hl hcontent, LineIndex.positionOfLsp?_eq hfits
      (h.height_eq ▸ hl) ((h.contentChars_eq hl).symm.trans hcontent)]
  · rw [positionOfLsp?_eq_none hl, positionOfLsp?_eq_none (h.height_eq ▸ hl)]

end AgreesButForBreaks

end LineIndex

end Polyglot
