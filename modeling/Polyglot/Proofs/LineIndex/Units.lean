import Polyglot.LineIndex.Utf16
import Polyglot.Proofs.LineIndex.Addresses
import Polyglot.Proofs.Text.Covering

/-!
# Offsets and client positions

A client position counts the UTF-16 units of the characters that begin before an offset on its line,
breaks included; the way back walks over the content of the line alone. Both walks stop behind a
whole character, so a way there and back ends at the next boundary, and at the end of the content if
this boundary is in the break (`lsp_positions_round_trip`).

Both count units in words. In a text of less than 4 GiB no line has more units than fit into a word.
-/

set_option autoImplicit false

namespace Polyglot

namespace Text

variable {n m : Nat} {content ending cs ds : List Char}

/-- The units before a byte are those of the prefix that covers so many bytes. -/
theorem unitsBeforeByte_eq (n : Nat) (cs : List Char) :
    unitsBeforeByte n cs = unitSize (covering Char.utf8Size n cs) := by
  rw [unitsBeforeByte, widthBefore_eq, unitSize_eq_total]

/-- The bytes before a unit are those of the prefix that covers so many units. -/
theorem bytesBeforeUnit_eq (n : Nat) (cs : List Char) :
    bytesBeforeUnit n cs = byteSize (covering unitWidth n cs) := by
  rw [bytesBeforeUnit, widthBefore_eq, byteSize_eq_total]

/-- A beginning of a text has no more bytes than the text. -/
theorem byteSize_le_of_isPrefix (h : cs <+: ds) : byteSize cs ≤ byteSize ds := by
  rw [byteSize_eq_total, byteSize_eq_total]
  exact total_le_of_isPrefix h

/-- A beginning of a text has no more units than the text. -/
theorem unitSize_le_of_isPrefix (h : cs <+: ds) : unitSize cs ≤ unitSize ds := by
  rw [unitSize_eq_total, unitSize_eq_total]
  exact total_le_of_isPrefix h

/-- A text has no more units than bytes. -/
theorem unitSize_le_byteSize (cs : List Char) : unitSize cs ≤ byteSize cs := by
  rw [unitSize_eq_total, byteSize_eq_total]
  exact total_le_total unitWidth_le_utf8Size cs

/-- A prefix is covered by its number of bytes. -/
theorem covering_byteSize (h : cs <+: ds) : covering Char.utf8Size (byteSize cs) ds = cs := by
  rw [byteSize_eq_total, covering_total Char.utf8Size_pos h]

/-- A prefix is covered by its number of units. -/
theorem covering_unitSize (h : cs <+: ds) : covering unitWidth (unitSize cs) ds = cs := by
  rw [unitSize_eq_total, covering_total unitWidth_pos h]

/-- From bytes of a line to units and back to bytes of its content. -/
theorem bytesBeforeUnit_unitsBeforeByte (n : Nat) (content ending : List Char) :
    bytesBeforeUnit (unitsBeforeByte n (content ++ ending)) content =
      min (byteSize (covering Char.utf8Size n (content ++ ending))) (byteSize content) := by
  rw [unitsBeforeByte_eq, bytesBeforeUnit_eq]
  by_cases hn : n ≤ byteSize content
  · have hinitial := covering_isPrefix Char.utf8Size n content
    have hle := byteSize_le_of_isPrefix hinitial
    rw [covering_append (by rwa [← byteSize_eq_total]), covering_unitSize hinitial]
    omega
  · -- The walk there ends behind the content, so the walk back uses all of it up.
    have hwide : total Char.utf8Size content ≤ n := by
      rw [← byteSize_eq_total]
      omega
    have hcovering := covering_append_of_le Char.utf8Size_pos hwide ending
    have hall : total unitWidth content ≤
        unitSize (covering Char.utf8Size n (content ++ ending)) := by
      rw [hcovering, unitSize_append, unitSize_eq_total content]
      omega
    rw [covering_eq_self unitWidth_pos hall, hcovering, byteSize_append]
    omega

/-- The units of the content of a line up to a number of units that a client may give. -/
theorem isLeast_unitSize_covering (h : n ≤ unitSize cs) :
    IsLeast {u | (∃ p, p <+: cs ∧ unitSize p = u) ∧ n ≤ u}
      (unitSize (covering unitWidth n cs)) := by
  simp only [unitSize_eq_total] at h ⊢
  exact isLeast_covering h

/-- The prefix that covers some bytes ends at the first boundary that is not before them. -/
theorem isLeast_byteSize_covering (h : n ≤ byteSize cs) :
    IsLeast {b | isBoundary b cs = true ∧ n ≤ b} (byteSize (covering Char.utf8Size n cs)) := by
  simp only [isBoundary_iff_exists_isPrefix, byteSize_eq_total] at h ⊢
  exact isLeast_covering h

end Text

namespace LineIndex

open Text

variable {index : LineIndex} {line content ending : List Char} {l n o o' : Nat}

/-- If the units of the characters fit into a word, counting them in words makes no difference. -/
theorem bytesToColumn_eq {column : Nat} {cs : List Char}
    (h : column + unitSize cs < UInt32.size) (n : Nat) :
    bytesToColumn n column cs = bytesBeforeUnit (n - column) cs := by
  induction cs generalizing column with
  | nil => rfl
  | cons c cs ih =>
      rw [unitSize] at h
      rw [bytesToColumn, lowWord_of_lt (by omega), bytesBeforeUnit, widthBefore]
      by_cases hn : n ≤ column
      · rw [if_pos hn, if_pos (by omega)]
      · rw [if_neg hn, if_neg (by omega), ih (by omega), Nat.sub_add_eq]
        rfl

/-- What is passed is no more than there is. -/
theorem bytesToColumn_le (n column : Nat) (cs : List Char) :
    bytesToColumn n column cs ≤ byteSize cs := by
  induction cs generalizing column with
  | nil => exact Nat.le_refl 0
  | cons c cs ih =>
      rw [bytesToColumn]
      split
      · exact Nat.zero_le _
      · exact Nat.add_le_add_left (ih _) c.utf8Size

/-- A line is its content and its one break, which only the last line does not have. -/
theorem exists_break (hl : l < index.height) : ∃ content ending,
    index.lineList[l]? = some (content ++ ending) ∧ index.contentChars l = .ok content ∧
      IsUnbroken content ∧
        (l + 1 < index.height ∧ IsLineBreak ending ∨ l + 1 = index.height ∧ ending = []) := by
  obtain ⟨line, hline⟩ := index.exists_line hl
  have hchars := index.contentChars_eq hline
  by_cases hnext : l + 1 < index.height
  · obtain ⟨next, hnext'⟩ := index.exists_line hnext
    obtain ⟨content, ending, rfl, hcontent, hending, _⟩ :=
      index.canonical_lineList.exists_ending hline hnext'
    rw [hcontent.trimEnd_append hending] at hchars
    exact ⟨content, ending, hline, hchars, hcontent, Or.inl ⟨hnext, hending⟩⟩
  · have hlast : l = index.lastLine := by
      rw [lastLine]
      omega
    subst hlast
    have hunbroken := index.canonical_lineList.isUnbroken_getLast (index.getLast?_lineList hline)
    rw [hunbroken.trimEnd] at hchars
    exact ⟨line, [], by rwa [List.append_nil], hchars, hunbroken, Or.inr ⟨by omega, rfl⟩⟩

/-- A line is its content and, if another line is behind it, a break. -/
theorem exists_content (hl : l < index.height) :
    ∃ content ending, index.lineList[l]? = some (content ++ ending) ∧
      index.contentChars l = .ok content ∧ (l + 1 < index.height → ending ≠ []) := by
  obtain ⟨content, ending, hline, hcontent, _, ⟨_, hending⟩ | ⟨hlast, _⟩⟩ := index.exists_break hl
  · exact ⟨content, ending, hline, hcontent, fun _ => hending.ne_nil⟩
  · exact ⟨content, ending, hline, hcontent, fun hnext => by omega⟩

/-- What stands before a line in the text has the size that is the start of the line. -/
theorem exists_surrounding (hline : index.lineList[l]? = some line) :
    ∃ before after, index.chars = before ++ (line ++ after) ∧
      byteSize before = index.startOf l := by
  refine ⟨(index.lineList.take l).flatten, (index.lineList.drop (l + 1)).flatten, ?_, rfl⟩
  obtain ⟨hl, hget⟩ := List.getElem?_eq_some_iff.1 hline
  have hsplit := List.take_append_drop l index.lineList
  rw [List.drop_eq_getElem_cons hl, hget] at hsplit
  rw [← flatten_lineList, ← List.flatten_cons, ← List.flatten_append, hsplit]

/-- The least boundary at an offset of a line or above it is on the same line. -/
theorem isLeast_boundary (ho : o ≤ index.length) (hlies : index.LiesOn o l)
    (hline : index.lineList[l]? = some line) :
    IsLeast {b | isBoundary b index.chars = true ∧ o ≤ b}
      (index.startOf l + byteSize (covering Char.utf8Size (o - index.startOf l) line)) := by
  obtain ⟨before, after, hchars, hbefore⟩ := exists_surrounding hline
  have hstart := hlies.startOf_le
  have hend := hlies.le_startOf_succ ho
  rw [index.startOf_succ hline] at hend
  have hcovering : covering Char.utf8Size o index.chars =
      before ++ covering Char.utf8Size (o - index.startOf l) line := by
    rw [hchars, covering_append_of_le Char.utf8Size_pos (by rw [← byteSize_eq_total]; omega),
      ← byteSize_eq_total, hbefore, covering_append (by rw [← byteSize_eq_total]; omega)]
  have hleast : IsLeast {b | isBoundary b index.chars = true ∧ o ≤ b} _ :=
    isLeast_byteSize_covering ho
  rwa [hcovering, byteSize_append, hbefore] at hleast

/-- What a client position on a line of the text passes on this line is counted in words. -/
theorem ofLsp?_eq_bytesToColumn (hl : l < index.height)
    (hcontent : index.contentChars l = .ok content) (u : Nat) :
    index.ofLsp? ⟨l, u⟩ = some (index.startOf l + bytesToColumn u 0 content) := by
  simp only [ofLsp?, hcontent, index.lineStart_eq hl]
  rfl

/-- A client position has no offset exactly if its line is not in the text. -/
theorem ofLsp?_eq_none_iff (p : Lsp.Position) :
    index.ofLsp? p = none ↔ index.height ≤ p.line := by
  by_cases hl : p.line < index.height
  · obtain ⟨content, _, _, hcontent, _⟩ := index.exists_content hl
    rw [ofLsp?_eq_bytesToColumn hl hcontent]
    simp [hl]
  · have hsize : ¬p.line < index.starts.size := hl
    simp [ofLsp?, contentChars, lineChars, hsize, Except.map, Except.toOption, Nat.le_of_not_lt hl]

/-- An offset in the content of a line or at its end is on that line. -/
theorem liesOn_of_le_content (hl : l < index.height)
    (hline : index.lineList[l]? = some (content ++ ending))
    (hending : l + 1 < index.height → ending ≠ []) (hn : n ≤ byteSize content) :
    index.LiesOn (index.startOf l + n) l := by
  refine ⟨hl, Nat.le_add_right _ _, fun hnext => ?_⟩
  obtain ⟨c, cs, rfl⟩ := List.exists_cons_of_ne_nil (hending hnext)
  have hc := c.utf8Size_pos
  rw [index.startOf_succ hline, byteSize_append, byteSize]
  omega

/-- An offset in the content of a line or at its end is in the text. -/
theorem startOf_add_le_length (hline : index.lineList[l]? = some (content ++ ending))
    (hn : n ≤ byteSize content) : index.startOf l + n ≤ index.length := by
  have hlength := index.startOf_le_length (l + 1)
  rw [index.startOf_succ hline, byteSize_append] at hlength
  omega

/-- A line is no longer than the text. -/
theorem byteSize_line_le_length (hline : index.lineList[l]? = some line) :
    byteSize line ≤ index.length := by
  have hlength := index.startOf_le_length (l + 1)
  rw [index.startOf_succ hline] at hlength
  omega

/-- The content of a line is no longer than the text. -/
theorem byteSize_content_le_length (hcontent : index.contentChars l = .ok content)
    (hl : l < index.height) : byteSize content ≤ index.length := by
  obtain ⟨content', ending, hline, hcontent', _⟩ := index.exists_content hl
  obtain rfl := Except.ok.inj (hcontent.symm.trans hcontent')
  exact (Nat.le_add_left _ _).trans (startOf_add_le_length hline (Nat.le_refl _))

/-- A line of a text is no wider in units than the text in bytes. -/
theorem unitsBeforeByte_le_length (hline : index.lineList[l]? = some line) (n : Nat) :
    unitsBeforeByte n line ≤ index.length := by
  rw [unitsBeforeByte_eq]
  exact (unitSize_le_of_isPrefix (covering_isPrefix Char.utf8Size n line)).trans
    ((unitSize_le_byteSize line).trans (byteSize_line_le_length hline))

/-! ## Client positions in a text of less than 4 GiB -/

section Fitting

variable (hsize : index.length < UInt32.size)
include hsize

/-- A client is told the line of an offset and the units before the offset on this line. -/
theorem toLsp_eq (ho : o ≤ index.length) (hlies : index.LiesOn o l)
    (hline : index.lineList[l]? = some line) :
    index.toLsp o = .ok ⟨l, unitsBeforeByte (o - index.startOf l) line⟩ := by
  have hl := hlies.line_le
  have hunits := unitsBeforeByte_le_length hline (o - index.startOf l)
  rw [toLsp, lineOf_eq ho hlies, lowWord_of_lt (by omega)]
  simp only [bind, Except.bind, index.lineStart_eq hlies.lt_height, index.lineChars_self hline]
  rw [lowWord_of_lt (by omega)]
  rfl

/-- A client position goes to the end of the prefix of the content that it covers. -/
theorem ofLsp?_eq (hl : l < index.height) (hcontent : index.contentChars l = .ok content)
    (u : Nat) : index.ofLsp? ⟨l, u⟩ = some (index.startOf l + bytesBeforeUnit u content) := by
  obtain ⟨content', ending, hline, hcontent', _⟩ := index.exists_content hl
  obtain rfl := Except.ok.inj (hcontent.symm.trans hcontent')
  have hunits := unitSize_le_byteSize content
  have hlength := byteSize_line_le_length hline
  rw [byteSize_append] at hlength
  rw [ofLsp?_eq_bytesToColumn hl hcontent, bytesToColumn_eq (by omega), Nat.sub_zero]

/-- A client position goes to an offset that goes back to the end of the covering prefix. -/
theorem toLsp_of_ofLsp (hl : l < index.height)
    (hline : index.lineList[l]? = some (content ++ ending))
    (hending : l + 1 < index.height → ending ≠ []) (u : Nat) :
    index.toLsp (index.startOf l + bytesBeforeUnit u content) =
      .ok ⟨l, unitSize (covering unitWidth u content)⟩ := by
  have hinitial := covering_isPrefix unitWidth u content
  have hn : bytesBeforeUnit u content ≤ byteSize content := by
    rw [bytesBeforeUnit_eq]
    exact byteSize_le_of_isPrefix hinitial
  rw [toLsp_eq hsize (startOf_add_le_length hline hn) (liesOn_of_le_content hl hline hending hn)
    hline, Nat.add_sub_cancel_left, bytesBeforeUnit_eq, unitsBeforeByte_eq,
    covering_byteSize (hinitial.trans (List.prefix_append content ending))]

/-- What a client is told comes from an offset of the text, on the line that it is told. -/
theorem exists_of_toLsp {p : Lsp.Position} (h : index.toLsp o = .ok p) :
    o ≤ index.length ∧ index.LiesOn o p.line ∧ ∃ line, index.lineList[p.line]? = some line ∧
      p.character = unitsBeforeByte (o - index.startOf p.line) line := by
  have ho : o ≤ index.length := by
    by_contra ho
    simp [toLsp, lineOf, ho, bind, Except.bind] at h
  obtain ⟨l, _, hlies⟩ := index.exists_lineOf ho
  obtain ⟨line, hline⟩ := index.exists_line hlies.lt_height
  obtain rfl := Except.ok.inj ((toLsp_eq hsize ho hlies hline).symm.trans h)
  exact ⟨ho, hlies, line, hline, rfl⟩

/-- A client position that has an offset is on a line of the text. -/
theorem exists_of_ofLsp? {p : Lsp.Position} (h : index.ofLsp? p = some o) :
    p.line < index.height ∧ ∃ content ending,
      index.lineList[p.line]? = some (content ++ ending) ∧
        index.contentChars p.line = .ok content ∧
          o = index.startOf p.line + bytesBeforeUnit p.character content := by
  have hl : p.line < index.height := by
    by_contra hl
    rw [(ofLsp?_eq_none_iff p).2 (Nat.le_of_not_lt hl)] at h
    cases h
  obtain ⟨content, ending, hline, hcontent, _⟩ := index.exists_content hl
  exact ⟨hl, content, ending, hline, hcontent,
    Option.some.inj (h.symm.trans (ofLsp?_eq hsize hl hcontent p.character))⟩

/-- Client positions stand in the order of their offsets. -/
theorem toLsp_le {p p' : Lsp.Position} (h : index.toLsp o = .ok p) (h' : index.toLsp o' = .ok p')
    (hle : o ≤ o') : p ≤ p' := by
  obtain ⟨_, hlies, line, hline, hunits⟩ := exists_of_toLsp hsize h
  obtain ⟨_, hlies', line', hline', hunits'⟩ := exists_of_toLsp hsize h'
  rw [Lsp.Position.le_iff]
  rcases Nat.eq_or_lt_of_le (hlies'.le_of_startOf_le hlies.lt_height
    (hlies.startOf_le.trans hle)) with hsame | hlt
  · rw [← hsame] at hline' hunits'
    obtain rfl := Option.some.inj (hline.symm.trans hline')
    refine Or.inr ⟨hsame, ?_⟩
    rw [hunits, hunits', unitsBeforeByte_eq, unitsBeforeByte_eq]
    exact unitSize_le_of_isPrefix (covering_mono (by omega) line)
  · exact Or.inl hlt

/-- Offsets stand in the order of their client positions. -/
theorem ofLsp?_le {p p' : Lsp.Position} (h : index.ofLsp? p = some o)
    (h' : index.ofLsp? p' = some o') (hle : p ≤ p') : o ≤ o' := by
  obtain ⟨_, content, ending, hline, hcontent, rfl⟩ := exists_of_ofLsp? hsize h
  obtain ⟨hl', content', _, _, hcontent', rfl⟩ := exists_of_ofLsp? hsize h'
  rw [bytesBeforeUnit_eq, bytesBeforeUnit_eq]
  rcases Lsp.Position.le_iff.1 hle with hlt | ⟨hsame, hcharacter⟩
  · have hstart := index.startOf_le (k := p.line + 1) hlt hl'
    have hn := byteSize_le_of_isPrefix (covering_isPrefix unitWidth p.character content)
    rw [index.startOf_succ hline, byteSize_append] at hstart
    omega
  · rw [hsame] at hcontent ⊢
    obtain rfl := Except.ok.inj (hcontent.symm.trans hcontent')
    have hinitial : covering unitWidth p.character content <+:
        covering unitWidth p'.character content := covering_mono hcharacter content
    have hmono := byteSize_le_of_isPrefix hinitial
    omega

/-- What a client is told of an offset is no more than the size of the text. -/
theorem character_le_length {p : Lsp.Position} (h : index.toLsp o = .ok p) :
    p.line ≤ index.length ∧ p.character ≤ index.length := by
  obtain ⟨ho, hlies, line, hline, hunits⟩ := exists_of_toLsp hsize h
  rw [hunits]
  exact ⟨hlies.line_le.trans ho, unitsBeforeByte_le_length hline _⟩

end Fitting

/-- An offset goes to a client position that leads back to the next boundary, or to the end of the
content of its line if that comes first; a client position on a line of the text goes to an offset
that leads back to the next width that a prefix of the content has, or to the whole width. There is
no offset exactly if there is no such line, and both ways keep the order. In a text of less than
4 GiB what a client is told fits into 32 bits. -/
theorem lsp_positions_round_trip (index : LineIndex) (hsize : index.length < UInt32.size) :
    (∀ o ≤ index.length, ∃ l start content p boundary, index.lineOf o = .ok l ∧
      index.lineStart l = .ok start ∧ index.contentChars l = .ok content ∧
        index.toLsp o = .ok p ∧ p.line < UInt32.size ∧ p.character < UInt32.size ∧
          IsLeast {b | Text.isBoundary b index.chars = true ∧ o ≤ b} boundary ∧
            index.ofLsp? p = some (min boundary (start + Text.byteSize content))) ∧
    (∀ l start content o, index.lineStart l = .ok start → index.contentChars l = .ok content →
      start ≤ o → o ≤ start + Text.byteSize content → Text.isBoundary o index.chars = true →
        ∃ p, index.toLsp o = .ok p ∧ index.ofLsp? p = some o) ∧
    (∀ p : Lsp.Position, p.line < index.height → ∃ content o u,
      index.contentChars p.line = .ok content ∧ index.ofLsp? p = some o ∧
        index.toLsp o = .ok ⟨p.line, u⟩ ∧
          (p.character ≤ Text.unitSize content → IsLeast
            {w | (∃ q, q <+: content ∧ Text.unitSize q = w) ∧ p.character ≤ w} u) ∧
          (Text.unitSize content < p.character → u = Text.unitSize content)) ∧
    (∀ p, index.ofLsp? p = none ↔ index.height ≤ p.line) ∧
    (∀ o o' p p', index.toLsp o = .ok p → index.toLsp o' = .ok p' → o ≤ o' → p ≤ p') ∧
    ∀ p p' o o', index.ofLsp? p = some o → index.ofLsp? p' = some o' → p ≤ p' → o ≤ o' := by
  refine ⟨?_, ?_, ?_, ofLsp?_eq_none_iff, fun _ _ _ _ => toLsp_le hsize,
    fun _ _ _ _ => ofLsp?_le hsize⟩
  · intro o ho
    obtain ⟨l, hlineOf, hlies⟩ := index.exists_lineOf ho
    obtain ⟨content, ending, hline, hcontent, _⟩ := index.exists_content hlies.lt_height
    have htoLsp := toLsp_eq hsize ho hlies hline
    obtain ⟨hlineFits, hcharacterFits⟩ := character_le_length hsize htoLsp
    have hl := hlies.line_le
    rw [lowWord_of_lt (by omega)] at hlineOf
    refine ⟨l, _, content, _, _, hlineOf, index.lineStart_eq hlies.lt_height, hcontent, htoLsp,
      by omega, by omega, isLeast_boundary ho hlies hline, ?_⟩
    rw [ofLsp?_eq hsize hlies.lt_height hcontent, bytesBeforeUnit_unitsBeforeByte,
      Nat.add_min_add_left]
  · intro l start content o hstart hcontent hle hend hboundary
    obtain ⟨hl, rfl⟩ := lineStart_eq_ok_iff.1 hstart
    obtain ⟨content', ending, hline, hcontent', hending⟩ := index.exists_content hl
    obtain rfl := Except.ok.inj (hcontent.symm.trans hcontent')
    have hlies := liesOn_of_le_content (n := o - index.startOf l) hl hline hending (by omega)
    rw [Nat.add_sub_cancel' hle] at hlies
    have ho : o ≤ index.length := by
      have := startOf_add_le_length (n := o - index.startOf l) hline (by omega)
      omega
    have hleast := isLeast_boundary ho hlies hline
    -- The offset is a boundary itself, so it is the least one that is not below it.
    have hboundary' := hleast.unique ⟨⟨hboundary, Nat.le_refl o⟩, fun b hb => hb.2⟩
    refine ⟨_, toLsp_eq hsize ho hlies hline, ?_⟩
    rw [ofLsp?_eq hsize hl hcontent, bytesBeforeUnit_unitsBeforeByte, ← Nat.add_min_add_left,
      hboundary',
      Nat.min_eq_left hend]
  · intro p hl
    obtain ⟨content, ending, hline, hcontent, hending⟩ := index.exists_content hl
    refine ⟨content, _, _, hcontent, ofLsp?_eq hsize hl hcontent p.character,
      toLsp_of_ofLsp hsize hl hline hending p.character, isLeast_unitSize_covering,
        fun hexceeds => ?_⟩
    rw [covering_eq_self unitWidth_pos (by rw [← unitSize_eq_total]; omega)]

/-- The offset behind a character of four bytes and two units leads back to itself, and a column
between the two units goes to the same offset. -/
theorem lsp_positions_round_trip_surrogates :
    (ofText "a😀b\r\n").length < UInt32.size ∧
      (ofText "a😀b\r\n").toLsp 3 = .ok ⟨0, 3⟩ ∧ (ofText "a😀b\r\n").ofLsp? ⟨0, 2⟩ = some 5 ∧
      ∃ p, (ofText "a😀b\r\n").toLsp 5 = .ok p ∧ (ofText "a😀b\r\n").ofLsp? p = some 5 := by
  have hsize : (ofText "a😀b\r\n").length < UInt32.size := by decide
  have hstart : (ofText "a😀b\r\n").lineStart 0 = .ok 0 := by decide
  have hcontent : (ofText "a😀b\r\n").contentChars 0 = .ok ['a', '😀', 'b'] := by decide
  obtain ⟨_, hboundaries, _⟩ := lsp_positions_round_trip _ hsize
  exact ⟨hsize, by decide +kernel, by decide +kernel,
    hboundaries 0 0 _ 5 hstart hcontent (by decide) (by decide) (by decide)⟩

end LineIndex

end Polyglot
