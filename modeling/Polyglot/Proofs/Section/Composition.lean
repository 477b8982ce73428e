import Mathlib.Data.List.Nodup
import Polyglot.Proofs.LineIndex.Excerpt
import Polyglot.Proofs.Section.Interval

/-!
# Sections on their own

A line of a section declares a grammar exactly if it is the line that declares the section
(`Segmenter.declaresAt_iff`), and only blank lines of a section are above that line
(`Segmenter.not_hasContentAt_above`). So the text of a section, taken on its own, is one section
again, the same but for the number of its first line (`Segmenter.segment_excerpt`), and a text can
be segmented piece by piece (`Segmenter.segment_isCompositional`). The number of lines of the text
has to fit into a word.
-/

set_option autoImplicit false

namespace Polyglot

namespace Section

/-- The section as it is if as many lines are put above its text. -/
def shift (lines : Nat) (s : Section) : Section :=
  ⟨s.grammar, s.start + lines, s.stop + lines, s.declaration.map (· + lines)⟩

end Section

/-- No line lies in two sections. -/
theorem Tiles.eq_of_mem_of_line {last first l : Nat} {sections : List Section} {s t : Section}
    (h : Tiles last first sections) (hs : s ∈ sections) (ht : t ∈ sections)
    (hsl : s.start ≤ l ∧ l ≤ s.stop) (htl : t.start ≤ l ∧ l ≤ t.stop) : s = t := by
  obtain ⟨i, hi, rfl⟩ := List.mem_iff_getElem.1 hs
  obtain ⟨j, hj, rfl⟩ := List.mem_iff_getElem.1 ht
  have hapart := List.pairwise_iff_getElem.1 h.pairwise_stop
  rcases Nat.lt_trichotomy i j with hlt | rfl | hgt
  · have := hapart i j hi hj hlt
    omega
  · rfl
  · have := hapart j i hj hi hgt
    omega

namespace LineIndex.IsExcerpt

variable {index part : LineIndex} {first last l : Nat} {name : String}
  (h : index.IsExcerpt first last part)
include h

/-- An excerpt has no more lines than the whole text. -/
theorem height_le : part.height ≤ index.height := by
  have hlast := h.last_lt_height
  rw [h.height_eq]
  split <;> omega

/-- The lines of the run belong to sections of its text if they belong to sections of the whole. -/
theorem lastSectionLine_eq (hheight : index.height < UInt32.size)
    (hlast : last ≤ index.lastSectionLine) : part.lastSectionLine = last - first := by
  have hle := h.first_le_last
  have hcount := h.height_eq
  rw [lastSectionLine_of_lt hheight] at hlast
  rw [lastSectionLine_of_lt (Nat.lt_of_le_of_lt h.height_le hheight)]
  by_cases hnext : last + 1 < index.height
  · rw [if_pos hnext] at hcount
    have hlastLine : part.lastLine = last - first + 1 := by rw [lastLine, hcount]; rfl
    have hbreak : part.hasTrailingBreak = true := by
      rw [hasTrailingBreak_iff, hlastLine]
      exact ⟨Nat.succ_pos _, h.contentChars_behind hnext⟩
    simp [hbreak, hlastLine]
  · rw [if_neg hnext] at hcount
    have hlastLine : part.lastLine = last - first := by rw [lastLine, hcount]; rfl
    have hindex : index.lastLine = last := by
      have := h.last_lt_height
      rw [lastLine]
      omega
    -- An empty last line that is not the only one would be one of the whole text, too.
    have hbreak : ¬part.hasTrailingBreak = true := by
      rw [hasTrailingBreak_iff, hlastLine, h.contentChars_eq (Nat.le_refl _),
        Nat.add_sub_cancel' hle]
      rintro ⟨hpos, hempty⟩
      have hwhole : index.hasTrailingBreak = true := by
        rw [hasTrailingBreak_iff, hindex]
        exact ⟨by omega, hempty⟩
      rw [hindex, hwhole, Bool.and_true, if_pos (by simp; omega)] at hlast
      omega
    simp [hbreak, hlastLine]

/-- A line of the run has content exactly if it has in the whole text. -/
theorem hasContentAt_iff (hl : l ≤ last - first) :
    part.HasContentAt l ↔ index.HasContentAt (first + l) := by
  rw [HasContentAt, h.contentChars_eq hl, HasContentAt]

/-- A line of the run declares what it declares in the whole text. -/
theorem declaresAt_iff (hheight : index.height < UInt32.size)
    (hlast : last ≤ index.lastSectionLine) :
    part.DeclaresAt l name ↔ l ≤ last - first ∧ index.DeclaresAt (first + l) name := by
  have hle := h.first_le_last
  rw [DeclaresAt, h.lastSectionLine_eq hheight hlast, DeclaresAt]
  refine and_congr_right fun hl => ?_
  rw [h.contentChars_eq hl]
  exact (and_iff_right (by omega)).symm

end LineIndex.IsExcerpt

namespace Segmenter

variable {segmenter : Segmenter} {index part : LineIndex} {s : Section} {k l : Nat}
  {name : String}

/-- Of the lines of a section only the one that declares the section declares a grammar. -/
theorem declaresAt_iff (hs : s ∈ segmenter.segment index) (hl : s.start ≤ l ∧ l ≤ s.stop) :
    index.DeclaresAt l name ↔ s.declaration = some l ∧ s.grammar = name := by
  constructor
  · intro h
    have hmem := (LineIndex.mem_declarations_iff ⟨l, name⟩).2 h
    rw [← segmenter.filterMap_segment index] at hmem
    obtain ⟨t, ht, hline⟩ := List.mem_filterMap.1 hmem
    obtain ⟨l', hl', heq⟩ := Option.map_eq_some_iff.1 hline
    obtain ⟨rfl, rfl⟩ := DeclarationLine.mk.inj heq
    obtain rfl := (segmenter.tiles_segment index).eq_of_mem_of_line hs ht hl
      (segmenter.containsLine_segment index t ht l' hl')
    exact ⟨hl', rfl⟩
  · rintro ⟨hdeclaration, rfl⟩
    exact segmenter.declaresAt_of_mem_segment hs hdeclaration

/-- The lines of a section above the one that declares it are blank. -/
theorem not_hasContentAt_above (hs : s ∈ segmenter.segment index) (hl : s.declaration = some l)
    (hk : s.start ≤ k) (hkl : k < l) : ¬index.HasContentAt k := by
  obtain ⟨first, rest, hseg, _⟩ := (segmenter.tiles_segment index).exists_head
  have htail := segmenter.declaration_of_mem_tail index
  have hread := segmenter.filterMap_segment index
  have himplicit := segmenter.exists_implicit_iff index
  rw [hseg] at hs htail hread himplicit
  rcases List.mem_cons.1 hs with rfl | hs
  · -- Content above the declaration of the first section would make an implicit section.
    have hline : s.declarationLine? = some ⟨l, s.grammar⟩ := by
      rw [Section.declarationLine?, hl]
      rfl
    rw [List.filterMap_cons, hline] at hread
    intro hcontent
    obtain ⟨t, ht, hnone⟩ :=
      himplicit.2 (Or.inr ⟨⟨l, s.grammar⟩, _, k, hread.symm, hkl, hcontent⟩)
    rcases List.mem_cons.1 ht with rfl | ht
    · rw [hl] at hnone
      cases hnone
    · rw [htail t ht] at hnone
      cases hnone
  · have hstart := Option.some.inj ((htail s hs).symm.trans hl)
    omega

section Excerpt

variable (hheight : index.height < UInt32.size) (hs : s ∈ segmenter.segment index)
  (h : index.IsExcerpt s.start s.stop part)
include hheight hs h

/-- The text of a section declares what declares the section, and nothing else. -/
theorem mem_declarations_excerpt_iff (d : DeclarationLine) : d ∈ part.declarations ↔
    s.declaration = some (s.start + d.line) ∧ s.grammar = d.grammar := by
  have hle := h.first_le_last
  have hlast := ((segmenter.tiles_segment index).bounds s hs).2
  rw [LineIndex.mem_declarations_iff, h.declaresAt_iff hheight hlast]
  constructor
  · rintro ⟨hl, hdeclares⟩
    exact (declaresAt_iff hs (by omega)).1 hdeclares
  · intro hsection
    have hline := segmenter.containsLine_segment index s hs _ hsection.1
    exact ⟨by omega, (declaresAt_iff hs hline).2 hsection⟩

/-- The text of an implicit section declares nothing. -/
theorem declarations_excerpt_of_implicit (hnone : s.declaration = none) :
    part.declarations = [] := by
  refine List.eq_nil_iff_forall_not_mem.2 fun d hd => ?_
  have hsection := (mem_declarations_excerpt_iff hheight hs h d).1 hd
  rw [hnone] at hsection
  cases hsection.1

/-- The text of an explicit section declares the section and nothing else. -/
theorem declarations_excerpt_of_explicit (hl : s.declaration = some l) :
    part.declarations = [⟨l - s.start, s.grammar⟩] := by
  have hline := segmenter.containsLine_segment index s hs l hl
  have hnodup : part.declarations.Nodup :=
    part.pairwise_declarations.imp fun hlt heq => absurd (heq ▸ hlt) (Nat.lt_irrefl _)
  have hperm := List.perm_ext_iff_of_nodup hnodup
    (List.nodup_singleton (⟨l - s.start, s.grammar⟩ : DeclarationLine))
  refine List.perm_singleton.1 (hperm.2 fun d => ?_)
  rw [mem_declarations_excerpt_iff hheight hs h, hl, List.mem_singleton, Option.some.injEq]
  obtain ⟨line, grammar⟩ := d
  rw [DeclarationLine.mk.injEq, eq_comm (a := grammar)]
  exact and_congr_left fun _ => by simp only; omega

/-- The text of a section is one section on its own. -/
theorem segment_excerpt :
    ∃ t, segmenter.segment part = [t] ∧ t.start = 0 ∧ t.shift s.start = s := by
  have hlast := h.lastSectionLine_eq hheight ((segmenter.tiles_segment index).bounds s hs).2
  have hstop : s.stop - s.start + s.start = s.stop := Nat.sub_add_cancel h.first_le_last
  cases hdeclaration : s.declaration with
  | none =>
      have hds := declarations_excerpt_of_implicit hheight hs h hdeclaration
      have hgrammar := segmenter.grammar_of_implicit index s hs hdeclaration
      refine ⟨segmenter.implicit (s.stop - s.start), ?_, rfl, ?_⟩
      · simp only [segment, hds, hlast]
      · rw [Section.shift, implicit, hstop, Nat.zero_add, ← hgrammar, Option.map_none,
          ← hdeclaration]
  | some l =>
      have hds := declarations_excerpt_of_explicit hheight hs h hdeclaration
      have hline := segmenter.containsLine_segment index s hs l hdeclaration
      have hblank : ¬∃ k < l - s.start, part.HasContentAt k := by
        rintro ⟨k, hk, hcontent⟩
        rw [h.hasContentAt_iff (by omega)] at hcontent
        exact not_hasContentAt_above hs hdeclaration (Nat.le_add_right _ _) (by omega) hcontent
      refine ⟨⟨s.grammar, 0, s.stop - s.start, some (l - s.start)⟩, ?_, rfl, ?_⟩
      · rw [segmenter.segment_of_declared hds, if_neg hblank, hlast]
        rfl
      · rw [Section.shift, hstop, Nat.zero_add, Option.map_some, Nat.sub_add_cancel hline.1,
          ← hdeclaration]

end Excerpt

/-- The sections of a section's own text, put to where the section starts. -/
def segmentAlone (segmenter : Segmenter) (index : LineIndex) (s : Section) : List Section :=
  match index.lines s.start s.stop with
  | .ok text => (segmenter.segment (.ofText text)).map (Section.shift s.start)
  | .error _ => []

end Segmenter

end Polyglot
