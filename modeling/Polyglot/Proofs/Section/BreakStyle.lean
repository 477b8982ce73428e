import Polyglot.Proofs.LineIndex.Contents
import Polyglot.Proofs.Section.Declaration

/-!
# Sections and the style of breaks

The segmenter reads the contents of lines, and asks about breaks only whether there is one at the
end of the text. The contents decide this too, so texts that agree but for the style of their breaks
have the same declarations and the same sections, and a client position leads to the same place in
both (`sections_ignore_breakStyle`).
-/

set_option autoImplicit false

namespace Polyglot

variable {index index' : LineIndex} {l : Nat}

namespace LineIndex.AgreesButForBreaks

variable (h : AgreesButForBreaks index index')
include h

/-- Texts that agree but for breaks have the same lines in sections. -/
theorem lastSectionLine_eq : index.lastSectionLine = index'.lastSectionLine := by
  rw [lastSectionLine, lastCountedLine_eq, h.lastLine_eq, h.hasTrailingBreak_eq, lastSectionLine,
    lastCountedLine_eq]

/-- Texts that agree but for breaks declare the same at each line. -/
theorem declarationAt?_eq (hl : l < index.height) :
    index.declarationAt? l = index'.declarationAt? l := by
  rw [declarationAt?, h.contentChars_eq hl, declarationAt?]

/-- Texts that agree but for breaks have content on the same lines. -/
theorem hasContent_eq (hl : l < index.height) : index.hasContent l = index'.hasContent l := by
  rw [hasContent, h.contentChars_eq hl, hasContent]

/-- Texts that agree but for breaks have the same declaration lines. -/
theorem declarations_eq : index.declarations = index'.declarations := by
  rw [declarations, declarations, ← h.lastSectionLine_eq]
  refine List.filterMap_congr fun l hl => h.declarationAt?_eq ?_
  exact lt_height_of_le_lastSectionLine (Nat.lt_succ_iff.1 (List.mem_range.1 hl))

/-- Whether a line above a declaration has content is asked in both texts alike. -/
theorem any_hasContent_eq {d : DeclarationLine} (hd : d ∈ index.declarations) :
    (List.range d.line).any index.hasContent = (List.range d.line).any index'.hasContent := by
  have hline := lt_height_of_le_lastSectionLine ((mem_declarations_iff d).1 hd).1
  rw [Bool.eq_iff_iff, List.any_eq_true, List.any_eq_true]
  refine exists_congr fun l => and_congr_right fun hl => ?_
  rw [h.hasContent_eq (Nat.lt_trans (List.mem_range.1 hl) hline)]

end LineIndex.AgreesButForBreaks

/-- Texts that agree but for breaks have the same sections. -/
theorem Segmenter.segment_eq_of_agreesButForBreaks (segmenter : Segmenter)
    (h : LineIndex.AgreesButForBreaks index index') :
    segmenter.segment index = segmenter.segment index' := by
  unfold segment
  rw [← h.declarations_eq, ← h.lastSectionLine_eq]
  cases hds : index.declarations with
  | nil => rfl
  | cons d ds =>
      have hd : d ∈ index.declarations := hds ▸ List.mem_cons_self
      simp only [h.any_hasContent_eq hd]

/-- Texts with as many lines and the same contents of lines have the same sections whatever the
default grammar is, and every client position leads to the same position in both. (The line of a
client position is a word.) -/
theorem sections_ignore_breakStyle (index index' : LineIndex)
    (h : LineIndex.AgreesButForBreaks index index') :
    (∀ segmenter : Segmenter, segmenter.segment index = segmenter.segment index') ∧
      ∀ p : Lsp.Position, p.line < UInt32.size →
        index.positionOfLsp? p = index'.positionOfLsp? p :=
  ⟨fun segmenter => segmenter.segment_eq_of_agreesButForBreaks h,
    fun _ hfits => h.positionOfLsp?_eq hfits⟩

/-- Each break is of another kind in the second text. The client position lies at different offsets
of the two, and the positions are the same. -/
theorem sections_ignore_breakStyle_allKinds :
    LineIndex.AgreesButForBreaks (.ofText "é\r\n###Query\r\n😀x\n") (.ofText "é\n###Query\r😀x\r") ∧
      (default : Segmenter).segment (.ofText "é\r\n###Query\r\n😀x\n") =
        [⟨"Pure", 0, 0, none⟩, ⟨"Query", 1, 2, some 1⟩] ∧
      (default : Segmenter).segment (.ofText "é\n###Query\r😀x\r") =
        [⟨"Pure", 0, 0, none⟩, ⟨"Query", 1, 2, some 1⟩] ∧
      (LineIndex.ofText "é\r\n###Query\r\n😀x\n").ofLsp? ⟨2, 2⟩ = some 18 ∧
      (LineIndex.ofText "é\n###Query\r😀x\r").ofLsp? ⟨2, 2⟩ = some 16 ∧
      (LineIndex.ofText "é\r\n###Query\r\n😀x\n").positionOfLsp? ⟨2, 2⟩ =
        (LineIndex.ofText "é\n###Query\r😀x\r").positionOfLsp? ⟨2, 2⟩ := by
  have hagrees : LineIndex.AgreesButForBreaks (.ofText "é\r\n###Query\r\n😀x\n")
      (.ofText "é\n###Query\r😀x\r") := ⟨by decide +kernel, by decide +kernel⟩
  have hsections : (default : Segmenter).segment (.ofText "é\r\n###Query\r\n😀x\n") =
      [⟨"Pure", 0, 0, none⟩, ⟨"Query", 1, 2, some 1⟩] := by decide +kernel
  obtain ⟨hsegment, hposition⟩ := sections_ignore_breakStyle _ _ hagrees
  refine ⟨hagrees, hsections, ?_, by decide +kernel, by decide +kernel,
    hposition ⟨2, 2⟩ (by decide)⟩
  rw [← hsegment default, hsections]

end Polyglot
