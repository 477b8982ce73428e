import Polyglot.Proofs.LineIndex.Ranges
import Polyglot.Proofs.Section.Partition

/-!
# Intervals of sections

The interval of a section runs from the start of its first line to the first byte of the last
character of its last line, or to the start of that line if it is empty (`interval_ends`). The
column of this character is a word. In a text of less than 4 GiB it does not wrap around, and then
behind the character at the end lies all of the content of the last line and nothing of the next
line (`exists_lastChar`); so the client ranges of successive sections do not overlap
(`stop_le_start_of_rangeOf`), and the range of a section holds the declaration line
(`encloses_content`).
-/

set_option autoImplicit false

namespace Polyglot

open Text (byteSize byteSize_eq_total unitSize widthAt isBoundary)

/-- Of the sections that tile lines each ends before all later ones start. -/
theorem Tiles.pairwise_stop {last first : Nat} {sections : List Section}
    (h : Tiles last first sections) : sections.Pairwise fun s t => s.stop < t.start := by
  induction h with
  | single s _ _ => exact List.pairwise_singleton _ s
  | cons s rest ordered tail ih =>
      exact List.pairwise_cons.2 ⟨fun t ht => (tail.bounds t ht).1, ih⟩

namespace Segmenter

/-- A declaration line is a line of the section that it declares. -/
theorem containsLine_declared (last start : Nat) (d : DeclarationLine) (ds : List DeclarationLine)
    (hstart : start ≤ d.line) (hsorted : (d :: ds).Pairwise fun d e => d.line < e.line)
    (hlast : ∀ e ∈ d :: ds, e.line ≤ last) :
    ∀ s ∈ declared last start (d :: ds), ∀ line, s.declaration = some line →
      s.start ≤ line ∧ line ≤ s.stop := by
  induction ds generalizing start d with
  | nil =>
      intro s hs line hline
      obtain rfl := List.mem_singleton.1 hs
      obtain rfl := Option.some.inj hline
      exact ⟨hstart, hlast d List.mem_cons_self⟩
  | cons e ds ih =>
      obtain ⟨hhead, htail⟩ := List.pairwise_cons.1 hsorted
      have hlt : d.line < e.line := hhead e List.mem_cons_self
      intro s hs line hline
      rw [declared] at hs
      rcases List.mem_cons.1 hs with rfl | hs
      · obtain rfl := Option.some.inj hline
        exact ⟨hstart, by simp only; omega⟩
      · exact ih e.line e (Nat.le_refl _) htail (fun x hx => hlast x (List.mem_cons_of_mem d hx))
          s hs line hline

/-- The declaration line of a section is one of its lines. -/
theorem containsLine_segment (segmenter : Segmenter) (index : LineIndex) :
    ∀ s ∈ segmenter.segment index, ∀ line, s.declaration = some line →
      s.start ≤ line ∧ line ≤ s.stop := by
  have hsorted := index.pairwise_declarations
  have hlast : ∀ e ∈ index.declarations, e.line ≤ index.lastSectionLine :=
    fun e he => (index.mem_declarations_iff e).1 he |>.1
  rcases segmenter.segment_cases index with ⟨_, hseg⟩ | ⟨d, ds, hds, ⟨_, hseg⟩ | ⟨_, hseg⟩⟩
  · intro s hs line hline
    rw [hseg, List.mem_singleton] at hs
    subst hs
    cases hline
  · rw [hds] at hsorted hlast
    intro s hs line hline
    rw [hseg] at hs
    rcases List.mem_cons.1 hs with rfl | hs
    · cases hline
    · exact containsLine_declared _ _ d ds (Nat.le_refl _) hsorted hlast s hs line hline
  · rw [hds] at hsorted hlast
    rw [hseg]
    exact containsLine_declared _ 0 d ds (Nat.zero_le _) hsorted hlast

end Segmenter

/-- The section is not empty and its lines are in the text. -/
structure Section.Fits (s : Section) (index : LineIndex) : Prop where
  start_le_stop : s.start ≤ s.stop
  stop_lt_height : s.stop < index.height

/-- The lines of every section are lines of the text. -/
theorem Segmenter.fits_segment (segmenter : Segmenter) (index : LineIndex) :
    ∀ s ∈ segmenter.segment index, s.Fits index := by
  have htiles := segmenter.tiles_segment index
  intro s hs
  exact ⟨htiles.start_le_stop s hs,
    index.lt_height_of_le_lastSectionLine (htiles.bounds s hs).2⟩

/-- A section that ends in an empty line ends at its start. -/
@[simp]
theorem Section.lastCharColumn_nil : lastCharColumn [] = 0 :=
  lowWord_zero

/-- The column at which a section ends is no more than the size of the content of its last line. -/
theorem Section.lastCharColumn_le (content : List Char) :
    lastCharColumn content ≤ byteSize content := by
  refine (lowWord_le _).trans ?_
  rw [byteSize_eq_total, byteSize_eq_total]
  exact total_le_of_isPrefix (List.dropLast_prefix content)

namespace LineIndex

variable {index : LineIndex} {l : Nat} {content : List Char}

/-- The start of a line is in the text. -/
theorem offsetOf_lineStart (hl : l < index.height) :
    index.offsetOf ⟨l, 0⟩ = .ok (index.startOf l) :=
  offsetOf_eq_ok_iff.2 ⟨hl, index.startOf_le_succ hl, rfl⟩

/-- The column at which a section ends is on its last line, even where it wraps around. -/
theorem offsetOf_lastCharColumn (hl : l < index.height)
    (hcontent : index.contentChars l = .ok content) :
    index.offsetOf ⟨l, Section.lastCharColumn content⟩ =
      .ok (index.startOf l + Section.lastCharColumn content) := by
  obtain ⟨content', ending, hline, hcontent', _⟩ := index.exists_content hl
  obtain rfl := Except.ok.inj (hcontent.symm.trans hcontent')
  have hend := index.startOf_succ hline
  have hcolumn := Section.lastCharColumn_le content
  rw [Text.byteSize_append] at hend
  exact offsetOf_eq_ok_iff.2 ⟨hl, by simp only; omega, rfl⟩

/-- The last character of the content of a line begins at a boundary. Behind it lies no less than
the whole content, and nothing of the next line. -/
theorem exists_lastChar (hsize : index.length < UInt32.size) (hl : l < index.height)
    (hcontent : index.contentChars l = .ok content) :
    ∃ o, index.offsetOf ⟨l, Section.lastCharColumn content⟩ = .ok o ∧
      isBoundary o index.chars = true ∧
        index.startOf l + byteSize content ≤ o + widthAt o index.chars ∧
          (l + 1 < index.height → o + widthAt o index.chars ≤ index.startOf (l + 1)) := by
  obtain ⟨content', ending, hline, hcontent', hending⟩ := index.exists_content hl
  obtain rfl := Except.ok.inj (hcontent.symm.trans hcontent')
  obtain ⟨before, after, hchars, hbefore⟩ := exists_surrounding hline
  have hend := index.startOf_succ hline
  rw [Text.byteSize_append] at hend
  have hbreak : l + 1 < index.height → 0 < byteSize ending := by
    intro hnext
    obtain ⟨c, cs, rfl⟩ := List.exists_cons_of_ne_nil (hending hnext)
    have hc := c.utf8Size_pos
    rw [byteSize]
    omega
  rcases List.eq_nil_or_concat content with rfl | ⟨cs, c, rfl⟩
  · have hstart : index.offsetOf ⟨l, Section.lastCharColumn []⟩ = .ok (index.startOf l) := by
      rw [Section.lastCharColumn_nil, offsetOf_lineStart hl]
    refine ⟨_, hstart, isBoundary_startOf l, Nat.le_add_right _ _, fun hnext => ?_⟩
    have hpos := hbreak hnext
    exact Text.add_widthAt_le (isBoundary_startOf (l + 1)) (by omega)
  · have hlast : index.chars = (before ++ cs) ++ (c :: (ending ++ after)) := by
      simpa using hchars
    have hoffset : byteSize (before ++ cs) = index.startOf l + byteSize cs := by
      rw [Text.byteSize_append, hbefore]
    have hwidth : widthAt (index.startOf l + byteSize cs) index.chars = c.utf8Size := by
      rw [hlast, ← hoffset, Text.widthAt_byteSize_append, widthAt, if_pos rfl]
    have hboundary : isBoundary (index.startOf l + byteSize cs) index.chars = true := by
      rw [hlast, ← hoffset]
      exact Text.isBoundary_byteSize_append _ _
    have hsize' : byteSize (cs ++ [c]) = byteSize cs + c.utf8Size := by
      rw [Text.byteSize_append, byteSize, byteSize, Nat.add_zero]
    have hlength := byteSize_line_le_length hline
    rw [Text.byteSize_append, List.concat_eq_append, hsize'] at hlength
    have hcolumn : Section.lastCharColumn (cs ++ [c]) = byteSize cs := by
      rw [Section.lastCharColumn, List.dropLast_concat, lowWord_of_lt (by omega)]
    rw [List.concat_eq_append, hsize'] at hend
    rw [List.concat_eq_append, hcolumn, hsize']
    refine ⟨index.startOf l + byteSize cs, offsetOf_eq_ok_iff.2 ⟨hl, by simp only; omega, rfl⟩,
      hboundary, ?_, fun _ => ?_⟩ <;> rw [hwidth] <;> omega

end LineIndex

namespace Section

variable {s t : Section} {index : LineIndex} {content : List Char} {r r' : Lsp.Range}

/-- The interval of a section starts with its first line, and it stops on its last line. -/
theorem interval_ends (hs : s.Fits index) (hcontent : index.contentChars s.stop = .ok content) :
    (s.interval index).start = ⟨s.start, 0⟩ ∧
      (s.interval index).stop = ⟨s.stop, lastCharColumn content⟩ := by
  have hle : (⟨s.start, 0⟩ : Position) ≤ ⟨s.stop, lastCharColumn content⟩ := by
    have := hs.start_le_stop
    rw [Position.le_iff]
    simp only
    omega
  simp [interval, hcontent, Except.toOption, Interval.between?, hle]

/-- A section has a client range. -/
theorem exists_range (hs : s.Fits index) : ∃ r, index.rangeOf (s.interval index) = .ok r := by
  have hstart := Nat.lt_of_le_of_lt hs.start_le_stop hs.stop_lt_height
  obtain ⟨content, _, _, hcontent, _⟩ := index.exists_content hs.stop_lt_height
  obtain ⟨hfirst, hstop⟩ := interval_ends hs hcontent
  exact LineIndex.exists_rangeOf (hfirst ▸ LineIndex.offsetOf_lineStart hstart)
    (hstop ▸ LineIndex.offsetOf_lastCharColumn hs.stop_lt_height hcontent)

/-! ## Sections in a text of less than 4 GiB -/

section Fitting

variable (hsize : index.length < UInt32.size)
include hsize

/-- A section has an interval of its text, which ends on a boundary. -/
theorem exists_interval (hs : s.Fits index) : ∃ content o,
    index.contentChars s.stop = .ok content ∧
      (s.interval index).start = ⟨s.start, 0⟩ ∧
      (s.interval index).stop = ⟨s.stop, lastCharColumn content⟩ ∧
      index.offsetOf (s.interval index).start = .ok (index.startOf s.start) ∧
      index.offsetOf (s.interval index).stop = .ok o ∧ isBoundary o index.chars = true ∧
        index.startOf s.stop + byteSize content ≤ o + widthAt o index.chars ∧
          (s.stop + 1 < index.height →
            o + widthAt o index.chars ≤ index.startOf (s.stop + 1)) := by
  have hstart := Nat.lt_of_le_of_lt hs.start_le_stop hs.stop_lt_height
  obtain ⟨content, _, _, hcontent, _⟩ := index.exists_content hs.stop_lt_height
  obtain ⟨o, ho, hlast⟩ := LineIndex.exists_lastChar hsize hs.stop_lt_height hcontent
  obtain ⟨hfirst, hstop⟩ := interval_ends hs hcontent
  exact ⟨content, o, hcontent, hfirst, hstop, hfirst ▸ LineIndex.offsetOf_lineStart hstart,
    hstop ▸ ho, hlast⟩

/-- The range of what lies in the interval of a section lies in the range of the section. -/
theorem encloses_range {i : Interval} (hs : s.Fits index)
    (hsubsumes : (s.interval index).subsumes i = true)
    (hr : index.rangeOf (s.interval index) = .ok r) (hr' : index.rangeOf i = .ok r') :
    r.Encloses r' := by
  obtain ⟨_, _, _, _, _, _, hlast, hboundary, _⟩ := exists_interval hsize hs
  exact LineIndex.encloses_rangeOf hsize hsubsumes hr hr' hlast hboundary

/-- A section ends no later for a client than a section below it starts. -/
theorem stop_le_start_of_rangeOf (hs : s.Fits index) (ht : t.Fits index) (hst : s.stop < t.start)
    (hr : index.rangeOf (s.interval index) = .ok r)
    (hr' : index.rangeOf (t.interval index) = .ok r') : r.stop ≤ r'.start := by
  have hnext : t.start < index.height :=
    Nat.lt_of_le_of_lt ht.start_le_stop ht.stop_lt_height
  obtain ⟨_, o, _, _, _, _, hlast, _, _, hbelow⟩ := exists_interval hsize hs
  obtain ⟨_, _, _, _, _, hfirst, _⟩ := exists_interval hsize ht
  obtain ⟨_, b, _, hb, _, hstop⟩ := LineIndex.rangeOf_eq_ok_iff.1 hr
  obtain ⟨a, _, ha, _, hstart, _⟩ := LineIndex.rangeOf_eq_ok_iff.1 hr'
  obtain rfl := Except.ok.inj (hlast.symm.trans hb)
  obtain rfl := Except.ok.inj (hfirst.symm.trans ha)
  have hle := hbelow (by omega)
  have hmono := index.startOf_le (k := s.stop + 1) hst hnext
  exact LineIndex.toLsp_le hsize hstop hstart (by omega)

/-- The content of each line of a section lies in the range of the section. -/
theorem encloses_content {line : Nat} (hs : s.Fits index) (hfirst : s.start ≤ line)
    (hlast : line ≤ s.stop) (hcontent : index.contentChars line = .ok content)
    (hr : index.rangeOf (s.interval index) = .ok r)
    (hstart : index.toLsp (index.startOf line) = .ok r'.start)
    (hstop : index.toLsp (index.startOf line + byteSize content) = .ok r'.stop) :
    r.Encloses r' := by
  have hcount := hs.stop_lt_height
  obtain ⟨content', o, hcontent', _, _, hoffset, hoffset', _, hwhole, _⟩ := exists_interval hsize hs
  obtain ⟨a, b, ha, hb, hrstart, hrstop⟩ := LineIndex.rangeOf_eq_ok_iff.1 hr
  obtain rfl := Except.ok.inj (hoffset.symm.trans ha)
  obtain rfl := Except.ok.inj (hoffset'.symm.trans hb)
  have hbelow := index.startOf_le hfirst (Nat.lt_of_le_of_lt hlast hcount)
  have habove : index.startOf line + byteSize content ≤
      index.startOf s.stop + byteSize content' := by
    rcases Nat.eq_or_lt_of_le hlast with rfl | hlt
    · obtain rfl := Except.ok.inj (hcontent.symm.trans hcontent')
      exact Nat.le_refl _
    · obtain ⟨content'', ending, hline, hcontent'', _⟩ :=
        index.exists_content (Nat.lt_trans hlt hcount)
      obtain rfl := Except.ok.inj (hcontent.symm.trans hcontent'')
      have hend := index.startOf_succ hline
      rw [Text.byteSize_append] at hend
      have hmono := index.startOf_le (k := line + 1) hlt hcount
      omega
  exact ⟨LineIndex.toLsp_le hsize hrstart hstart hbelow,
    LineIndex.toLsp_le hsize hstart hstop (Nat.le_add_right _ _),
    LineIndex.toLsp_le hsize hstop hrstop (by omega)⟩

end Fitting

end Section

end Polyglot
