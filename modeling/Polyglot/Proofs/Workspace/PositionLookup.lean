import Polyglot.Proofs.Section.Extent
import Polyglot.Proofs.Workspace.LineLookup

/-!
# The section of a position

A position is looked up by its line. The intervals of the sections of a well-formed document give
the same answer: where a character of a line's content begins, exactly one of them holds the
position, and it is that of the section that is looked up (`WellFormed.isOnlyHolding`). Behind the
last character of a section none of them does (`WellFormed.not_holds_of_behind`).

This rests on two bounds. In a text of less than 4 GiB no column wraps around, so an interval ends
at the last character of its section. If the number of lines fits into a word, no line of a section
is taken for one below the text.
-/

set_option autoImplicit false

namespace Polyglot

open Text (byteSize isBoundary)

namespace Document

variable {segmenter : Segmenter} {d : Document} {state : SectionState} {p : Position}
  {place l n : Nat} {content : List Char}

/-- The position lies in the interval of the section. -/
def Holds (d : Document) (state : SectionState) (p : Position) : Prop :=
  ∃ i, (d.view state).interval = .ok i ∧ i.contains p = true

/-- The section at the place is the only one whose interval holds the position. -/
structure IsOnlyHolding (d : Document) (p : Position) (place : Nat) (state : SectionState) :
    Prop where
  getElem?_eq : d.sections[place]? = some state
  holds : d.Holds state p
  unique : ∀ other otherState, d.sections[other]? = some otherState → d.Holds otherState p →
    other = place

namespace WellFormed

variable (h : d.WellFormed segmenter)
include h

/-- The lines of a section are lines of the text. -/
theorem fits (hstate : state ∈ d.sections) : state.current.Fits d.index := by
  refine segmenter.fits_segment d.index _ ?_
  rw [← h.current_eq]
  exact List.mem_map_of_mem hstate

/-- The interval that is shown of a section is that of its lines. -/
theorem interval_view (hstate : state ∈ d.sections) :
    (d.view state).interval = .ok (state.current.interval d.index) := by
  have hcontent := h.content?_view hstate
  unfold SectionView.interval SectionView.content
  rw [hcontent]
  rfl

/-- A section holds the positions in the interval of its lines. -/
theorem holds_iff (hstate : state ∈ d.sections) :
    d.Holds state p ↔ (state.current.interval d.index).contains p = true := by
  rw [Holds, h.interval_view hstate]
  simp

/-- Only a section around the line holds a position of the line. -/
theorem containsLine_of_holds (hstate : state ∈ d.sections) (hp : d.Holds state p) :
    state.current.containsLine p.line = true := by
  have hfits := h.fits hstate
  obtain ⟨content, _, _, hcontent, _⟩ := d.index.exists_content hfits.stop_lt_height
  rw [h.holds_iff hstate, Section.contains_interval_iff hfits hcontent] at hp
  rw [Section.containsLine_iff]
  omega

/-- Only the section around the line of a position holds the position. -/
theorem unique_of_holds (haround : d.IsOnlyAround p.line place state) {other : Nat}
    {otherState : SectionState} (hother : d.sections[other]? = some otherState)
    (hp : d.Holds otherState p) : other = place :=
  haround.unique other otherState hother
    (h.containsLine_of_holds (List.mem_of_getElem? hother) hp)

/-- Looking up a line finds the section around it. -/
theorem sectionAt?_eq_of_isOnlyAround (hheight : d.index.height < UInt32.size)
    (haround : d.IsOnlyAround l place state) (hl : l ≤ d.index.lastSectionLine) :
    d.sectionAt? l = some state := by
  have hcounted : l < d.index.lineCount := by
    rw [LineIndex.lineCount_of_lt hheight]
    exact LineIndex.lt_height_of_le_lastSectionLine hl
  rw [sectionAt?, if_pos hcounted, h.locate_eq_found haround]
  exact haround.getElem?_eq

/-- The section around a line holds a boundary of the content of the line, unless this is the end of
the content and the section ends there. -/
theorem holds_iff_of_isOnlyAround (hsize : d.index.length < UInt32.size)
    (haround : d.IsOnlyAround l place state)
    (hcontent : d.index.contentChars l = .ok content) (hn : isBoundary n content = true) :
    d.Holds state ⟨l, n⟩ ↔
      n < byteSize content ∨ content = [] ∨ l < state.current.stop := by
  have hstate := List.mem_of_getElem? haround.getElem?_eq
  have hfits := h.fits hstate
  have hbounds := Section.containsLine_iff.1 haround.containsLine
  obtain ⟨last, _, _, hlast, _⟩ := d.index.exists_content hfits.stop_lt_height
  obtain ⟨q, hq, rfl⟩ := (Text.isBoundary_iff_exists_isPrefix n content).1 hn
  rw [h.holds_iff hstate, Section.contains_interval_iff hfits hlast]
  rcases Nat.eq_or_lt_of_le hbounds.2 with rfl | hlt
  · obtain rfl := Except.ok.inj (hcontent.symm.trans hlast)
    have hfitting :=
      (LineIndex.byteSize_content_le_length hcontent hfits.stop_lt_height).trans_lt hsize
    simp [Section.byteSize_le_lastCharColumn_iff hfitting hq, hbounds.1]
  · simp [hbounds.1, hlt]

/-- Where a character of the content of a line begins, the position lies in one interval only, and
this is the interval of the section that is looked up. -/
theorem isOnlyHolding (hsize : d.index.length < UInt32.size)
    (haround : d.IsOnlyAround l place state)
    (hcontent : d.index.contentChars l = .ok content) (hn : isBoundary n content = true)
    (hinside : n < byteSize content ∨ content = [] ∨ l < state.current.stop) :
    d.IsOnlyHolding ⟨l, n⟩ place state :=
  ⟨haround.getElem?_eq, (h.holds_iff_of_isOnlyAround hsize haround hcontent hn).2 hinside,
    fun _ _ hother hp => h.unique_of_holds haround hother hp⟩

/-- Behind the last character of a section the position lies in no interval. -/
theorem not_holds_of_behind (hsize : d.index.length < UInt32.size)
    (haround : d.IsOnlyAround l place state)
    (hcontent : d.index.contentChars l = .ok content) (hn : isBoundary n content = true)
    (hbehind : ¬(n < byteSize content ∨ content = [] ∨ l < state.current.stop)) :
    ∀ otherState ∈ d.sections, ¬d.Holds otherState ⟨l, n⟩ := by
  intro otherState hother hp
  obtain ⟨other, hplace⟩ := List.mem_iff_getElem?.1 hother
  obtain rfl := h.unique_of_holds haround hplace hp
  obtain rfl := Option.some.inj (hplace.symm.trans haround.getElem?_eq)
  exact hbehind ((h.holds_iff_of_isOnlyAround hsize haround hcontent hn).1 hp)

/-- The interval of each section has a text. -/
theorem exists_intervalText (hsize : d.index.length < UInt32.size) (hstate : state ∈ d.sections) :
    ∃ i t, (d.view state).interval = .ok i ∧ d.index.intervalText i = .ok t ∧
      ∀ content, d.index.contentChars state.current.stop = .ok content → content ≠ [] →
        ∃ text, (d.view state).text = .ok text ∧ IsUpToBreak text t := by
  obtain ⟨t, ht, hwhole⟩ := Section.exists_intervalText hsize (h.fits hstate)
  refine ⟨_, t, h.interval_view hstate, ht, fun content hcontent hne => ?_⟩
  obtain ⟨text, htext, hbreak⟩ := hwhole content hcontent hne
  exact ⟨text, (h.text_view hstate).trans htext, hbreak⟩

end WellFormed

end Document

/-- A boundary of the content of a line is at the column that it has in the content. -/
theorem LineIndex.exists_column {index : LineIndex} {l start o : Nat} {content : List Char}
    (hsize : index.length < UInt32.size) (hstart : index.lineStart l = .ok start)
    (hcontent : index.contentChars l = .ok content) (hle : start ≤ o)
    (hend : o ≤ start + byteSize content) (hboundary : isBoundary o index.chars = true) :
    ∃ n, o = start + n ∧ index.positionOf o = .ok ⟨l, n⟩ ∧ isBoundary n content = true := by
  obtain ⟨hl, rfl⟩ := lineStart_eq_ok_iff.1 hstart
  obtain ⟨n, rfl⟩ := Nat.exists_eq_add_of_le hle
  have hn : n ≤ byteSize content := by omega
  obtain ⟨content', ending, hline, hcontent', hending⟩ := index.exists_content hl
  obtain rfl := Except.ok.inj (hcontent.symm.trans hcontent')
  obtain ⟨before, after, hchars, hbefore⟩ := exists_surrounding hline
  refine ⟨n, rfl, (positionOf_eq_ok_iff hsize).2 ⟨startOf_add_le_length hline hn,
    liesOn_of_le_content hl hline hending hn, rfl⟩, ?_⟩
  rwa [hchars, ← hbefore, Text.isBoundary_add_byteSize, List.append_assoc,
    Text.isBoundary_append hn] at hboundary

end Polyglot
