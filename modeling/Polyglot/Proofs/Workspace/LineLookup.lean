import Polyglot.Proofs.LineIndex.Contents
import Polyglot.Proofs.Section.Coverage
import Polyglot.Proofs.Section.Interval
import Polyglot.Proofs.Workspace.Content
import Polyglot.Proofs.Workspace.Diagnosing

/-!
# The section of a line

The sections of a well-formed document follow one another without a gap, so the comparisons that the
binary search makes with a line answer "before", then at most once "around", then "after", and the
search ends where it should (`WellFormed.locate_eq_found`, `WellFormed.locate_eq_absent`). Of the
lines that are counted only one lies in no section, the one behind a break at the end; it belongs to
the last section, and every line below the number of lines to none (`sectionAt?_isExact`). If this
number fits into a word, these are the lines of the text.
-/

set_option autoImplicit false

namespace Polyglot

namespace Section

variable {s : Section} {line : Nat}

/-- A section contains the lines from its first through its last one. -/
theorem containsLine_iff : s.containsLine line = true ↔ s.start ≤ line ∧ line ≤ s.stop := by
  rw [containsLine, Bool.and_eq_true, decide_eq_true_eq, decide_eq_true_eq]

/-- A section is around the lines that it contains. -/
theorem compareLine_eq_eq_iff : s.compareLine line = .eq ↔ s.containsLine line = true := by
  unfold compareLine
  split
  · rename_i hcontains
    exact iff_of_true rfl hcontains
  · rename_i hcontains
    split <;> exact iff_of_false Ordering.noConfusion hcontains

/-- A section is before the lines behind its last one. -/
theorem compareLine_eq_lt_iff : s.compareLine line = .lt ↔ s.stop < line := by
  unfold compareLine
  split
  · rename_i hcontains
    have hbounds := containsLine_iff.1 hcontains
    exact iff_of_false Ordering.noConfusion (by omega)
  · split
    · rename_i hlt
      exact iff_of_true rfl hlt
    · rename_i hlt
      exact iff_of_false Ordering.noConfusion hlt

/-- A section is after the lines before its first one. -/
theorem compareLine_eq_gt_iff (hs : s.start ≤ s.stop) :
    s.compareLine line = .gt ↔ line < s.start := by
  unfold compareLine
  split
  · rename_i hcontains
    have hbounds := containsLine_iff.1 hcontains
    exact iff_of_false Ordering.noConfusion (by omega)
  · rename_i hcontains
    rw [containsLine_iff] at hcontains
    split
    · exact iff_of_false Ordering.noConfusion (by omega)
    · exact iff_of_true rfl (by omega)

end Section

/-- Sections that tile lines leave none of them out. -/
theorem Tiles.exists_containsLine {last first line : Nat} {sections : List Section}
    (h : Tiles last first sections) (hfirst : first ≤ line) (hlast : line ≤ last) :
    ∃ s ∈ sections, s.containsLine line = true := by
  induction h with
  | single s stop_eq _ =>
      exact ⟨s, List.mem_singleton.2 rfl, Section.containsLine_iff.2 ⟨hfirst, stop_eq ▸ hlast⟩⟩
  | cons s rest _ _ ih =>
      by_cases hstop : line ≤ s.stop
      · exact ⟨s, List.mem_cons_self, Section.containsLine_iff.2 ⟨hfirst, hstop⟩⟩
      · obtain ⟨t, ht, hcontains⟩ := ih (by omega)
        exact ⟨t, List.mem_cons_of_mem s ht, hcontains⟩

namespace LineIndex

variable {index : LineIndex} {line : Nat}

/-- The text ends in a break, and the line is the last one that is counted, but not the first. -/
def IsBehindLastBreak (index : LineIndex) (line : Nat) : Prop :=
  index.hasTrailingBreak = true ∧ 0 < line ∧ line = index.lastCountedLine

/-- The lines that are counted and belong to no section. -/
theorem lastSectionLine_lt_iff (hline : line < index.lineCount) :
    index.lastSectionLine < line ↔ index.IsBehindLastBreak line := by
  have hlast : index.lastCountedLine = index.lineCount - 1 := previousWord_of_pos (by omega)
  unfold IsBehindLastBreak lastSectionLine
  cases hbreak : index.hasTrailingBreak with
  | false =>
      rw [Bool.and_false, if_neg Bool.false_ne_true]
      exact iff_of_false (by omega) (fun h => Bool.false_ne_true h.1)
  | true =>
      by_cases hpos : 0 < index.lastCountedLine
      · simp only [hpos, decide_true, Bool.and_true, if_true, true_and]
        omega
      · simp only [hpos, decide_false, Bool.false_and, if_neg Bool.false_ne_true, true_and]
        omega

/-- If the number of lines fits into a word, the line behind a last break is the last one, and it is
empty. -/
theorem isBehindLastBreak_iff (hheight : index.height < UInt32.size) :
    index.IsBehindLastBreak line ↔ index.hasTrailingBreak = true ∧ line = index.lastLine := by
  rw [IsBehindLastBreak, lastCountedLine_of_lt hheight]
  refine and_congr_right fun hbreak => ?_
  have hpos := lastLine_pos_of_hasTrailingBreak hbreak
  omega

end LineIndex

namespace Document

variable {segmenter : Segmenter} {d : Document} {line place : Nat} {state : SectionState}

/-- The section at the place is the only one that contains the line. -/
structure IsOnlyAround (d : Document) (line place : Nat) (state : SectionState) : Prop where
  getElem?_eq : d.sections[place]? = some state
  containsLine : state.current.containsLine line = true
  unique : ∀ other otherState, d.sections[other]? = some otherState →
    otherState.current.containsLine line = true → other = place

/-- At a place a line is compared with the section there. -/
theorem compareAt_of_getElem? (hstate : d.sections[place]? = some state) :
    d.compareAt line place = state.current.compareLine line := by
  rw [compareAt, hstate]

/-- The sections tile the lines that belong to sections. -/
theorem WellFormed.tiles (h : d.WellFormed segmenter) :
    Tiles d.index.lastSectionLine 0 (d.sections.map SectionState.current) := by
  rw [h.current_eq]
  exact segmenter.tiles_segment d.index

/-- No section of a document ends before it starts. -/
theorem WellFormed.start_le_stop (h : d.WellFormed segmenter) (hstate : state ∈ d.sections) :
    state.current.start ≤ state.current.stop :=
  h.tiles.start_le_stop _ (List.mem_map_of_mem hstate)

/-- Sections at later places begin below those at earlier ones. -/
theorem WellFormed.stop_lt_start (h : d.WellFormed segmenter) {i j : Nat} {a b : SectionState}
    (hij : i < j) (ha : d.sections[i]? = some a) (hb : d.sections[j]? = some b) :
    a.current.stop < b.current.start := by
  have hpairs := h.tiles.pairwise_stop
  rw [List.pairwise_map] at hpairs
  obtain ⟨hi, rfl⟩ := List.getElem?_eq_some_iff.1 ha
  obtain ⟨hj, rfl⟩ := List.getElem?_eq_some_iff.1 hb
  exact List.pairwise_iff_getElem.1 hpairs i j hi hj hij

/-- What lies above the line stays above it at earlier places. -/
theorem WellFormed.compareAt_lt_mono (h : d.WellFormed segmenter) (line i j : Nat) (hij : i ≤ j)
    (hj : j < d.sections.length) (hlt : d.compareAt line j = .lt) : d.compareAt line i = .lt := by
  rcases Nat.lt_or_eq_of_le hij with hij | rfl
  · have hb := List.getElem?_eq_getElem hj
    have ha := List.getElem?_eq_getElem (hij.trans hj)
    have hstop := h.stop_lt_start hij ha hb
    have hordered := h.start_le_stop (List.getElem_mem hj)
    rw [compareAt_of_getElem? hb, Section.compareLine_eq_lt_iff] at hlt
    rw [compareAt_of_getElem? ha, Section.compareLine_eq_lt_iff]
    omega
  · exact hlt

/-- What lies below the line stays below it at later places. -/
theorem WellFormed.compareAt_gt_mono (h : d.WellFormed segmenter) (line i j : Nat) (hij : i ≤ j)
    (hj : j < d.sections.length) (hgt : d.compareAt line i = .gt) : d.compareAt line j = .gt := by
  rcases Nat.lt_or_eq_of_le hij with hij | rfl
  · have hb := List.getElem?_eq_getElem hj
    have ha := List.getElem?_eq_getElem (hij.trans hj)
    have hstop := h.stop_lt_start hij ha hb
    have hordered := h.start_le_stop (List.getElem_mem (hij.trans hj))
    rw [compareAt_of_getElem? ha, Section.compareLine_eq_gt_iff hordered] at hgt
    rw [compareAt_of_getElem? hb,
      Section.compareLine_eq_gt_iff (h.start_le_stop (List.getElem_mem hj))]
    omega
  · exact hgt

/-- No other section contains a line that a section contains. -/
theorem WellFormed.isOnlyAround (h : d.WellFormed segmenter)
    (hstate : d.sections[place]? = some state)
    (hcontains : state.current.containsLine line = true) : d.IsOnlyAround line place state := by
  refine ⟨hstate, hcontains, ?_⟩
  intro other otherState hother hcontains'
  rw [Section.containsLine_iff] at hcontains hcontains'
  rcases Nat.lt_trichotomy other place with hlt | heq | hgt
  · have hapart := h.stop_lt_start hlt hother hstate
    omega
  · exact heq
  · have hapart := h.stop_lt_start hgt hstate hother
    omega

/-- The search finds the section that contains the line. -/
theorem WellFormed.locate_eq_found (h : d.WellFormed segmenter)
    (haround : d.IsOnlyAround line place state) :
    Search.locate d.sections.length (d.compareAt line) = .found place := by
  have heq : d.compareAt line place = .eq := by
    rw [compareAt_of_getElem? haround.getElem?_eq]
    exact Section.compareLine_eq_eq_iff.2 haround.containsLine
  cases hlocate : Search.locate d.sections.length (d.compareAt line) with
  | found i =>
      obtain ⟨hi, hfound⟩ := Search.probe_of_locate_found hlocate
      have hother := List.getElem?_eq_getElem hi
      rw [compareAt_of_getElem? hother, Section.compareLine_eq_eq_iff] at hfound
      rw [haround.unique i _ hother hfound]
  | absent i =>
      -- Every place is on one side of the insertion place, where nothing contains the line.
      obtain ⟨_, hbefore, hafter⟩ := Search.locate_absent (h.compareAt_lt_mono line)
        (h.compareAt_gt_mono line) hlocate
      obtain ⟨hplace, _⟩ := List.getElem?_eq_some_iff.1 haround.getElem?_eq
      rcases Nat.lt_or_ge place i with hlt | hge
      · rw [hbefore place hlt] at heq
        cases heq
      · rw [hafter place hge hplace] at heq
        cases heq

/-- The search for a line below all sections ends behind the last one. -/
theorem WellFormed.locate_eq_absent (h : d.WellFormed segmenter)
    (hbelow : ∀ state ∈ d.sections, state.current.stop < line) :
    Search.locate d.sections.length (d.compareAt line) = .absent d.sections.length := by
  have hlt : ∀ i, i < d.sections.length → d.compareAt line i = .lt := by
    intro i hi
    rw [compareAt_of_getElem? (List.getElem?_eq_getElem hi), Section.compareLine_eq_lt_iff]
    exact hbelow _ (List.getElem_mem hi)
  cases hlocate : Search.locate d.sections.length (d.compareAt line) with
  | found i =>
      obtain ⟨hi, hfound⟩ := Search.probe_of_locate_found hlocate
      rw [hlt i hi] at hfound
      cases hfound
  | absent i =>
      obtain ⟨hi, _, hafter⟩ := Search.locate_absent (h.compareAt_lt_mono line)
        (h.compareAt_gt_mono line) hlocate
      rcases Nat.lt_or_eq_of_le hi with hi | rfl
      · have hgt := hafter i (Nat.le_refl i) hi
        rw [hlt i hi] at hgt
        cases hgt
      · rfl

/-- A line that is not behind the sections lies in exactly one of them. -/
theorem WellFormed.exists_isOnlyAround (h : d.WellFormed segmenter)
    (hline : line ≤ d.index.lastSectionLine) : ∃ place state, d.IsOnlyAround line place state := by
  obtain ⟨s, hs, hcontains⟩ := h.tiles.exists_containsLine (Nat.zero_le line) hline
  obtain ⟨state, hstate, rfl⟩ := List.mem_map.1 hs
  obtain ⟨place, hplace⟩ := List.mem_iff_getElem?.1 hstate
  exact ⟨place, state, h.isOnlyAround hplace hcontains⟩

/-- No section reaches behind the last line of all sections. -/
theorem WellFormed.stop_le (h : d.WellFormed segmenter) (hstate : state ∈ d.sections) :
    state.current.stop ≤ d.index.lastSectionLine :=
  (h.tiles.bounds _ (List.mem_map_of_mem hstate)).2

/-- A document has a section. -/
theorem WellFormed.sections_ne_nil (h : d.WellFormed segmenter) : d.sections ≠ [] := by
  obtain ⟨s, rest, hsections, _⟩ := h.tiles.exists_head
  intro hnil
  rw [hnil] at hsections
  cases hsections

/-- Where looking up a line leads. -/
inductive LookUp (d : Document) (line : Nat) : Option SectionState → Located → Prop where
  /-- To the only section that contains it. -/
  | around {place : Nat} {state : SectionState} (isCounted : line < d.index.lineCount)
      (around : d.IsOnlyAround line place state) : LookUp d line (some state) (.found place)
  /-- To the last section, if it is the line behind a last break; no section contains it. -/
  | behind {state : SectionState} (isCounted : line < d.index.lineCount)
      (behind : d.index.IsBehindLastBreak line) (last : d.sections.getLast? = some state)
      (apart : ∀ other ∈ d.sections, other.current.containsLine line = false) :
      LookUp d line (some state) (.absent d.sections.length)
  /-- To nothing, if it is below the lines that are counted. -/
  | below (notCounted : d.index.lineCount ≤ line) (located : Located) : LookUp d line none located

/-- A line of a well-formed document is looked up in one of these ways. -/
theorem WellFormed.lookUp (h : d.WellFormed segmenter) (line : Nat) :
    d.LookUp line (d.sectionAt? line)
      (Search.locate d.sections.length (d.compareAt line)) := by
  by_cases hline : line < d.index.lineCount
  · rcases Nat.lt_or_ge d.index.lastSectionLine line with hbehind | hwithin
    · have hbelow : ∀ state ∈ d.sections, state.current.stop < line :=
        fun state hstate => Nat.lt_of_le_of_lt (h.stop_le hstate) hbehind
      have hlocate := h.locate_eq_absent hbelow
      have hlast := List.getLast?_eq_some_getLast h.sections_ne_nil
      have hfound : d.sectionAt? line = some (d.sections.getLast h.sections_ne_nil) := by
        rw [sectionAt?, if_pos hline, hlocate, ← hlast]
        exact if_pos rfl
      rw [hfound, hlocate]
      refine .behind hline ((LineIndex.lastSectionLine_lt_iff hline).1 hbehind) hlast ?_
      intro other hother
      have hstop := hbelow other hother
      rw [← Bool.not_eq_true, Section.containsLine_iff]
      omega
    · obtain ⟨place, state, haround⟩ := h.exists_isOnlyAround hwithin
      have hlocate := h.locate_eq_found haround
      have hfound : d.sectionAt? line = some state := by
        rw [sectionAt?, if_pos hline, hlocate]
        exact haround.getElem?_eq
      rw [hfound, hlocate]
      exact .around hline haround
  · have hnone : d.sectionAt? line = none := by rw [sectionAt?, if_neg hline]
    rw [hnone]
    exact .below (Nat.le_of_not_lt hline) _

/-- Nothing is found exactly below the lines that are counted. -/
theorem LookUp.eq_none_iff {found : Option SectionState} {located : Located}
    (h : d.LookUp line found located) : found = none ↔ d.index.lineCount ≤ line := by
  cases h with
  | around isCounted _ | behind isCounted _ _ _ =>
      exact iff_of_false (Option.some_ne_none _) (Nat.not_le.2 isCounted)
  | below notCounted _ => exact iff_of_true rfl notCounted

end Document

namespace Query

variable {w : Workspace} {id command : String} {d : Document} {line : Nat} {token : TokenKey}

/-- A command on a line without a section is refused. -/
theorem run_execute_of_noSection (hd : w.document? id = some d)
    (hnone : d.sectionAt? line = none) :
    ((execute id line command token).run w).1 =
      .error (.refused (.bounds .line line (.upTo d.index.lastCountedLine))) := by
  rw [execute, run_bind, run_document_of_some hd]
  simp only [hnone]
  rfl

/-- A command for a section may fail or break off, but it is not refused. -/
theorem run_execute_ne_refused (hd : w.document? id = some d) {state : SectionState}
    (hstate : d.sectionAt? line = some state) (error : Error) :
    ((execute id line command token).run w).1 ≠ .error (.refused error) := by
  intro hrefused
  rw [execute, run_bind, run_document_of_some hd] at hrefused
  simp only [hstate] at hrefused
  rw [run_bind, run_handler?] at hrefused
  cases hhandler : w.grammars.handler? state.current.grammar with
  | none =>
      rw [hhandler] at hrefused
      cases hrefused
  | some handler =>
      rw [hhandler] at hrefused
      simp only at hrefused
      rw [run_bind, run_isCancelled] at hrefused
      simp only at hrefused
      split at hrefused
      · cases hrefused
      · rw [run_bind, run_workspace] at hrefused
        simp only [run_ask] at hrefused
        generalize (handler.execute (shown d state w) command (w.tokenView token)).answer = answer
          at hrefused
        cases answer with
        | ok outcome => cases hrefused
        | error panic => cases Except.error.inj hrefused

end Query

namespace Workspace

end Workspace

end Polyglot
