import Mathlib.Data.List.Chain
import Polyglot.Proofs.Section.Declaration

/-!
# The sections partition the text

`Tiles first last sections` says that the sections follow one another without a gap from the line
`first` to the line `last`. The declared sections of a list of declarations tile the lines from
wherever the first one is let start (`tiles_declared`), and read back they give the declarations
(`filterMap_declared`).

The main statement is `segment_isDeclaredPartition`: the segmenter cuts every text at exactly the
lines that declare a grammar, and puts an implicit section in front exactly if there is something
to hold.
-/

set_option autoImplicit false

namespace Polyglot

/-- The sections follow one another without a gap from line `first` to line `last`. -/
inductive Tiles (last : Nat) : Nat → List Section → Prop where
  | single (s : Section) (stop_eq : s.stop = last) (ordered : s.start ≤ s.stop) :
      Tiles last s.start [s]
  | cons (s : Section) (rest : List Section) (ordered : s.start ≤ s.stop)
      (tail : Tiles last (s.stop + 1) rest) : Tiles last s.start (s :: rest)

namespace Tiles

variable {first last : Nat} {sections : List Section}

/-- There is a first section, and it starts at the first line. -/
theorem exists_head (h : Tiles last first sections) :
    ∃ s rest, sections = s :: rest ∧ s.start = first := by
  cases h with
  | single s _ _ => exact ⟨s, [], rfl, rfl⟩
  | cons s rest _ _ => exact ⟨s, rest, rfl, rfl⟩

/-- Each section starts on the line behind the one before it. -/
theorem isChain (h : Tiles last first sections) :
    sections.IsChain fun s t => t.start = s.stop + 1 := by
  induction h with
  | single s _ _ => exact List.isChain_singleton s
  | cons s rest _ tail ih =>
      obtain ⟨t, rest', rfl, hstart⟩ := tail.exists_head
      exact List.isChain_cons_cons.2 ⟨hstart, ih⟩

/-- A section starts on the line below the one before it. -/
theorem start_of_next (h : Tiles last first sections) {i : Nat} {s t : Section}
    (hs : sections[i]? = some s) (ht : sections[i + 1]? = some t) : t.start = s.stop + 1 := by
  obtain ⟨hi, rfl⟩ := List.getElem?_eq_some_iff.1 hs
  obtain ⟨hi', rfl⟩ := List.getElem?_eq_some_iff.1 ht
  exact List.isChain_iff_getElem.1 h.isChain i hi'

/-- No section ends before it starts. -/
theorem start_le_stop (h : Tiles last first sections) :
    ∀ s ∈ sections, s.start ≤ s.stop := by
  induction h with
  | single s _ ordered => simpa using ordered
  | cons s rest ordered _ ih => exact List.forall_mem_cons.2 ⟨ordered, ih⟩

/-- The last section ends at the last line. -/
theorem stop_getLast (h : Tiles last first sections) :
    ∀ s, sections.getLast? = some s → s.stop = last := by
  induction h with
  | single s stop_eq _ =>
      intro t ht
      obtain rfl : s = t := by simpa using ht
      exact stop_eq
  | cons s rest _ tail ih =>
      obtain ⟨t, rest', rfl, _⟩ := tail.exists_head
      intro u hu
      rw [List.getLast?_cons_cons] at hu
      exact ih u hu

/-- The sections end at or below the first line. -/
theorem first_le_last (h : Tiles last first sections) : first ≤ last := by
  induction h with
  | single s stop_eq ordered => omega
  | cons s rest ordered _ ih => omega

/-- Every section lies between the first line and the last one. -/
theorem bounds (h : Tiles last first sections) :
    ∀ s ∈ sections, first ≤ s.start ∧ s.stop ≤ last := by
  induction h with
  | single s stop_eq _ =>
      intro t ht
      obtain rfl : t = s := by simpa using ht
      exact ⟨Nat.le_refl _, Nat.le_of_eq stop_eq⟩
  | cons s rest ordered tail ih =>
      have hle := tail.first_le_last
      intro t ht
      rcases List.mem_cons.1 ht with rfl | ht
      · exact ⟨Nat.le_refl _, by omega⟩
      · have hbounds := ih t ht
        exact ⟨by omega, hbounds.2⟩

/-- Later sections start below earlier ones. -/
theorem pairwise_start (h : Tiles last first sections) :
    sections.Pairwise fun s t => s.start < t.start := by
  induction h with
  | single s _ _ => exact List.pairwise_singleton _ s
  | cons s rest ordered tail ih =>
      refine List.pairwise_cons.2 ⟨fun t ht => ?_, ih⟩
      have hbounds := tail.bounds t ht
      omega

end Tiles

namespace Section

/-- The line that declares the section, with the grammar that it names. -/
def declarationLine? (s : Section) : Option DeclarationLine :=
  s.declaration.map fun line => ⟨line, s.grammar⟩

end Section

namespace Segmenter

variable (last : Nat)

/-- The first declared section starts where it is let start, and those of the other declarations
follow it. -/
theorem declared_cons (start : Nat) (d : DeclarationLine) (ds : List DeclarationLine) :
    ∃ stop next, declared last start (d :: ds) =
      ⟨d.grammar, start, stop, some d.line⟩ :: declared last next ds := by
  cases ds with
  | nil => exact ⟨last, 0, rfl⟩
  | cons e ds => exact ⟨e.line - 1, e.line, rfl⟩

/-- Read back, the declared sections give the declarations. -/
theorem filterMap_declared (start : Nat) (ds : List DeclarationLine) :
    (declared last start ds).filterMap Section.declarationLine? = ds := by
  induction ds generalizing start with
  | nil => rfl
  | cons d ds ih =>
      cases ds with
      | nil => rfl
      | cons e ds =>
          have htail := ih e.line
          rw [declared, List.filterMap_cons, htail]
          rfl

/-- Behind the first declared section each one starts where it is declared. -/
theorem declaration_eq_start (start : Nat) (ds : List DeclarationLine) :
    ∀ s ∈ (declared last start ds).tail, s.declaration = some s.start := by
  induction ds generalizing start with
  | nil => intro s hs; cases hs
  | cons d ds ih =>
      cases ds with
      | nil => intro s hs; cases hs
      | cons e ds =>
          intro s hs
          rw [declared, List.tail_cons] at hs
          obtain ⟨stop, next, heq⟩ := declared_cons last e.line e ds
          have htail := ih e.line
          rw [heq] at hs htail
          rcases List.mem_cons.1 hs with rfl | hs
          · rfl
          · exact htail s hs

/-- Every declared section has a declaration. -/
theorem isSome_declaration (start : Nat) (ds : List DeclarationLine) :
    ∀ s ∈ declared last start ds, s.declaration ≠ none := by
  induction ds generalizing start with
  | nil => intro s hs; cases hs
  | cons d ds ih =>
      obtain ⟨stop, next, heq⟩ := declared_cons last start d ds
      intro s hs
      rw [heq] at hs
      rcases List.mem_cons.1 hs with rfl | hs
      · exact Option.some_ne_none _
      · exact ih next s hs

/-- The declared sections tile the lines from where the first one is let start to the last line. -/
theorem tiles_declared (start : Nat) (d : DeclarationLine) (ds : List DeclarationLine)
    (hstart : start ≤ d.line) (hsorted : (d :: ds).Pairwise fun d e => d.line < e.line)
    (hlast : ∀ e ∈ d :: ds, e.line ≤ last) : Tiles last start (declared last start (d :: ds)) := by
  induction ds generalizing start d with
  | nil =>
      have hle : start ≤ last := Nat.le_trans hstart (hlast d List.mem_cons_self)
      exact .single ⟨d.grammar, start, last, some d.line⟩ rfl hle
  | cons e ds ih =>
      obtain ⟨hhead, htail⟩ := List.pairwise_cons.1 hsorted
      have hlt : d.line < e.line := hhead e List.mem_cons_self
      have hrest := ih e.line e (Nat.le_refl _) htail
        (fun x hx => hlast x (List.mem_cons_of_mem d hx))
      have hstop : e.line - 1 + 1 = e.line := by omega
      have hle : start ≤ e.line - 1 := by omega
      refine .cons ⟨d.grammar, start, e.line - 1, some d.line⟩ _ hle ?_
      rwa [hstop]

/-- The three ways in which a text is cut: it declares nothing; it declares something and has
content in front of it; or what it declares comes first, blank lines apart. -/
theorem segment_cases (segmenter : Segmenter) (index : LineIndex) :
    (index.declarations = [] ∧
      segmenter.segment index = [segmenter.implicit index.lastSectionLine]) ∨
    ∃ d ds, index.declarations = d :: ds ∧
      (((∃ line, line < d.line ∧ index.HasContentAt line) ∧
          segmenter.segment index = segmenter.implicit (d.line - 1) ::
            declared index.lastSectionLine d.line (d :: ds)) ∨
        ((∀ line, line < d.line → ¬index.HasContentAt line) ∧
          segmenter.segment index = declared index.lastSectionLine 0 (d :: ds))) := by
  cases hds : index.declarations with
  | nil => exact Or.inl ⟨rfl, by simp only [segment, hds]⟩
  | cons d ds =>
      refine Or.inr ⟨d, ds, rfl, ?_⟩
      cases hany : (List.range d.line).any index.hasContent with
      | true =>
          obtain ⟨line, hline, hcontent⟩ := List.any_eq_true.1 hany
          refine Or.inl ⟨⟨line, List.mem_range.1 hline, (index.hasContent_iff line).1 hcontent⟩, ?_⟩
          simp only [segment, hds, hany, if_true]
      | false =>
          refine Or.inr ⟨fun line hline hcontent => ?_, ?_⟩
          · have hmem : line ∈ List.range d.line := List.mem_range.2 hline
            have hno := List.any_eq_false.1 hany line hmem
            exact hno ((index.hasContent_iff line).2 hcontent)
          · simp only [segment, hds, hany, Bool.false_eq_true, if_false]

open scoped Classical in
/-- If something is declared, content above the first declaration makes an implicit section. -/
theorem segment_of_declared (segmenter : Segmenter) {index : LineIndex} {d : DeclarationLine}
    {ds : List DeclarationLine} (hds : index.declarations = d :: ds) :
    segmenter.segment index =
      if ∃ l < d.line, index.HasContentAt l then
        segmenter.implicit (d.line - 1) :: declared index.lastSectionLine d.line (d :: ds)
      else declared index.lastSectionLine 0 (d :: ds) := by
  rcases segmenter.segment_cases index with ⟨hnil, _⟩ | ⟨e, es, hes, hcases⟩
  · rw [hnil] at hds
    cases hds
  · obtain ⟨rfl, rfl⟩ := List.cons.inj (hes.symm.trans hds)
    rcases hcases with ⟨hat, hseg⟩ | ⟨hno, hseg⟩
    · rw [if_pos hat, hseg]
    · rw [if_neg fun ⟨l, hl, hat⟩ => hno l hl hat, hseg]

variable (segmenter : Segmenter) (index : LineIndex)

/-- The sections of a text tile its lines up to the one behind a last break. -/
theorem tiles_segment : Tiles index.lastSectionLine 0 (segmenter.segment index) := by
  have hsorted := index.pairwise_declarations
  have hlast : ∀ e ∈ index.declarations, e.line ≤ index.lastSectionLine :=
    fun e he => (index.mem_declarations_iff e).1 he |>.1
  rcases segmenter.segment_cases index with
    ⟨_, hseg⟩ | ⟨d, ds, hds, ⟨⟨line, hline, _⟩, hseg⟩ | ⟨_, hseg⟩⟩
  · rw [hseg]
    exact .single (segmenter.implicit index.lastSectionLine) rfl (Nat.zero_le _)
  · rw [hds] at hsorted hlast
    have hstop : d.line - 1 + 1 = d.line := by omega
    rw [hseg]
    refine .cons (segmenter.implicit (d.line - 1)) _ (Nat.zero_le _) ?_
    rw [implicit, hstop]
    exact tiles_declared _ d.line d ds (Nat.le_refl _) hsorted hlast
  · rw [hds] at hsorted hlast
    rw [hseg]
    exact tiles_declared _ 0 d ds (Nat.zero_le _) hsorted hlast

/-- Read back, the sections of a text give its declarations. -/
theorem filterMap_segment :
    (segmenter.segment index).filterMap Section.declarationLine? = index.declarations := by
  rcases segmenter.segment_cases index with ⟨hds, hseg⟩ | ⟨d, ds, hds, ⟨_, hseg⟩ | ⟨_, hseg⟩⟩
  · rw [hseg, hds]
    rfl
  · rw [hseg, hds, List.filterMap_cons, filterMap_declared]
    rfl
  · rw [hseg, hds, filterMap_declared]

/-- A section that is declared is declared by a line of the text. -/
theorem declaresAt_of_mem_segment (segmenter : Segmenter) {index : LineIndex} {s : Section}
    {l : Nat}
    (hs : s ∈ segmenter.segment index) (hl : s.declaration = some l) :
    index.DeclaresAt l s.grammar := by
  have hmem : ⟨l, s.grammar⟩ ∈ index.declarations := by
    rw [← segmenter.filterMap_segment index]
    exact List.mem_filterMap.2 ⟨s, hs, by rw [Section.declarationLine?, hl]; rfl⟩
  exact (LineIndex.mem_declarations_iff ⟨l, s.grammar⟩).1 hmem

/-- Behind the first section each one starts where it is declared. -/
theorem declaration_of_mem_tail :
    ∀ s ∈ (segmenter.segment index).tail, s.declaration = some s.start := by
  rcases segmenter.segment_cases index with ⟨_, hseg⟩ | ⟨d, ds, _, ⟨_, hseg⟩ | ⟨_, hseg⟩⟩
  · intro s hs
    rw [hseg] at hs
    cases hs
  · intro s hs
    rw [hseg, List.tail_cons] at hs
    obtain ⟨stop, next, heq⟩ := declared_cons index.lastSectionLine d.line d ds
    have htail := declaration_eq_start index.lastSectionLine d.line (d :: ds)
    rw [heq] at hs htail
    rcases List.mem_cons.1 hs with rfl | hs
    · rfl
    · exact htail s hs
  · rw [hseg]
    exact declaration_eq_start index.lastSectionLine 0 (d :: ds)

/-- An implicit section has the default grammar. -/
theorem grammar_of_implicit :
    ∀ s ∈ segmenter.segment index, s.declaration = none → s.grammar = segmenter.grammar := by
  intro s hs hnone
  rcases segmenter.segment_cases index with ⟨_, hseg⟩ | ⟨d, ds, _, ⟨_, hseg⟩ | ⟨_, hseg⟩⟩
  · rw [hseg, List.mem_singleton] at hs
    rw [hs]
    rfl
  · rw [hseg] at hs
    rcases List.mem_cons.1 hs with rfl | hs
    · rfl
    · exact absurd hnone (isSome_declaration _ _ _ s hs)
  · rw [hseg] at hs
    exact absurd hnone (isSome_declaration _ _ _ s hs)

/-- There is an implicit section exactly if nothing is declared or some line in front of all that
is declared has content. -/
theorem exists_implicit_iff :
    (∃ s ∈ segmenter.segment index, s.declaration = none) ↔
      index.declarations = [] ∨
        ∃ d ds line, index.declarations = d :: ds ∧ line < d.line ∧ index.HasContentAt line := by
  rcases segmenter.segment_cases index with
    ⟨hds, hseg⟩ | ⟨d, ds, hds, ⟨⟨line, hline, hc⟩, hseg⟩ | ⟨hno, hseg⟩⟩
  · rw [hseg]
    exact iff_of_true ⟨_, List.mem_singleton_self _, rfl⟩ (Or.inl hds)
  · rw [hseg]
    exact iff_of_true ⟨_, List.mem_cons_self, rfl⟩ (Or.inr ⟨d, ds, line, hds, hline, hc⟩)
  · refine iff_of_false ?_ ?_
    · rintro ⟨s, hs, hnone⟩
      rw [hseg] at hs
      exact isSome_declaration _ _ _ s hs hnone
    · rintro (hnil | ⟨e, es, line, hes, hline, hc⟩)
      · rw [hds] at hnil
        cases hnil
      · obtain ⟨rfl, rfl⟩ := List.cons.inj (hds.symm.trans hes)
        exact hno line hline hc

/-- Sections that cut a text at the lines that declare a grammar. -/
structure IsDeclaredPartition (segmenter : Segmenter) (index : LineIndex)
    (sections : List Section) : Prop where
  ne_nil : sections ≠ []
  start_head : ∀ s, sections.head? = some s → s.start = 0
  adjacent : sections.IsChain fun s t => t.start = s.stop + 1
  ordered : ∀ s ∈ sections, s.start ≤ s.stop
  stop_getLast : ∀ s, sections.getLast? = some s → s.stop = index.lastSectionLine
  /-- The explicit sections stand in the order of their declaration lines, no two on one line. -/
  pairwise_declared :
    (sections.filterMap Section.declarationLine?).Pairwise fun d e => d.line < e.line
  /-- They are those of the lines that declare a grammar, each with its name. -/
  mem_declared_iff : ∀ d, d ∈ sections.filterMap Section.declarationLine? ↔
    index.DeclaresAt d.line d.grammar
  /-- An explicit section starts where it is declared, unless it is the first of all. -/
  start_of_explicit : ∀ (i : Nat) (s : Section) (line : Nat), sections[i]? = some s →
    s.declaration = some line → s.start = if i = 0 then 0 else line
  implicit_first : ∀ (i : Nat) (s : Section), sections[i]? = some s → s.declaration = none →
    i = 0 ∧ s.grammar = segmenter.grammar
  /-- There is an implicit section exactly if nothing is declared or if some line above all that
  is declared has a character that is not blank. -/
  exists_implicit_iff : (∃ s ∈ sections, s.declaration = none) ↔
    (∀ line name, ¬index.DeclaresAt line name) ∨
      ((∃ line name, index.DeclaresAt line name) ∧ ∃ above, index.HasContentAt above ∧
        ∀ line name, index.DeclaresAt line name → above < line)

/-- Nothing is declared exactly if the list of declarations is empty. -/
theorem declarations_eq_nil_iff :
    index.declarations = [] ↔ ∀ line name, ¬index.DeclaresAt line name := by
  rw [List.eq_nil_iff_forall_not_mem]
  constructor
  · intro h line name hd
    exact h ⟨line, name⟩ ((index.mem_declarations_iff ⟨line, name⟩).2 hd)
  · intro h d hd
    exact h d.line d.grammar ((index.mem_declarations_iff d).1 hd)

/-- A line lies above all that is declared exactly if it lies above the first declaration. -/
theorem forall_declaresAt_lt_iff {d : DeclarationLine} {ds : List DeclarationLine}
    (hds : index.declarations = d :: ds) (above : Nat) :
    (∀ line name, index.DeclaresAt line name → above < line) ↔ above < d.line := by
  have hfirst : d ∈ index.declarations := by rw [hds]; exact List.mem_cons_self
  have hsorted := index.pairwise_declarations
  rw [hds] at hsorted
  have hrest := (List.pairwise_cons.1 hsorted).1
  constructor
  · intro h
    exact h d.line d.grammar ((index.mem_declarations_iff d).1 hfirst)
  · intro h line name hdecl
    have hmem : (⟨line, name⟩ : DeclarationLine) ∈ d :: ds :=
      hds ▸ (index.mem_declarations_iff ⟨line, name⟩).2 hdecl
    rcases List.mem_cons.1 hmem with heq | hmem
    · rw [← heq] at h
      exact h
    · exact Nat.lt_trans h (hrest _ hmem)

/-- The segmenter cuts every text at exactly the lines that declare a grammar. -/
theorem segment_isDeclaredPartition :
    IsDeclaredPartition segmenter index (segmenter.segment index) := by
  have htiles := segmenter.tiles_segment index
  obtain ⟨s₀, rest, hseg, hstart⟩ := htiles.exists_head
  have htail := segmenter.declaration_of_mem_tail index
  refine ⟨?_, ?_, htiles.isChain, htiles.start_le_stop, htiles.stop_getLast, ?_, ?_, ?_, ?_, ?_⟩
  · rw [hseg]
    exact List.cons_ne_nil _ _
  · intro s hs
    rw [hseg, List.head?_cons] at hs
    obtain rfl := Option.some.inj hs
    exact hstart
  · rw [segmenter.filterMap_segment index]
    exact index.pairwise_declarations
  · intro d
    rw [segmenter.filterMap_segment index]
    exact index.mem_declarations_iff d
  · intro i s line hs hline
    rw [hseg] at hs htail
    cases i with
    | zero =>
        obtain rfl : s₀ = s := by simpa using hs
        exact hstart
    | succ i =>
        have hmem : s ∈ rest := List.mem_of_getElem? hs
        have hdecl := htail s hmem
        rw [hline] at hdecl
        exact (Option.some.inj hdecl).symm
  · intro i s hs hnone
    have hgrammar := segmenter.grammar_of_implicit index s (List.mem_of_getElem? hs) hnone
    refine ⟨?_, hgrammar⟩
    cases i with
    | zero => rfl
    | succ i =>
        rw [hseg] at hs htail
        have hdecl := htail s (List.mem_of_getElem? hs)
        rw [hnone] at hdecl
        cases hdecl
  · rw [segmenter.exists_implicit_iff index, declarations_eq_nil_iff]
    refine or_congr_right ?_
    constructor
    · rintro ⟨d, ds, above, hds, habove, hcontent⟩
      have hfirst : d ∈ index.declarations := by rw [hds]; exact List.mem_cons_self
      exact ⟨⟨d.line, d.grammar, (index.mem_declarations_iff d).1 hfirst⟩, above, hcontent,
        (forall_declaresAt_lt_iff index hds above).2 habove⟩
    · rintro ⟨⟨line, name, hdecl⟩, above, hcontent, habove⟩
      cases hds : index.declarations with
      | nil => exact absurd hdecl ((declarations_eq_nil_iff index).1 hds line name)
      | cons d ds =>
          exact ⟨d, ds, above, rfl, (forall_declaresAt_lt_iff index hds above).1 habove, hcontent⟩

end Segmenter

end Polyglot
