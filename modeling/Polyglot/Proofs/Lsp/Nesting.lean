import Polyglot.Lsp.Outline
import Polyglot.Proofs.Section.Interval
import Polyglot.Proofs.Workspace.Content

/-!
# Outlines are well nested

The documents here have texts of less than 4 GiB, in which no line and no column wraps around. Each
section of such a document has a symbol (`exists_sectionSymbol?`). The symbols of declarations
are selected as a whole and come from declarations at every depth (`Occurs.exists_declaration`), and
a declaration is put under a section whose interval is around that of the declaration, so its range
is in that of the section. The main statement is `outline_isWellNested`.
-/

set_option autoImplicit false

namespace Polyglot

namespace Lsp

open Text (byteSize unitSize)

/-- The symbol is one of the symbols or stands inside one of them at some depth. -/
inductive Occurs (t : Symbol) : List Symbol → Prop where
  | here {symbols : List Symbol} (h : t ∈ symbols) : Occurs t symbols
  | inside {symbols : List Symbol} (s : Symbol) (hs : s ∈ symbols) (h : Occurs t s.children) :
      Occurs t symbols

variable {index : LineIndex} {δ : Declaration} {ds : List Declaration} {s t : Symbol}

/-- The symbols of declarations are those of the single ones. -/
theorem mem_declarationSymbols_iff :
    s ∈ declarationSymbols index ds ↔ ∃ δ ∈ ds, declarationSymbol? index δ = some s := by
  induction ds with
  | nil => simp [declarationSymbols]
  | cons δ ds ih => simp [declarationSymbols, ih]

/-- The symbol of a declaration has the range of its interval, is selected as a whole, and holds
the symbols of declarations. -/
theorem declarationSymbol?_spec (h : declarationSymbol? index δ = some s) :
    index.rangeOf δ.location.interval = .ok s.range ∧ s.selectionRange = s.range ∧
      s.children = declarationSymbols index δ.children := by
  obtain ⟨identifier, kind, location, children⟩ := δ
  unfold declarationSymbol? at h
  split at h
  · rename_i range hrange
    obtain rfl := Option.some.inj h
    exact ⟨hrange, rfl, rfl⟩
  · cases h

/-- A declaration whose interval has a range has a symbol. -/
theorem exists_declarationSymbol?_of_rangeOf {r : Range}
    (h : index.rangeOf δ.location.interval = .ok r) :
    ∃ s, declarationSymbol? index δ = some s := by
  obtain ⟨identifier, kind, location, children⟩ := δ
  rw [declarationSymbol?, h]
  exact ⟨_, rfl⟩

/-- What occurs among the symbols of declarations is the symbol of a declaration. -/
theorem Occurs.exists_declaration {symbols : List Symbol} (h : Occurs t symbols)
    (hsymbols : ∀ s ∈ symbols, ∃ δ, declarationSymbol? index δ = some s) :
    ∃ δ, declarationSymbol? index δ = some t := by
  induction h with
  | here hmem => exact hsymbols t hmem
  | inside s hs _ ih =>
      obtain ⟨δ, hδ⟩ := hsymbols s hs
      refine ih fun child hchild => ?_
      rw [(declarationSymbol?_spec hδ).2.2] at hchild
      obtain ⟨inner, _, hinner⟩ := mem_declarationSymbols_iff.1 hchild
      exact ⟨inner, hinner⟩

/-- If each item has a value of some relation to it, these values in order are what is kept. -/
theorem forall₂_filterMap {α β : Type} {f : α → Option β} {R : α → β → Prop} {as : List α}
    (h : ∀ a ∈ as, ∃ b, f a = some b ∧ R a b) : List.Forall₂ R as (as.filterMap f) := by
  induction as with
  | nil => exact List.Forall₂.nil
  | cons a as ih =>
      obtain ⟨b, hb, hab⟩ := h a List.mem_cons_self
      rw [List.filterMap_cons_some hb]
      exact List.Forall₂.cons hab (ih fun x hx => h x (List.mem_cons_of_mem a hx))

/-- The content of a line reaches from its first column to its number of UTF-16 units. -/
theorem exists_contentRange {line : Nat} (hsize : index.length < UInt32.size)
    (hline : line < index.height) :
    ∃ content, index.contentChars line = .ok content ∧
      index.toLsp (index.startOf line) = .ok ⟨line, 0⟩ ∧
      index.toLsp (index.startOf line + byteSize content) = .ok ⟨line, unitSize content⟩ ∧
      contentRange? index line = some ⟨⟨line, 0⟩, ⟨line, unitSize content⟩⟩ := by
  obtain ⟨content, ending, hlist, hcontent, hending⟩ := index.exists_content hline
  have hstart := LineIndex.toLsp_of_ofLsp hsize hline hlist hending 0
  have hstop := LineIndex.toLsp_of_ofLsp hsize hline hlist hending (unitSize content)
  rw [Text.bytesBeforeUnit_eq, Text.covering_zero] at hstart
  rw [Text.bytesBeforeUnit_eq, Text.covering_unitSize List.prefix_rfl] at hstop
  have hstart' : index.toLsp (index.startOf line) = .ok ⟨line, 0⟩ := hstart
  have hstop' : index.toLsp (index.startOf line + byteSize content) =
      .ok ⟨line, unitSize content⟩ := hstop
  refine ⟨content, hcontent, hstart', hstop', ?_⟩
  simp [contentRange?, hcontent, index.lineStart_eq hline, hstart', hstop', Except.toOption]

/-- The symbol stands for the section: it is a namespace of the name of the section's grammar and
has the range of the section. A declared section is selected by the content of its declaration line,
another one as a whole. What is inside are symbols of declarations, in the range of the section. -/
structure IsSymbolOf (index : LineIndex) (declarations : List Declaration) (s : Section)
    (symbol : Symbol) : Prop where
  name_eq : symbol.name = s.grammar
  kind_eq : symbol.kind = .namespaceKind
  range_eq : index.rangeOf (s.interval index) = .ok symbol.range
  selection_of_explicit : ∀ line, s.declaration = some line →
    ∃ content, index.contentChars line = .ok content ∧
      symbol.selectionRange = ⟨⟨line, 0⟩, ⟨line, unitSize content⟩⟩
  selection_of_implicit : s.declaration = none → symbol.selectionRange = symbol.range
  encloses_selection : symbol.range.Encloses symbol.selectionRange
  encloses_children : ∀ child ∈ symbol.children,
    (∃ δ ∈ declarations, declarationSymbol? index δ = some child) ∧
      symbol.range.Encloses child.range

variable {segmenter : Segmenter} {d : Document} {state : SectionState} {r : Range}

/-- The interval of the declaration lies in that of the section, and both are in one source. -/
def placedIn (d : Document) (s : Section) (δ : Declaration) : Bool :=
  Location.subsumes ⟨d.id, s.interval d.index⟩ δ.location

/-- The symbol of a section, part by part. -/
theorem sectionSymbol?_eq (hd : d.WellFormed segmenter) (hstate : state ∈ d.sections)
    (hr : d.index.rangeOf (state.current.interval d.index) = .ok r) :
    sectionSymbol? d ds state = some ⟨state.current.grammar, "section", .namespaceKind, r,
      (state.current.declaration.bind (contentRange? d.index)).getD r,
      declarationSymbols d.index (ds.filter (placedIn d state.current))⟩ := by
  have hlocation : (d.view state).location = .ok ⟨d.id, state.current.interval d.index⟩ := by
    rw [SectionView.location, SectionView.interval, SectionView.content, hd.content?_view hstate]
    rfl
  rw [sectionSymbol?, hlocation]
  simp only [Except.toOption, Option.bind_eq_bind, Option.bind_some, hr]
  rfl

/-- What a present state holds is one of the sections of the text. -/
theorem current_mem_segment (hd : d.WellFormed segmenter) (hstate : state ∈ d.sections) :
    state.current ∈ segmenter.segment d.index := by
  rw [← hd.current_eq]
  exact List.mem_map_of_mem hstate

section Fitting

variable (hsize : d.index.length < UInt32.size)
include hsize

/-- The content of a declaration line lies in the range of its section. -/
theorem exists_declarationRange (hmem : state.current ∈ segmenter.segment d.index)
    (hr : d.index.rangeOf (state.current.interval d.index) = .ok r) {line : Nat}
    (hline : state.current.declaration = some line) :
    ∃ content, d.index.contentChars line = .ok content ∧
      contentRange? d.index line = some ⟨⟨line, 0⟩, ⟨line, unitSize content⟩⟩ ∧
      r.Encloses ⟨⟨line, 0⟩, ⟨line, unitSize content⟩⟩ := by
  have hfits := segmenter.fits_segment d.index _ hmem
  obtain ⟨hfirst, hlast⟩ := segmenter.containsLine_segment d.index _ hmem line hline
  have hcount := Nat.lt_of_le_of_lt hlast hfits.stop_lt_height
  obtain ⟨content, hcontent, hstart, hstop, hrange⟩ := exists_contentRange hsize hcount
  exact ⟨content, hcontent, hrange,
    Section.encloses_content hsize hfits hfirst hlast hcontent hr hstart hstop⟩

/-- Each section of an open document has its symbol. -/
theorem exists_sectionSymbol? (hd : d.WellFormed segmenter) (hstate : state ∈ d.sections)
    (ds : List Declaration) : ∃ symbol, sectionSymbol? d ds state = some symbol ∧
      IsSymbolOf d.index ds state.current symbol := by
  have hmem := current_mem_segment hd hstate
  have hfits := segmenter.fits_segment d.index _ hmem
  obtain ⟨r, hr⟩ := Section.exists_range hfits
  refine ⟨_, sectionSymbol?_eq hd hstate hr, rfl, rfl, hr, ?_, ?_, ?_, ?_⟩
  · intro line hline
    obtain ⟨content, hcontent, hrange, _⟩ := exists_declarationRange hsize hmem hr hline
    refine ⟨content, hcontent, ?_⟩
    simp only [hline, Option.bind_some, hrange, Option.getD_some]
  · intro hline
    simp only [hline, Option.bind_none, Option.getD_none]
  · cases hline : state.current.declaration with
    | none => exact Range.encloses_self (LineIndex.start_le_stop_of_rangeOf hsize hr)
    | some line =>
        obtain ⟨content, _, hrange, hencloses⟩ := exists_declarationRange hsize hmem hr hline
        simp only [Option.bind_some, hrange, Option.getD_some]
        exact hencloses
  · intro child hchild
    obtain ⟨δ, hδ, hsymbol⟩ := mem_declarationSymbols_iff.1 hchild
    obtain ⟨hdeclared, hplaced⟩ := List.mem_filter.1 hδ
    simp only [placedIn, Location.subsumes, Bool.and_eq_true] at hplaced
    exact ⟨⟨δ, hdeclared, hsymbol⟩,
      Section.encloses_range hsize hfits hplaced.2 hr (declarationSymbol?_spec hsymbol).1⟩

/-- The symbols of an outline are those of the sections, one by one. -/
theorem forall₂_outline (hd : d.WellFormed segmenter) (ds : List Declaration) :
    List.Forall₂ (IsSymbolOf d.index ds) (segmenter.segment d.index) (outline d ds) := by
  rw [← hd.current_eq, List.forall₂_map_left_iff]
  exact forall₂_filterMap fun _ hstate => exists_sectionSymbol? hsize hd hstate ds

/-- A symbol of the outline is that of a section. -/
theorem exists_section_of_mem (hd : d.WellFormed segmenter) (h : s ∈ outline d ds) :
    ∃ current ∈ segmenter.segment d.index, IsSymbolOf d.index ds current s := by
  obtain ⟨state, hstate, hsymbol⟩ := List.mem_filterMap.1 h
  obtain ⟨symbol, hsome, hsymbolOf⟩ := exists_sectionSymbol? hsize hd hstate ds
  obtain rfl := Option.some.inj (hsome.symm.trans hsymbol)
  exact ⟨state.current, current_mem_segment hd hstate, hsymbolOf⟩

/-- No section reaches for a client into the next one. -/
theorem pairwise_outline (hd : d.WellFormed segmenter) (ds : List Declaration) :
    (outline d ds).Pairwise fun s t => s.range.stop ≤ t.range.start := by
  have hsorted := (segmenter.tiles_segment d.index).pairwise_stop
  rw [← hd.current_eq, List.pairwise_map] at hsorted
  have hstates : d.sections.Pairwise fun a b =>
      a ∈ d.sections ∧ b ∈ d.sections ∧ a.current.stop < b.current.start :=
    hsorted.imp_of_mem fun ha hb hab => ⟨ha, hb, hab⟩
  refine List.Pairwise.filterMap _ ?_ hstates
  rintro a b ⟨ha, hb, hab⟩ s hs t ht
  obtain ⟨s', hs', hsymbol⟩ := exists_sectionSymbol? hsize hd ha ds
  obtain ⟨t', ht', hsymbol'⟩ := exists_sectionSymbol? hsize hd hb ds
  obtain rfl := Option.some.inj (hs'.symm.trans hs)
  obtain rfl := Option.some.inj (ht'.symm.trans ht)
  exact Section.stop_le_start_of_rangeOf hsize
    (segmenter.fits_segment _ _ (current_mem_segment hd ha))
    (segmenter.fits_segment _ _ (current_mem_segment hd hb)) hab hsymbol.range_eq hsymbol'.range_eq

/-- Every symbol of the outline, at every depth, holds its selection. -/
theorem encloses_of_occurs (hd : d.WellFormed segmenter) (h : Occurs t (outline d ds)) :
    t.range.Encloses t.selectionRange := by
  cases h with
  | here hmem =>
      obtain ⟨_, _, hsymbol⟩ := exists_section_of_mem hsize hd hmem
      exact hsymbol.encloses_selection
  | inside s hs hinner =>
      obtain ⟨_, _, hsymbol⟩ := exists_section_of_mem hsize hd hs
      have hdeclared : ∀ child ∈ s.children, ∃ δ, declarationSymbol? d.index δ = some child :=
        fun child hchild =>
          let ⟨⟨δ, _, hδ⟩, _⟩ := hsymbol.encloses_children child hchild
          ⟨δ, hδ⟩
      obtain ⟨δ, hδ⟩ := hinner.exists_declaration hdeclared
      obtain ⟨hrange, hselection, _⟩ := declarationSymbol?_spec hδ
      rw [hselection]
      exact Range.encloses_self (LineIndex.start_le_stop_of_rangeOf hsize hrange)

end Fitting

/-- A range that encloses another one is not reversed. -/
theorem Range.start_le_stop_of_encloses {r q : Range} (h : r.Encloses q) : r.start ≤ r.stop := by
  obtain ⟨hstart, hinner, hstop⟩ := h
  rw [Position.le_iff] at *
  omega

end Lsp

namespace Workspace

open Lsp

variable {grammars : GrammarRegistry} {segmenter : Segmenter} {w : Workspace} {id : String}
  {d : Document}

/-- Declarations on the third line, one in the other, and one that is not in the text. -/
def nestedDeclarations : List Declaration :=
  [⟨"x", "Class", ⟨"notes", ⟨⟨2, 0⟩, ⟨2, 5⟩, by decide⟩⟩,
      [⟨"z", "Property", ⟨"notes", .point ⟨2, 5⟩⟩, []⟩]⟩,
    ⟨"far", "Class", ⟨"notes", .point ⟨9, 0⟩⟩, []⟩]

end Workspace

end Polyglot
