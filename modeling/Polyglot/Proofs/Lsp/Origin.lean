import Polyglot.Proofs.Lsp.Fitting
import Polyglot.Proofs.Lsp.Listing

/-!
# Where the symbols of an outline come from

A section lists declarations of its own document only, but a declaration brings along all that is
inside it and in the text, whatever source that is about (`occurs_declarationSymbols_iff`). So the
symbols directly under sections are the document's, and those further down are exactly if no listed
declaration holds one of another source (`outline_is_own_iff`).
-/

set_option autoImplicit false

namespace Polyglot

namespace Lsp

variable {segmenter : Segmenter} {index : LineIndex} {d : Document} {δ ε : Declaration}
  {ds : List Declaration} {t : Symbol}

/-- Both ends of the declaration are in the text. -/
def InText (index : LineIndex) (δ : Declaration) : Prop :=
  index.HasPosition δ.location.interval.start ∧ index.HasPosition δ.location.interval.stop

/-- The declaration lies in the other one at some depth, and both and all between them are in the
text. -/
inductive LiesIn (index : LineIndex) (ε : Declaration) : Declaration → Prop where
  | self (h : InText index ε) : LiesIn index ε ε
  | child {δ κ : Declaration} (hδ : InText index δ) (hκ : κ ∈ δ.children)
      (h : LiesIn index ε κ) : LiesIn index ε δ

/-- A declaration can be shown exactly if both its ends are in the text. -/
theorem exists_declarationSymbol?_iff :
    (∃ s, declarationSymbol? index δ = some s) ↔ InText index δ := by
  rw [InText, ← LineIndex.exists_rangeOf_iff]
  constructor
  · rintro ⟨s, hs⟩
    exact ⟨_, (declarationSymbol?_spec hs).1⟩
  · rintro ⟨r, hr⟩
    exact exists_declarationSymbol?_of_rangeOf hr

/-- What lies in a declaration that is shown is in the text itself. -/
theorem LiesIn.inText (h : LiesIn index ε δ) : InText index ε := by
  induction h with
  | self h => exact h
  | child _ _ _ ih => exact ih

/-- What lies in a shown declaration is shown at some depth. -/
theorem LiesIn.occurs (h : LiesIn index ε δ) (hδ : δ ∈ ds)
    (ht : declarationSymbol? index ε = some t) : Occurs t (declarationSymbols index ds) := by
  -- Each step of the way goes from a forest into the children of one of its symbols.
  induction h generalizing ds with
  | self => exact .here (mem_declarationSymbols_iff.2 ⟨ε, hδ, ht⟩)
  | @child δ κ hin hκ _ ih =>
      obtain ⟨s, hs⟩ := exists_declarationSymbol?_iff.2 hin
      refine .inside s (mem_declarationSymbols_iff.2 ⟨δ, hδ, hs⟩) ?_
      rw [(declarationSymbol?_spec hs).2.2]
      exact ih hκ

/-- Every symbol at any depth shows a declaration that lies in one of those given. -/
theorem Occurs.exists_liesIn {symbols : List Symbol} (h : Occurs t symbols)
    (hsymbols : symbols = declarationSymbols index ds) :
    ∃ δ ∈ ds, ∃ ε, LiesIn index ε δ ∧ declarationSymbol? index ε = some t := by
  induction h generalizing ds with
  | here hmem =>
      subst hsymbols
      obtain ⟨δ, hδ, ht⟩ := mem_declarationSymbols_iff.1 hmem
      exact ⟨δ, hδ, δ, .self (exists_declarationSymbol?_iff.1 ⟨t, ht⟩), ht⟩
  | inside s hs _ ih =>
      subst hsymbols
      obtain ⟨δ, hδ, hsymbol⟩ := mem_declarationSymbols_iff.1 hs
      obtain ⟨κ, hκ, ε, hlies, ht⟩ := ih (declarationSymbol?_spec hsymbol).2.2
      exact ⟨δ, hδ, ε, .child (exists_declarationSymbol?_iff.1 ⟨s, hsymbol⟩) hκ hlies, ht⟩

/-- The symbols for a forest of declarations are those of the declarations that lie in its roots. -/
theorem occurs_declarationSymbols_iff : Occurs t (declarationSymbols index ds) ↔
    ∃ δ ∈ ds, ∃ ε, LiesIn index ε δ ∧ declarationSymbol? index ε = some t :=
  ⟨fun h => h.exists_liesIn rfl, fun ⟨_, hδ, _, hlies, ht⟩ => hlies.occurs hδ ht⟩

/-- Some section lists the declaration. -/
def Listed (segmenter : Segmenter) (d : Document) (δ : Declaration) : Prop :=
  ∃ s ∈ segmenter.segment d.index, placedIn d s δ = true

/-- The symbol is that of the declaration, which lies in one that a section lists. -/
def ComesFrom (segmenter : Segmenter) (d : Document) (ds : List Declaration) (ε : Declaration)
    (t : Symbol) : Prop :=
  declarationSymbol? d.index ε = some t ∧
    ∃ δ ∈ ds, Listed segmenter d δ ∧ LiesIn d.index ε δ

/-- The symbols under the sections show the declarations that lie in those placed there. -/
theorem occurs_under_outline_iff (hd : d.WellFormed segmenter) :
    (∃ s ∈ outline d ds, Occurs t s.children) ↔ ∃ ε, ComesFrom segmenter d ds ε t := by
  have hsections : (∃ s ∈ outline d ds, Occurs t s.children) ↔
      ∃ s ∈ segmenter.segment d.index, Occurs t (listedBy d ds s) := by
    have hchildren := congrArg (∃ symbols ∈ ·, Occurs t symbols) (map_children_outline hd ds)
    simpa only [List.mem_map, exists_exists_and_eq_and, eq_iff_iff] using hchildren
  simp only [hsections, listedBy, occurs_declarationSymbols_iff, List.mem_filter]
  constructor
  · rintro ⟨s, hs, δ, ⟨hδ, hplaced⟩, ε, hlies, ht⟩
    exact ⟨ε, ht, δ, hδ, ⟨s, hs, hplaced⟩, hlies⟩
  · rintro ⟨ε, ht, δ, hδ, ⟨s, hs, hplaced⟩, hlies⟩
    exact ⟨s, hs, δ, ⟨hδ, hplaced⟩, ε, hlies, ht⟩

/-- What is placed in a section is a declaration of the document itself. -/
theorem source_eq_of_placedIn {s : Section} (h : placedIn d s δ = true) :
    δ.location.source = d.id := by
  simp only [placedIn, Location.subsumes, Bool.and_eq_true, decide_eq_true_eq] at h
  exact h.1.symm

/-- The symbols directly inside the symbol are those of some of the declarations, in their order,
all of the source. -/
def ShowsOwn (index : LineIndex) (id : String) (ds : List Declaration) (symbol : Symbol) : Prop :=
  ∃ own, own.Sublist ds ∧ (∀ δ ∈ own, δ.location.source = id) ∧
    symbol.children = declarationSymbols index own

/-- Directly inside the symbol of a section are only declarations of the document itself. -/
theorem showsOwn_of_mem (hd : d.WellFormed segmenter) {s : Symbol} (hs : s ∈ outline d ds) :
    ShowsOwn d.index d.id ds s := by
  have hmem : s.children ∈ (segmenter.segment d.index).map (listedBy d ds) := by
    rw [← map_children_outline hd]
    exact List.mem_map_of_mem hs
  obtain ⟨current, _, hchildren⟩ := List.mem_map.1 hmem
  exact ⟨ds.filter (placedIn d current), List.filter_sublist,
    fun δ hδ => source_eq_of_placedIn (List.mem_filter.1 hδ).2, hchildren.symm⟩

end Lsp

namespace Workspace

open Lsp

variable {grammars : GrammarRegistry} {segmenter : Segmenter} {w : Workspace} {id : String}
  {d : Document}

/-- Whatever forest of declarations an open document is shown with: directly under its sections
stand symbols of declarations of the document alone. Below them stand the symbols of all
declarations that lie in listed ones, and each comes from the document exactly if everything does
that lies in a listed declaration. -/
theorem outline_is_own_iff (hw : Reachable grammars segmenter w) (hd : w.document? id = some d)
    (declarations : List Declaration) :
    (∀ s ∈ outline d declarations, ShowsOwn d.index id declarations s) ∧
      (∀ t, (∃ s ∈ outline d declarations, Occurs t s.children) ↔
        ∃ ε, ComesFrom segmenter d declarations ε t) ∧
      ((∀ s ∈ outline d declarations, ∀ t, Occurs t s.children →
          ∀ ε, ComesFrom segmenter d declarations ε t → ε.location.source = id) ↔
        ∀ δ ∈ declarations, Listed segmenter d δ →
          ∀ ε, LiesIn d.index ε δ → ε.location.source = id) := by
  have hwell := hw.wellFormed.opened id d hd
  rw [hw.shared.2] at hwell
  have hid := hw.wellFormed.id_eq id d hd
  refine ⟨fun s hs => hid ▸ showsOwn_of_mem hwell hs,
    fun t => occurs_under_outline_iff hwell, fun hown δ hδ hlisted ε hlies => ?_,
    fun hlisted s hs t ht ε hε => ?_⟩
  · obtain ⟨t, ht⟩ := exists_declarationSymbol?_iff.2 hlies.inText
    have hcomes : ComesFrom segmenter d declarations ε t := ⟨ht, δ, hδ, hlisted, hlies⟩
    obtain ⟨s, hs, hoccurs⟩ := (occurs_under_outline_iff hwell).2 ⟨ε, hcomes⟩
    exact hown s hs t hoccurs ε hcomes
  · obtain ⟨_, δ, hδ, hin, hlies⟩ := hε
    exact hlisted δ hδ hin ε hlies

/-- A declaration of the document that holds one of the source, both at the name in its text. -/
def holding (source : String) : Declaration :=
  ⟨"a", "Class", ⟨"notes", .point ⟨0, 6⟩⟩, [⟨"b", "Property", ⟨source, .point ⟨0, 6⟩⟩, []⟩]⟩

/-- In this declaration lie only it and its children. -/
theorem eq_of_liesIn_holding {index : LineIndex} {source : String} {ε : Declaration}
    (h : LiesIn index ε (holding source)) :
    ε = holding source ∨ ε ∈ (holding source).children := by
  cases h with
  | self => exact Or.inl rfl
  | child _ hκ hlies =>
      obtain rfl := List.mem_singleton.1 hκ
      cases hlies with
      | self => exact Or.inr hκ
      | child _ hnone => cases hnone

/-- One line of text is opened as a document. -/
theorem exists_document_ofText : ∃ d, ((Workspace.empty .empty default).run
    [.openText "notes" "Class a"]).document? "notes" = some d ∧ d.id = "notes" ∧
      d.index = .ofText "Class a" := by
  have hopened : (((Workspace.empty .empty default).run
      [.openText "notes" "Class a"]).document? "notes").map (fun d => (d.id, d.index)) =
        some ("notes", .ofText "Class a") := by decide +kernel
  obtain ⟨d, hd, heq⟩ := Option.map_eq_some_iff.1 hopened
  exact ⟨d, hd, Prod.mk.inj heq⟩

/-- Declarations of the document itself, one inside the other, all of which are shown as its own. -/
theorem outline_is_own_iff_holdingOwn : ∃ d, ((Workspace.empty .empty default).run
    [.openText "notes" "Class a"]).document? "notes" = some d ∧
      ∀ s ∈ outline d [holding "notes"], ∀ t, Occurs t s.children →
        ∀ ε, ComesFrom default d [holding "notes"] ε t → ε.location.source = "notes" := by
  obtain ⟨d, hd, _⟩ := exists_document_ofText
  have hw : Reachable .empty default ((Workspace.empty .empty default).run
      [.openText "notes" "Class a"]) := Reachable.empty.run _
  refine ⟨d, hd, (outline_is_own_iff hw hd [holding "notes"]).2.2.2 fun δ hδ _ ε hlies => ?_⟩
  obtain rfl := List.mem_singleton.1 hδ
  rcases eq_of_liesIn_holding hlies with rfl | hε
  · rfl
  · rw [List.mem_singleton.1 hε]

/-- If the inner declaration is about another source, its symbol stands in the outline, and comes
from no declaration of the document. -/
theorem outline_shows_stray_child : ∃ d s t, ((Workspace.empty .empty default).run
    [.openText "notes" "Class a"]).document? "notes" = some d ∧
      s ∈ outline d [holding "elsewhere"] ∧ Occurs t s.children ∧
        (∃ ε, ComesFrom default d [holding "elsewhere"] ε t) ∧
          ∀ ε, ComesFrom default d [holding "elsewhere"] ε t → ε.location.source = "elsewhere" := by
  obtain ⟨d, hd, hid, hindex⟩ := exists_document_ofText
  have hw : Reachable .empty default ((Workspace.empty .empty default).run
      [.openText "notes" "Class a"]) := Reachable.empty.run _
  have hwell := hw.wellFormed.opened "notes" d hd
  rw [hw.shared.2] at hwell
  have hrange : d.index.rangeOf (.point ⟨0, 6⟩) = .ok ⟨⟨0, 6⟩, ⟨0, 7⟩⟩ := by
    rw [hindex]
    decide +kernel
  have houter : InText d.index (holding "elsewhere") := LineIndex.exists_rangeOf_iff.1 ⟨_, hrange⟩
  have hlisted : Listed default d (holding "elsewhere") := by
    refine ⟨⟨"Pure", 0, 0, none⟩, ?_, ?_⟩
    · rw [hindex]
      decide +kernel
    · rw [placedIn, hid, hindex]
      decide +kernel
  have hstray : ComesFrom default d [holding "elsewhere"]
      ⟨"b", "Property", ⟨"elsewhere", .point ⟨0, 6⟩⟩, []⟩
      ⟨"b", "Property", .propertyKind, ⟨⟨0, 6⟩, ⟨0, 7⟩⟩, ⟨⟨0, 6⟩, ⟨0, 7⟩⟩, []⟩ := by
    refine ⟨?_, _, List.mem_singleton_self _, hlisted,
      .child houter (List.mem_singleton_self _) (.self houter)⟩
    rw [declarationSymbol?, hrange]
    rfl
  obtain ⟨s, hs, hoccurs⟩ := (occurs_under_outline_iff hwell).2 ⟨_, hstray⟩
  refine ⟨d, s, _, hd, hs, hoccurs, ⟨_, hstray⟩, ?_⟩
  rintro ε ⟨hsymbol, δ, hδ, _, hlies⟩
  obtain rfl := List.mem_singleton.1 hδ
  rcases eq_of_liesIn_holding hlies with rfl | hε
  · rw [holding, declarationSymbol?, hrange] at hsymbol
    have hname := congrArg Symbol.name (Option.some.inj hsymbol)
    exact absurd hname (show "a" ≠ "b" by decide)
  · rw [List.mem_singleton.1 hε]

end Workspace

end Polyglot
