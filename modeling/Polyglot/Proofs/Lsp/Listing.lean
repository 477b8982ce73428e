import Polyglot.Proofs.Lsp.Nesting

/-!
# Which declarations an outline lists

What stands under the sections of an outline is added up from the single declarations
(`under_outline_append`), so one declaration can be followed through the outline. If it starts and
ends within the content of lines of one section, it has a symbol, and no other section can list it.
Its own section lists it once, unless it ends behind the first byte of the last character of the
section (`outline_lists_declaration_once`): the interval of a section ends at that byte, so there a
last character of several bytes hides a declaration that holds all of it. This holds if the columns
of the last line of the section fit into words.
-/

set_option autoImplicit false

namespace Polyglot

namespace Section

open Text (byteSize)

variable {s : Section} {index : LineIndex} {p : Position}

/-- The position is that of a byte of the content of a line of the section. -/
def HasByte (s : Section) (index : LineIndex) (p : Position) : Prop :=
  s.start ≤ p.line ∧ p.line ≤ s.stop ∧
    ∃ content, index.contentChars p.line = .ok content ∧ p.column < byteSize content

/-- The position is behind the first byte of the last character of the section's last line. -/
def EndsBefore (s : Section) (index : LineIndex) (p : Position) : Prop :=
  p.line = s.stop ∧
    ∃ content, index.contentChars s.stop = .ok content ∧ byteSize content.dropLast < p.column

/-- The content of the section's last line is small enough for its columns to be words. -/
def LastLineFits (s : Section) (index : LineIndex) : Prop :=
  ∀ content, index.contentChars s.stop = .ok content → byteSize content < UInt32.size

/-- Then the interval of the section stops at the last character of this line. -/
theorem LastLineFits.lastCharColumn_eq {content : List Char} (h : s.LastLineFits index)
    (hcontent : index.contentChars s.stop = .ok content) :
    lastCharColumn content = byteSize content.dropLast := by
  refine lowWord_of_lt (Nat.lt_of_le_of_lt ?_ (h content hcontent))
  rw [Text.byteSize_eq_total, Text.byteSize_eq_total]
  exact total_le_of_isPrefix (List.dropLast_prefix content)

/-- A byte of the content of a line is in the text. -/
theorem HasByte.exists_offsetOf (hs : s.Fits index) (h : s.HasByte index p) :
    ∃ o, index.offsetOf p = .ok o := by
  obtain ⟨_, hlast, content, hcontent, hcolumn⟩ := h
  have hline := Nat.lt_of_le_of_lt hlast hs.stop_lt_height
  obtain ⟨content', ending, hlist, hcontent', _⟩ := index.exists_content hline
  obtain rfl := Except.ok.inj (hcontent.symm.trans hcontent')
  have hend := index.startOf_succ hlist
  rw [Text.byteSize_append] at hend
  exact ⟨_, LineIndex.offsetOf_eq_ok_iff.2 ⟨hline, by omega, rfl⟩⟩

end Section

namespace Lsp

variable {segmenter : Segmenter} {index : LineIndex} {d : Document} {s t : Section}
  {δ : Declaration} {i j : Nat}

/-- The symbols inside the symbol at a place. -/
def under (symbols : List Symbol) (place : Nat) : List Symbol :=
  (symbols[place]?.map Symbol.children).getD []

/-- The symbols of declarations add up. -/
theorem declarationSymbols_append (index : LineIndex) (as bs : List Declaration) :
    declarationSymbols index (as ++ bs) =
      declarationSymbols index as ++ declarationSymbols index bs := by
  induction as with
  | nil => rfl
  | cons a as ih => simp only [List.cons_append, declarationSymbols, ih, List.append_assoc]

/-- The symbols of the declarations that the section lists. -/
def listedBy (d : Document) (ds : List Declaration) (s : Section) : List Symbol :=
  declarationSymbols d.index (ds.filter (placedIn d s))

/-- What a section lists adds up over the declarations. -/
theorem listedBy_append (d : Document) (as bs : List Declaration) (s : Section) :
    listedBy d (as ++ bs) s = listedBy d as s ++ listedBy d bs s := by
  rw [listedBy, List.filter_append, declarationSymbols_append, ← listedBy, ← listedBy]

/-- Under each section stand the symbols of the declarations that lie in it. -/
theorem map_children_outline (hd : d.WellFormed segmenter) (ds : List Declaration) :
    (outline d ds).map Symbol.children = (segmenter.segment d.index).map (listedBy d ds) := by
  have hchildren : ∀ state ∈ d.sections,
      (sectionSymbol? d ds state).map Symbol.children =
        some (listedBy d ds state.current) := by
    intro state hstate
    have hfits := segmenter.fits_segment d.index _ (current_mem_segment hd hstate)
    obtain ⟨r, hr⟩ := Section.exists_range hfits
    rw [sectionSymbol?_eq hd hstate hr]
    rfl
  rw [outline, List.map_filterMap, List.filterMap_congr hchildren, ← hd.current_eq, List.map_map]
  exact congrFun (List.filterMap_eq_map (f := listedBy d ds ∘ SectionState.current)) d.sections

/-- Under the symbol of a section stands what the section lists. -/
theorem under_outline (hd : d.WellFormed segmenter) (ds : List Declaration) (j : Nat) :
    under (outline d ds) j =
      ((segmenter.segment d.index)[j]?.map (listedBy d ds)).getD [] := by
  rw [under, ← List.getElem?_map, map_children_outline hd, List.getElem?_map]

/-- What stands under a section adds up over the declarations. -/
theorem under_outline_append (hd : d.WellFormed segmenter) (as bs : List Declaration) (j : Nat) :
    under (outline d (as ++ bs)) j = under (outline d as) j ++ under (outline d bs) j := by
  simp only [under_outline hd]
  cases (segmenter.segment d.index)[j]? with
  | none => rfl
  | some s => exact listedBy_append d as bs s

/-- Among whatever other declarations, the declaration adds these symbols to each section and
changes nothing else there. -/
def Adds (d : Document) (δ : Declaration) (symbols : Nat → List Symbol) : Prop :=
  ∀ (before after : List Declaration) (place : Nat),
    under (outline d (before ++ δ :: after)) place =
      under (outline d before) place ++ symbols place ++ under (outline d after) place

/-- It is enough to look at the outline of the one declaration. -/
theorem adds_iff (hd : d.WellFormed segmenter) (symbols : Nat → List Symbol) :
    Adds d δ symbols ↔ ∀ place, under (outline d [δ]) place = symbols place := by
  have hnone : ∀ place, under (outline d []) place = [] := by
    intro place
    rw [under_outline hd]
    cases (segmenter.segment d.index)[place]? <;> rfl
  constructor
  · intro h place
    have hsingle := h [] [] place
    rwa [hnone, List.nil_append, List.nil_append, List.append_nil] at hsingle
  · intro h before after place
    rw [← List.singleton_append, under_outline_append hd, under_outline_append hd, h,
      List.append_assoc]

/-- A declaration that starts and ends within contents of lines has a symbol. -/
theorem exists_declarationSymbol? (hs : s.Fits index)
    (hstart : s.HasByte index δ.location.interval.start)
    (hstop : s.HasByte index δ.location.interval.stop) :
    ∃ symbol, declarationSymbol? index δ = some symbol := by
  obtain ⟨a, ha⟩ := hstart.exists_offsetOf hs
  obtain ⟨b, hb⟩ := hstop.exists_offsetOf hs
  obtain ⟨r, hr⟩ := LineIndex.exists_rangeOf ha hb
  exact exists_declarationSymbol?_of_rangeOf hr

/-- The section in which a declaration starts and ends lists it, unless it ends in the last
character behind the first byte. -/
theorem placedIn_own (hs : s.Fits d.index) (hlastLine : s.LastLineFits d.index)
    (hsource : δ.location.source = d.id)
    (hstart : s.HasByte d.index δ.location.interval.start)
    (hstop : s.HasByte d.index δ.location.interval.stop) :
    placedIn d s δ = true ↔ ¬s.EndsBefore d.index δ.location.interval.stop := by
  obtain ⟨content, _, _, hcontent, _⟩ := d.index.exists_content hs.stop_lt_height
  obtain ⟨hfirst, hlast⟩ := Section.interval_ends hs hcontent
  obtain ⟨habove, _⟩ := hstart
  obtain ⟨_, hbelow, _⟩ := hstop
  have hcolumn : s.EndsBefore d.index δ.location.interval.stop ↔
      δ.location.interval.stop.line = s.stop ∧
        Section.lastCharColumn content < δ.location.interval.stop.column := by
    simp [Section.EndsBefore, hcontent, hlastLine.lastCharColumn_eq hcontent]
  simp only [placedIn, Location.subsumes, Interval.subsumes, hsource, hfirst, hlast, hcolumn,
    Bool.and_eq_true, decide_eq_true_eq, eq_self, true_and, Polyglot.Position.le_iff]
  omega

/-- No section above or below the one in which a declaration starts and ends lists it. -/
theorem placedIn_other (ht : t.Fits d.index) (hapart : t.stop < s.start ∨ s.stop < t.start)
    (hstart : s.HasByte d.index δ.location.interval.start)
    (hstop : s.HasByte d.index δ.location.interval.stop) : placedIn d t δ = false := by
  obtain ⟨content, _, _, hcontent, _⟩ := d.index.exists_content ht.stop_lt_height
  obtain ⟨hfirst, hlast⟩ := Section.interval_ends ht hcontent
  obtain ⟨_, hstartLine, _⟩ := hstart
  obtain ⟨hstopLine, _⟩ := hstop
  rw [Bool.eq_false_iff]
  simp only [placedIn, Location.subsumes, Interval.subsumes, hfirst, hlast, ne_eq,
    Bool.and_eq_true, decide_eq_true_eq, Polyglot.Position.le_iff]
  omega

/-- Two sections of a text are one above the other. -/
theorem apart_of_ne (segmenter : Segmenter) (index : LineIndex) (hne : j ≠ i)
    (hs : (segmenter.segment index)[i]? = some s) (ht : (segmenter.segment index)[j]? = some t) :
    t.stop < s.start ∨ s.stop < t.start := by
  have hsorted := List.pairwise_iff_getElem.1 (segmenter.tiles_segment index).pairwise_stop
  obtain ⟨hi, rfl⟩ := List.getElem?_eq_some_iff.1 hs
  obtain ⟨hj, rfl⟩ := List.getElem?_eq_some_iff.1 ht
  rcases Nat.lt_or_gt_of_ne hne with hlt | hgt
  · exact Or.inl (hsorted j i hj hi hlt)
  · exact Or.inr (hsorted i j hi hj hgt)

/-- The outline of one declaration shows it under its own section or nowhere. -/
theorem under_outline_singleton (hd : d.WellFormed segmenter)
    (hs : (segmenter.segment d.index)[i]? = some s)
    (hstart : s.HasByte d.index δ.location.interval.start)
    (hstop : s.HasByte d.index δ.location.interval.stop) (place : Nat) :
    under (outline d [δ]) place =
      if place = i ∧ placedIn d s δ = true then (declarationSymbol? d.index δ).toList else [] := by
  have hlisted : ∀ t, listedBy d [δ] t =
      if placedIn d t δ = true then (declarationSymbol? d.index δ).toList else [] := by
    intro t
    rw [listedBy, List.filter_cons]
    split <;> simp [declarationSymbols]
  rw [under_outline hd]
  by_cases hplace : place = i
  · subst hplace
    rw [hs]
    simp only [Option.map_some, Option.getD_some, hlisted, true_and]
  · rw [if_neg fun h => hplace h.1]
    cases ht : (segmenter.segment d.index)[place]? with
    | none => rfl
    | some t =>
        have hfits := segmenter.fits_segment d.index t (List.mem_of_getElem? ht)
        have hother :=
          placedIn_other hfits (apart_of_ne segmenter d.index hplace hs ht) hstart hstop
        simp only [Option.map_some, Option.getD_some, hlisted, hother, Bool.false_eq_true, if_false]

end Lsp

namespace Workspace

open Lsp

variable {grammars : GrammarRegistry} {segmenter : Segmenter} {w : Workspace} {id : String}
  {d : Document} {s : Section} {δ : Declaration} {i : Nat}

/-- A declaration of an open document that starts and ends on bytes of the content of lines of one
section has a symbol. The outline lists it once, under this section, if it does not end behind the
first byte of the last character of the section's last line; otherwise the outline leaves it out.
(The columns of the last line fit into words.) -/
theorem outline_lists_declaration_once (hw : Reachable grammars segmenter w)
    (hd : w.document? id = some d) (hs : (segmenter.segment d.index)[i]? = some s)
    (hlastLine : s.LastLineFits d.index) (hsource : δ.location.source = id)
    (hstart : s.HasByte d.index δ.location.interval.start)
    (hstop : s.HasByte d.index δ.location.interval.stop) :
    ∃ symbol, declarationSymbol? d.index δ = some symbol ∧
      (¬s.EndsBefore d.index δ.location.interval.stop →
        Adds d δ fun place => if place = i then [symbol] else []) ∧
      (s.EndsBefore d.index δ.location.interval.stop → Adds d δ fun _ => []) := by
  have hwell := hw.wellFormed.opened id d hd
  rw [hw.shared.2] at hwell
  have hfits := segmenter.fits_segment d.index s (List.mem_of_getElem? hs)
  have hown := placedIn_own hfits hlastLine (hsource.trans (hw.wellFormed.id_eq id d hd).symm)
    hstart hstop
  obtain ⟨symbol, hsymbol⟩ := exists_declarationSymbol? hfits hstart hstop
  have hsingle := under_outline_singleton hwell hs hstart hstop
  rw [hsymbol] at hsingle
  refine ⟨symbol, hsymbol, fun hlast => ?_, fun hlast => ?_⟩ <;> rw [adds_iff hwell] <;>
    intro place <;> rw [hsingle place]
  · simp only [hown.2 hlast, and_true, Option.toList_some]
  · rw [if_neg fun h => hown.1 h.2 hlast]

/-- A declaration of the two bytes of one character, as a handler gives it. -/
def accented : Declaration :=
  ⟨"é", "Class", ⟨"notes", ⟨⟨0, 6⟩, ⟨0, 7⟩, by decide⟩⟩, []⟩

/-- The same declaration on a line that is not the last one of its section. -/
theorem outline_lists_declaration_once_aboveLastLine :
    ∃ d symbol, ((Workspace.empty .empty default).run
        [.openText "notes" "Class é\nend"]).document? "notes" = some d ∧
      declarationSymbol? d.index accented = some symbol ∧
      Adds d accented fun place => if place = 0 then [symbol] else [] := by
  have hindex : (((Workspace.empty .empty default).run
      [.openText "notes" "Class é\nend"]).document? "notes").map Document.index =
        some (.ofText "Class é\nend") := by decide +kernel
  obtain ⟨d, hd, htext⟩ := Option.map_eq_some_iff.1 hindex
  have hw : Reachable .empty default ((Workspace.empty .empty default).run
      [.openText "notes" "Class é\nend"]) := Reachable.empty.run _
  have hs : ((default : Segmenter).segment d.index)[0]? = some ⟨"Pure", 0, 1, none⟩ := by
    rw [htext]
    decide +kernel
  have hcontent : d.index.contentChars 0 = .ok "Class é".toList := by
    rw [htext]
    decide
  have hlastLine : Section.LastLineFits ⟨"Pure", 0, 1, none⟩ d.index := by
    intro content hlast
    rw [htext, show (LineIndex.ofText "Class é\nend").contentChars 1 = .ok "end".toList by decide]
      at hlast
    obtain rfl := Except.ok.inj hlast
    decide
  obtain ⟨symbol, hsymbol, hlisted, _⟩ := outline_lists_declaration_once (δ := accented) hw hd hs
    hlastLine rfl ⟨by decide, by decide, _, hcontent, by decide⟩
    ⟨by decide, by decide, _, hcontent, by decide⟩
  exact ⟨d, symbol, hd, hsymbol, hlisted fun h => absurd h.1 (by decide)⟩

/-- On the last line of a section, the same declaration is in no section's list. -/
theorem outline_omits_accented_at_end :
    ∃ d s, ((Workspace.empty .empty default).run
        [.openText "notes" "Class é"]).document? "notes" = some d ∧
      ((default : Segmenter).segment d.index)[0]? = some s ∧
      s.HasByte d.index accented.location.interval.start ∧
      s.HasByte d.index accented.location.interval.stop ∧
      (outline d [accented]).map (fun symbol => (symbol.name, symbol.children.map Symbol.name)) =
        [("Pure", [])] := by
  have hrun : (((Workspace.empty .empty default).run
      [.openText "notes" "Class é"]).document? "notes").map (fun d => (d.index,
        (outline d [accented]).map fun symbol => (symbol.name, symbol.children.map Symbol.name))) =
      some (.ofText "Class é", [("Pure", [])]) := by decide +kernel
  obtain ⟨d, hd, heq⟩ := Option.map_eq_some_iff.1 hrun
  obtain ⟨htext, houtline⟩ := Prod.mk.inj heq
  have hcontent : d.index.contentChars 0 = .ok "Class é".toList := by
    rw [htext]
    decide
  refine ⟨d, ⟨"Pure", 0, 0, none⟩, hd, ?_, ⟨by decide, by decide, _, hcontent, by decide⟩,
    ⟨by decide, by decide, _, hcontent, by decide⟩, houtline⟩
  rw [htext]
  decide +kernel

end Workspace

end Polyglot
