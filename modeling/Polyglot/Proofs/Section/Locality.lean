import Polyglot.Proofs.LineIndex.Contents
import Polyglot.Proofs.LineIndex.SharedLines
import Polyglot.Proofs.Section.Partition

/-!
# Sections of texts that share their first lines

In texts whose numbers of lines fit into words the declarations of the first lines come first,
whatever is below (`exists_declarations_append`). So if two of them share the contents of their
first `k` lines, and one of these lines has content, the sections of both begin alike and part only
below line `k` (`partsBelow_segment`).

Each section that has an anchor in the shared lines then has its identity in the other text as well
(`PartsBelow.exists_sameIdentity`), and each section before another one declared in them is a
section of the other text (`PartsBelow.mem_of_next`).
-/

set_option autoImplicit false

namespace Polyglot

/-- A content that declares a grammar is not blank. -/
theorem Declares.exists_not_isBlank {content : List Char} {name : String}
    (h : Declares content name) : ∃ c ∈ content, Text.isBlank c = false := by
  obtain ⟨before, after, rfl, _⟩ := h
  exact ⟨'#', by simp, by decide⟩

namespace LineIndex

variable {index index' : LineIndex} {k l : Nat} {d : DeclarationLine}

/-- Shared lines have content in both texts or in neither. -/
theorem SharesContents.hasContentAt_iff (h : SharesContents k index index') (hl : l < k) :
    index.HasContentAt l ↔ index'.HasContentAt l := by
  rw [HasContentAt, h l hl, HasContentAt]

/-- A shared line declares the same in both texts. -/
theorem SharesContents.declarationAt?_eq (h : SharesContents k index index') (hl : l < k) :
    index.declarationAt? l = index'.declarationAt? l := by
  rw [declarationAt?, h l hl, declarationAt?]

/-- A line with content is a line of the text. -/
theorem HasContentAt.lt_height (h : index.HasContentAt l) : l < index.height := by
  obtain ⟨content, hcontent, _⟩ := h
  exact index.lt_height_of_contentChars hcontent

/-- The line behind a last break is empty. -/
theorem not_hasContentAt_lastLine (h : index.hasTrailingBreak = true) :
    ¬index.HasContentAt index.lastLine := by
  rintro ⟨content, hcontent, c, hc, _⟩
  rw [(hasTrailingBreak_iff.1 h).2] at hcontent
  obtain rfl := Except.ok.inj hcontent
  cases hc

/-- A line with content is above the empty one behind a break at the end. -/
theorem HasContentAt.lt_lastLine (h : index.HasContentAt l)
    (hbreak : index.hasTrailingBreak = true) : l < index.lastLine := by
  have hl := h.lt_height
  have hne : l ≠ index.lastLine := fun heq => not_hasContentAt_lastLine hbreak (heq ▸ h)
  unfold lastLine at *
  omega

/-- A line with content is above the one behind a last break, so if the number of lines fits into a
word, it belongs to a section. -/
theorem HasContentAt.le_lastSectionLine (hheight : index.height < UInt32.size)
    (h : index.HasContentAt l) : l ≤ index.lastSectionLine := by
  have hl := h.lt_height
  rw [lastSectionLine_of_lt hheight]
  split
  · rename_i hcut
    exact Nat.le_sub_one_of_lt (h.lt_lastLine (Bool.and_eq_true_iff.1 hcut).2)
  · exact Nat.le_sub_one_of_lt hl

/-- A declaration line has content. -/
theorem DeclaresAt.hasContentAt {name : String} (h : index.DeclaresAt l name) :
    index.HasContentAt l := by
  obtain ⟨_, content, hcontent, hdeclares⟩ := h
  exact ⟨content, hcontent, hdeclares.exists_not_isBlank⟩

/-- A line at which a declaration is read has content. -/
theorem hasContentAt_of_declarationAt? (h : index.declarationAt? l = some d) :
    index.HasContentAt l := by
  obtain ⟨_, content, hcontent, hdeclares⟩ := (declarationAt?_eq_some_iff l d).1 h
  exact ⟨content, hcontent, hdeclares.exists_not_isBlank⟩

/-- No matter how far one looks, the declarations are the same. -/
theorem declarations_eq_filterMap {n : Nat} (hheight : index.height < UInt32.size)
    (h : index.lastSectionLine < n) :
    index.declarations = (List.range n).filterMap index.declarationAt? := by
  have hnone : ∀ l, index.lastSectionLine < l → index.declarationAt? l = none := by
    intro l hl
    cases hd : index.declarationAt? l with
    | none => rfl
    | some d =>
        have hat := hasContentAt_of_declarationAt? hd
        exact absurd (hat.le_lastSectionLine hheight) (Nat.not_le.2 hl)
  obtain ⟨r, rfl⟩ := Nat.exists_eq_add_of_lt h
  rw [show index.lastSectionLine + r + 1 = index.lastSectionLine + 1 + r by omega, List.range_add,
    List.filterMap_append, declarations, List.filterMap_map]
  have hrest : (List.range r).filterMap
      (index.declarationAt? ∘ (index.lastSectionLine + 1 + ·)) = [] := by
    refine List.filterMap_eq_nil_iff.2 fun l _ => hnone (index.lastSectionLine + 1 + l) ?_
    omega
  rw [hrest, List.append_nil]

/-- The declarations of the first lines come first. -/
theorem exists_declarations_append (index : LineIndex) (hheight : index.height < UInt32.size)
    (k : Nat) : ∃ lower,
    index.declarations = (List.range k).filterMap index.declarationAt? ++ lower ∧
      ∀ d ∈ lower, k ≤ d.line := by
  refine ⟨((List.range (index.lastSectionLine + 1)).map (k + ·)).filterMap index.declarationAt?,
    ?_, ?_⟩
  · rw [← List.filterMap_append, ← List.range_add]
    exact declarations_eq_filterMap hheight (by omega)
  · intro d hd
    obtain ⟨l, hl, hat⟩ := List.mem_filterMap.1 hd
    obtain ⟨n, _, rfl⟩ := List.mem_map.1 hl
    rw [((declarationAt?_eq_some_iff _ d).1 hat).1]
    exact Nat.le_add_right k n

end LineIndex

/-- Two lists of sections begin alike; then comes a section that may end elsewhere in the two; and
what follows it is declared at line `k` or below. -/
def PartsBelow (k : Nat) (sections sections' : List Section) : Prop :=
  ∃ above s stop below below', sections = above ++ s :: below ∧
    sections' = above ++ { s with stop := stop } :: below' ∧
      ∀ t ∈ below ++ below', ∃ l, t.declaration = some l ∧ k ≤ l

/-- A line that keeps a section where it is: the one that declares it or, if none does, one of its
lines with content. -/
inductive Section.IsAnchor (index : LineIndex) (s : Section) (l : Nat) : Prop where
  | declaration (h : s.declaration = some l)
  | content (implicit : s.declaration = none) (contains : s.containsLine l = true)
      (content : index.HasContentAt l)

/-- The anchor of a section with a declaration is the declaration line. -/
theorem Section.IsAnchor.declaration_eq {index : LineIndex} {s : Section} {l m : Nat}
    (h : s.IsAnchor index l) (hm : s.declaration = some m) : m = l := by
  cases h with
  | declaration hl => exact Option.some.inj (hm.symm.trans hl)
  | content implicit _ _ =>
      rw [hm] at implicit
      cases implicit

namespace PartsBelow

variable {k : Nat} {sections sections' : List Section}

/-- Sections that begin alike still do with one more in front. -/
theorem cons (s : Section) (h : PartsBelow k sections sections') :
    PartsBelow k (s :: sections) (s :: sections') := by
  obtain ⟨above, t, stop, below, below', rfl, rfl, hbelow⟩ := h
  exact ⟨s :: above, t, stop, below, below', rfl, rfl, hbelow⟩

/-- A section that is not declared at line `k` or below has its identity in the other list. -/
theorem exists_sameIdentity (h : PartsBelow k sections sections') {s : Section}
    (hs : s ∈ sections) (hdeclared : ∀ l, s.declaration = some l → l < k) :
    ∃ t ∈ sections', s.sameIdentity t = true := by
  obtain ⟨above, t, stop, below, below', rfl, rfl, hbelow⟩ := h
  rcases List.mem_append.1 hs with hs | hs
  · exact ⟨s, List.mem_append_left _ hs, Section.sameIdentity_iff.2 ⟨rfl, rfl, rfl⟩⟩
  · rcases List.mem_cons.1 hs with rfl | hs
    · exact ⟨{ s with stop := stop }, List.mem_append_right _ List.mem_cons_self,
        Section.sameIdentity_iff.2 ⟨rfl, rfl, rfl⟩⟩
    · obtain ⟨l, hl, hle⟩ := hbelow s (List.mem_append_left _ hs)
      have hlt := hdeclared l hl
      omega

/-- A section before one that is declared above line `k` is in the other list. -/
theorem mem_of_next (h : PartsBelow k sections sections') {i e : Nat} {s next : Section}
    (hs : sections[i]? = some s) (hnext : sections[i + 1]? = some next)
    (hdeclaration : next.declaration = some e) (he : e < k) : s ∈ sections' := by
  obtain ⟨above, t, stop, below, below', rfl, rfl, hbelow⟩ := h
  rcases Nat.lt_or_ge i above.length with hlt | hge
  · rw [List.getElem?_append_left hlt] at hs
    exact List.mem_append_left _ (List.mem_of_getElem? hs)
  · -- What follows the section in which the lists part is declared at line `k` or below.
    rw [List.getElem?_append_right (by omega), Nat.sub_add_comm hge,
      List.getElem?_cons_succ] at hnext
    obtain ⟨m, hm, hle⟩ := hbelow next (List.mem_append_left _ (List.mem_of_getElem? hnext))
    obtain rfl := Option.some.inj (hm.symm.trans hdeclaration)
    omega

end PartsBelow

namespace Segmenter

variable {index index' : LineIndex} {k : Nat} {lower lower' : List DeclarationLine}

/-- Every declared section has a declaration line among those given. -/
theorem exists_of_mem_declared {last start : Nat} {ds : List DeclarationLine} {s : Section}
    (hs : s ∈ declared last start ds) : ∃ d ∈ ds, s.declaration = some d.line := by
  obtain ⟨l, hl⟩ := Option.ne_none_iff_exists'.1 (isSome_declaration last start ds s hs)
  refine ⟨⟨l, s.grammar⟩, ?_, hl⟩
  rw [← filterMap_declared last start ds]
  exact List.mem_filterMap.2 ⟨s, hs, by rw [Section.declarationLine?, hl]; rfl⟩

/-- Sections that are declared below a line have their declaration lines there. -/
theorem forall_mem_declared {last last' start start' : Nat} (hlower : ∀ d ∈ lower, k ≤ d.line)
    (hlower' : ∀ d ∈ lower', k ≤ d.line) :
    ∀ t ∈ declared last start lower ++ declared last' start' lower',
      ∃ l, t.declaration = some l ∧ k ≤ l := by
  intro t ht
  rcases List.mem_append.1 ht with ht | ht <;> obtain ⟨d, hd, heq⟩ := exists_of_mem_declared ht
  · exact ⟨d.line, heq, hlower d hd⟩
  · exact ⟨d.line, heq, hlower' d hd⟩

/-- What is declared further down leaves the sections above it, but for where the last of them
ends. -/
theorem partsBelow_declared {last last' : Nat} (start : Nat) (d : DeclarationLine)
    (upper : List DeclarationLine) (hlower : ∀ d ∈ lower, k ≤ d.line)
    (hlower' : ∀ d ∈ lower', k ≤ d.line) :
    PartsBelow k (declared last start (d :: (upper ++ lower)))
      (declared last' start (d :: (upper ++ lower'))) := by
  induction upper generalizing start d with
  | nil =>
      obtain ⟨stop, next, heq⟩ := declared_cons last start d lower
      obtain ⟨stop', next', heq'⟩ := declared_cons last' start d lower'
      exact ⟨[], _, stop', _, _, heq, heq', forall_mem_declared hlower hlower'⟩
  | cons e upper ih =>
      rw [List.cons_append, List.cons_append, declared, declared]
      exact (ih e.line e).cons _

/-- If nothing is declared in the first lines and one of them has content, the first section is
implicit. -/
theorem segment_of_undeclared (segmenter : Segmenter)
    (hlower : ∀ d ∈ index.declarations, k ≤ d.line)
    (hcontent : ∃ l < k, index.HasContentAt l) : ∃ stop last start,
      segmenter.segment index =
        { segmenter.implicit 0 with stop := stop } :: declared last start index.declarations := by
  rcases segmenter.segment_cases index with ⟨hds, hseg⟩ | ⟨d, ds, hds, ⟨_, hseg⟩ | ⟨hno, _⟩⟩
  · rw [hseg, hds]
    exact ⟨_, 0, 0, rfl⟩
  · rw [hseg, hds]
    exact ⟨_, _, _, rfl⟩
  · obtain ⟨l, hl, hat⟩ := hcontent
    have hle := hlower d (hds ▸ List.mem_cons_self)
    exact absurd hat (hno l (by omega))

/-- The anchor of a section has content. -/
theorem hasContentAt_of_isAnchor (segmenter : Segmenter) {s : Section} {l : Nat}
    (hs : s ∈ segmenter.segment index) (h : s.IsAnchor index l) : index.HasContentAt l := by
  cases h with
  | declaration hl => exact (segmenter.declaresAt_of_mem_segment hs hl).hasContentAt
  | content _ _ hat => exact hat

/-- Behind the first section each one is declared on the line behind the section before it. -/
theorem declaration_of_next (segmenter : Segmenter) {i : Nat} {s next : Section}
    (hs : (segmenter.segment index)[i]? = some s)
    (hnext : (segmenter.segment index)[i + 1]? = some next) :
    next.declaration = some (s.stop + 1) := by
  have hstart := (segmenter.tiles_segment index).start_of_next hs hnext
  rw [← hstart]
  refine segmenter.declaration_of_mem_tail index next (List.mem_of_getElem? (i := i) ?_)
  rwa [List.getElem?_tail]

/-- The sections of texts that share the contents of their first lines part below these lines. -/
theorem partsBelow_segment (segmenter : Segmenter) (hheight : index.height < UInt32.size)
    (hheight' : index'.height < UInt32.size) (h : LineIndex.SharesContents k index index')
    (hcontent : ∃ l < k, index.HasContentAt l) :
    PartsBelow k (segmenter.segment index) (segmenter.segment index') := by
  have hshared : (List.range k).filterMap index'.declarationAt? =
      (List.range k).filterMap index.declarationAt? :=
    List.filterMap_congr fun l hl => (h.declarationAt?_eq (List.mem_range.1 hl)).symm
  obtain ⟨lower, hds, hlower⟩ := index.exists_declarations_append hheight k
  obtain ⟨lower', hds', hlower'⟩ := index'.exists_declarations_append hheight' k
  rw [hshared] at hds'
  cases hupper : (List.range k).filterMap index.declarationAt? with
  | nil =>
      have hcontent' : ∃ l < k, index'.HasContentAt l := by
        obtain ⟨l, hl, hat⟩ := hcontent
        exact ⟨l, hl, (h.hasContentAt_iff hl).1 hat⟩
      rw [hupper, List.nil_append] at hds hds'
      obtain ⟨stop, last, start, hseg⟩ :=
        segmenter.segment_of_undeclared (hds ▸ hlower) hcontent
      obtain ⟨stop', last', start', hseg'⟩ :=
        segmenter.segment_of_undeclared (hds' ▸ hlower') hcontent'
      rw [hseg, hseg', hds, hds']
      exact ⟨[], _, stop', _, _, rfl, rfl, forall_mem_declared hlower hlower'⟩
  | cons d upper =>
      have hd : d.line < k := by
        have hmem : d ∈ (List.range k).filterMap index.declarationAt? :=
          hupper ▸ List.mem_cons_self
        obtain ⟨l, hl, hat⟩ := List.mem_filterMap.1 hmem
        rw [((LineIndex.declarationAt?_eq_some_iff l d).1 hat).1]
        exact List.mem_range.1 hl
      have hiff : (∃ l < d.line, index.HasContentAt l) ↔ ∃ l < d.line, index'.HasContentAt l :=
        exists_congr fun l => and_congr_right fun hl => h.hasContentAt_iff (Nat.lt_trans hl hd)
      rw [hupper, List.cons_append] at hds hds'
      rw [segmenter.segment_of_declared hds, segmenter.segment_of_declared hds']
      by_cases habove : ∃ l < d.line, index.HasContentAt l
      · rw [if_pos habove, if_pos (hiff.1 habove)]
        exact (partsBelow_declared d.line d upper hlower hlower').cons _
      · rw [if_neg habove, if_neg fun hat => habove (hiff.2 hat)]
        exact partsBelow_declared 0 d upper hlower hlower'

end Segmenter

end Polyglot
