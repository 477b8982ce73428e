import Polyglot.Proofs.Section.Locality
import Polyglot.Proofs.Workspace.Lifecycle

/-!
# Edits are local

A document that is given another text keeps the states of its sections as far as the two texts have
their first lines in common. A section stays if one of these lines is an anchor of it, and its
handler is told nothing if the next section is declared in one of them
(`Reconciled.local_of_shares`). What is put behind a text that ends in a break, and has content, can
change its last section only (`Reconciled.local_of_append`). The numbers of lines of both texts have
to fit into words; where one wraps around, sections above the change may go.
-/

set_option autoImplicit false

namespace Polyglot

namespace Document

variable {segmenter : Segmenter} {d d' : Document} {ns : List Notification} {text : String}

/-- The document has the state, with all that it holds, for a section of the same identity. -/
def Reuses (d' : Document) (old : SectionState) : Prop :=
  ∃ state ∈ d'.sections, state = { old with current := state.current } ∧
    old.current.sameIdentity state.current = true

namespace Reconciled

variable {old : SectionState}

/-- A state is reused if a section of the new text has its identity. -/
theorem reuses (h : d.Reconciled segmenter text d' ns) (hold : old ∈ d.sections)
    (hsame : ∃ s ∈ segmenter.segment (.ofText text), old.current.sameIdentity s = true) :
    d'.Reuses old := by
  obtain ⟨s, hs, hsame⟩ := hsame
  rw [← h.current_eq] at hs
  obtain ⟨state, hstate, rfl⟩ := List.mem_map.1 hs
  have hkey := (h.reused_iff old hold state hstate).2 hsame
  exact ⟨state, hstate, h.eq_of_reused old hold state hstate hkey, hsame⟩

/-- A state whose section is a section of the new text is a state of the new document. -/
theorem mem_of_mem_segment (h : d.Reconciled segmenter text d' ns) (hold : old ∈ d.sections)
    (hs : old.current ∈ segmenter.segment (.ofText text)) : old ∈ d'.sections := by
  rw [← h.current_eq] at hs
  obtain ⟨state, hstate, hcurrent⟩ := List.mem_map.1 hs
  have hsame : old.current.sameIdentity state.current = true := by
    rw [hcurrent]
    exact Section.sameIdentity_iff.2 ⟨rfl, rfl, rfl⟩
  have hkey := (h.reused_iff old hold state hstate).2 hsame
  have heq := h.eq_of_reused old hold state hstate hkey
  rw [hcurrent] at heq
  rwa [heq] at hstate

/-- Of a state that is reused the handler can be told only that it was updated. -/
theorem change_eq_updated (h : d.Reconciled segmenter text d' ns) (hold : old ∈ d.sections)
    (hreuses : d'.Reuses old) : ∀ n ∈ ns, n.state = old.key → n.change = .updated := by
  obtain ⟨state, hstate, heq, _⟩ := hreuses
  have hkey : state.key = old.key := by rw [heq]
  intro n hn hstate'
  rcases (h.mem_notifications_iff n).1 hn with ⟨a, _, hgone, rfl⟩ | ⟨a, _, hfresh, rfl⟩ |
    ⟨_, _, _, _, _, _, rfl⟩
  · exact absurd (hkey.trans hstate'.symm) (hgone state hstate)
  · exact absurd hstate' (hfresh old hold)
  · rfl

/-- Of a state that the new document has as it was, with the text that it had, nothing is told. -/
theorem forall_state_ne (h : d.Reconciled segmenter text d' ns) (hd : d.WellFormed segmenter)
    (hold : old ∈ d.sections) (hmem : old ∈ d'.sections)
    (htext : (d.view old).text = (d'.view old).text) : ∀ n ∈ ns, n.state ≠ old.key := by
  intro n hn hkey
  rcases (h.mem_notifications_iff n).1 hn with ⟨a, _, hgone, rfl⟩ | ⟨a, _, hfresh, rfl⟩ |
    ⟨a, ha, state, hstate, hsame, hchanged, rfl⟩
  · exact hgone old hmem hkey.symm
  · exact hfresh old hold hkey
  · obtain rfl : a = old := hd.eq_of_key_eq (List.mem_append_left _ ha)
      (List.mem_append_left _ hold) (hsame.symm.trans hkey)
    obtain rfl : state = a := List.inj_on_of_nodup_map h.nodup_keys hstate hmem hkey
    rcases hchanged with hcurrent | htext'
    · exact hcurrent rfl
    · exact htext' htext

end Reconciled

/-- The states stand in the order of the sections of the text. -/
theorem WellFormed.getElem?_segment (h : d.WellFormed segmenter) {i : Nat} {state : SectionState}
    (hstate : d.sections[i]? = some state) :
    (segmenter.segment d.index)[i]? = some state.current := by
  rw [← h.current_eq, List.getElem?_map, hstate]
  rfl

/-- A section within shared lines has the same text in both documents. -/
theorem WellFormed.text_view_eq (h : d.WellFormed segmenter) (h' : d'.WellFormed segmenter)
    {k : Nat}
    (hlines : LineIndex.SharesLines k d.index d'.index) {state : SectionState}
    (hstate : state ∈ d.sections) (hstate' : state ∈ d'.sections) (hstop : state.current.stop < k) :
    (d.view state).text = (d'.view state).text := by
  have htiles := segmenter.tiles_segment d.index
  have hmem : state.current ∈ segmenter.segment d.index :=
    h.current_eq ▸ List.mem_map_of_mem hstate
  have hlast := LineIndex.lt_height_of_le_lastSectionLine (htiles.bounds _ hmem).2
  rw [h.text_view hstate, h'.text_view hstate',
    hlines.lineChars_eq (htiles.start_le_stop _ hmem) hstop hlast]

namespace Reconciled

variable {i : Nat} {old next : SectionState} {k : Nat}
  (h : d.Reconciled segmenter text d' ns) (hd : d.WellFormed segmenter)
  (hd' : d'.WellFormed segmenter) (hindex : d'.index = .ofText text)

include h hd hd' hindex

/-- A state in front of one whose section is declared in a line whose content is shared is a state
of the new document. If the lines of its section are shared as well, nothing is told of it. -/
theorem silent_of_partsBelow
    (hparts : PartsBelow k (segmenter.segment d.index) (segmenter.segment d'.index))
    (hold : d.sections[i]? = some old) (hnext : d.sections[i + 1]? = some next)
    (hlt : old.current.stop + 1 < k)
    (hlines : LineIndex.SharesLines (old.current.stop + 1) d.index d'.index) :
    old ∈ d'.sections ∧ ∀ n ∈ ns, n.state ≠ old.key := by
  have hs := hd.getElem?_segment hold
  have hs' := hd.getElem?_segment hnext
  have hmem := List.mem_of_getElem? hold
  have hkept := hparts.mem_of_next hs hs' (segmenter.declaration_of_next hs hs') hlt
  rw [hindex] at hkept
  have hmem' := h.mem_of_mem_segment hmem hkept
  exact ⟨hmem', h.forall_state_ne hd hmem hmem'
    (hd.text_view_eq hd' hlines hmem hmem' (Nat.lt_succ_self _))⟩

variable (hheight : d.index.height < UInt32.size) (hheight' : d'.index.height < UInt32.size)
include hheight hheight'

/-- A section with an anchor in the shared lines stays. If the next section is declared in them, the
section stays as it is and nothing is told of it. -/
theorem local_of_shares (hlines : LineIndex.SharesLines k d.index d'.index)
    (hold : d.sections[i]? = some old) :
    ((∃ l < k, old.current.IsAnchor d.index l) → d'.Reuses old) ∧
      ∀ (next : SectionState) (e : Nat), d.sections[i + 1]? = some next →
        next.current.declaration = some e → e < k →
          old ∈ d'.sections ∧ ∀ n ∈ ns, n.state ≠ old.key := by
  have hs := hd.getElem?_segment hold
  constructor
  · rintro ⟨l, hl, hanchor⟩
    have hat := segmenter.hasContentAt_of_isAnchor (List.mem_of_getElem? hs) hanchor
    have hparts :=
      segmenter.partsBelow_segment hheight hheight' hlines.sharesContents ⟨l, hl, hat⟩
    rw [hindex] at hparts
    refine h.reuses (List.mem_of_getElem? hold)
      (hparts.exists_sameIdentity (List.mem_of_getElem? hs) fun m hm => ?_)
    rwa [hanchor.declaration_eq hm]
  · intro next e hnext hdeclaration he
    have hs' := hd.getElem?_segment hnext
    have hat := (segmenter.declaresAt_of_mem_segment (List.mem_of_getElem? hs')
      hdeclaration).hasContentAt
    obtain rfl : old.current.stop + 1 = e :=
      Option.some.inj ((segmenter.declaration_of_next hs hs').symm.trans hdeclaration)
    exact h.silent_of_partsBelow hd hd' hindex
      (segmenter.partsBelow_segment hheight hheight' hlines.sharesContents ⟨_, he, hat⟩) hold
      hnext he fun l hl => hlines l (Nat.lt_trans hl he)

/-- What is put behind a text that ends in a break and has content leaves all sections where they
are, and tells at most of the last one that it was updated. -/
theorem local_of_append {more : String} (hmore : text = d.text ++ more)
    (hbreak : d.index.hasTrailingBreak = true) (hcontent : ∃ l, d.index.HasContentAt l)
    (hold : d.sections[i]? = some old) :
    d'.Reuses old ∧
      ∀ n ∈ ns, n.state = old.key → n.change = .updated ∧ i + 1 = d.sections.length := by
  have hchars : d'.index.chars = d.index.chars ++ more.toList := by
    rw [hindex, hmore]
    exact String.toList_append
  have hs := hd.getElem?_segment hold
  have hmem := List.mem_of_getElem? hold
  obtain ⟨l, hat⟩ := hcontent
  -- Every line of the text that has content is above its last line.
  have hparts := segmenter.partsBelow_segment hheight hheight'
    (LineIndex.sharesContents_append hchars) ⟨l, hat.lt_lastLine hbreak, hat⟩
  have hreuses : d'.Reuses old := by
    have hparts' := hparts
    rw [hindex] at hparts'
    refine h.reuses hmem (hparts'.exists_sameIdentity (List.mem_of_getElem? hs) fun m hm => ?_)
    exact (segmenter.declaresAt_of_mem_segment (List.mem_of_getElem? hs)
      hm).hasContentAt.lt_lastLine hbreak
  refine ⟨hreuses, fun n hn hstate => ⟨h.change_eq_updated hmem hreuses n hn hstate, ?_⟩⟩
  by_contra hne
  have hlength := (List.getElem?_eq_some_iff.1 hold).1
  obtain ⟨next, hnext⟩ : ∃ next, d.sections[i + 1]? = some next :=
    ⟨_, List.getElem?_eq_getElem (by omega)⟩
  have hs' := hd.getElem?_segment hnext
  have hbelow := (segmenter.declaresAt_of_mem_segment (List.mem_of_getElem? hs')
    (segmenter.declaration_of_next hs hs')).hasContentAt.lt_lastLine hbreak
  have hlines := LineIndex.sharesLines_append hchars
  exact (h.silent_of_partsBelow hd hd' hindex hparts hold hnext hbelow
    fun l hl => hlines l (by omega)).2 n hn hstate

end Reconciled

end Document

namespace Workspace

/-- Changing the text of an open document puts the revised one in its place and tells of it. -/
theorem Reachable.exists_revised {grammars : GrammarRegistry} {segmenter : Segmenter}
    {w : Workspace}
    (hw : Reachable grammars segmenter w) {id : String} {d : Document}
    (hd : w.document? id = some d) (text : String) :
    ∃ w' : Workspace, w.replace id text = .ok (w', (d.revise text segmenter).2) ∧
      w.changeText id text = .ok (w'.deliver (d.revise text segmenter).2) ∧
        w'.document? id = some (d.revise text segmenter).1 ∧ w'.WellFormed ∧
          w'.journal = w.journal := by
  have hreplace := replace_eq_of_some hd text
  have hwell := hw.wellFormed.replace hd text
  rw [hw.shared.2] at hreplace hwell
  refine ⟨_, hreplace, ?_, ?_, hwell, rfl⟩
  · rw [changeText, hreplace]
    rfl
  · rw [document?, Dictionary.find?_insert, if_pos rfl]

end Workspace

end Polyglot
