import Polyglot.Proofs.Workspace.Remembered

/-!
# Handles of states

A handle is the identity of a state that an open document had at some moment. It has an owner
exactly as long as the document that is open under its identifier holds the state
(`WellFormed.owner?_eq_some_iff`). As long as it has one, all that is read through the handle is
read from the owner's text as it is now (`SectionView.Shows`), and afterwards every reading fails
(`SectionView.Fails`), however old the handle is (`handle_shows_current`).
-/

set_option autoImplicit false

namespace Polyglot

namespace SectionView

/-- The view shows the section that the document now has at the place of the state, in the present
text and at the present revision. -/
structure Shows (view : SectionView) (segmenter : Segmenter) (key : SectionKey) (d : Document) :
    Prop where
  current_at : ∃ place : Nat, d.stateKeys[place]? = some key ∧
    (segmenter.segment (.ofText d.text))[place]? = some view.current
  withIndex_eq : ∀ {β : Type} (f : LineIndex → Section → Except Error β),
    view.withIndex f = f (.ofText d.text) view.current
  text_eq : ∃ text, view.text = .ok text ∧
    (LineIndex.ofText d.text).lines view.current.start view.current.stop = .ok text
  interval_eq : view.interval = .ok (view.current.interval (.ofText d.text))
  location_eq : view.location = .ok ⟨d.id, view.current.interval (.ofText d.text)⟩
  revision_eq : view.revision = .ok d.revision

/-- Whatever needs the content of the document fails, for no document is open under the identifier
that has the section. -/
structure Fails (view : SectionView) (id : String) : Prop where
  withIndex_eq : ∀ {β : Type} (f : LineIndex → Section → Except Error β),
    view.withIndex f = .error (.unknownDocument id)
  text_eq : view.text = .error (.unknownDocument id)
  interval_eq : view.interval = .error (.unknownDocument id)
  location_eq : view.location = .error (.unknownDocument id)
  revision_eq : view.revision = .error (.unknownDocument id)

/-- A view of a section that is not attached fails to give its text. -/
theorem fails_of_not_isAttached {view : SectionView} (h : view.isAttached = false) :
    view.Fails view.documentId := by
  have hnone : view.content? = none := by simpa [isAttached] using h
  have hcontent : view.content = .error (.unknownDocument view.documentId) := by
    rw [content, hnone]
  have hwithIndex : ∀ {β : Type} (f : LineIndex → Section → Except Error β),
      view.withIndex f = .error (.unknownDocument view.documentId) := by
    intro β f
    rw [withIndex, hcontent]
    rfl
  have hinterval := view.interval_eq_withIndex
  rw [hwithIndex] at hinterval
  refine ⟨hwithIndex, ?_, hinterval, ?_, ?_⟩
  · rw [text_eq_withIndex]
    exact hwithIndex _
  · rw [location, hinterval]
    rfl
  · rw [revision, hcontent]
    rfl

end SectionView

namespace Document

variable {segmenter : Segmenter} {d : Document}

/-- The view of a section of a document shows this section. -/
theorem WellFormed.shows_view (h : d.WellFormed segmenter) {state : SectionState}
    (hstate : state ∈ d.sections) : (d.view state).Shows segmenter state.key d := by
  have hindex : LineIndex.ofText d.text = d.index := d.index.eq_ofText.symm
  have hcontent : (d.view state).content = .ok ⟨d.index, d.revision⟩ := by
    rw [SectionView.content, h.content?_view hstate]
  have hwithIndex : ∀ {β : Type} (f : LineIndex → Section → Except Error β),
      (d.view state).withIndex f = f d.index state.current := by
    intro β f
    rw [SectionView.withIndex, hcontent]
    rfl
  have hinterval := (d.view state).interval_eq_withIndex
  rw [hwithIndex] at hinterval
  obtain ⟨text, htext⟩ := h.exists_text hstate
  refine ⟨?_, ?_, ⟨text, htext, ?_⟩, ?_, ?_, ?_⟩
  · obtain ⟨place, hplace⟩ := List.mem_iff_getElem?.1 hstate
    refine ⟨place, ?_, ?_⟩
    · rw [stateKeys, List.getElem?_map, hplace]
      rfl
    · rw [hindex, ← h.current_eq, List.getElem?_map, hplace]
      rfl
  · intro β f
    rw [hindex]
    exact hwithIndex f
  · rw [SectionView.text_eq_withIndex, hwithIndex] at htext
    rw [hindex]
    exact htext
  · rw [hindex]
    exact hinterval
  · rw [hindex, SectionView.location, hinterval]
    rfl
  · rw [SectionView.revision, hcontent]
    rfl

end Document

namespace Workspace

variable {w : Workspace}

/-- A state has an owner exactly if its view has content. -/
theorem isSome_owner? {key : SectionKey} {view : SectionView} (hview : w.view? key = some view) :
    (w.owner? key).isSome = view.isAttached := by
  unfold view? at hview
  obtain ⟨d, hd, hrest⟩ := Option.bind_eq_some_iff.1 hview
  obtain ⟨state, hfound, hstate⟩ := Option.bind_eq_some_iff.1 hrest
  obtain rfl := Option.some.inj hstate
  rw [owner?, hd]
  simp only [Option.bind_eq_bind, Option.bind_some, hfound, SectionView.isAttached, Document.view]
  cases state.attached <;> rfl

/-- The owner of a state is the document that is open under its identifier and holds the state. -/
theorem WellFormed.owner?_eq_some_iff (hw : w.WellFormed) (key : SectionKey) (d : Document) :
    w.owner? key = some d ↔ w.document? key.document.id = some d ∧ key ∈ d.stateKeys := by
  constructor
  · intro howner
    unfold owner? at howner
    obtain ⟨found, hfound, hrest⟩ := Option.bind_eq_some_iff.1 howner
    obtain ⟨state, hstate, hattached⟩ := Option.bind_eq_some_iff.1 hrest
    split at hattached
    · rename_i hstays
      obtain rfl := Option.some.inj hattached
      have hview : w.view? key = some (found.view state) := by
        rw [view?, hfound]
        simp only [Option.bind_eq_bind, Option.bind_some, hstate]
        rfl
      have hcontent : (found.view state).isAttached = true := by
        simp only [SectionView.isAttached, Document.view, hstays]
        rfl
      obtain ⟨d, hd, hkey⟩ := (hw.holds_iff_attached key).2 ⟨_, hview, hcontent⟩
      -- The document that the key names is the one that is open.
      have hsame : d = found := by
        have hopen := documentOf?_of_document? hd (hw.id_eq _ d hd)
        rw [← (hw.opened _ d hd).document_eq_of_mem_stateKeys hkey] at hopen
        exact Option.some.inj (hopen.symm.trans hfound)
      rw [← hsame]
      exact ⟨hd, hkey⟩
    · cases hattached
  · rintro ⟨hd, hkey⟩
    obtain ⟨state, hstate, rfl⟩ := List.mem_map.1 hkey
    have hwell := hw.opened _ d hd
    have hmem : state ∈ d.sections ++ d.former := List.mem_append_left _ hstate
    have hfound := documentOf?_of_document? hd (hw.id_eq _ d hd)
    rw [← hwell.key_document state hmem] at hfound
    rw [owner?, hfound]
    simp only [Option.bind_eq_bind, Option.bind_some, hwell.state?_eq_some hmem,
      hwell.attached state hstate, if_true]

/-- A view that has an owner shows the section as the owner has it. -/
theorem WellFormed.shows_of_owner? (hw : w.WellFormed) {key : SectionKey} {view : SectionView}
    (hview : w.view? key = some view) {d : Document} (howner : w.owner? key = some d) :
    view.Shows w.segmenter key d := by
  obtain ⟨hd, hkey⟩ := (hw.owner?_eq_some_iff key d).1 howner
  obtain ⟨state, hstate, rfl⟩ := List.mem_map.1 hkey
  have hfound := hw.view?_eq_some hd (List.mem_append_left _ hstate)
  obtain rfl := Option.some.inj (hview.symm.trans hfound)
  exact (hw.opened _ d hd).shows_view hstate

/-- A handle of a state that a document had at any earlier moment of a run: it has an owner exactly
if the document that is now open under its identifier holds the state, and this document is the
owner. With an owner all that is read through the handle describes the section in the owner's
present text, and without one all readings fail with the unknown document. -/
theorem handle_shows_current (grammars : GrammarRegistry) (segmenter : Segmenter)
    (es later : List Edit) (id : String) (d : Document)
    (hd : ((Workspace.empty grammars segmenter).run es).document? id = some d)
    (state : SectionState) (hstate : state ∈ d.sections) :
    ∃ view, ((Workspace.empty grammars segmenter).run (es ++ later)).view? state.key = some view ∧
      (∀ owner, ((Workspace.empty grammars segmenter).run (es ++ later)).owner? state.key =
          some owner ↔
        ((Workspace.empty grammars segmenter).run (es ++ later)).document? id = some owner ∧
          state.key ∈ owner.stateKeys) ∧
      (∀ owner, ((Workspace.empty grammars segmenter).run (es ++ later)).owner? state.key =
        some owner → view.Shows segmenter state.key owner) ∧
      (((Workspace.empty grammars segmenter).run (es ++ later)).owner? state.key = none →
        view.Fails id) := by
  have hearlier : Reachable grammars segmenter ((Workspace.empty grammars segmenter).run es) :=
    Reachable.empty.run es
  have hnow : Reachable grammars segmenter
      ((Workspace.empty grammars segmenter).run (es ++ later)) := Reachable.empty.run _
  have hw := hnow.wellFormed
  have hfirst := hearlier.wellFormed.view?_eq_some hd (List.mem_append_left _ hstate)
  obtain ⟨view, hview, hid, _⟩ := hearlier.wellFormed.exists_view?_run later hfirst
  rw [← run_append] at hview
  have hdocument : state.key.document.id = id := hearlier.wellFormed.document_id_eq hd hstate
  refine ⟨view, hview, ?_, ?_, ?_⟩
  · intro owner
    rw [hw.owner?_eq_some_iff, hdocument]
  · intro owner howner
    have hshows := hw.shows_of_owner? hview howner
    rw [hnow.shared.2] at hshows
    exact hshows
  · intro howner
    have hattached := isSome_owner? hview
    rw [howner] at hattached
    have hfails := SectionView.fails_of_not_isAttached hattached.symm
    have hsame : view.documentId = id := by
      rw [hid]
      exact hearlier.wellFormed.id_eq id d hd
    rw [hsame] at hfails
    exact hfails

/-- A change that keeps the first of two sections and drops the second. -/
def keepFirst : List Edit × List Edit :=
  ([.openText "notes" "intro\n###Mapping\nx"], [.changeText "notes" "outro\n###Query\nx"])

/-- A handle that is kept shows the section after more edits, and one that is dropped fails. -/
theorem handle_shows_current_keepFirst :
    ∃ (d : Document) (kept dropped : SectionState) (owner : Document)
      (keptView droppedView : SectionView),
      ((Workspace.empty .empty default).run keepFirst.1).document? "notes" = some d ∧
      kept ∈ d.sections ∧ dropped ∈ d.sections ∧
      ((Workspace.empty .empty default).run (keepFirst.1 ++ keepFirst.2)).view? kept.key =
        some keptView ∧
      keptView.Shows default kept.key owner ∧ owner.text = "outro\n###Query\nx" ∧
      ((Workspace.empty .empty default).run (keepFirst.1 ++ keepFirst.2)).view? dropped.key =
        some droppedView ∧
      droppedView.Fails "notes" := by
  have hkeys : (((Workspace.empty .empty default).run keepFirst.1).document? "notes").map
      Document.stateKeys = some [⟨⟨"notes", 0⟩, 0, 0⟩, ⟨⟨"notes", 0⟩, 0, 1⟩] := by decide +kernel
  have howner : (((Workspace.empty .empty default).run (keepFirst.1 ++ keepFirst.2)).owner?
      ⟨⟨"notes", 0⟩, 0, 0⟩).map Document.text = some "outro\n###Query\nx" := by decide +kernel
  have hnone : (((Workspace.empty .empty default).run (keepFirst.1 ++ keepFirst.2)).owner?
      ⟨⟨"notes", 0⟩, 0, 1⟩).map Document.text = none := by decide +kernel
  obtain ⟨d, hd, hstates⟩ := Option.map_eq_some_iff.1 hkeys
  obtain ⟨owner, howner, htext⟩ := Option.map_eq_some_iff.1 howner
  have hfirst : (⟨⟨"notes", 0⟩, 0, 0⟩ : SectionKey) ∈ d.stateKeys := by simp [hstates]
  have hsecond : (⟨⟨"notes", 0⟩, 0, 1⟩ : SectionKey) ∈ d.stateKeys := by simp [hstates]
  obtain ⟨kept, hkept, hkey⟩ := List.mem_map.1 hfirst
  obtain ⟨dropped, hdropped, hkey'⟩ := List.mem_map.1 hsecond
  obtain ⟨keptView, hview, _, hshows, _⟩ := handle_shows_current .empty default keepFirst.1
    keepFirst.2 "notes" d hd kept hkept
  obtain ⟨droppedView, hview', _, _, hfails⟩ := handle_shows_current .empty default keepFirst.1
    keepFirst.2 "notes" d hd dropped hdropped
  rw [hkey] at hshows
  rw [hkey'] at hfails
  refine ⟨d, kept, dropped, owner, keptView, droppedView, hd, hkept, hdropped, hview, ?_, htext,
    hview', hfails (Option.map_eq_none_iff.1 hnone)⟩
  rw [hkey]
  exact hshows owner howner

end Workspace

end Polyglot
