import Polyglot.Proofs.Workspace.Revision

/-!
# What edits make of views

A view that has content belongs to a section of an open document (`WellFormed.exists_of_view?`).
After an edit and before the handlers are told, such a view is new and has no properties, or it was
there before with the same properties; and unless its handler is to be told that it was updated,
it shows the same section and the same text as before (`WellFormed.view?_effect`).
-/

set_option autoImplicit false

namespace Polyglot

namespace Workspace

variable {w : Workspace}

/-- A view with content belongs to a section of an open document. -/
theorem WellFormed.exists_of_view? (hw : w.WellFormed) {key : SectionKey} {view : SectionView}
    (hview : w.view? key = some view) (hattached : view.isAttached = true) :
    ∃ (id : String) (d : Document) (state : SectionState),
      w.document? id = some d ∧ state ∈ d.sections ∧ state.key = key ∧ d.view state = view := by
  unfold view? at hview
  obtain ⟨d, hd, hrest⟩ := Option.bind_eq_some_iff.1 hview
  obtain ⟨state, hfound, hstate⟩ := Option.bind_eq_some_iff.1 hrest
  obtain rfl := Option.some.inj hstate
  have hkey : state.key = key := by
    unfold Document.state? at hfound
    simpa using List.find?_some hfound
  have hmem : state ∈ d.sections ++ d.former := List.mem_of_find?_eq_some hfound
  have hstays : state.attached = true := by
    cases hdetached : state.attached with
    | true => rfl
    | false =>
        simp only [SectionView.isAttached, Document.view, hdetached] at hattached
        cases hattached
  unfold documentOf? at hd
  rcases Option.or_eq_some_iff.1 hd with hopen | ⟨_, hretired⟩
  · have hdocument := ((openDocument?_eq_some_iff key.document d).1 hopen).1
    refine ⟨key.document.id, d, state, hdocument, ?_, hkey, rfl⟩
    rcases List.mem_append.1 hmem with hsection | hformer
    · exact hsection
    · rw [(hw.opened _ d hdocument).detached state hformer] at hstays
      cases hstays
  · have hreleased := hw.released d (List.mem_of_find?_eq_some hretired)
    rw [hreleased.detached state hmem] at hstays
    cases hstays

/-- An edit leaves the documents of other identifiers alone. -/
theorem document?_effect_of_ne {e : Edit} {id : String} (hne : e.id ≠ id) :
    (w.effect e).1.document? id = w.document? id := by
  cases e with
  | openText other text =>
      change other ≠ id at hne
      have hinstall := document?_install (w := w) other text id
      rw [if_neg hne] at hinstall
      exact hinstall
  | changeText other text =>
      change other ≠ id at hne
      cases hd : w.document? other with
      | none => rw [effect_changeText_of_none hd]
      | some d =>
          rw [effect_changeText_of_some hd, document?, Dictionary.find?_insert, if_neg hne]
          rfl
  | close other =>
      change other ≠ id at hne
      cases hd : w.document? other with
      | none => rw [effect_close_of_none hd]
      | some d =>
          have hretire := document?_retire (w := w) other id
          rw [if_neg hne] at hretire
          rw [effect_close_of_some hd]
          exact hretire

/-- The effect of a change on an open document is the revised one. -/
theorem document?_effect_changeText {id : String} {d : Document} (hd : w.document? id = some d)
    (text : String) :
    (w.effect (.changeText id text)).1.document? id = some (d.revise text w.segmenter).1 := by
  rw [effect_changeText_of_some hd, document?, Dictionary.find?_insert, if_pos rfl]

/-- The states of an open document have its identifier. -/
theorem WellFormed.document_id_eq (hw : w.WellFormed) {id : String} {d : Document}
    (hd : w.document? id = some d) {state : SectionState} (hstate : state ∈ d.sections) :
    state.key.document.id = id := by
  rw [(hw.opened id d hd).key_document state (List.mem_append_left _ hstate)]
  exact hw.id_eq id d hd

/-- The handlers are told only of states that the edited document has or had. -/
theorem WellFormed.document_id_of_mem_effect (hw : w.WellFormed) {e : Edit} {n : Notification}
    (hn : n ∈ (w.effect e).2) : n.state.document.id = e.id := by
  have hw' := hw.effect e
  have htold : ∀ (w : Workspace) (id : String) (d : Document) (change : SectionChange),
      w.WellFormed → w.document? id = some d → n ∈ d.notifications change →
        n.state.document.id = id := by
    intro w id d change hw hd hmem
    obtain ⟨state, hstate, rfl⟩ := List.mem_map.1 hmem
    exact hw.document_id_eq hd hstate
  cases e with
  | openText id text =>
      have hd' := document?_install (w := w) id text id
      rw [if_pos rfl] at hd'
      rcases List.mem_append.1 hn with hremoved | hcreated
      · change n ∈ (w.retire id).2 at hremoved
        cases hd : w.document? id with
        | none =>
            rw [retire_eq_of_none hd] at hremoved
            cases hremoved
        | some d =>
            rw [retire_eq_of_some hd] at hremoved
            exact htold w id d .removed hw hd hremoved
      · exact htold _ id _ .created hw' hd' hcreated
  | changeText id text =>
      cases hd : w.document? id with
      | none =>
          rw [effect_changeText_of_none hd] at hn
          cases hn
      | some d =>
          have hd' := document?_effect_changeText hd text
          rw [effect_changeText_of_some hd] at hn
          rcases ((hw.opened id d hd).mem_notifications_iff text n).1 hn with
            ⟨old, hold, _, rfl⟩ | ⟨state, hstate, ⟨_, rfl⟩ | ⟨_, _, _, _, rfl⟩⟩
          · exact hw.document_id_eq hd hold
          · exact hw'.document_id_eq hd' hstate
          · exact hw'.document_id_eq hd' hstate
  | close id =>
      cases hd : w.document? id with
      | none =>
          rw [effect_close_of_none hd] at hn
          cases hn
      | some d =>
          rw [effect_close_of_some hd] at hn
          exact htold w id d .removed hw hd hn

/-- How a view with content came out of an edit, given what the handlers are to be told: it is new,
or it was there before. -/
inductive Survives (w : Workspace) (key : SectionKey) (view : SectionView)
    (ns : List Notification) : Prop where
  | fresh (created : ⟨key, .created⟩ ∈ ns) (properties_eq : view.properties = ∅)
  | kept (old : SectionView) (found : w.view? key = some old) (attached : old.isAttached = true)
      (properties_eq : old.properties = view.properties)
      (grammar_eq : old.current.grammar = view.current.grammar)
      (not_created : ⟨key, .created⟩ ∉ ns)
      (same : ⟨key, .updated⟩ ∉ ns → old.documentId = view.documentId ∧
        old.current = view.current ∧ old.text = view.text)

/-- The state of a revised document is fresh, or it is an old one with what it held. -/
theorem WellFormed.survives_revise (hw : w.WellFormed) {id : String} {d : Document}
    (hd : w.document? id = some d) (text : String) {state : SectionState}
    (hstate : state ∈ (d.revise text w.segmenter).1.sections) :
    Survives w state.key ((d.revise text w.segmenter).1.view state)
      (d.revise text w.segmenter).2 := by
  have hwell := hw.opened id d hd
  have hreconciled := hwell.reconciled_revise text
  have htold := hreconciled.mem_notifications_iff
  by_cases hreused : ∃ old ∈ d.sections, state.key = old.key
  · obtain ⟨old, hold, hsame⟩ := hreused
    have hidentity := (hreconciled.reused_iff old hold state hstate).1 hsame
    have hstate' := hreconciled.eq_of_reused old hold state hstate hsame
    have hfound := hw.view?_eq_some hd (List.mem_append_left _ hold)
    rw [← hsame] at hfound
    refine .kept (d.view old) hfound ?_ ?_ (Section.sameIdentity_iff.1 hidentity).1 ?_ ?_
    · rw [SectionView.isAttached, hwell.content?_view hold]
      rfl
    · rw [hstate']
      rfl
    · intro hcreated
      rcases (htold _).1 hcreated with
        ⟨_, _, _, hn⟩ | ⟨other, _, hfresh, hn⟩ | ⟨_, _, _, _, _, _, hn⟩
      · cases congrArg Notification.change hn
      · have hother : state.key = other.key := congrArg Notification.state hn
        exact hfresh old hold (hother.symm.trans hsame)
      · cases congrArg Notification.change hn
    · intro hupdated
      have hunchanged : ¬(old.current ≠ state.current ∨
          (d.view old).text ≠ ((d.revise text w.segmenter).1.view state).text) := by
        intro hchanged
        exact hupdated ((htold _).2
          (Or.inr (Or.inr ⟨old, hold, state, hstate, hsame, hchanged, rfl⟩)))
      rw [not_or, not_not, not_not] at hunchanged
      exact ⟨rfl, hunchanged⟩
  · have hfresh : ∀ old ∈ d.sections, state.key ≠ old.key :=
      fun old hold hsame => hreused ⟨old, hold, hsame⟩
    obtain ⟨place, hplace⟩ := List.mem_iff_getElem?.1 hstate
    have hstate' := (hreconciled.eq_of_fresh place state hplace hfresh).1
    refine .fresh ((htold _).2 (Or.inr (Or.inl ⟨state, hstate, hfresh, rfl⟩))) ?_
    rw [hstate']
    rfl

/-- A view with content is new after an edit, or it was there before with the same properties. -/
theorem WellFormed.view?_effect (hw : w.WellFormed) (e : Edit) {key : SectionKey}
    {view : SectionView} (hview : (w.effect e).1.view? key = some view)
    (hattached : view.isAttached = true) : Survives w key view (w.effect e).2 := by
  obtain ⟨id, d', state, hd', hstate, rfl, rfl⟩ := (hw.effect e).exists_of_view? hview hattached
  by_cases heq : e.id = id
  · subst heq
    cases e with
    | openText id text =>
        have hinstall := document?_install (w := w) id text id
        rw [if_pos rfl] at hinstall
        obtain rfl := Option.some.inj (hinstall.symm.trans hd')
        refine .fresh (List.mem_append_right _ (List.mem_map_of_mem hstate)) ?_
        obtain ⟨s, _, rfl⟩ := List.mem_map.1 hstate
        rfl
    | changeText id text =>
        cases hd : w.document? id with
        | none =>
            rw [effect_changeText_of_none hd] at hd'
            cases hd.symm.trans hd'
        | some d =>
            have hput := document?_effect_changeText hd text
            obtain rfl := Option.some.inj (hput.symm.trans hd')
            rw [effect_changeText_of_some hd]
            exact hw.survives_revise hd text hstate
    | close id =>
        cases hd : w.document? id with
        | none =>
            rw [effect_close_of_none hd] at hd'
            cases hd.symm.trans hd'
        | some d =>
            have hretire := document?_retire (w := w) id id
            rw [if_pos rfl] at hretire
            rw [effect_close_of_some hd] at hd'
            cases hretire.symm.trans hd'
  · -- The edit concerns another document.
    have hd : w.document? id = some d' := (document?_effect_of_ne heq).symm.trans hd'
    have hfound := hw.view?_eq_some hd (List.mem_append_left _ hstate)
    have hother : ∀ change, (⟨state.key, change⟩ : Notification) ∉ (w.effect e).2 := by
      intro change hmem
      have hid := hw.document_id_of_mem_effect hmem
      exact heq (hid.symm.trans (hw.document_id_eq hd hstate))
    exact .kept _ hfound hattached rfl rfl (hother .created) fun _ => ⟨rfl, rfl, rfl⟩

end Workspace

end Polyglot
