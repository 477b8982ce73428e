import Polyglot.Proofs.Workspace.Membership

/-!
# Remembered documents

Documents that were closed or replaced are remembered, and so are the states that edits dropped. The
views of a workspace are those of the states of remembered documents
(`WellFormed.view?_eq_some_iff`). A state that was found once is found after any run of edits
(`WellFormed.exists_view?_run`), and no identity is used for two states
(`WellFormed.view?_eq_none_of_enters`).
-/

set_option autoImplicit false

namespace Polyglot

namespace Document

variable {segmenter : Segmenter} {d d' : Document}

/-- Each state of the first document, present or former, is found in the second, with its
grammar. -/
def Keeps (d d' : Document) : Prop :=
  d'.key = d.key ∧ ∀ state ∈ d.sections ++ d.former, ∃ state' ∈ d'.sections ++ d'.former,
    state'.key = state.key ∧ state'.current.grammar = state.current.grammar

/-- A document keeps itself. -/
theorem keeps_self (d : Document) : d.Keeps d :=
  ⟨rfl, fun state hstate => ⟨state, hstate, rfl, rfl⟩⟩

/-- A document keeps its states when it is released. -/
theorem keeps_release (d : Document) : d.Keeps d.release := by
  refine ⟨rfl, fun state hstate => ?_⟩
  rcases List.mem_append.1 hstate with hsection | hformer
  · exact ⟨state.detach, List.mem_append_left _ (List.mem_map_of_mem hsection), rfl, rfl⟩
  · exact ⟨state, List.mem_append_right _ hformer, rfl, rfl⟩

/-- A document keeps its states when it is revised. -/
theorem WellFormed.keeps_revise (h : d.WellFormed segmenter) (text : String) :
    d.Keeps (d.revise text segmenter).1 := by
  have hreconciled := h.reconciled_revise text
  refine ⟨rfl, fun state hstate => ?_⟩
  rcases List.mem_append.1 hstate with hsection | hformer
  · by_cases hkept : ∃ new ∈ (d.revise text segmenter).1.sections, new.key = state.key
    · obtain ⟨new, hnew, hkey⟩ := hkept
      have hsame := (hreconciled.reused_iff state hsection new hnew).1 hkey
      have hgrammar := (Section.sameIdentity_iff.1 hsame).1
      exact ⟨new, List.mem_append_left _ hnew, hkey, hgrammar.symm⟩
    · -- The state was dropped, and is a former one now.
      have hnone : ∀ new ∈ (d.revise text segmenter).1.sections, new.key ≠ state.key := by
        intro new hnew hkey
        exact hkept ⟨new, hnew, hkey⟩
      have hunmatched := (h.mem_unmatched_iff text state).2 ⟨hsection, hnone⟩
      have hdropped : state.detach ∈ (d.revise text segmenter).1.former := by
        rw [h.former_revise text]
        exact List.mem_append_right _ (List.mem_map_of_mem hunmatched)
      exact ⟨state.detach, List.mem_append_right _ hdropped, rfl, rfl⟩
  · have hstays : state ∈ (d.revise text segmenter).1.former := by
      rw [h.former_revise text]
      exact List.mem_append_left _ hformer
    exact ⟨state, List.mem_append_right _ hstays, rfl, rfl⟩

end Document

namespace Workspace

variable {w : Workspace}

/-- The document is open, or was and is retired. -/
def Remembers (w : Workspace) (d : Document) : Prop :=
  w.document? d.id = some d ∨ d ∈ w.retired

/-- The states of a remembered document have keys of their own. -/
theorem WellFormed.nodup_of_remembers (hw : w.WellFormed) {d : Document} (hd : w.Remembers d) :
    ((d.sections ++ d.former).map SectionState.key).Nodup := by
  rcases hd with hopen | hretired
  · exact (hw.opened d.id d hopen).nodup
  · exact (hw.released d hretired).nodup

/-- The keys of the states of a remembered document name this document. -/
theorem WellFormed.document_eq_of_remembers (hw : w.WellFormed) {d : Document}
    (hd : w.Remembers d) {state : SectionState} (hstate : state ∈ d.sections ++ d.former) :
    state.key.document = d.key := by
  rcases hd with hopen | hretired
  · exact (hw.opened d.id d hopen).key_document state hstate
  · exact (hw.released d hretired).key_document state hstate

/-- A remembered document was opened before the next one will be. -/
theorem WellFormed.opening_lt_of_remembers (hw : w.WellFormed) {d : Document}
    (hd : w.Remembers d) : d.key.opening < w.nextRevision d.id := by
  rcases hd with hopen | hretired
  · have hle := (hw.opened d.id d hopen).opening_le
    simp only [nextRevision, hopen]
    omega
  · exact Nat.lt_of_lt_of_le (hw.retired_lt d hretired) (horizon_le_nextRevision hw d.id)

/-- A remembered document is found under its key. -/
theorem WellFormed.documentOf?_of_remembers (hw : w.WellFormed) {d : Document}
    (hd : w.Remembers d) : w.documentOf? d.key = some d := by
  rcases hd with hopen | hretired
  · exact documentOf?_of_document? hopen rfl
  · -- An open document with this key would have been opened after the retired one.
    have hclosed : w.openDocument? d.key = none := by
      cases hother : w.openDocument? d.key with
      | none => rfl
      | some other =>
          obtain ⟨hopen, hkey⟩ := (openDocument?_eq_some_iff d.key other).1 hother
          have hbelow := hw.retired_lt d hretired
          have hopen' : w.document? d.id = some other := hopen
          have hhorizon : w.horizon d.id = d.key.opening := by
            rw [horizon, hopen', ← hkey]
          omega
    rw [documentOf?, hclosed, Option.none_or]
    exact Document.find?_key_eq_some hw.retired_nodup hretired

/-- A document that is known under a key is remembered. -/
theorem remembers_of_documentOf? {key : DocumentKey} {d : Document}
    (hd : w.documentOf? key = some d) : w.Remembers d := by
  have hkey := key_of_documentOf? hd
  unfold documentOf? at hd
  rcases Option.or_eq_some_iff.1 hd with hopen | ⟨_, hretired⟩
  · have hdocument := ((openDocument?_eq_some_iff key d).1 hopen).1
    refine Or.inl ?_
    rw [Document.id, hkey]
    exact hdocument
  · exact Or.inr (List.mem_of_find?_eq_some hretired)

/-- The views are those of the states of remembered documents. -/
theorem WellFormed.view?_eq_some_iff (hw : w.WellFormed) (key : SectionKey) (view : SectionView) :
    w.view? key = some view ↔ ∃ d, w.Remembers d ∧
      ∃ state ∈ d.sections ++ d.former, state.key = key ∧ d.view state = view := by
  constructor
  · intro hview
    unfold view? at hview
    obtain ⟨d, hd, hrest⟩ := Option.bind_eq_some_iff.1 hview
    obtain ⟨state, hfound, hstate⟩ := Option.bind_eq_some_iff.1 hrest
    unfold Document.state? at hfound
    have hkey : state.key = key := by simpa using List.find?_some hfound
    exact ⟨d, remembers_of_documentOf? hd, state, List.mem_of_find?_eq_some hfound, hkey,
      Option.some.inj hstate⟩
  · rintro ⟨d, hd, state, hstate, rfl, rfl⟩
    have hfound := hw.documentOf?_of_remembers hd
    rw [← hw.document_eq_of_remembers hd hstate] at hfound
    have hstate' : d.state? state.key = some state :=
      Document.find?_key_eq_some (hw.nodup_of_remembers hd) hstate
    rw [view?, hfound]
    simp only [Option.bind_eq_bind, Option.bind_some, hstate']
    rfl

/-! ## States are never forgotten -/

/-- Retired documents stay retired through the effect of an edit. -/
theorem mem_retired_effect (e : Edit) {d : Document} (hd : d ∈ w.retired) :
    d ∈ (w.effect e).1.retired := by
  have hretire : ∀ id, d ∈ (w.retire id).1.retired := by
    intro id
    cases hopen : w.document? id with
    | none =>
        rw [retire_eq_of_none hopen]
        exact hd
    | some other =>
        rw [retire_eq_of_some hopen]
        exact List.mem_append_left _ hd
  cases e with
  | openText id text => exact hretire id
  | changeText id text =>
      cases hopen : w.document? id with
      | none =>
          rw [effect_changeText_of_none hopen]
          exact hd
      | some other =>
          rw [effect_changeText_of_some hopen]
          exact hd
  | close id =>
      cases hopen : w.document? id with
      | none =>
          rw [effect_close_of_none hopen]
          exact hd
      | some other =>
          rw [effect_close_of_some hopen]
          exact hretire id

/-- A document that an edit closes or replaces is retired. -/
theorem release_mem_retired {id : String} {d : Document} (hd : w.document? id = some d) :
    d.release ∈ (w.retire id).1.retired := by
  rw [retire_eq_of_some hd]
  exact List.mem_append_right _ (List.mem_singleton.2 rfl)

/-- After an edit, a document is remembered with all its states. -/
theorem WellFormed.exists_keeps_effect (hw : w.WellFormed) (e : Edit) {d : Document}
    (hd : w.Remembers d) : ∃ d', (w.effect e).1.Remembers d' ∧ d.Keeps d' := by
  rcases hd with hopen | hretired
  · by_cases hid : e.id = d.id
    · cases e with
      | openText id text =>
          obtain rfl : id = d.id := hid
          exact ⟨d.release, Or.inr (release_mem_retired hopen), d.keeps_release⟩
      | changeText id text =>
          obtain rfl : id = d.id := hid
          refine ⟨_, Or.inl ?_, (hw.opened d.id d hopen).keeps_revise text⟩
          exact document?_effect_changeText hopen text
      | close id =>
          obtain rfl : id = d.id := hid
          refine ⟨d.release, Or.inr ?_, d.keeps_release⟩
          rw [effect_close_of_some hopen]
          exact release_mem_retired hopen
    · have hstays := document?_effect_of_ne (w := w) hid
      exact ⟨d, Or.inl (hstays.trans hopen), d.keeps_self⟩
  · exact ⟨d, Or.inr (mem_retired_effect e hretired), d.keeps_self⟩

/-- A section that has been seen can be seen after the effect of an edit. -/
theorem WellFormed.exists_view?_effect (hw : w.WellFormed) (e : Edit) {key : SectionKey}
    {view : SectionView} (hview : w.view? key = some view) :
    ∃ view', (w.effect e).1.view? key = some view' ∧ view'.documentId = view.documentId ∧
      view'.current.grammar = view.current.grammar := by
  obtain ⟨d, hd, state, hstate, rfl, rfl⟩ := (hw.view?_eq_some_iff key view).1 hview
  obtain ⟨d', hd', hkey, hkeeps⟩ := hw.exists_keeps_effect e hd
  obtain ⟨state', hstate', hsame, hgrammar⟩ := hkeeps state hstate
  refine ⟨d'.view state', ?_, congrArg DocumentKey.id hkey, hgrammar⟩
  exact ((hw.effect e).view?_eq_some_iff _ _).2 ⟨d', hd', state', hstate', hsame, rfl⟩

/-- Handlers that are told of changes change at most the properties of a state. -/
theorem view?_deliver (ns : List Notification) (key : SectionKey) :
    ∃ leave : Properties → Properties, (w.deliver ns).view? key =
      (w.view? key).map fun view => view.withProperties (leave view.properties) := by
  induction ns generalizing w with
  | nil =>
      refine ⟨id, ?_⟩
      have hsame : (fun view : SectionView => view.withProperties (id view.properties)) = id := rfl
      rw [hsame, Option.map_id]
      rfl
  | cons n ns ih =>
      obtain ⟨later, hlater⟩ := ih (w := w.deliverOne n)
      change (w.deliver (n :: ns)).view? key = _ at hlater
      rcases deliverOne_cases w n with ⟨heq, _⟩ | ⟨view, handler, hview, _, heq⟩
      · rw [heq] at hlater
        exact ⟨later, hlater⟩
      · by_cases hkey : n.state = key
        · subst hkey
          refine ⟨fun _ => later (handler.sectionChanged view n.change).properties, ?_⟩
          rw [hlater, heq, view?_absorb, if_pos rfl, Option.map_map]
          rfl
        · refine ⟨later, ?_⟩
          rw [hlater, heq, view?_absorb, if_neg hkey]
          rfl

/-- A section that has been seen can be seen after an edit. -/
theorem WellFormed.exists_view?_apply (hw : w.WellFormed) (e : Edit) {key : SectionKey}
    {view : SectionView} (hview : w.view? key = some view) :
    ∃ view', (w.apply e).view? key = some view' ∧ view'.documentId = view.documentId ∧
      view'.current.grammar = view.current.grammar := by
  obtain ⟨between, hbetween, hid, hgrammar⟩ := hw.exists_view?_effect e hview
  obtain ⟨leave, hleave⟩ := view?_deliver (w := (w.effect e).1) (w.effect e).2 key
  rw [← apply_eq_deliver_effect, hbetween, Option.map_some] at hleave
  exact ⟨_, hleave, hid, hgrammar⟩

/-- A state that was ever found is found after any run of edits. -/
theorem WellFormed.exists_view?_run (hw : w.WellFormed) (es : List Edit) {key : SectionKey}
    {view : SectionView} (hview : w.view? key = some view) :
    ∃ view', (w.run es).view? key = some view' ∧ view'.documentId = view.documentId ∧
      view'.current.grammar = view.current.grammar := by
  induction es generalizing w view with
  | nil => exact ⟨view, hview, rfl, rfl⟩
  | cons e es ih =>
      obtain ⟨between, hbetween, hid, hgrammar⟩ := hw.exists_view?_apply e hview
      obtain ⟨last, hlast, hid', hgrammar'⟩ := ih (hw.apply e) hbetween
      exact ⟨last, hlast, hid'.trans hid, hgrammar'.trans hgrammar⟩

/-! ## Identities are not used again -/

/-- Remembered documents with the same key are the same. -/
theorem WellFormed.eq_of_key_eq (hw : w.WellFormed) {d d' : Document} (hd : w.Remembers d)
    (hd' : w.Remembers d') (hkey : d.key = d'.key) : d = d' := by
  have hfound := hw.documentOf?_of_remembers hd
  rw [hkey, hw.documentOf?_of_remembers hd'] at hfound
  exact (Option.some.inj hfound).symm

/-- The states of the document that is opened next are new. -/
theorem WellFormed.view?_eq_none_of_opening (hw : w.WellFormed) {key : SectionKey}
    (hopening : key.document.opening = w.nextRevision key.document.id) : w.view? key = none := by
  refine Option.eq_none_iff_forall_ne_some.2 fun view hview => ?_
  obtain ⟨d, hd, state, hstate, rfl, _⟩ := (hw.view?_eq_some_iff key view).1 hview
  have hbelow := hw.opening_lt_of_remembers hd
  rw [hw.document_eq_of_remembers hd hstate] at hopening
  change d.key.opening = w.nextRevision d.id at hopening
  omega

/-- A state that an open document has and never had is new. -/
theorem WellFormed.view?_eq_none_of_fresh (hw : w.WellFormed) {d : Document} (hd : w.Remembers d)
    {key : SectionKey} (hdocument : key.document = d.key)
    (hfresh : ∀ known ∈ d.sections ++ d.former, key ≠ known.key) : w.view? key = none := by
  refine Option.eq_none_iff_forall_ne_some.2 fun view hview => ?_
  obtain ⟨other, hother, state, hstate, rfl, _⟩ := (hw.view?_eq_some_iff key view).1 hview
  have hkey : other.key = d.key := (hw.document_eq_of_remembers hother hstate).symm.trans hdocument
  obtain rfl := hw.eq_of_key_eq hother hd hkey
  exact hfresh state hstate rfl

/-- A state that an edit brings in was never found before. -/
theorem WellFormed.view?_eq_none_of_enters (hw : w.WellFormed) (e : Edit) {key : SectionKey}
    (hbefore : ¬w.Holds key) (hafter : (w.effect e).1.Holds key) : w.view? key = none := by
  obtain ⟨d', hd', hkey⟩ := hafter
  have hdocument := ((hw.effect e).opened _ d' hd').document_eq_of_mem_stateKeys hkey
  by_cases hid : e.id = key.document.id
  · cases e with
    | openText id text =>
        obtain rfl : id = key.document.id := hid
        have hinstall := document?_install (w := w) key.document.id text key.document.id
        rw [if_pos rfl] at hinstall
        obtain rfl := Option.some.inj (hinstall.symm.trans hd')
        exact hw.view?_eq_none_of_opening (congrArg DocumentKey.opening hdocument)
    | changeText id text =>
        obtain rfl : id = key.document.id := hid
        cases hd : w.document? key.document.id with
        | none =>
            rw [effect_changeText_of_none hd] at hd'
            cases hd.symm.trans hd'
        | some d =>
            have hput := document?_effect_changeText hd text
            obtain rfl := Option.some.inj (hput.symm.trans hd')
            obtain ⟨state, hstate, rfl⟩ := List.mem_map.1 hkey
            obtain ⟨place, hplace⟩ := List.mem_iff_getElem?.1 hstate
            have hreconciled := (hw.opened _ d hd).reconciled_revise text
            have hfresh : ∀ old ∈ d.sections, state.key ≠ old.key := by
              intro old hold hsame
              exact hbefore ⟨d, hd, List.mem_map.2 ⟨old, hold, hsame.symm⟩⟩
            have hremembered : w.Remembers d := by
              refine Or.inl ?_
              rw [hw.id_eq _ d hd]
              exact hd
            exact hw.view?_eq_none_of_fresh hremembered hdocument
              (hreconciled.eq_of_fresh place state hplace hfresh).2
    | close id =>
        obtain rfl : id = key.document.id := hid
        cases (document?_effect_close (w := w) _).symm.trans hd'
  · rw [document?_effect_of_ne hid] at hd'
    exact absurd ⟨d', hd', hkey⟩ hbefore

end Workspace

end Polyglot
