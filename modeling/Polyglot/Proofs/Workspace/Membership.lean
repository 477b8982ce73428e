import Polyglot.Proofs.Workspace.Views

/-!
# Which states open documents hold

A state is held if it stands for a section of the document that is open under its identifier
(`Workspace.Holds`). An edit exchanges the states of one document for others, and what the handlers
are to be told is exactly this exchange (`WellFormed.exchange_effect`). Seen from one state, an edit
lets it enter, stay, change or leave, or does not concern it, and what is told of it says which
(`WellFormed.passage_effect`).
-/

set_option autoImplicit false

namespace Polyglot

namespace Document

/-- The identities of the states of the sections, in order. -/
def stateKeys (d : Document) : List SectionKey :=
  d.sections.map SectionState.key

variable {segmenter : Segmenter} {d : Document}

/-- The states of a document have keys of their own. -/
theorem WellFormed.nodup_stateKeys (h : d.WellFormed segmenter) : d.stateKeys.Nodup := by
  have hall := h.nodup
  rw [List.map_append] at hall
  exact (List.nodup_append.1 hall).1

/-- The keys of the states of a document name this document. -/
theorem WellFormed.document_eq_of_mem_stateKeys (h : d.WellFormed segmenter) {key : SectionKey}
    (hkey : key ∈ d.stateKeys) : key.document = d.key := by
  obtain ⟨state, hstate, rfl⟩ := List.mem_map.1 hkey
  exact h.key_document state (List.mem_append_left _ hstate)

/-- The keys of the states of a document do not depend on properties. -/
theorem stateKeys_eq_of_bare {d' : Document} (heq : d.bare = d'.bare) :
    d.stateKeys = d'.stateKeys := by
  simp only [bare, Document.mk.injEq] at heq
  exact map_eq_of_map_bare (f := SectionState.key) (fun _ => rfl) heq.2.2.2.1

/-- Each state of a document is notified of the same change. -/
theorem notifications_eq (d : Document) (change : SectionChange) :
    d.notifications change = d.stateKeys.map fun key => ⟨key, change⟩ := by
  simp only [notifications, stateKeys, List.map_map]
  rfl

end Document

/-- The changes of one state among what is told, in order. -/
def toldOf (ns : List Notification) (key : SectionKey) : List SectionChange :=
  (ns.filter fun n => decide (n.state = key)).map Notification.change

/-- What is told of a section is in the notifications. -/
theorem mem_toldOf_iff {ns : List Notification} {key : SectionKey} {change : SectionChange} :
    change ∈ toldOf ns key ↔ ⟨key, change⟩ ∈ ns := by
  unfold toldOf
  rw [List.mem_map]
  constructor
  · rintro ⟨n, hn, rfl⟩
    have hfiltered := List.mem_filter.1 hn
    have hstate : n.state = key := of_decide_eq_true hfiltered.2
    rw [← hstate]
    exact hfiltered.1
  · intro hmem
    exact ⟨⟨key, change⟩, List.mem_filter.2 ⟨hmem, decide_eq_true rfl⟩, rfl⟩

/-- Of a section nothing is told twice if no notification comes twice. -/
theorem nodup_toldOf {ns : List Notification} (hns : ns.Nodup) (key : SectionKey) :
    (toldOf ns key).Nodup := by
  unfold toldOf
  refine List.Nodup.map_on ?_ (hns.filter _)
  intro m hm n hn hchange
  have hm' : m.state = key := of_decide_eq_true (List.mem_filter.1 hm).2
  have hn' : n.state = key := of_decide_eq_true (List.mem_filter.1 hn).2
  cases m
  cases n
  simp only [Notification.mk.injEq]
  exact ⟨hm'.trans hn'.symm, hchange⟩

/-- The states of a document make way for others: told is, once each, of those that leave and of
those that come, and of some that stay. -/
structure Exchange (before after : List SectionKey) (ns : List Notification) : Prop where
  nodup : ns.Nodup
  removed_iff : ∀ key, ⟨key, .removed⟩ ∈ ns ↔ key ∈ before ∧ key ∉ after
  created_iff : ∀ key, ⟨key, .created⟩ ∈ ns ↔ key ∉ before ∧ key ∈ after
  of_updated : ∀ key, ⟨key, .updated⟩ ∈ ns → key ∈ before ∧ key ∈ after

/-- If no section comes or goes, nobody is told of any. -/
theorem exchange_self (keys : List SectionKey) : Exchange keys keys [] := by
  refine ⟨List.nodup_nil, ?_, ?_, ?_⟩
  · intro key
    simp
  · intro key
    simp
  · intro key hkey
    cases hkey

/-- All states leave and others come. -/
theorem exchange_of_disjoint {before after : List SectionKey} (hbefore : before.Nodup)
    (hafter : after.Nodup) (hdisjoint : ∀ key ∈ before, key ∉ after) :
    Exchange before after ((before.map fun key => ⟨key, .removed⟩) ++
      after.map fun key => ⟨key, .created⟩) := by
  have hinjective : ∀ change : SectionChange,
      Function.Injective fun key : SectionKey => (⟨key, change⟩ : Notification) := by
    intro change a b hab
    exact congrArg Notification.state hab
  refine ⟨?_, ?_, ?_, ?_⟩
  · refine List.nodup_append.2
      ⟨hbefore.map (hinjective .removed), hafter.map (hinjective .created), ?_⟩
    intro m hm n hn heq
    obtain ⟨a, _, rfl⟩ := List.mem_map.1 hm
    obtain ⟨b, _, rfl⟩ := List.mem_map.1 hn
    cases congrArg Notification.change heq
  · intro key
    have hleaves := hdisjoint key
    simp only [List.mem_append, List.mem_map, Notification.mk.injEq]
    grind
  · intro key
    have hleaves := hdisjoint key
    simp only [List.mem_append, List.mem_map, Notification.mk.injEq]
    grind
  · intro key hkey
    simp at hkey

namespace Workspace

/-- The identities of the states of the document that is open under an identifier. -/
def stateKeys (w : Workspace) (id : String) : List SectionKey :=
  ((w.document? id).map Document.stateKeys).getD []

/-- The state stands for a section of the document that is open under its identifier. -/
def Holds (w : Workspace) (key : SectionKey) : Prop :=
  ∃ d, w.document? key.document.id = some d ∧ key ∈ d.stateKeys

variable {w w' : Workspace}

/-- The sections of an open document are its own. -/
theorem stateKeys_of_some {id : String} {d : Document} (hd : w.document? id = some d) :
    w.stateKeys id = d.stateKeys := by
  rw [stateKeys, hd]
  rfl

/-- A document that is not open has no sections. -/
theorem stateKeys_of_none {id : String} (hd : w.document? id = none) : w.stateKeys id = [] := by
  rw [stateKeys, hd]
  rfl

/-- A workspace holds a section if its document does. -/
theorem holds_iff {key : SectionKey} : w.Holds key ↔ key ∈ w.stateKeys key.document.id := by
  unfold Holds
  cases hd : w.document? key.document.id with
  | none => simp [stateKeys_of_none hd]
  | some d => simp [stateKeys_of_some hd]

/-- Alike workspaces have the same sections. -/
theorem Alike.stateKeys_eq (h : Alike w w') (id : String) : w'.stateKeys id = w.stateKeys id := by
  cases hd : w.document? id with
  | none => rw [stateKeys_of_none hd, stateKeys_of_none ((h.document_eq_none_iff id).2 hd)]
  | some d =>
      obtain ⟨d', hd', hbare⟩ := h.exists_document' hd
      rw [stateKeys_of_some hd, stateKeys_of_some hd', Document.stateKeys_eq_of_bare hbare]

/-- Alike workspaces hold the same sections. -/
theorem Alike.holds_iff (h : Alike w w') (key : SectionKey) : w'.Holds key ↔ w.Holds key := by
  rw [Workspace.holds_iff, Workspace.holds_iff, h.stateKeys_eq]

/-- The sections of a document have its identifier in their keys. -/
theorem WellFormed.id_eq_of_mem (hw : w.WellFormed) {id : String} {key : SectionKey}
    (hkey : key ∈ w.stateKeys id) : key.document.id = id := by
  cases hd : w.document? id with
  | none =>
      rw [stateKeys_of_none hd] at hkey
      cases hkey
  | some d =>
      rw [stateKeys_of_some hd] at hkey
      rw [(hw.opened id d hd).document_eq_of_mem_stateKeys hkey]
      exact hw.id_eq id d hd

/-- The sections of a document have keys of their own. -/
theorem WellFormed.nodup_stateKeys (hw : w.WellFormed) (id : String) : (w.stateKeys id).Nodup := by
  cases hd : w.document? id with
  | none =>
      rw [stateKeys_of_none hd]
      exact List.nodup_nil
  | some d =>
      rw [stateKeys_of_some hd]
      exact (hw.opened id d hd).nodup_stateKeys

/-- A held state is found with content, and every other view has none. -/
theorem WellFormed.holds_iff_attached (hw : w.WellFormed) (key : SectionKey) :
    w.Holds key ↔ ∃ view, w.view? key = some view ∧ view.isAttached = true := by
  constructor
  · rintro ⟨d, hd, hkey⟩
    obtain ⟨state, hstate, rfl⟩ := List.mem_map.1 hkey
    refine ⟨d.view state, hw.view?_eq_some hd (List.mem_append_left _ hstate), ?_⟩
    rw [SectionView.isAttached, (hw.opened _ d hd).content?_view hstate]
    rfl
  · rintro ⟨view, hview, hattached⟩
    obtain ⟨id, d, state, hd, hstate, rfl, _⟩ := hw.exists_of_view? hview hattached
    refine ⟨d, ?_, List.mem_map_of_mem hstate⟩
    rw [hw.document_id_eq hd hstate]
    exact hd

/-- When a document is retired, each of its sections is told to be removed. -/
theorem retire_snd (id : String) :
    (w.retire id).2 = (w.stateKeys id).map fun key => ⟨key, .removed⟩ := by
  cases hd : w.document? id with
  | none => rw [retire_eq_of_none hd, stateKeys_of_none hd, List.map_nil]
  | some d => rw [retire_eq_of_some hd, stateKeys_of_some hd, Document.notifications_eq]

/-- An edit changes the sections of its own document only. -/
theorem stateKeys_effect_of_ne {e : Edit} {id : String} (hne : e.id ≠ id) :
    (w.effect e).1.stateKeys id = w.stateKeys id := by
  unfold stateKeys
  rw [document?_effect_of_ne hne]

/-- A document that is closed is not open any more. -/
theorem document?_effect_close (id : String) :
    (w.effect (.close id)).1.document? id = none := by
  cases hd : w.document? id with
  | none =>
      rw [effect_close_of_none hd]
      exact hd
  | some d =>
      have hretire := document?_retire (w := w) id id
      rw [if_pos rfl] at hretire
      rw [effect_close_of_some hd]
      exact hretire

/-- When a document is closed, its sections are told what they are told when it is retired. -/
theorem effect_close_snd (id : String) : (w.effect (.close id)).2 = (w.retire id).2 := by
  cases hd : w.document? id with
  | none => rw [effect_close_of_none hd, retire_eq_of_none hd]
  | some d => rw [effect_close_of_some hd, retire_eq_of_some hd]

/-- A document that is opened has none of the states that were there under its identifier. -/
theorem WellFormed.not_mem_stateKeys_create (hw : w.WellFormed) (id text : String)
    {key : SectionKey} (hkey : key ∈ w.stateKeys id) :
    key ∉ (Document.create id (w.nextRevision id) text w.segmenter).stateKeys := by
  intro hnew
  have hwell := Document.wellFormed_create id (w.nextRevision id) text w.segmenter
  have hopening : key.document.opening = w.nextRevision id := by
    rw [hwell.document_eq_of_mem_stateKeys hnew]
    rfl
  cases hd : w.document? id with
  | none =>
      rw [stateKeys_of_none hd] at hkey
      cases hkey
  | some d =>
      rw [stateKeys_of_some hd] at hkey
      have hle := (hw.opened id d hd).opening_le
      rw [(hw.opened id d hd).document_eq_of_mem_stateKeys hkey, nextRevision, hd] at hopening
      simp only at hopening
      omega

/-- What is told when a document is opened says which sections came and went. -/
theorem WellFormed.exchange_openText (hw : w.WellFormed) (id text : String) :
    Exchange (w.stateKeys id) ((w.effect (.openText id text)).1.stateKeys id)
      (w.effect (.openText id text)).2 := by
  have hnew := document?_install (w := w) id text id
  rw [if_pos rfl] at hnew
  have hwell := Document.wellFormed_create id (w.nextRevision id) text w.segmenter
  have hkeys : (w.effect (.openText id text)).1.stateKeys id =
      (Document.create id (w.nextRevision id) text w.segmenter).stateKeys := stateKeys_of_some hnew
  have hns : (w.effect (.openText id text)).2 = (w.retire id).2 ++
      (Document.create id (w.nextRevision id) text w.segmenter).notifications .created := rfl
  rw [hkeys, hns, retire_snd, Document.notifications_eq]
  refine exchange_of_disjoint (hw.nodup_stateKeys id) hwell.nodup_stateKeys ?_
  intro key hkey
  exact hw.not_mem_stateKeys_create id text hkey

/-- What is told when a document is changed says which sections came and went. -/
theorem WellFormed.exchange_changeText (hw : w.WellFormed) (id text : String) :
    Exchange (w.stateKeys id) ((w.effect (.changeText id text)).1.stateKeys id)
      (w.effect (.changeText id text)).2 := by
  cases hd : w.document? id with
  | none =>
      rw [effect_changeText_of_none hd]
      exact exchange_self _
  | some d =>
      have hreconciled := (hw.opened id d hd).reconciled_revise text
      have hstays : ∀ key, key ∉ (d.revise text w.segmenter).1.stateKeys ↔
          ∀ state ∈ (d.revise text w.segmenter).1.sections, state.key ≠ key := by
        intro key
        simp [Document.stateKeys]
      have hcomes : ∀ key, key ∉ d.stateKeys ↔ ∀ old ∈ d.sections, key ≠ old.key := by
        intro key
        simp [Document.stateKeys, eq_comm]
      rw [stateKeys_of_some hd, stateKeys_of_some (document?_effect_changeText hd text),
        effect_changeText_of_some hd]
      refine ⟨hreconciled.nodup_notifications, ?_, ?_, ?_⟩
      · intro key
        rw [hreconciled.mem_notifications_iff, hstays]
        simp only [Document.stateKeys, List.mem_map, Notification.mk.injEq]
        grind
      · intro key
        rw [hreconciled.mem_notifications_iff, hcomes]
        simp only [Document.stateKeys, List.mem_map, Notification.mk.injEq]
        grind
      · intro key hkey
        rw [hreconciled.mem_notifications_iff] at hkey
        simp only [Document.stateKeys, List.mem_map, Notification.mk.injEq] at hkey ⊢
        grind

/-- What is told when a document is closed says which sections went. -/
theorem WellFormed.exchange_close (hw : w.WellFormed) (id : String) :
    Exchange (w.stateKeys id) ((w.effect (.close id)).1.stateKeys id) (w.effect (.close id)).2 := by
  have hexchange := exchange_of_disjoint (hw.nodup_stateKeys id) List.nodup_nil
    fun key _ => List.not_mem_nil
  rw [stateKeys_of_none (document?_effect_close id), effect_close_snd, retire_snd]
  simpa using hexchange

/-- An edit exchanges states of the document that it edits, and this is what the handlers are to be
told. -/
theorem WellFormed.exchange_effect (hw : w.WellFormed) (e : Edit) :
    Exchange (w.stateKeys e.id) ((w.effect e).1.stateKeys e.id) (w.effect e).2 := by
  cases e with
  | openText id text => exact hw.exchange_openText id text
  | changeText id text => exact hw.exchange_changeText id text
  | close id => exact hw.exchange_close id

/-- What becomes of one state between two workspaces, and what is told of it. -/
inductive Passage (w w' : Workspace) (key : SectionKey) : List SectionChange → Prop where
  | absent (before : ¬w.Holds key) (after : ¬w'.Holds key) : Passage w w' key []
  | enters (before : ¬w.Holds key) (after : w'.Holds key) : Passage w w' key [.created]
  | stays (before : w.Holds key) (after : w'.Holds key) : Passage w w' key []
  | changes (before : w.Holds key) (after : w'.Holds key) : Passage w w' key [.updated]
  | leaves (before : w.Holds key) (after : ¬w'.Holds key) : Passage w w' key [.removed]

/-- What is told in an exchange about one state says what becomes of it. -/
theorem passage_of_exchange {key : SectionKey} {ns : List Notification}
    (h : Exchange (w.stateKeys key.document.id) (w'.stateKeys key.document.id) ns) :
    Passage w w' key (toldOf ns key) := by
  have hnodup := nodup_toldOf h.nodup key
  have hremoved := h.removed_iff key
  have hcreated := h.created_iff key
  have hupdated := h.of_updated key
  rw [← mem_toldOf_iff, ← holds_iff, ← holds_iff] at hremoved hcreated hupdated
  -- No two of the three changes go together, so there is at most one.
  have hsingle : ∀ change ∈ toldOf ns key, toldOf ns key = [change] := by
    intro change hchange
    have hperm := List.perm_ext_iff_of_nodup hnodup (List.nodup_singleton change)
    refine List.perm_singleton.1 (hperm.2 fun other => ?_)
    rw [List.mem_singleton]
    constructor
    · intro hother
      cases change <;> cases other <;> grind
    · rintro rfl
      exact hchange
  by_cases hbefore : w.Holds key <;> by_cases hafter : w'.Holds key
  · by_cases hmem : .updated ∈ toldOf ns key
    · rw [hsingle .updated hmem]
      exact .changes hbefore hafter
    · have hnil : toldOf ns key = [] := by
        refine List.eq_nil_iff_forall_not_mem.2 fun change hchange => ?_
        cases change <;> grind
      rw [hnil]
      exact .stays hbefore hafter
  · rw [hsingle .removed (hremoved.2 ⟨hbefore, hafter⟩)]
    exact .leaves hbefore hafter
  · rw [hsingle .created (hcreated.2 ⟨hbefore, hafter⟩)]
    exact .enters hbefore hafter
  · have hnil : toldOf ns key = [] := by
      refine List.eq_nil_iff_forall_not_mem.2 fun change hchange => ?_
      cases change <;> grind
    rw [hnil]
    exact .absent hbefore hafter

/-- What is told of a state when an edit takes effect says what becomes of it. -/
theorem WellFormed.passage_effect (hw : w.WellFormed) (e : Edit) (key : SectionKey) :
    Passage w (w.effect e).1 key (toldOf (w.effect e).2 key) := by
  by_cases hid : e.id = key.document.id
  · have hexchange := hw.exchange_effect e
    rw [hid] at hexchange
    exact passage_of_exchange hexchange
  · -- The edit concerns another document, and tells nothing of this state.
    have hnil : toldOf (w.effect e).2 key = [] := by
      refine List.eq_nil_iff_forall_not_mem.2 fun change hchange => ?_
      have htold := hw.document_id_of_mem_effect (mem_toldOf_iff.1 hchange)
      exact hid htold.symm
    have hsame : (w.effect e).1.Holds key ↔ w.Holds key := by
      rw [holds_iff, holds_iff, stateKeys_effect_of_ne hid]
    rw [hnil]
    by_cases hbefore : w.Holds key
    · exact .stays hbefore (hsame.2 hbefore)
    · exact .absent hbefore (fun hafter => hbefore (hsame.1 hafter))

end Workspace

end Polyglot
