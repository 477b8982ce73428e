import Polyglot.Proofs.Workspace.Invariant

/-!
# Reachable workspaces

A workspace is reachable if it comes about from an empty one by edits and by what handlers and
callers may do between them. Each of these steps keeps a workspace well formed, so a reachable
workspace is well formed (`Reachable.wellFormed`), and a run of edits leads to a reachable one
(`Reachable.run`).
-/

set_option autoImplicit false

namespace Polyglot

namespace Workspace

variable {w : Workspace}

/-- There are no fewer revisions to come than openings. -/
theorem horizon_le_nextRevision (hw : w.WellFormed) (id : String) :
    w.horizon id ≤ w.nextRevision id := by
  unfold horizon nextRevision
  cases hd : w.document? id with
  | none => exact Nat.le_refl _
  | some d =>
      have hopening := (hw.opened id d hd).opening_le
      simp only
      omega

/-- To retire an open document takes it from the open ones and releases it. -/
theorem retire_eq_of_some {id : String} {d : Document} (hd : w.document? id = some d) :
    w.retire id = ({ w with opened := w.opened.erase id, retired := w.retired ++ [d.release] },
      d.notifications .removed) := by
  simp only [retire, hd]

/-- Where no document is open there is nothing to retire. -/
theorem retire_eq_of_none {id : String} (hd : w.document? id = none) : w.retire id = (w, []) := by
  simp only [retire, hd]

/-- To retire a document leaves the closed revisions as they are. -/
theorem closed_retire (id : String) : (w.retire id).1.closed = w.closed := by
  cases hd : w.document? id with
  | none => rw [retire_eq_of_none hd]
  | some d => rw [retire_eq_of_some hd]

/-- A document that is retired is not open any more, and all others are as they were. -/
theorem document?_retire (id id' : String) :
    (w.retire id).1.document? id' = if id = id' then none else w.document? id' := by
  cases hd : w.document? id with
  | none =>
      rw [retire_eq_of_none hd]
      split
      · rename_i heq
        rw [← heq, hd]
      · rfl
  | some d =>
      rw [retire_eq_of_some hd]
      exact Dictionary.find?_erase w.opened id id'

/-- A document that is installed is open anew, and all others are as they were. -/
theorem document?_install (id text id' : String) :
    (w.install id text).1.document? id' =
      if id = id' then some (.create id (w.nextRevision id) text w.segmenter)
      else w.document? id' := by
  have hretire := document?_retire (w := w) id id'
  unfold document? at hretire ⊢
  rw [install, Dictionary.find?_insert, hretire]
  split <;> rfl

/-- To replace the text of an open document revises it and tells its sections. -/
theorem replace_eq_of_some {id : String} {d : Document} (hd : w.document? id = some d)
    (text : String) :
    w.replace id text = .ok ({ w with opened := w.opened.insert id (d.revise text w.segmenter).1 },
      (d.revise text w.segmenter).2) := by
  simp only [replace, hd]

/-- To withdraw an open document retires it and remembers its revision. -/
theorem withdraw_eq_of_some {id : String} {d : Document} (hd : w.document? id = some d) :
    w.withdraw id = .ok ({ (w.retire id).1 with
      closed := (w.retire id).1.closed.insert id d.revision }, d.notifications .removed) := by
  simp only [withdraw, hd, retire_eq_of_some hd]

/-- An empty workspace is well formed. -/
theorem wellFormed_empty (grammars : GrammarRegistry) (segmenter : Segmenter) :
    (Workspace.empty grammars segmenter).WellFormed := by
  refine ⟨?_, ?_, ?_, List.nodup_nil, ?_⟩
  · intro id d hd
    cases hd
  · intro id d hd
    cases hd
  · intro d hd
    cases hd
  · intro d hd
    cases hd

/-- A document that is retired was opened under its identifier before the next one will be. -/
theorem WellFormed.retired_retire (hw : w.WellFormed) (id : String) :
    (∀ d ∈ (w.retire id).1.retired, d.Released) ∧
      ((w.retire id).1.retired.map Document.key).Nodup ∧
        ∀ d ∈ (w.retire id).1.retired, d.key.opening <
          if id = d.id then w.nextRevision id else w.horizon d.id := by
  have hlt : ∀ d ∈ w.retired, d.key.opening <
      if id = d.id then w.nextRevision id else w.horizon d.id := by
    intro d hd
    have hbelow := hw.retired_lt d hd
    split
    · rename_i heq
      rw [← heq] at hbelow
      exact Nat.lt_of_lt_of_le hbelow (horizon_le_nextRevision hw id)
    · exact hbelow
  cases hd : w.document? id with
  | none =>
      rw [retire_eq_of_none hd]
      exact ⟨hw.released, hw.retired_nodup, hlt⟩
  | some d =>
      have hid : d.id = id := hw.id_eq id d hd
      have hkey : d.release.key = d.key := rfl
      have hrelease : d.release.id = id := hid
      rw [retire_eq_of_some hd]
      simp only [List.forall_mem_append, List.forall_mem_singleton, List.map_append,
        List.map_cons, List.map_nil, hkey, hrelease, if_true]
      refine ⟨⟨hw.released, (hw.opened id d hd).released_release⟩, ?_, hlt, ?_⟩
      · refine List.nodup_append.2 ⟨hw.retired_nodup, List.nodup_singleton _, ?_⟩
        rintro key hmem _ hsingle rfl
        obtain ⟨r, hr, rfl⟩ := List.mem_map.1 hmem
        have hkeys : r.key = d.key := List.mem_singleton.1 hsingle
        have hbelow := hw.retired_lt r hr
        have hsame : r.id = id := (congrArg DocumentKey.id hkeys).trans hid
        rw [hsame, horizon, hd, hkeys] at hbelow
        exact Nat.lt_irrefl _ hbelow
      · have hopening := (hw.opened id d hd).opening_le
        simp only [nextRevision, hd]
        omega

/-- What is left of a workspace from which the document of an identifier is dropped, with whatever
is then put under this identifier, is well formed. -/
theorem WellFormed.of_retire (hw : w.WellFormed) {w' : Workspace} (id : String)
    (hsegmenter : w'.segmenter = w.segmenter) (hretired : w'.retired = (w.retire id).1.retired)
    (hnew : ∀ d, w'.document? id = some d → d.id = id ∧ d.WellFormed w.segmenter)
    (hhorizon : w'.horizon id = w.nextRevision id)
    (hother : ∀ id', id ≠ id' →
      w'.document? id' = w.document? id' ∧ w'.horizon id' = w.horizon id') :
    w'.WellFormed := by
  have hopened : ∀ id' d, w'.document? id' = some d → d.id = id' ∧ d.WellFormed w.segmenter := by
    intro id' d hd
    by_cases heq : id = id'
    · subst heq
      exact hnew d hd
    · rw [(hother id' heq).1] at hd
      exact ⟨hw.id_eq id' d hd, hw.opened id' d hd⟩
  obtain ⟨hreleased, hnodup, hlt⟩ := hw.retired_retire id
  rw [← hretired] at hreleased hnodup hlt
  refine ⟨fun id' d hd => (hopened id' d hd).1, fun id' d hd => hsegmenter ▸ (hopened id' d hd).2,
    hreleased, hnodup, ?_⟩
  intro d hd
  have hbelow := hlt d hd
  split at hbelow
  · rename_i heq
    rw [← heq, hhorizon]
    exact hbelow
  · rename_i hne
    rw [(hother d.id hne).2]
    exact hbelow

/-- A well-formed document may stand in the place of an open one that has its key. -/
theorem WellFormed.of_put (hw : w.WellFormed) {w' : Workspace} {id : String} {d d' : Document}
    (hd : w.document? id = some d) (hkey : d'.key = d.key) (hwell : d'.WellFormed w.segmenter)
    (hsegmenter : w'.segmenter = w.segmenter) (hretired : w'.retired = w.retired)
    (hclosed : w'.closed = w.closed)
    (hdocument : ∀ id', w'.document? id' = if id = id' then some d' else w.document? id') :
    w'.WellFormed := by
  have hhorizon : ∀ id', w'.horizon id' = w.horizon id' := by
    intro id'
    unfold horizon nextRevision
    rw [hdocument, hclosed]
    by_cases heq : id = id'
    · subst heq
      simp only [if_true, hd, hkey]
    · rw [if_neg heq]
  refine ⟨?_, ?_, ?_, ?_, ?_⟩
  · intro id' other hother
    rw [hdocument] at hother
    split at hother
    · rename_i heq
      obtain rfl := Option.some.inj hother
      rw [Document.id, hkey, ← heq]
      exact hw.id_eq id d hd
    · exact hw.id_eq id' other hother
  · intro id' other hother
    rw [hdocument] at hother
    rw [hsegmenter]
    split at hother
    · obtain rfl := Option.some.inj hother
      exact hwell
    · exact hw.opened id' other hother
  · rw [hretired]
    exact hw.released
  · rw [hretired]
    exact hw.retired_nodup
  · rw [hretired]
    intro r hr
    rw [hhorizon]
    exact hw.retired_lt r hr

/-- To install a document leaves a workspace well formed. -/
theorem WellFormed.install (hw : w.WellFormed) (id text : String) :
    (w.install id text).1.WellFormed := by
  refine hw.of_retire id ?_ rfl ?_ ?_ ?_
  · cases hd : w.document? id with
    | none => simp only [Workspace.install, retire_eq_of_none hd]
    | some d => simp only [Workspace.install, retire_eq_of_some hd]
  · intro d hd
    rw [document?_install, if_pos rfl] at hd
    obtain rfl := Option.some.inj hd
    exact ⟨rfl, Document.wellFormed_create id _ text w.segmenter⟩
  · rw [horizon, document?_install, if_pos rfl]
    rfl
  · intro id' hne
    refine ⟨by rw [document?_install, if_neg hne], ?_⟩
    unfold horizon nextRevision
    rw [document?_install, if_neg hne]
    simp only [Workspace.install, closed_retire, Dictionary.find?_erase, if_neg hne]

/-- To replace the text of a document leaves a workspace well formed. -/
theorem WellFormed.replace (hw : w.WellFormed) {id : String} {d : Document}
    (hd : w.document? id = some d) (text : String) :
    ({ w with opened := w.opened.insert id (d.revise text w.segmenter).1 } :
      Workspace).WellFormed := by
  have hkey : (d.revise text w.segmenter).1.key = d.key := rfl
  have hwell := Document.wellFormed_revise (hw.opened id d hd) text
  exact hw.of_put hd hkey hwell rfl rfl rfl fun id' => Dictionary.find?_insert w.opened id id' _

/-- To withdraw a document leaves a workspace well formed. -/
theorem WellFormed.withdraw (hw : w.WellFormed) {id : String} {d : Document}
    (hd : w.document? id = some d) :
    ({ (w.retire id).1 with
      closed := (w.retire id).1.closed.insert id d.revision } : Workspace).WellFormed := by
  have hdocument := document?_retire (w := w) id
  rw [retire_eq_of_some hd] at hdocument ⊢
  unfold document? at hdocument
  have hnext : w.nextRevision id = d.revision + 1 := by simp only [nextRevision, hd]
  refine hw.of_retire id rfl (by rw [retire_eq_of_some hd]) ?_ ?_ ?_
  · intro other hother
    rw [document?, hdocument, if_pos rfl] at hother
    cases hother
  · rw [hnext]
    simp only [horizon, nextRevision, document?, hdocument, if_true, Dictionary.find?_insert,
      Option.map_some, Option.getD_some]
  · intro id' hne
    simp only [horizon, nextRevision, document?, hdocument, if_neg hne, Dictionary.find?_insert]
    exact ⟨trivial, trivial⟩

/-- What an edit makes of a workspace before the handlers are told, and what they are told. -/
def effect (w : Workspace) : Edit → Workspace × List Notification
  | .openText id text => w.install id text
  | .changeText id text => (w.replace id text).toOption.getD (w, [])
  | .close id => (w.withdraw id).toOption.getD (w, [])

/-- An edit takes effect as a whole and then tells the handlers. -/
theorem apply_eq_deliver_effect (e : Edit) : w.apply e = (w.effect e).1.deliver (w.effect e).2 := by
  cases e with
  | openText id text => rfl
  | changeText id text =>
      simp only [Workspace.apply, edit, changeText, effect]
      cases w.replace id text <;> rfl
  | close id =>
      simp only [Workspace.apply, edit, close, effect]
      cases w.withdraw id <;> rfl

/-- The effect of a change on an open document is a revised one. -/
theorem effect_changeText_of_some {id : String} {d : Document} (hd : w.document? id = some d)
    (text : String) :
    w.effect (.changeText id text) =
      ({ w with opened := w.opened.insert id (d.revise text w.segmenter).1 },
        (d.revise text w.segmenter).2) := by
  rw [effect, replace_eq_of_some hd]
  rfl

/-- A change of a document that is not open has no effect. -/
theorem effect_changeText_of_none {id : String} (hd : w.document? id = none) (text : String) :
    w.effect (.changeText id text) = (w, []) := by
  simp only [effect, Workspace.replace, hd]
  rfl

/-- The effect of closing an open document is that it is retired and its revision remembered. -/
theorem effect_close_of_some {id : String} {d : Document} (hd : w.document? id = some d) :
    w.effect (.close id) = ({ (w.retire id).1 with
      closed := (w.retire id).1.closed.insert id d.revision }, d.notifications .removed) := by
  rw [effect, withdraw_eq_of_some hd]
  rfl

/-- To close a document that is not open has no effect. -/
theorem effect_close_of_none {id : String} (hd : w.document? id = none) :
    w.effect (.close id) = (w, []) := by
  simp only [effect, Workspace.withdraw, hd]
  rfl

/-- An edit changes neither the handlers nor the way texts are segmented, and before the handlers
are told it leaves no trace in the journal. -/
theorem effect_shared (e : Edit) :
    (w.effect e).1.grammars = w.grammars ∧ (w.effect e).1.segmenter = w.segmenter ∧
      (w.effect e).1.journal = w.journal := by
  cases e with
  | openText id text =>
      unfold effect Workspace.install
      cases hd : w.document? id with
      | none => simp only [retire_eq_of_none hd, and_self]
      | some d => simp only [retire_eq_of_some hd, and_self]
  | changeText id text =>
      cases hd : w.document? id with
      | none => simp only [effect_changeText_of_none hd, and_self]
      | some d => simp only [effect_changeText_of_some hd, and_self]
  | close id =>
      cases hd : w.document? id with
      | none => simp only [effect_close_of_none hd, and_self]
      | some d => simp only [effect_close_of_some hd, retire_eq_of_some hd, and_self]

/-- The effect of an edit leaves a workspace well formed. -/
theorem WellFormed.effect (hw : w.WellFormed) (e : Edit) : (w.effect e).1.WellFormed := by
  cases e with
  | openText id text => exact hw.install id text
  | changeText id text =>
      cases hd : w.document? id with
      | none =>
          rw [effect_changeText_of_none hd]
          exact hw
      | some d =>
          rw [effect_changeText_of_some hd]
          exact hw.replace hd text
  | close id =>
      cases hd : w.document? id with
      | none =>
          rw [effect_close_of_none hd]
          exact hw
      | some d =>
          rw [effect_close_of_some hd]
          exact hw.withdraw hd

/-- An edit keeps a workspace well formed, also one that fails. -/
theorem WellFormed.apply (hw : w.WellFormed) (e : Edit) : (w.apply e).WellFormed := by
  have heffect := hw.effect e
  rw [apply_eq_deliver_effect]
  exact heffect.of_alike (heffect.alike_deliver _)

/-- The workspaces that come about from an empty one by edits and by what handlers and callers may
do between them: change the properties of states and documents, and what all documents share. -/
inductive Reachable (grammars : GrammarRegistry) (segmenter : Segmenter) : Workspace → Prop where
  | empty : Reachable grammars segmenter (.empty grammars segmenter)
  | apply {w : Workspace} (h : Reachable grammars segmenter w) (e : Edit) :
      Reachable grammars segmenter (w.apply e)
  | setProperties {w : Workspace} (h : Reachable grammars segmenter w) (key : SectionKey)
      (properties : Properties) : Reachable grammars segmenter (w.setProperties key properties)
  | setDocumentProperties {w : Workspace} (h : Reachable grammars segmenter w) {id : String}
      {d : Document} (hd : w.document? id = some d) (properties : Properties) :
      Reachable grammars segmenter (w.setDocument { d with properties := properties })
  | share {w : Workspace} (h : Reachable grammars segmenter w)
      (cancellations : Cancellations String)
      (context? : Option Context) (properties : Properties) (journal : List JournalEntry) :
      Reachable grammars segmenter
        { w with
          cancellations := cancellations
          context? := context?
          properties := properties
          journal := journal }

variable {grammars : GrammarRegistry} {segmenter : Segmenter}

/-- To keep properties of a document leaves a workspace well formed. -/
theorem WellFormed.setDocumentProperties (hw : w.WellFormed) {id : String} {d : Document}
    (hd : w.document? id = some d) (properties : Properties) :
    (w.setDocument { d with properties := properties }).WellFormed := by
  have hid : d.id = id := hw.id_eq id d hd
  have hopen : w.openDocument? d.key = some d :=
    (openDocument?_eq_some_iff d.key d).2 ⟨(congrArg w.document? hid).trans hd, rfl⟩
  have hwell := hw.opened id d hd
  have hkey : ({ d with properties := properties } : Document).key = d.key := rfl
  refine hw.of_put hd hkey
    ⟨hwell.current_eq, hwell.attached, hwell.detached, hwell.nodup, hwell.key_document,
      hwell.key_revision, hwell.opening_le⟩ (setDocument_segmenter _) ?_ (setDocument_closed _) ?_
  · unfold setDocument
    simp only [hopen, Option.isSome_some, if_true]
  · intro id'
    rw [document?_setDocument]
    simp only [hopen, Option.isSome_some, true_and]
    change (if d.id = id' then _ else _) = _
    rw [hid]

/-- A reachable workspace is well formed. -/
theorem Reachable.wellFormed (h : Reachable grammars segmenter w) : w.WellFormed := by
  induction h with
  | empty => exact wellFormed_empty grammars segmenter
  | apply _ e ih => exact ih.apply e
  | setProperties _ key properties ih => exact ih.of_alike (ih.alike_setProperties key properties)
  | setDocumentProperties _ hd properties ih => exact ih.setDocumentProperties hd properties
  | share _ _ _ _ _ ih =>
      exact ih.of_alike ⟨rfl, rfl, rfl, fun _ => rfl, rfl⟩

/-- A reachable workspace still has the handlers and the segmenter that it began with. -/
theorem Reachable.shared (h : Reachable grammars segmenter w) :
    w.grammars = grammars ∧ w.segmenter = segmenter := by
  induction h with
  | empty => exact ⟨rfl, rfl⟩
  | @apply w h e ih =>
      have halike := (h.wellFormed.effect e).alike_deliver (w.effect e).2
      have hshared := effect_shared (w := w) e
      rw [apply_eq_deliver_effect, halike.grammars, halike.segmenter, hshared.1, hshared.2.1]
      exact ih
  | setProperties h key properties ih =>
      have halike := h.wellFormed.alike_setProperties key properties
      rw [halike.grammars, halike.segmenter]
      exact ih
  | setDocumentProperties _ _ _ ih =>
      rw [setDocument_grammars, setDocument_segmenter]
      exact ih
  | share _ _ _ _ _ ih => exact ih

/-- What a handler leaves leads from a reachable workspace to a reachable one. -/
theorem Reachable.absorb {β : Type} (h : Reachable grammars segmenter w) (key : SectionKey)
    (token? : Option TokenKey) (reply : Reply β) :
    Reachable grammars segmenter (w.absorb key token? reply) := by
  obtain ⟨c, hc⟩ := w.exists_absorb_eq key token? reply
  rw [hc]
  exact (h.setProperties key reply.properties).share c _ _ _

/-- Later edits go on from where the earlier ones led. -/
theorem run_append (es later : List Edit) : w.run (es ++ later) = (w.run es).run later :=
  List.foldl_append

/-- A run of edits leads from a reachable workspace to a reachable one. -/
theorem Reachable.run (h : Reachable grammars segmenter w) (es : List Edit) :
    Reachable grammars segmenter (w.run es) := by
  induction es generalizing w with
  | nil => exact h
  | cons e es ih => exact ih (h.apply e)

end Workspace

end Polyglot
