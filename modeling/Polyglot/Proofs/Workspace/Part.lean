import Polyglot.Proofs.Workspace.Telling

/-!
# Parts of a workspace

What a workspace has under one identifier is its part of that identifier: the open document with its
states, the revision that is remembered once it is closed, the documents that made way, and what the
handlers were told of them. An edit of another identifier leaves a part alone (`part_apply_of_ne`).
An edit of the identifier itself makes of the part what the part alone determines
(`part_apply_congr`), and so does whether it fails (`edit_congr`).
-/

set_option autoImplicit false

namespace Polyglot

namespace Edit

/-- Whether an edit fails where no document is open under its identifier. -/
def needsDocument : Edit → Bool
  | openText _ _ => false
  | changeText _ _ => true
  | close _ => true

end Edit

/-- What a workspace has under one identifier, with the grammars that all documents share. -/
@[ext]
structure Part where
  grammars : GrammarRegistry
  segmenter : Segmenter
  document? : Option Document
  closed? : Option Nat
  retired : List Document
  tellings : List (Notification × SectionView)

namespace Part

/-- The part with a document put in as the open one. -/
def put (p : Part) (d : Document) : Part :=
  { p with document? := some d }

/-- The part with its open document dropped and retired, if there is one. -/
def retire (p : Part) : Part :=
  { p with document? := none, retired := p.retired ++ (p.document?.map Document.release).toList }

/-- The part with another revision remembered from the last document, or with none. -/
def remember (p : Part) (closed? : Option Nat) : Part :=
  { p with closed? := closed? }

end Part

namespace Workspace

/-- The part of an identifier. -/
def part (w : Workspace) (id : String) : Part where
  grammars := w.grammars
  segmenter := w.segmenter
  document? := w.document? id
  closed? := w.closed.find? id
  retired := w.retired.filter fun d => decide (d.id = id)
  tellings := w.tellings.filter fun t => decide (t.1.state.document.id = id)

variable {w w' : Workspace} {id : String}

/-! ## What a part determines -/

/-- Which document is open under a key depends on the part of its identifier alone. -/
theorem openDocument?_congr (h : w.part id = w'.part id) {key : DocumentKey} (hkey : key.id = id) :
    w.openDocument? key = w'.openDocument? key := by
  have hdocument : w.document? id = w'.document? id := congrArg Part.document? h
  rw [openDocument?, openDocument?, hkey, hdocument]

/-- The retired document of a key is among those of the key's identifier. -/
theorem find?_retired (key : DocumentKey) :
    w.retired.find? (fun d => decide (d.key = key)) =
      (w.part key.id).retired.find? fun d => decide (d.key = key) := by
  have hpred : (fun d : Document => decide (d.id = key.id) && decide (d.key = key)) =
      fun d => decide (d.key = key) := by
    funext d
    by_cases heq : d.key = key
    · simp [heq, Document.id]
    · simp [heq]
  unfold part
  rw [List.find?_filter]
  simp only [Bool.decide_and, Bool.decide_eq_true, hpred]

/-- Which document is known under a key depends on the part of its identifier alone. -/
theorem documentOf?_congr (h : w.part id = w'.part id) {key : DocumentKey} (hkey : key.id = id) :
    w.documentOf? key = w'.documentOf? key := by
  rw [documentOf?, documentOf?, openDocument?_congr h hkey, find?_retired, find?_retired, hkey, h]

/-- What is seen of a state is in the part of its identifier. -/
theorem view?_congr (h : w.part id = w'.part id) {key : SectionKey} (hkey : key.document.id = id) :
    w.view? key = w'.view? key := by
  rw [view?, view?, documentOf?_congr h hkey]

/-- The document that holds a state is in the part of its identifier. -/
theorem owner?_congr (h : w.part id = w'.part id) {key : SectionKey} (hkey : key.document.id = id) :
    w.owner? key = w'.owner? key := by
  rw [owner?, owner?, documentOf?_congr h hkey]

/-- The next revision depends on the part of the identifier alone. -/
theorem nextRevision_congr_part (h : w.part id = w'.part id) :
    w.nextRevision id = w'.nextRevision id :=
  nextRevision_congr (congrArg Part.document? h) (congrArg Part.closed? h)

/-! ## What handlers leave -/

/-- To replace a document touches the retired ones if it is not the open one. -/
theorem retired_setDocument (d : Document) :
    ((w.setDocument d).part id).retired =
      if (w.openDocument? d.key).isSome then (w.part id).retired
      else (w.part id).retired.map fun other => if other.key = d.key then d else other := by
  have hid : (fun other : Document => decide (other.id = id)) ∘
      (fun other : Document => if other.key = d.key then d else other) =
        fun other => decide (other.id = id) := by
    funext other
    simp only [Function.comp_apply]
    split
    · rename_i hsame
      rw [Document.id, Document.id, hsame]
    · rfl
  unfold setDocument part
  split
  · rfl
  · rw [List.filter_map, hid]

/-- What becomes of a part when a document is put in the place of the one with its key. -/
theorem part_setDocument (d : Document) :
    (w.setDocument d).part id =
      { w.part id with
        document? := if (w.openDocument? d.key).isSome = true ∧ d.id = id then some d
          else w.document? id
        retired := if (w.openDocument? d.key).isSome then (w.part id).retired
          else (w.part id).retired.map fun other => if other.key = d.key then d else other } := by
  refine Part.ext (setDocument_grammars d) (setDocument_segmenter d) (document?_setDocument d id)
    (congrArg (·.find? id) (setDocument_closed d)) (retired_setDocument d) ?_
  unfold part tellings
  rw [setDocument_journal]

/-- To replace a document does nothing to the parts of other identifiers. -/
theorem part_setDocument_of_ne {d : Document} (hne : d.id ≠ id) :
    (w.setDocument d).part id = w.part id := by
  -- No document of the identifier has the key, so none is replaced.
  have hkeys : ((w.part id).retired.map fun other => if other.key = d.key then d else other) =
      (w.part id).retired := by
    refine (List.map_congr_left fun other hother => if_neg fun hkey => ?_).trans (List.map_id _)
    have hid : other.id = id := by simpa using (List.mem_filter.1 hother).2
    exact hne ((congrArg DocumentKey.id hkey).symm.trans hid)
  rw [part_setDocument, if_neg fun hboth => hne hboth.2, hkeys, ite_self]
  rfl

/-- What becomes of a part when its document is replaced depends on this part alone. -/
theorem part_setDocument_congr (h : w.part id = w'.part id) {d : Document} (hid : d.id = id) :
    (w.setDocument d).part id = (w'.setDocument d).part id := by
  have hdocument : w.document? id = w'.document? id := congrArg Part.document? h
  rw [part_setDocument, part_setDocument, openDocument?_congr h hid, hdocument, h]

/-- To keep properties does nothing to the parts of other identifiers. -/
theorem part_setProperties_of_ne {key : SectionKey} (hne : key.document.id ≠ id)
    (properties : Properties) : (w.setProperties key properties).part id = w.part id := by
  unfold setProperties
  split
  · rename_i d hfound
    refine part_setDocument_of_ne ?_
    rw [← key_of_documentOf? hfound] at hne
    exact hne
  · rfl

/-- What becomes of a part when properties are kept depends on this part alone. -/
theorem part_setProperties_congr (h : w.part id = w'.part id) {key : SectionKey}
    (hkey : key.document.id = id) (properties : Properties) :
    (w.setProperties key properties).part id = (w'.setProperties key properties).part id := by
  rw [setProperties, setProperties, ← documentOf?_congr h hkey]
  split
  · rename_i d hfound
    refine part_setDocument_congr h ?_
    rw [← hkey, ← key_of_documentOf? hfound]
    rfl
  · exact h

/-- What a handler is told goes into the part of the section that it is told of. -/
theorem part_log_delivered (key : SectionKey) (change : SectionChange) (view : SectionView) :
    (w.log (.delivered key change view)).part id =
      { w.part id with
        tellings := (w.part id).tellings ++
          if key.document.id = id then [(⟨key, change⟩, view)] else [] } := by
  refine Part.ext rfl rfl rfl rfl rfl ?_
  unfold part tellings log
  simp only [List.filterMap_append, List.filter_append, List.filterMap_cons, List.filterMap_nil,
    JournalEntry.telling?, List.filter_cons, List.filter_nil, decide_eq_true_eq]

/-- Reports tell no one of a change, so a handler leaves to a part only what it makes of the
properties. -/
theorem part_absorb (key : SectionKey) (token? : Option TokenKey) (reply : Reply Unit) :
    (w.absorb key token? reply).part id = (w.setProperties key reply.properties).part id := by
  obtain ⟨c, hc⟩ := w.exists_absorb_eq key token? reply
  rw [hc]
  refine Part.ext rfl rfl rfl rfl rfl ?_
  unfold part tellings
  simp [JournalEntry.telling?, Function.comp_def]

/-! ## What handlers are told -/

/-- Telling of a state of another document leaves a part alone. -/
theorem part_deliverOne_of_ne {n : Notification} (hne : n.state.document.id ≠ id) :
    (w.deliverOne n).part id = w.part id := by
  rcases deliverOne_cases w n with ⟨heq, _⟩ | ⟨view, handler, _, _, heq⟩
  · rw [heq]
  · rw [heq, part_absorb, part_setProperties_of_ne hne, part_log_delivered, if_neg hne,
      List.append_nil]

/-- Telling of a state of the document makes of its part what the part determines. -/
theorem part_deliverOne_congr (h : w.part id = w'.part id) {n : Notification}
    (hid : n.state.document.id = id) : (w.deliverOne n).part id = (w'.deliverOne n).part id := by
  have hgrammars : w.grammars = w'.grammars := congrArg Part.grammars h
  unfold deliverOne
  rw [view?_congr h hid, hgrammars]
  split
  · exact h
  · split
    · exact h
    · rw [part_absorb, part_absorb]
      refine part_setProperties_congr ?_ hid _
      rw [part_log_delivered, part_log_delivered, h]

/-- To tell handlers of sections does nothing to the parts of other identifiers. -/
theorem part_deliver_of_ne {ns : List Notification}
    (hne : ∀ n ∈ ns, n.state.document.id ≠ id) : (w.deliver ns).part id = w.part id := by
  induction ns generalizing w with
  | nil => rfl
  | cons n ns ih =>
      obtain ⟨hhead, htail⟩ := List.forall_mem_cons.1 hne
      exact (ih htail).trans (part_deliverOne_of_ne hhead)

/-- What becomes of a part when handlers are told depends on this part alone. -/
theorem part_deliver_congr (h : w.part id = w'.part id) {ns : List Notification}
    (hid : ∀ n ∈ ns, n.state.document.id = id) :
    (w.deliver ns).part id = (w'.deliver ns).part id := by
  induction ns generalizing w w' with
  | nil => exact h
  | cons n ns ih =>
      obtain ⟨hhead, htail⟩ := List.forall_mem_cons.1 hid
      exact ih (part_deliverOne_congr h hhead) htail

/-! ## What edits do -/

/-- A document that is dropped goes to those that made way under its identifier. -/
theorem part_retire (hw : w.WellFormed) (id id' : String) :
    (w.retire id).1.part id' = if id = id' then (w.part id').retire else w.part id' := by
  cases hd : w.document? id with
  | none =>
      rw [retire_eq_of_none hd]
      split
      · rename_i heq
        subst heq
        refine Part.ext rfl rfl hd rfl ?_ rfl
        simp [part, Part.retire, hd]
      · rfl
  | some d =>
      have hid : d.release.id = id := hw.id_eq id d hd
      have hdocument := document?_retire (w := w) id id'
      rw [retire_eq_of_some hd] at hdocument ⊢
      by_cases heq : id = id'
      · subst heq
        rw [if_pos rfl] at hdocument ⊢
        refine Part.ext rfl rfl hdocument rfl ?_ rfl
        simp [part, Part.retire, hid, hd]
      · rw [if_neg heq] at hdocument ⊢
        refine Part.ext rfl rfl hdocument rfl ?_ rfl
        simp [part, hid, heq]

/-- To open a document puts it into the part of its identifier. -/
theorem part_put (id id' : String) (d : Document) :
    ({ w with opened := w.opened.insert id d } : Workspace).part id' =
      if id = id' then (w.part id').put d else w.part id' := by
  show { w.part id' with document? := (w.opened.insert id d).find? id' } = _
  rw [Dictionary.find?_insert]
  split <;> rfl

/-- To install a document retires the one that was open and forgets the closed revision. -/
theorem part_install (hw : w.WellFormed) (id text id' : String) :
    (w.install id text).1.part id' =
      if id = id' then
        ((w.part id').retire.put (.create id (w.nextRevision id) text w.segmenter)).remember none
      else w.part id' := by
  have hclosed : (w.install id text).1.closed.find? id' =
      if id = id' then none else w.closed.find? id' := by
    rw [install, Dictionary.find?_erase, closed_retire]
  have hput := part_put (w := (w.retire id).1) id id'
    (.create id (w.nextRevision id) text w.segmenter)
  rw [part_retire hw] at hput
  calc (w.install id text).1.part id'
      = (Workspace.part { (w.retire id).1 with
          opened := (w.retire id).1.opened.insert id
            (.create id (w.nextRevision id) text w.segmenter) } id').remember
          ((w.install id text).1.closed.find? id') := rfl
    _ = _ := by
        rw [hput, hclosed]
        split <;> rfl

/-- To withdraw a document retires it and remembers its revision. -/
theorem part_withdraw (hw : w.WellFormed) (id id' : String) (revision : Nat) :
    ({ (w.retire id).1 with
      closed := (w.retire id).1.closed.insert id revision } : Workspace).part id' =
      if id = id' then (w.part id').retire.remember (some revision) else w.part id' := by
  show ((w.retire id).1.part id').remember
    (((w.retire id).1.closed.insert id revision).find? id') = _
  rw [part_retire hw, Dictionary.find?_insert, closed_retire]
  split <;> rfl

/-- Before the handlers are told, an edit leaves the parts of other identifiers alone. -/
theorem part_effect_of_ne (hw : w.WellFormed) {e : Edit} (hne : e.id ≠ id) :
    (w.effect e).1.part id = w.part id := by
  cases e with
  | openText other text => exact (part_install hw other text id).trans (if_neg hne)
  | changeText other text =>
      cases hd : w.document? other with
      | none => rw [effect_changeText_of_none hd]
      | some d =>
          rw [effect_changeText_of_some hd]
          exact (part_put other id _).trans (if_neg hne)
  | close other =>
      cases hd : w.document? other with
      | none => rw [effect_close_of_none hd]
      | some d =>
          rw [effect_close_of_some hd]
          exact (part_withdraw hw other id d.revision).trans (if_neg hne)

/-- What an edit makes of the part of its identifier, and what the handlers are to be told, is
determined by the part. -/
theorem effect_congr (hw : w.WellFormed) (hw' : w'.WellFormed) {e : Edit}
    (h : w.part e.id = w'.part e.id) :
    (w.effect e).1.part e.id = (w'.effect e).1.part e.id ∧ (w.effect e).2 = (w'.effect e).2 := by
  have hsegmenter : w.segmenter = w'.segmenter := congrArg Part.segmenter h
  have hdocument : w.document? e.id = w'.document? e.id := congrArg Part.document? h
  cases e with
  | openText id text =>
      change w.part id = w'.part id at h
      change w.document? id = w'.document? id at hdocument
      have hrevision : w.nextRevision id = w'.nextRevision id := nextRevision_congr_part h
      have hremoved : (w.retire id).2 = (w'.retire id).2 := by
        unfold retire
        rw [hdocument]
        split <;> rfl
      constructor
      · show (w.install id text).1.part id = (w'.install id text).1.part id
        rw [part_install hw, part_install hw', h, hrevision, hsegmenter]
      · show (w.retire id).2 ++ _ = (w'.retire id).2 ++ _
        rw [hremoved, hrevision, hsegmenter]
  | changeText id text =>
      change w.part id = w'.part id at h
      change w.document? id = w'.document? id at hdocument
      cases hd : w'.document? id with
      | none =>
          rw [hd] at hdocument
          rw [effect_changeText_of_none hd, effect_changeText_of_none hdocument]
          exact ⟨h, rfl⟩
      | some d =>
          rw [hd] at hdocument
          have hrevise : d.revise text w.segmenter = d.revise text w'.segmenter := by
            rw [hsegmenter]
          rw [effect_changeText_of_some hd, effect_changeText_of_some hdocument, hrevise]
          have hput := part_put (w := w) id id (d.revise text w'.segmenter).1
          have hput' := part_put (w := w') id id (d.revise text w'.segmenter).1
          rw [h] at hput
          exact ⟨hput.trans hput'.symm, rfl⟩
  | close id =>
      change w.part id = w'.part id at h
      change w.document? id = w'.document? id at hdocument
      cases hd : w'.document? id with
      | none =>
          rw [hd] at hdocument
          rw [effect_close_of_none hd, effect_close_of_none hdocument]
          exact ⟨h, rfl⟩
      | some d =>
          rw [hd] at hdocument
          rw [effect_close_of_some hd, effect_close_of_some hdocument]
          have hleave := part_withdraw hw id id d.revision
          have hleave' := part_withdraw hw' id id d.revision
          rw [h] at hleave
          exact ⟨hleave.trans hleave'.symm, rfl⟩

/-- An edit leaves the parts of other identifiers alone. -/
theorem part_apply_of_ne (hw : w.WellFormed) {e : Edit} (hne : e.id ≠ id) :
    (w.apply e).part id = w.part id := by
  have hothers : ∀ n ∈ (w.effect e).2, n.state.document.id ≠ id := by
    intro n hn
    rw [hw.document_id_of_mem_effect hn]
    exact hne
  rw [apply_eq_deliver_effect, part_deliver_of_ne hothers, part_effect_of_ne hw hne]

/-- An edit makes of the part of its identifier what this part determines. -/
theorem part_apply_congr (hw : w.WellFormed) (hw' : w'.WellFormed) {e : Edit}
    (h : w.part e.id = w'.part e.id) : (w.apply e).part e.id = (w'.apply e).part e.id := by
  obtain ⟨hpart, htold⟩ := effect_congr hw hw' h
  rw [apply_eq_deliver_effect, apply_eq_deliver_effect, htold]
  exact part_deliver_congr hpart fun n hn => hw'.document_id_of_mem_effect hn

/-- An edit fails where no document is open that it could change or close, and otherwise gives the
workspace in which it is carried out. -/
theorem edit_eq (w : Workspace) (e : Edit) :
    w.edit e = if e.needsDocument && (w.document? e.id).isNone then .error (.unknownDocument e.id)
      else .ok (w.apply e) := by
  have hok : ∀ {result}, w.edit e = .ok result → w.edit e = .ok (w.apply e) := by
    intro result hresult
    rw [Workspace.apply, hresult]
  cases e with
  | openText id text => rfl
  | changeText id text =>
      cases hd : w.document? id with
      | none => simp [edit_changeText_of_none hd, Edit.needsDocument, Edit.id, hd]
      | some d =>
          obtain ⟨_, hresult⟩ := edit_changeText_of_some hd text
          simpa [Edit.id, hd] using hok hresult
  | close id =>
      cases hd : w.document? id with
      | none => simp [edit_close_of_none hd, Edit.needsDocument, Edit.id, hd]
      | some d =>
          obtain ⟨_, hresult⟩ := edit_close_of_some hd
          simpa [Edit.id, hd] using hok hresult

/-- Whether an edit fails, and with what, is determined by the part of its identifier, and so is
the part that a successful one leaves. -/
theorem edit_congr (hw : w.WellFormed) (hw' : w'.WellFormed) {e : Edit}
    (h : w.part e.id = w'.part e.id) :
    (w.edit e).map (·.part e.id) = (w'.edit e).map (·.part e.id) := by
  have hdocument : w.document? e.id = w'.document? e.id := congrArg Part.document? h
  have happly := part_apply_congr hw hw' h
  rw [edit_eq, edit_eq, hdocument]
  split
  · rfl
  · exact congrArg Except.ok happly

end Workspace

end Polyglot
