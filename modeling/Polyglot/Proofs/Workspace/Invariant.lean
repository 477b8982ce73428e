import Polyglot.Proofs.Workspace.Lookup

/-!
# Well-formed workspaces

In a well-formed workspace the open documents are well formed, the retired ones are released, and
no two documents, open or retired, have one key: what is retired was opened before what is open
under its identifier and before what will be opened under it (`horizon`).

Handlers cannot change any of this (`Alike`), and every edit keeps it: a workspace that is
reachable from an empty one is well formed (`Reachable.wellFormed`).
-/

set_option autoImplicit false

namespace Polyglot

namespace Workspace

/-- The revision with which the open document of an identifier was opened, or with which the next
one will be. -/
def horizon (w : Workspace) (id : String) : Nat :=
  match w.document? id with
  | some d => d.key.opening
  | none => w.nextRevision id

/-- Open documents are well formed, retired ones are released, and no two share a key. -/
structure WellFormed (w : Workspace) : Prop where
  id_eq : ∀ id d, w.document? id = some d → d.id = id
  opened : ∀ id d, w.document? id = some d → d.WellFormed w.segmenter
  released : ∀ d ∈ w.retired, d.Released
  retired_nodup : (w.retired.map Document.key).Nodup
  retired_lt : ∀ d ∈ w.retired, d.key.opening < w.horizon d.id

/-- Two workspaces that differ at most in the properties of states, in the journal, and in what is
shared by all documents. -/
structure Alike (w w' : Workspace) : Prop where
  grammars : w'.grammars = w.grammars
  segmenter : w'.segmenter = w.segmenter
  closed : w'.closed = w.closed
  document : ∀ id, (w'.document? id).map Document.bare = (w.document? id).map Document.bare
  retired : w'.retired.map Document.bare = w.retired.map Document.bare

variable {w w' w'' : Workspace}

namespace Alike

/-- A workspace is alike to itself. -/
theorem refl (w : Workspace) : Alike w w :=
  ⟨rfl, rfl, rfl, fun _ => rfl, rfl⟩

/-- Workspaces are alike along a chain. -/
theorem trans (h : Alike w w') (h' : Alike w' w'') : Alike w w'' :=
  ⟨h'.grammars.trans h.grammars, h'.segmenter.trans h.segmenter, h'.closed.trans h.closed,
    fun id => (h'.document id).trans (h.document id), h'.retired.trans h.retired⟩

/-- An open document is open in a workspace that is alike, but for properties. -/
theorem exists_document (h : Alike w w') {id : String} {d' : Document}
    (hd : w'.document? id = some d') : ∃ d, w.document? id = some d ∧ d.bare = d'.bare := by
  have hbare := h.document id
  rw [hd, Option.map_some] at hbare
  exact Option.map_eq_some_iff.1 hbare.symm

/-- A document that is open here is open in every alike workspace. -/
theorem exists_document' (h : Alike w w') {id : String} {d : Document}
    (hd : w.document? id = some d) : ∃ d', w'.document? id = some d' ∧ d'.bare = d.bare := by
  have hbare := h.document id
  rw [hd, Option.map_some] at hbare
  exact Option.map_eq_some_iff.1 hbare

/-- Alike workspaces have no document under the same identifiers. -/
theorem document_eq_none_iff (h : Alike w w') (id : String) :
    w'.document? id = none ↔ w.document? id = none := by
  rw [← Option.map_eq_none_iff (f := Document.bare), h.document id, Option.map_eq_none_iff]

/-- Alike workspaces know the same key for what is opened next. -/
theorem horizon_eq (h : Alike w w') (id : String) : w'.horizon id = w.horizon id := by
  unfold horizon nextRevision
  cases hd : w.document? id with
  | none => simp only [(h.document_eq_none_iff id).2 hd, h.closed]
  | some d =>
      obtain ⟨d', hd', hbare⟩ := h.exists_document' hd
      rw [hd']
      change d'.key.opening = d.key.opening
      rw [Document.key_eq_of_bare hbare]

end Alike

/-- A workspace like a well-formed one is well formed. -/
theorem WellFormed.of_alike (hw : w.WellFormed) (h : Alike w w') : w'.WellFormed := by
  have hretired : ∀ d' ∈ w'.retired, ∃ d ∈ w.retired, d.bare = d'.bare := by
    intro d' hd'
    have hmem : d'.bare ∈ w.retired.map Document.bare :=
      h.retired ▸ List.mem_map.2 ⟨d', hd', rfl⟩
    exact List.mem_map.1 hmem
  refine ⟨?_, ?_, ?_, ?_, ?_⟩
  · intro id d' hd'
    obtain ⟨d, hd, hbare⟩ := h.exists_document hd'
    rw [Document.id, ← Document.key_eq_of_bare hbare]
    exact hw.id_eq id d hd
  · intro id d' hd'
    obtain ⟨d, hd, hbare⟩ := h.exists_document hd'
    rw [h.segmenter]
    exact Document.wellFormed_congr hbare (hw.opened id d hd)
  · intro d' hd'
    obtain ⟨d, hd, hbare⟩ := hretired d' hd'
    exact Document.released_congr hbare (hw.released d hd)
  · have hkeys := congrArg (List.map Document.key) h.retired
    rw [List.map_map, List.map_map] at hkeys
    change w'.retired.map Document.key = w.retired.map Document.key at hkeys
    rw [hkeys]
    exact hw.retired_nodup
  · intro d' hd'
    obtain ⟨d, hd, hbare⟩ := hretired d' hd'
    rw [h.horizon_eq, Document.id, ← Document.key_eq_of_bare hbare]
    exact hw.retired_lt d hd

/-- A document may be replaced by one that differs in the properties of states. -/
theorem WellFormed.alike_setDocument (hw : w.WellFormed) {old d : Document}
    (hfound : w.documentOf? d.key = some old) (hbare : d.bare = old.bare) :
    Alike w (w.setDocument d) := by
  refine ⟨setDocument_grammars d, setDocument_segmenter d, setDocument_closed d, ?_, ?_⟩
  · intro id
    rw [document?_setDocument]
    split
    · rename_i hboth
      obtain ⟨hopen, rfl⟩ := hboth
      obtain ⟨other, hother⟩ := Option.isSome_iff_exists.1 hopen
      rw [documentOf?, hother, Option.some_or] at hfound
      obtain rfl := Option.some.inj hfound
      have hdocument := ((openDocument?_eq_some_iff d.key other).1 hother).1
      rw [Document.id, hdocument, Option.map_some, Option.map_some, hbare]
    · rfl
  · by_cases hopen : (w.openDocument? d.key).isSome = true
    · rw [setDocument, if_pos hopen]
    · have hnone : w.openDocument? d.key = none := by simpa using hopen
      rw [documentOf?, hnone, Option.none_or] at hfound
      have hkey : old.key = d.key := by simpa using List.find?_some hfound
      have hold : old ∈ w.retired := List.mem_of_find?_eq_some hfound
      rw [setDocument, if_neg hopen, List.map_map]
      refine List.map_congr_left fun other hother => ?_
      rw [Function.comp_apply]
      split
      · rename_i hsame
        have heq : other = old :=
          List.inj_on_of_nodup_map hw.retired_nodup hother hold (hsame.trans hkey.symm)
        rw [hbare, heq]
      · rfl

/-- What is kept among the properties of a section makes no difference. -/
theorem WellFormed.alike_setProperties (hw : w.WellFormed) (key : SectionKey)
    (properties : Properties) : Alike w (w.setProperties key properties) := by
  unfold setProperties
  split
  · rename_i d hfound
    have hkey := key_of_documentOf? hfound
    have hplace : w.documentOf? (d.setProperties key properties).key = some d := by
      change w.documentOf? d.key = some d
      rw [hkey, hfound]
    exact hw.alike_setDocument hplace (Document.bare_setProperties key properties)
  · exact Alike.refl w

/-- Nothing but properties, journal and tokens shows what a handler left. -/
theorem WellFormed.alike_absorb {β : Type} (hw : w.WellFormed) (key : SectionKey)
    (token? : Option TokenKey) (reply : Reply β) : Alike w (w.absorb key token? reply) := by
  obtain ⟨c, hc⟩ := w.exists_absorb_eq key token? reply
  have h := hw.alike_setProperties key reply.properties
  rw [hc]
  exact ⟨h.grammars, h.segmenter, h.closed, h.document, h.retired⟩

/-- An entry in the journal is no change. -/
theorem alike_log (entry : JournalEntry) : Alike w (w.log entry) :=
  ⟨rfl, rfl, rfl, fun _ => rfl, rfl⟩

/-- To tell a handler of a change makes no difference. -/
theorem WellFormed.alike_deliverOne (hw : w.WellFormed) (n : Notification) :
    Alike w (w.deliverOne n) := by
  unfold deliverOne
  split
  · exact Alike.refl w
  · split
    · exact Alike.refl w
    · exact (alike_log _).trans ((hw.of_alike (alike_log _)).alike_absorb _ _ _)

/-- Telling handlers of changes leaves a workspace alike. -/
theorem WellFormed.alike_deliver (hw : w.WellFormed) (ns : List Notification) :
    Alike w (w.deliver ns) := by
  induction ns generalizing w with
  | nil => exact Alike.refl w
  | cons n ns ih =>
      have h := hw.alike_deliverOne n
      exact h.trans (ih (hw.of_alike h))

end Workspace

end Polyglot
