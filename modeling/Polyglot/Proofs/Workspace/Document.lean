import Mathlib.Data.List.Nodup
import Polyglot.Proofs.Section.Partition
import Polyglot.Proofs.Workspace.Matching

/-!
# Well-formed documents

A document is well formed if its states show exactly the sections of its text, are attached, and
have identities of their own, which no former state shares. A new document is well formed
(`wellFormed_create`), and giving it another text keeps it so (`wellFormed_revise`). What is kept
among the properties of its states has no part in it (`wellFormed_congr`).
-/

set_option autoImplicit false

namespace Polyglot

namespace SectionState

/-- The state without what is kept among its properties. -/
def bare (state : SectionState) : SectionState :=
  { state with properties := ∅ }

end SectionState

namespace Document

/-- The document without what is kept among the properties of its states. -/
def bare (d : Document) : Document :=
  { d with sections := d.sections.map .bare, former := d.former.map .bare }

/-- The states of a document show the sections of its text and have identities of their own. -/
structure WellFormed (segmenter : Segmenter) (d : Document) : Prop where
  current_eq : d.sections.map SectionState.current = segmenter.segment d.index
  attached : ∀ state ∈ d.sections, state.attached = true
  detached : ∀ state ∈ d.former, state.attached = false
  nodup : ((d.sections ++ d.former).map SectionState.key).Nodup
  key_document : ∀ state ∈ d.sections ++ d.former, state.key.document = d.key
  key_revision : ∀ state ∈ d.sections ++ d.former, state.key.revision ≤ d.revision
  opening_le : d.key.opening ≤ d.revision

/-- The states of a document that is no longer open: none is attached. -/
structure Released (d : Document) : Prop where
  detached : ∀ state ∈ d.sections ++ d.former, state.attached = false
  nodup : ((d.sections ++ d.former).map SectionState.key).Nodup
  key_document : ∀ state ∈ d.sections ++ d.former, state.key.document = d.key

variable {segmenter : Segmenter} {d : Document}

/-- The states of a well-formed document stand in the order of their sections. -/
theorem WellFormed.ascending (h : d.WellFormed segmenter) : Ascending d.sections := by
  have hsorted := (segmenter.tiles_segment d.index).pairwise_start
  rw [← h.current_eq, List.pairwise_map] at hsorted
  exact hsorted

/-- Two states with one identity are one state. -/
theorem WellFormed.eq_of_key_eq (h : d.WellFormed segmenter) {a b : SectionState}
    (ha : a ∈ d.sections ++ d.former) (hb : b ∈ d.sections ++ d.former) (hkey : a.key = b.key) :
    a = b :=
  List.inj_on_of_nodup_map h.nodup ha hb hkey

/-- Where no two items share a key, an item is found under its key. -/
theorem find?_key_eq_some {α κ : Type} [DecidableEq κ] {key : α → κ} {items : List α}
    (h : (items.map key).Nodup) {item : α} (hmem : item ∈ items) :
    items.find? (fun other => decide (key other = key item)) = some item := by
  cases hfound : items.find? (fun other => decide (key other = key item)) with
  | none =>
      have hno := List.find?_eq_none.1 hfound item hmem
      simp at hno
  | some other =>
      have hkey : key other = key item := by simpa using List.find?_some hfound
      rw [List.inj_on_of_nodup_map h (List.mem_of_find?_eq_some hfound) hmem hkey]

/-- A state of a document is found under its key. -/
theorem WellFormed.state?_eq_some (h : d.WellFormed segmenter) {state : SectionState}
    (hmem : state ∈ d.sections ++ d.former) : d.state? state.key = some state :=
  find?_key_eq_some h.nodup hmem

/-- A list of states whose bare forms are given shares all that does not look at properties. -/
theorem map_eq_of_map_bare {β : Type} {f : SectionState → β} (hf : ∀ state, f state.bare = f state)
    {as bs : List SectionState} (h : as.map SectionState.bare = bs.map SectionState.bare) :
    as.map f = bs.map f := by
  have hcomp : f ∘ SectionState.bare = f := funext hf
  have hmap := congrArg (List.map f) h
  rwa [List.map_map, List.map_map, hcomp] at hmap

/-- What does not depend on properties holds of both lists of states or of neither. -/
theorem forall_of_map_bare {p : SectionState → Prop} (hp : ∀ state, p state.bare ↔ p state)
    {as bs : List SectionState} (h : as.map SectionState.bare = bs.map SectionState.bare)
    (has : ∀ state ∈ as, p state) : ∀ state ∈ bs, p state := by
  have hbare : ∀ state ∈ as.map SectionState.bare, p state :=
    List.forall_mem_map.2 fun state hstate => (hp state).2 (has state hstate)
  rw [h] at hbare
  exact fun state hstate => (hp state).1 (List.forall_mem_map.1 hbare state hstate)

/-- The key of a document does not depend on the properties of its states. -/
theorem key_eq_of_bare {d' : Document} (heq : d.bare = d'.bare) : d.key = d'.key := by
  simp only [bare, Document.mk.injEq] at heq
  exact heq.1

/-- Being well formed does not depend on what is kept among the properties of states. -/
theorem wellFormed_congr {d' : Document} (heq : d.bare = d'.bare) (h : d.WellFormed segmenter) :
    d'.WellFormed segmenter := by
  simp only [bare, Document.mk.injEq] at heq
  obtain ⟨hkey, hrevision, hindex, hsections, hformer, _⟩ := heq
  have hboth : (d.sections ++ d.former).map SectionState.bare =
      (d'.sections ++ d'.former).map SectionState.bare := by
    rw [List.map_append, List.map_append, hsections, hformer]
  refine ⟨?_, ?_, ?_, ?_, ?_, ?_, ?_⟩
  · rw [← map_eq_of_map_bare (f := SectionState.current) (fun _ => rfl) hsections, ← hindex]
    exact h.current_eq
  · exact forall_of_map_bare (fun _ => Iff.rfl) hsections h.attached
  · exact forall_of_map_bare (fun _ => Iff.rfl) hformer h.detached
  · rw [← map_eq_of_map_bare (f := SectionState.key) (fun _ => rfl) hboth]
    exact h.nodup
  · rw [← hkey]
    exact forall_of_map_bare (p := fun state => state.key.document = d.key) (fun _ => Iff.rfl) hboth
      h.key_document
  · rw [← hrevision]
    exact forall_of_map_bare (p := fun state => state.key.revision ≤ d.revision)
      (fun _ => Iff.rfl) hboth h.key_revision
  · rw [← hkey, ← hrevision]
    exact h.opening_le

/-- Nor does being released. -/
theorem released_congr {d' : Document} (heq : d.bare = d'.bare) (h : d.Released) : d'.Released := by
  simp only [bare, Document.mk.injEq] at heq
  obtain ⟨hkey, _, _, hsections, hformer, _⟩ := heq
  have hboth : (d.sections ++ d.former).map SectionState.bare =
      (d'.sections ++ d'.former).map SectionState.bare := by
    rw [List.map_append, List.map_append, hsections, hformer]
  refine ⟨forall_of_map_bare (fun _ => Iff.rfl) hboth h.detached, ?_, ?_⟩
  · rw [← map_eq_of_map_bare (f := SectionState.key) (fun _ => rfl) hboth]
    exact h.nodup
  · rw [← hkey]
    exact forall_of_map_bare (p := fun state => state.key.document = d.key) (fun _ => Iff.rfl) hboth
      h.key_document

/-- A well-formed document that drops all its sections is released. -/
theorem WellFormed.released_release (h : d.WellFormed segmenter) : d.release.Released := by
  have hkeys : (d.release.sections ++ d.release.former).map SectionState.key =
      (d.sections ++ d.former).map SectionState.key := by
    simp only [release, List.map_append, List.map_map]
    rfl
  refine ⟨?_, ?_, ?_⟩
  · simp only [release, List.forall_mem_append, List.forall_mem_map]
    exact ⟨fun _ _ => rfl, h.detached⟩
  · rw [hkeys]
    exact h.nodup
  · have hdocument := h.key_document
    rw [List.forall_mem_append] at hdocument
    simp only [release, List.forall_mem_append, List.forall_mem_map]
    exact hdocument

/-- Items with their places stand in the order of the places. -/
theorem pairwise_zipIdx {α : Type} {R : α → α → Prop} {xs : List α} (h : xs.Pairwise R)
    (place : Nat) : (xs.zipIdx place).Pairwise fun a b => R a.1 b.1 ∧ a.2 < b.2 := by
  induction xs generalizing place with
  | nil => exact List.Pairwise.nil
  | cons x xs ih =>
      obtain ⟨hx, hxs⟩ := List.pairwise_cons.1 h
      refine List.pairwise_cons.2 ⟨fun b hb => ⟨hx b.1 (List.fst_mem_of_mem_zipIdx hb), ?_⟩,
        ih hxs (place + 1)⟩
      exact List.le_snd_of_mem_zipIdx hb

/-- Sections start one after the other. -/
theorem pairwise_segment (segmenter : Segmenter) (index : LineIndex) :
    (segmenter.segment index).Pairwise fun s t => s.start < t.start :=
  (segmenter.tiles_segment index).pairwise_start

/-- A new document is well formed. -/
theorem wellFormed_create (id : String) (revision : Nat) (text : String) (segmenter : Segmenter) :
    (create id revision text segmenter).WellFormed segmenter := by
  have hpairs := pairwise_zipIdx (pairwise_segment segmenter (LineIndex.ofText text)) 0
  refine ⟨?_, ?_, ?_, ?_, ?_, ?_, Nat.le_refl revision⟩
  · simp [create, freshStates, SectionState.fresh, List.map_map, Function.comp_def]
  · simp only [create, freshStates, List.forall_mem_map]
    intro s _
    rfl
  · intro state hstate
    cases hstate
  · simp only [create, freshStates, List.append_nil, List.map_map]
    refine List.Pairwise.map _ ?_ hpairs
    rintro a b ⟨_, hlt⟩ heq
    have hplace := congrArg SectionKey.place heq
    simp only [Function.comp_apply, SectionState.fresh] at hplace
    omega
  · simp only [create, freshStates, List.append_nil, List.forall_mem_map]
    intro s _
    rfl
  · simp only [create, freshStates, List.append_nil, List.forall_mem_map]
    intro s _
    exact Nat.le_refl revision

variable (d) in
/-- The change from the text of a document to another text. -/
def revising (text : String) : Revising :=
  ⟨d.key, d.revision + 1, d.index, LineIndex.ofText text⟩

/-- The states of a revised document are those that stand for the sections of the new text. -/
theorem WellFormed.sections_revise (h : d.WellFormed segmenter) (text : String) :
    (d.revise text segmenter).1.sections =
      (segmenter.segment (.ofText text)).zipIdx.map fun s =>
        (d.revising text).stateFor d.sections s.2 s.1 :=
  Revising.kept_reconcile _ h.ascending 0 (pairwise_segment segmenter _)

/-- Among its former states are those that stand for none of them. -/
theorem WellFormed.former_revise (h : d.WellFormed segmenter) (text : String) :
    (d.revise text segmenter).1.former = d.former ++
      (Revising.unmatched d.sections (segmenter.segment (.ofText text))).map .detach :=
  congrArg (d.former ++ ·)
    (Revising.dropped_reconcile _ h.ascending 0 (pairwise_segment segmenter _))

/-- No two sections of a new text get one state. -/
theorem WellFormed.nodup_stateFor (h : d.WellFormed segmenter) (text : String) {s t : Section}
    (hst : s.start < t.start) {i j : Nat} (hij : i < j) :
    ((d.revising text).stateFor d.sections i s).key ≠
      ((d.revising text).stateFor d.sections j t).key := by
  intro hkey
  rcases (d.revising text).stateFor_cases d.sections i s with ⟨a, ha, hsame, _, heq⟩ | ⟨_, heq⟩ <;>
    rcases (d.revising text).stateFor_cases d.sections j t with
      ⟨b, hb, hsame', _, heq'⟩ | ⟨_, heq'⟩ <;>
      rw [heq, heq'] at hkey
  · have hab : a = b :=
      h.eq_of_key_eq (List.mem_append_left _ ha) (List.mem_append_left _ hb) hkey
    have hs := (Section.sameIdentity_iff.1 hsame).2.1
    have ht := (Section.sameIdentity_iff.1 hsame').2.1
    rw [hab] at hs
    omega
  · have hle := h.key_revision a (List.mem_append_left _ ha)
    have hrevision : a.key.revision = d.revision + 1 := congrArg SectionKey.revision hkey
    omega
  · have hle := h.key_revision b (List.mem_append_left _ hb)
    have hrevision : d.revision + 1 = b.key.revision := congrArg SectionKey.revision hkey
    omega
  · have hplace : i = j := congrArg SectionKey.place hkey
    omega

/-- The state of a new section is none of those that the document once had or drops now. -/
theorem WellFormed.stateFor_ne_former (h : d.WellFormed segmenter) (text : String)
    {new : List Section} {s : Section} (hs : s ∈ new) (i : Nat) {state : SectionState}
    (hstate : state ∈ d.former ∨ state ∈ Revising.unmatched d.sections new) :
    ((d.revising text).stateFor d.sections i s).key ≠ state.key := by
  intro hkey
  have hmem : state ∈ d.sections ++ d.former := by
    rcases hstate with hstate | hstate
    · exact List.mem_append_right _ hstate
    · exact List.mem_append_left _ ((Revising.mem_unmatched_iff state).1 hstate).1
  rcases (d.revising text).stateFor_cases d.sections i s with ⟨a, ha, hsame, _, heq⟩ | ⟨_, heq⟩ <;>
    rw [heq] at hkey
  · have hstate' : a = state := h.eq_of_key_eq (List.mem_append_left _ ha) hmem hkey
    subst hstate'
    rcases hstate with hformer | hunmatched
    · have hdetached := h.detached a hformer
      rw [h.attached a ha] at hdetached
      cases hdetached
    · have hno := ((Revising.mem_unmatched_iff a).1 hunmatched).2 s hs
      rw [hsame] at hno
      cases hno
  · have hle := h.key_revision state hmem
    have hrevision : d.revision + 1 = state.key.revision := congrArg SectionKey.revision hkey
    omega

/-- The states of a revised document were made for the document, in its revisions. -/
theorem WellFormed.key_revise (h : d.WellFormed segmenter) (text : String) :
    ∀ state ∈ (d.revise text segmenter).1.sections ++ (d.revise text segmenter).1.former,
      state.key.document = d.key ∧ state.key.revision ≤ d.revision + 1 := by
  have hknown : ∀ state ∈ d.sections ++ d.former, state.key.document = d.key ∧
      state.key.revision ≤ d.revision + 1 := fun state hstate =>
    ⟨h.key_document state hstate, Nat.le_succ_of_le (h.key_revision state hstate)⟩
  rw [h.sections_revise text, h.former_revise text]
  simp only [List.forall_mem_append, List.forall_mem_map]
  refine ⟨?_, fun state hstate => hknown state (List.mem_append_right _ hstate), ?_⟩
  · rintro ⟨s, i⟩ _
    rcases (d.revising text).stateFor_cases d.sections i s with ⟨a, ha, _, _, heq⟩ | ⟨_, heq⟩ <;>
      simp only [heq]
    · exact hknown a (List.mem_append_left _ ha)
    · exact ⟨rfl, Nat.le_refl _⟩
  · intro state hstate
    exact hknown state (List.mem_append_left _ ((Revising.mem_unmatched_iff state).1 hstate).1)

/-- The states of a revised document have identities of their own. -/
theorem WellFormed.nodup_revise (h : d.WellFormed segmenter) (text : String) :
    (((d.revise text segmenter).1.sections ++ (d.revise text segmenter).1.former).map
      SectionState.key).Nodup := by
  have hpairs := pairwise_zipIdx (pairwise_segment segmenter (LineIndex.ofText text)) 0
  rw [h.sections_revise text, h.former_revise text]
  simp only [List.map_append, List.map_map]
  refine List.nodup_append.2 ⟨?_, ?_, ?_⟩
  · refine List.Pairwise.map _ ?_ hpairs
    rintro ⟨s, i⟩ ⟨t, j⟩ ⟨hst, hij⟩
    exact h.nodup_stateFor text hst hij
  · have hall := h.nodup
    rw [List.map_append] at hall
    refine (List.nodup_append_comm.1 hall).sublist (List.Sublist.append_left ?_ _)
    exact List.filter_sublist.map SectionState.key
  · rintro _ hnew key hold rfl
    obtain ⟨⟨s, i⟩, hs, rfl⟩ := List.mem_map.1 hnew
    have hmem : s ∈ segmenter.segment (.ofText text) := List.fst_mem_of_mem_zipIdx hs
    rcases List.mem_append.1 hold with hold | hold
    · obtain ⟨state, hstate, hkey⟩ := List.mem_map.1 hold
      exact h.stateFor_ne_former text hmem i (Or.inl hstate) hkey.symm
    · obtain ⟨state, hstate, hkey⟩ := List.mem_map.1 hold
      exact h.stateFor_ne_former text hmem i (Or.inr hstate) hkey.symm

/-- A well-formed document is well formed with another text. -/
theorem wellFormed_revise (h : d.WellFormed segmenter) (text : String) :
    (d.revise text segmenter).1.WellFormed segmenter := by
  have hsections := h.sections_revise text
  have hformer := h.former_revise text
  have hkeys := h.key_revise text
  refine ⟨?_, ?_, ?_, h.nodup_revise text, fun state hstate => (hkeys state hstate).1,
    fun state hstate => (hkeys state hstate).2, Nat.le_succ_of_le h.opening_le⟩
  · have hcurrent : (SectionState.current ∘ fun s : Section × Nat =>
        (d.revising text).stateFor d.sections s.2 s.1) = Prod.fst :=
      funext fun s => Revising.current_stateFor _ _ _ _
    rw [hsections, List.map_map, hcurrent, List.zipIdx_map_fst]
    rfl
  · rw [hsections]
    simp only [List.forall_mem_map]
    rintro ⟨s, i⟩ _
    rcases (d.revising text).stateFor_cases d.sections i s with ⟨a, ha, _, _, heq⟩ | ⟨_, heq⟩ <;>
      simp only [heq]
    · exact h.attached a ha
    · rfl
  · rw [hformer]
    simp only [List.forall_mem_append, List.forall_mem_map]
    exact ⟨h.detached, fun _ _ => rfl⟩

end Document

end Polyglot
