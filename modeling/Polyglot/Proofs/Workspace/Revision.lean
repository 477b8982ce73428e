import Polyglot.Proofs.Workspace.Content
import Polyglot.Workspace.Query

/-!
# Reconciling is exact

Giving a document another text keeps of its states exactly those that have the identity of a
section of the new text, with all that they hold, and makes fresh states for the other sections.
The handlers are told, once each, of the states that were dropped, of the fresh ones, and of the
kept ones whose section or text is not what it was (`Document.Reconciled`). This holds for every
document of a reachable workspace (`changeText_reconciles`).
-/

set_option autoImplicit false

namespace Polyglot

namespace Document

/-- What became of a document when it was given a text, and of what the handlers are told: as if
each section of the text had looked for an old state of its identity. -/
structure Reconciled (segmenter : Segmenter) (d : Document) (text : String) (d' : Document)
    (ns : List Notification) : Prop where
  text_eq : d'.text = text
  current_eq : d'.sections.map SectionState.current = segmenter.segment (.ofText text)
  reused_iff : ∀ old ∈ d.sections, ∀ state ∈ d'.sections,
    state.key = old.key ↔ old.current.sameIdentity state.current = true
  eq_of_reused : ∀ old ∈ d.sections, ∀ state ∈ d'.sections,
    state.key = old.key → state = { old with current := state.current }
  eq_of_fresh : ∀ (place : Nat) (state : SectionState), d'.sections[place]? = some state →
    (∀ old ∈ d.sections, state.key ≠ old.key) →
      state = .fresh ⟨d.key, d.revision + 1, place⟩ state.current ∧
        ∀ known ∈ d.sections ++ d.former, state.key ≠ known.key
  nodup_keys : (d'.sections.map SectionState.key).Nodup
  nodup_notifications : ns.Nodup
  mem_notifications_iff : ∀ n, n ∈ ns ↔
    (∃ old ∈ d.sections, (∀ state ∈ d'.sections, state.key ≠ old.key) ∧ n = ⟨old.key, .removed⟩) ∨
    (∃ state ∈ d'.sections, (∀ old ∈ d.sections, state.key ≠ old.key) ∧
      n = ⟨state.key, .created⟩) ∨
    (∃ old ∈ d.sections, ∃ state ∈ d'.sections, state.key = old.key ∧
      (old.current ≠ state.current ∨ (d.view old).text ≠ (d'.view state).text) ∧
        n = ⟨state.key, .updated⟩)
  properties_eq : d'.properties = ∅

variable {segmenter : Segmenter} {d : Document}

/-- Every section of a document has a text. -/
theorem WellFormed.exists_text (h : d.WellFormed segmenter) {state : SectionState}
    (hstate : state ∈ d.sections) : ∃ text, (d.view state).text = .ok text := by
  obtain ⟨texts, htexts, _⟩ := h.exists_texts
  have hmem := List.mem_map_of_mem (f := fun state => (d.view state).text) hstate
  rw [htexts] at hmem
  obtain ⟨text, _, htext⟩ := List.mem_map.1 hmem
  exact ⟨text, htext.symm⟩

/-- The text that is compared when a document is revised is the one that its section shows. -/
theorem WellFormed.sectionText?_eq (h : d.WellFormed segmenter) {state : SectionState}
    (hstate : state ∈ d.sections) :
    Revising.sectionText? d.index state.current = (d.view state).text.toOption := by
  rw [h.text_view hstate]
  rfl

/-- A state at a place of a revised document stands for the section at that place. -/
theorem WellFormed.getElem?_revise (h : d.WellFormed segmenter) (text : String) (place : Nat)
    (state : SectionState) :
    (d.revise text segmenter).1.sections[place]? = some state ↔
      ∃ s, (segmenter.segment (.ofText text))[place]? = some s ∧
        state = (d.revising text).stateFor d.sections place s := by
  rw [h.sections_revise text, List.getElem?_map, List.getElem?_zipIdx, Option.map_map,
    Option.map_eq_some_iff]
  simp only [Function.comp_apply, Nat.zero_add, eq_comm (a := state)]

/-- The states after a revision are those that are made for the new sections. -/
theorem WellFormed.mem_revise_iff (h : d.WellFormed segmenter) (text : String)
    (state : SectionState) :
    state ∈ (d.revise text segmenter).1.sections ↔
      ∃ place s, (segmenter.segment (.ofText text))[place]? = some s ∧
        state = (d.revising text).stateFor d.sections place s := by
  rw [List.mem_iff_getElem?]
  exact exists_congr fun place => h.getElem?_revise text place state

/-- The state of a section is a given old one if the section has its identity, and not otherwise. -/
theorem WellFormed.key_stateFor_eq_iff (h : d.WellFormed segmenter) (text : String) (place : Nat)
    (s : Section) {old : SectionState} (hold : old ∈ d.sections) :
    ((d.revising text).stateFor d.sections place s).key = old.key ↔
      old.current.sameIdentity s = true := by
  rcases (d.revising text).stateFor_cases d.sections place s with
    ⟨a, ha, hsame, hmatch, heq⟩ | ⟨hmatch, heq⟩ <;> rw [heq]
  · constructor
    · intro hkey
      have haold : a = old :=
        h.eq_of_key_eq (List.mem_append_left _ ha) (List.mem_append_left _ hold) hkey
      rw [← haold]
      exact hsame
    · intro hsame'
      have hmatch' := (Revising.match?_eq_some_iff h.ascending old).2 ⟨hold, hsame'⟩
      have haold : a = old := Option.some.inj (hmatch.symm.trans hmatch')
      rw [← haold]
  · constructor
    · intro hkey
      have hle := h.key_revision old (List.mem_append_left _ hold)
      have hrevision : d.revision + 1 = old.key.revision := congrArg SectionKey.revision hkey
      omega
    · intro hsame
      rw [Revising.match?_eq_none_iff.1 hmatch old hold] at hsame
      cases hsame

/-- What stands for nothing in the new text is in no state of the revised document. -/
theorem WellFormed.mem_unmatched_iff (h : d.WellFormed segmenter) (text : String)
    (old : SectionState) :
    old ∈ Revising.unmatched d.sections (segmenter.segment (.ofText text)) ↔
      old ∈ d.sections ∧ ∀ state ∈ (d.revise text segmenter).1.sections, state.key ≠ old.key := by
  rw [Revising.mem_unmatched_iff]
  refine and_congr_right fun hold => ?_
  constructor
  · intro hnone state hstate hkey
    obtain ⟨place, s, hs, rfl⟩ := (h.mem_revise_iff text state).1 hstate
    have hsame := (h.key_stateFor_eq_iff text place s hold).1 hkey
    rw [hnone s (List.mem_of_getElem? hs)] at hsame
    cases hsame
  · intro hnone s hs
    obtain ⟨place, hplace⟩ := List.mem_iff_getElem?.1 hs
    refine Bool.eq_false_iff.2 fun hsame => ?_
    have hkey := (h.key_stateFor_eq_iff text place s hold).2 hsame
    exact hnone _ ((h.mem_revise_iff text _).2 ⟨place, s, hplace, rfl⟩) hkey

/-- A kept state counts as updated if it shows another section or another text. -/
theorem WellFormed.differs_iff (h : d.WellFormed segmenter) (text : String)
    {old state : SectionState} (hold : old ∈ d.sections)
    (hstate : state ∈ (d.revise text segmenter).1.sections) :
    (d.revising text).differs old.current state.current = true ↔
      old.current ≠ state.current ∨
        (d.view old).text ≠ ((d.revise text segmenter).1.view state).text := by
  have hbefore : Revising.sectionText? (d.revising text).before old.current =
      (d.view old).text.toOption := h.sectionText?_eq hold
  have hafter : Revising.sectionText? (d.revising text).after state.current =
      ((d.revise text segmenter).1.view state).text.toOption :=
    (wellFormed_revise h text).sectionText?_eq hstate
  obtain ⟨a, ha⟩ := h.exists_text hold
  obtain ⟨b, hb⟩ := (wellFormed_revise h text).exists_text hstate
  unfold Revising.differs
  rw [hbefore, hafter, ha, hb, Bool.or_eq_true, decide_eq_true_iff, decide_eq_true_iff]
  simp only [Except.toOption, ne_eq, Option.some.injEq, Except.ok.injEq]

/-- Without regard to order, the handlers are told of the states that stand for nothing and of what
befell the states of the new sections. -/
theorem WellFormed.notifications_revise (h : d.WellFormed segmenter) (text : String) :
    (d.revise text segmenter).2.Perm
      ((Revising.unmatched d.sections (segmenter.segment (.ofText text))).map
          (fun state => ⟨state.key, .removed⟩) ++
        (segmenter.segment (.ofText text)).zipIdx.filterMap fun s =>
          (d.revising text).notificationFor d.sections s.2 s.1) :=
  Revising.notifications_reconcile _ h.ascending 0 (pairwise_segment segmenter _)

/-- No section that stays or comes is told to be removed. -/
theorem change_ne_removed {r : Revising} {old : List SectionState} {place : Nat} {s : Section}
    {n : Notification} (h : r.notificationFor old place s = some n) : n.change ≠ .removed := by
  unfold Revising.notificationFor Revising.changeFor at h
  obtain ⟨change, hchange, rfl⟩ := Option.map_eq_some_iff.1 h
  rintro rfl
  split at hchange
  · split at hchange <;> cases hchange
  · cases hchange

/-- Nobody is told of anything twice. -/
theorem WellFormed.nodup_notifications (h : d.WellFormed segmenter) (text : String) :
    (d.revise text segmenter).2.Nodup := by
  have hkeys : (d.sections.map SectionState.key).Nodup := by
    have hall := h.nodup
    rw [List.map_append] at hall
    exact (List.nodup_append.1 hall).1
  have hpairs := pairwise_zipIdx (pairwise_segment segmenter (LineIndex.ofText text)) 0
  rw [(h.notifications_revise text).nodup_iff]
  refine List.nodup_append.2 ⟨?_, ?_, ?_⟩
  · have hunmatched : (Revising.unmatched d.sections (segmenter.segment (.ofText text))).Pairwise
        fun a b => a.key ≠ b.key := (List.pairwise_map.1 hkeys).sublist List.filter_sublist
    refine hunmatched.map _ ?_
    intro a b hne heq
    exact hne (congrArg Notification.state heq)
  · refine hpairs.filterMap _ ?_
    rintro ⟨s, i⟩ ⟨t, j⟩ ⟨hst, hij⟩ n hn n' hn' rfl
    have hs : n.state = ((d.revising text).stateFor d.sections i s).key := by
      obtain ⟨_, _, rfl⟩ := Option.map_eq_some_iff.1 hn
      rfl
    have ht : n.state = ((d.revising text).stateFor d.sections j t).key := by
      obtain ⟨_, _, rfl⟩ := Option.map_eq_some_iff.1 hn'
      rfl
    exact h.nodup_stateFor text hst hij (hs.symm.trans ht)
  · intro n hremoved n' hother heq
    obtain ⟨_, _, rfl⟩ := List.mem_map.1 hremoved
    obtain ⟨_, _, hn⟩ := List.mem_filterMap.1 hother
    rw [← heq] at hn
    exact change_ne_removed hn rfl

/-- What is told of a section's state: that it is fresh, or that it was kept and updated. -/
theorem WellFormed.notificationFor_eq_some_iff (h : d.WellFormed segmenter) (text : String)
    {place : Nat} {s : Section} (hs : (segmenter.segment (.ofText text))[place]? = some s)
    (n : Notification) :
    (d.revising text).notificationFor d.sections place s = some n ↔
      ∃ state, state = (d.revising text).stateFor d.sections place s ∧
        (((∀ old ∈ d.sections, state.key ≠ old.key) ∧ n = ⟨state.key, .created⟩) ∨
          ∃ old ∈ d.sections, state.key = old.key ∧
            (old.current ≠ state.current ∨
              (d.view old).text ≠ ((d.revise text segmenter).1.view state).text) ∧
            n = ⟨state.key, .updated⟩) := by
  have hkey := fun old (hold : old ∈ d.sections) => h.key_stateFor_eq_iff text place s hold
  have hmem : (d.revising text).stateFor d.sections place s ∈
      (d.revise text segmenter).1.sections := (h.mem_revise_iff text _).2 ⟨place, s, hs, rfl⟩
  simp only [exists_eq_left, Revising.notificationFor, Revising.changeFor]
  cases hmatch : Revising.match? d.sections s with
  | none =>
      have hnone : ∀ old ∈ d.sections,
          ((d.revising text).stateFor d.sections place s).key ≠ old.key := by
        intro old hold heq
        have hsame := (hkey old hold).1 heq
        rw [Revising.match?_eq_none_iff.1 hmatch old hold] at hsame
        cases hsame
      simp only [Option.map_some, Option.some.injEq]
      constructor
      · intro heq
        exact Or.inl ⟨hnone, heq.symm⟩
      · rintro (⟨_, heq⟩ | ⟨old, hold, heq, _⟩)
        · exact heq.symm
        · exact absurd heq (hnone old hold)
  | some a =>
      obtain ⟨ha, hsame⟩ := (Revising.match?_eq_some_iff h.ascending a).1 hmatch
      have hdiffers := h.differs_iff text ha hmem
      rw [Revising.current_stateFor] at hdiffers ⊢
      simp only
      constructor
      · intro hn
        split at hn
        · rename_i hd
          obtain rfl := Option.some.inj hn
          exact Or.inr ⟨a, ha, (hkey a ha).2 hsame, hdiffers.1 hd, rfl⟩
        · cases hn
      · rintro (⟨hnone, _⟩ | ⟨old, hold, heq, hchanged, rfl⟩)
        · exact absurd ((hkey a ha).2 hsame) (hnone a ha)
        · have hmatch' := (Revising.match?_eq_some_iff h.ascending old).2
            ⟨hold, (hkey old hold).1 heq⟩
          obtain rfl : a = old := Option.some.inj (hmatch.symm.trans hmatch')
          rw [if_pos (hdiffers.2 hchanged), Option.map_some]

/-- The handlers are told of what stands for nothing and of what befell the states of the new
sections, and of nothing else. -/
theorem WellFormed.mem_notifications_iff (h : d.WellFormed segmenter) (text : String)
    (n : Notification) :
    n ∈ (d.revise text segmenter).2 ↔
      (∃ old ∈ d.sections, (∀ state ∈ (d.revise text segmenter).1.sections, state.key ≠ old.key) ∧
        n = ⟨old.key, .removed⟩) ∨
      ∃ state ∈ (d.revise text segmenter).1.sections,
        ((∀ old ∈ d.sections, state.key ≠ old.key) ∧ n = ⟨state.key, .created⟩) ∨
          ∃ old ∈ d.sections, state.key = old.key ∧
            (old.current ≠ state.current ∨
              (d.view old).text ≠ ((d.revise text segmenter).1.view state).text) ∧
            n = ⟨state.key, .updated⟩ := by
  rw [(h.notifications_revise text).mem_iff, List.mem_append]
  refine or_congr ?_ ?_
  · rw [List.mem_map]
    refine exists_congr fun old => ?_
    rw [h.mem_unmatched_iff text, and_assoc, eq_comm (a := n)]
  · constructor
    · intro hn
      obtain ⟨⟨s, place⟩, hs, hsome⟩ := List.mem_filterMap.1 hn
      have hplace := List.mem_zipIdx_iff_getElem?.1 hs
      obtain ⟨state, hstate, hcases⟩ := (h.notificationFor_eq_some_iff text hplace n).1 hsome
      exact ⟨state, (h.mem_revise_iff text state).2 ⟨place, s, hplace, hstate⟩, hcases⟩
    · rintro ⟨state, hmem, hcases⟩
      obtain ⟨place, s, hplace, hstate⟩ := (h.mem_revise_iff text state).1 hmem
      refine List.mem_filterMap.2 ⟨⟨s, place⟩, List.mem_zipIdx_iff_getElem?.2 hplace, ?_⟩
      exact (h.notificationFor_eq_some_iff text hplace n).2 ⟨state, hstate, hcases⟩

/-- A new text becomes the text of a document as `Reconciled` says. -/
theorem WellFormed.reconciled_revise (h : d.WellFormed segmenter) (text : String) :
    d.Reconciled segmenter text (d.revise text segmenter).1 (d.revise text segmenter).2 := by
  have hnew := wellFormed_revise h text
  refine ⟨rfl, hnew.current_eq, ?_, ?_, ?_, ?_, h.nodup_notifications text, ?_, rfl⟩
  · intro old hold state hstate
    obtain ⟨place, s, _, rfl⟩ := (h.mem_revise_iff text state).1 hstate
    rw [h.key_stateFor_eq_iff text place s hold, Revising.current_stateFor]
  · intro old hold state hstate hkey
    obtain ⟨place, s, _, rfl⟩ := (h.mem_revise_iff text state).1 hstate
    have hsame := (h.key_stateFor_eq_iff text place s hold).1 hkey
    have hmatch := (Revising.match?_eq_some_iff h.ascending old).2 ⟨hold, hsame⟩
    rw [Revising.current_stateFor]
    simp only [Revising.stateFor, hmatch]
  · intro place state hplace hfresh
    obtain ⟨s, _, rfl⟩ := (h.getElem?_revise text place state).1 hplace
    rcases (d.revising text).stateFor_cases d.sections place s with
      ⟨a, ha, hsame, _, _⟩ | ⟨_, heq⟩
    · exact absurd ((h.key_stateFor_eq_iff text place s ha).2 hsame) (hfresh a ha)
    · rw [heq]
      refine ⟨rfl, fun known hknown hkey => ?_⟩
      have hle := h.key_revision known hknown
      have hrevision : d.revision + 1 = known.key.revision := congrArg SectionKey.revision hkey
      omega
  · have hall := hnew.nodup
    rw [List.map_append] at hall
    exact (List.nodup_append.1 hall).1
  · intro n
    rw [h.mem_notifications_iff text n]
    refine or_congr_right ?_
    constructor
    · rintro ⟨state, hmem, ⟨hfresh, heq⟩ | ⟨old, hold, hkept⟩⟩
      · exact Or.inl ⟨state, hmem, hfresh, heq⟩
      · exact Or.inr ⟨old, hold, state, hmem, hkept⟩
    · rintro (⟨state, hmem, hfresh⟩ | ⟨old, hold, state, hmem, hkept⟩)
      · exact ⟨state, hmem, Or.inl hfresh⟩
      · exact ⟨state, hmem, Or.inr ⟨old, hold, hkept⟩⟩

end Document

namespace Workspace

variable {w : Workspace}

/-- To tell a handler of a section leaves the views of the others as they are. -/
theorem view?_deliverOne_of_ne {n : Notification} {key : SectionKey} (hne : n.state ≠ key) :
    (w.deliverOne n).view? key = w.view? key := by
  unfold deliverOne
  split
  · rfl
  · split
    · rfl
    · rw [view?_absorb, if_neg hne]
      rfl

/-- A state that is not told of anything keeps what it has. -/
theorem view?_deliver_of_not_mem (ns : List Notification) {key : SectionKey}
    (hns : ∀ n ∈ ns, n.state ≠ key) : (w.deliver ns).view? key = w.view? key := by
  induction ns generalizing w with
  | nil => rfl
  | cons n ns ih =>
      obtain ⟨hn, hrest⟩ := List.forall_mem_cons.1 hns
      have hlater := ih (w := w.deliverOne n) hrest
      rw [view?_deliverOne_of_ne hn] at hlater
      exact hlater

/-- In a reachable workspace, every text that an open document is given is reconciled with its
states. Handlers that are told of it change at most the properties of the states they are told of,
and each state has the handler of its grammar. -/
theorem changeText_reconciles (grammars : GrammarRegistry) (segmenter : Segmenter) (w : Workspace)
    (hw : Reachable grammars segmenter w) (id : String) (d : Document)
    (hd : w.document? id = some d) (text : String) :
    ∃ (w' : Workspace) (d' : Document) (ns : List Notification),
      w.replace id text = .ok (w', ns) ∧ w'.document? id = some d' ∧
      d.Reconciled segmenter text d' ns ∧
      (∀ state ∈ d'.sections, ((Query.handler? state).run w').1 =
        .ok (grammars.handler? state.current.grammar)) ∧
      w.changeText id text = .ok (w'.deliver ns) ∧
      (∃ d'' : Document, (w'.deliver ns).document? id = some d'' ∧ d''.bare = d'.bare ∧
        d''.properties = ∅) ∧
      ∀ state ∈ d'.sections, (∀ n ∈ ns, n.state ≠ state.key) →
        (w'.deliver ns).view? state.key = some (d'.view state) := by
  have hwell := hw.wellFormed
  have hsegmenter := hw.shared.2
  have hreplace := replace_eq_of_some hd text
  have hwell' := hwell.replace hd text
  rw [hsegmenter] at hreplace hwell'
  have hdocument : ({ w with opened := w.opened.insert id (d.revise text segmenter).1 } :
      Workspace).document? id = some (d.revise text segmenter).1 := by
    rw [document?, Dictionary.find?_insert, if_pos rfl]
  refine ⟨_, _, _, hreplace, hdocument, ?_, ?_, ?_, ?_, ?_⟩
  · exact (hsegmenter ▸ hwell.opened id d hd).reconciled_revise text
  · intro state _
    rw [← hw.shared.1]
    rfl
  · rw [changeText, hreplace]
    rfl
  · have halike := hwell'.alike_deliver (d.revise text segmenter).2
    obtain ⟨d'', hd'', hbare⟩ := halike.exists_document' hdocument
    refine ⟨d'', hd'', hbare, ?_⟩
    have hproperties := congrArg Document.properties hbare
    exact hproperties
  · intro state hstate hns
    rw [view?_deliver_of_not_mem _ hns]
    exact hwell'.view?_eq_some hdocument (List.mem_append_left _ hstate)

/-- A change that keeps sections, gives up one and brings a new one. -/
theorem changeText_reconciles_mixedEdits :
    ∃ d : Document,
      Reachable .empty default ((Workspace.empty .empty default).run mixedEdits) ∧
      ((Workspace.empty .empty default).run mixedEdits).document? "notes" = some d ∧
      ∃ (w' : Workspace) (d' : Document) (ns : List Notification),
        ((Workspace.empty .empty default).run mixedEdits).replace "notes"
            "intro\n###Mapping\nx -> z\n###Other\n###Query" = .ok (w', ns) ∧
          d.Reconciled default "intro\n###Mapping\nx -> z\n###Other\n###Query" d' ns := by
  have hopen : (((Workspace.empty .empty default).run mixedEdits).document? "notes").isSome =
      true := by decide +kernel
  obtain ⟨d, hd⟩ := Option.isSome_iff_exists.1 hopen
  have hreachable : Reachable .empty default ((Workspace.empty .empty default).run mixedEdits) :=
    Reachable.empty.run mixedEdits
  obtain ⟨w', d', ns, hreplace, _, hreconciled, _⟩ := changeText_reconciles .empty default _
    hreachable "notes" d hd "intro\n###Mapping\nx -> z\n###Other\n###Query"
  exact ⟨d, hreachable, hd, w', d', ns, hreplace, hreconciled⟩

end Workspace

end Polyglot
