import Polyglot.Proofs.Grammar.Memoization
import Polyglot.Proofs.Workspace.Occurrence
import Polyglot.Proofs.Workspace.Views

/-!
# Edits keep memoized declarations coherent

What a memoizing handler keeps for the sections of its grammar is what it would read from them now,
and nothing is kept exactly where a computation is due (`Kept`). An edit that changes what is read
from a section has the handler told that the section was updated: `Kept.effect` says what remains to
be told after an edit, and `Kept.deliver` that nothing is amiss when all of it was told.
-/

set_option autoImplicit false

namespace Polyglot

namespace Workspace

variable {w : Workspace} {past : List Occurrence} {h : Handler} {key : String}
  {read : DeclarationReader}

/-- What is kept for a state is coherent, and nothing is kept exactly if a computation is due. As
long as the handler has yet to be told of the state, nothing is kept for one that was created, and
anything may be kept for one that was updated. -/
def Settled (key : String) (read : DeclarationReader) (past : List Occurrence)
    (pending : List Notification) (state : SectionKey) (view : SectionView) : Prop :=
  ⟨state, .updated⟩ ∉ pending →
    (⟨state, .created⟩ ∈ pending → view.properties.find? key = none) ∧
    (⟨state, .created⟩ ∉ pending → view.Coherent key read ∧
      (view.properties.find? key = none ↔ Due state past))

/-- What a memoizing handler keeps for the sections of its grammar is settled. -/
structure Kept (h : Handler) (key : String) (read : DeclarationReader) (w : Workspace)
    (past : List Occurrence) (pending : List Notification) : Prop where
  registered : w.grammars.handler? h.name = some h
  timely : Timely past
  views : ∀ (state : SectionKey) (view : SectionView), w.view? state = some view →
    view.isAttached = true → view.current.grammar = h.name →
      Settled key read past pending state view

/-- A view of an attached section of the grammar is coherent, and its value is there unless it is
due. -/
theorem Kept.view (hkept : Kept h key read w past []) {state : SectionKey} {view : SectionView}
    (hview : w.view? state = some view) (hattached : view.isAttached = true)
    (hgrammar : view.current.grammar = h.name) :
    view.Coherent key read ∧ (view.properties.find? key = none ↔ Due state past) :=
  (hkept.views state view hview hattached hgrammar List.not_mem_nil).2 List.not_mem_nil

/-- A notification about one state says nothing about another. -/
theorem mem_cons_iff_of_ne {n : Notification} {pending : List Notification} {state : SectionKey}
    (hne : n.state ≠ state) (change : SectionChange) :
    ⟨state, change⟩ ∈ n :: pending ↔ (⟨state, change⟩ : Notification) ∈ pending := by
  rw [List.mem_cons, or_iff_right]
  rintro rfl
  exact hne rfl

/-- A notification for another section settles nothing about this one. -/
theorem settled_cons_iff_of_ne {n : Notification} {pending : List Notification}
    {state : SectionKey} (hne : n.state ≠ state) (view : SectionView) :
    Settled key read past (n :: pending) state view ↔ Settled key read past pending state view := by
  unfold Settled
  rw [mem_cons_iff_of_ne hne, mem_cons_iff_of_ne hne]

/-- Where nothing is kept and a computation is due, all is settled. -/
theorem settled_of_due {pending : List Notification} {state : SectionKey} {view : SectionView}
    (hnone : view.properties.find? key = none) (hdue : Due state past) :
    Settled key read past pending state view := by
  intro _
  refine ⟨fun _ => hnone, fun _ => ⟨fun value hvalue => ?_, iff_of_true hnone hdue⟩⟩
  cases hnone.symm.trans hvalue

/-- When a memoizing handler is told of a change of a state, what it keeps for the state is settled
but for what it is yet to be told. -/
theorem Settled.told (hmemo : h.Memoizes key read) {n : Notification}
    {pending : List Notification} {view : SectionView}
    (hsettled : Settled key read past (n :: pending) n.state view) :
    Settled key read (past ++ [.told n.state n.change]) pending n.state
      (view.withProperties (h.sectionChanged view n.change).properties) := by
  have hfind := hmemo.find?_sectionChanged view n.change
  have hdue : n.change ≠ .removed → Due n.state (past ++ [.told n.state n.change]) := fun hchange =>
    (due_append_told_iff _ _ _).2 (Or.inl ⟨rfl, hchange⟩)
  cases hchange : n.change with
  | updated =>
      -- The handler has dropped what it kept.
      rw [hchange] at hdue hfind
      exact settled_of_due hfind (hdue SectionChange.noConfusion)
  | created =>
      rw [hchange] at hdue hfind
      have hfresh : (⟨n.state, .created⟩ : Notification) ∈ n :: pending := by
        rw [← hchange]
        exact List.mem_cons_self
      intro hupdated
      have hpending : (⟨n.state, .updated⟩ : Notification) ∉ n :: pending := by
        rw [List.mem_cons, not_or]
        refine ⟨fun hn => ?_, hupdated⟩
        cases hchange.symm.trans (congrArg Notification.change hn).symm
      have hnone := hfind.trans ((hsettled hpending).1 hfresh)
      exact settled_of_due hnone (hdue SectionChange.noConfusion) hupdated
  | removed =>
      -- What is kept stays, and nothing more is due.
      rw [hchange] at hfind
      have hmem : ∀ change, change ≠ .removed →
          ((⟨n.state, change⟩ : Notification) ∈ n :: pending ↔ ⟨n.state, change⟩ ∈ pending) := by
        intro change hother
        rw [List.mem_cons, or_iff_right]
        intro hn
        exact hother ((congrArg Notification.change hn).trans hchange)
      have hsame : Due n.state (past ++ [.told n.state .removed]) ↔ Due n.state past := by
        rw [due_append_told_iff]
        exact or_iff_right fun hboth => hboth.2 rfl
      unfold Settled at hsettled ⊢
      rw [hmem .updated SectionChange.noConfusion, hmem .created SectionChange.noConfusion]
        at hsettled
      have hkeeps :
        (view.withProperties (h.sectionChanged view .removed).properties).properties.find?
          key = view.properties.find? key := hfind
      unfold SectionView.Coherent
      rw [hkeeps, hsame]
      exact hsettled

/-- The journal tells of a delivery, whatever the handler reports. -/
theorem occurrences_delivered (n : Notification) (view : SectionView) (reports : List Report) :
    (JournalEntry.delivered n.state n.change view :: reports.map .reported).filterMap
      JournalEntry.occurrence? = [.told n.state n.change] := by
  have hreports : JournalEntry.occurrence? ∘ JournalEntry.reported = fun _ => none := rfl
  rw [List.filterMap_cons, List.filterMap_map, hreports, List.filterMap_none]
  rfl

/-- What is kept stays coherent when a handler is told of a change. -/
theorem Kept.deliverOne (hmemo : h.Memoizes key read) {n : Notification}
    {pending : List Notification} (hkept : Kept h key read w past (n :: pending)) :
    ∃ entries, (w.deliverOne n).journal = w.journal ++ entries ∧
      Kept h key read (w.deliverOne n) (past ++ entries.filterMap JournalEntry.occurrence?)
        pending := by
  rcases deliverOne_cases w n with ⟨heq, hnone⟩ | ⟨view, handler, hview, hhandler, heq⟩
  · refine ⟨[], by rw [heq, List.append_nil], ?_⟩
    rw [heq, List.filterMap_nil, List.append_nil]
    refine ⟨hkept.registered, hkept.timely, ?_⟩
    intro state view hview hattached hgrammar
    have hne : n.state ≠ state := by
      rintro rfl
      have hno := hnone view hview
      rw [hgrammar, hkept.registered] at hno
      cases hno
    exact (settled_cons_iff_of_ne hne view).1 (hkept.views state view hview hattached hgrammar)
  · refine ⟨.delivered n.state n.change view ::
      (handler.sectionChanged view n.change).reports.map .reported, ?_, ?_⟩
    · rw [heq, absorb_journal, log, List.append_assoc]
      rfl
    · rw [occurrences_delivered, heq]
      refine ⟨?_, hkept.timely.append_told n.state n.change, ?_⟩
      · rw [absorb_grammars]
        exact hkept.registered
      · intro state view' hview' hattached hgrammar
        rw [view?_absorb] at hview'
        change (if n.state = state then
          (w.view? state).map (·.withProperties (handler.sectionChanged view n.change).properties)
          else w.view? state) = some view' at hview'
        by_cases hsame : n.state = state
        · subst hsame
          rw [if_pos rfl, hview, Option.map_some, Option.some.injEq] at hview'
          subst hview'
          change view.current.grammar = h.name at hgrammar
          have hself : handler = h := by
            rw [hgrammar, hkept.registered] at hhandler
            exact (Option.some.inj hhandler).symm
          rw [hself]
          exact (hkept.views n.state view hview hattached hgrammar).told hmemo
        · rw [if_neg hsame] at hview'
          have hsettled := (settled_cons_iff_of_ne hsame view').1
            (hkept.views state view' hview' hattached hgrammar)
          unfold Settled at hsettled ⊢
          rw [due_append_told_iff, or_iff_right fun hboth => hsame hboth.1]
          exact hsettled

/-- When all handlers were told, what is kept is coherent. -/
theorem Kept.deliver (hmemo : h.Memoizes key read) {pending : List Notification}
    (hkept : Kept h key read w past pending) :
    ∃ entries, (w.deliver pending).journal = w.journal ++ entries ∧
      Kept h key read (w.deliver pending) (past ++ entries.filterMap JournalEntry.occurrence?)
        [] := by
  induction pending generalizing w past with
  | nil =>
      refine ⟨[], (List.append_nil _).symm, ?_⟩
      rw [List.filterMap_nil, List.append_nil]
      exact hkept
  | cons n pending ih =>
      obtain ⟨entries, hjournal, hone⟩ := hkept.deliverOne hmemo
      obtain ⟨rest, hjournal', hall⟩ := ih hone
      refine ⟨entries ++ rest, ?_, ?_⟩
      · rw [← List.append_assoc, ← hjournal]
        exact hjournal'
      · rw [List.filterMap_append, ← List.append_assoc]
        exact hall

/-- An edit leaves what is kept coherent but for what the handlers are yet to be told. -/
theorem Kept.effect (hw : w.WellFormed) (hkept : Kept h key read w past []) (e : Edit) :
    Kept h key read (w.effect e).1 past (w.effect e).2 := by
  refine ⟨?_, hkept.timely, ?_⟩
  · rw [(effect_shared e).1]
    exact hkept.registered
  · intro state view hview hattached hgrammar hupdated
    cases hw.view?_effect e hview hattached with
    | fresh hcreated hempty =>
        refine ⟨fun _ => ?_, fun hno => absurd hcreated hno⟩
        rw [hempty]
        exact PropertyStore.find?_empty key
    | kept old hfound holdAttached hproperties hgrammar' hcreated hsame =>
        obtain ⟨hdocument, hcurrent, htext⟩ := hsame hupdated
        obtain ⟨hcoherent, hdue⟩ := hkept.view hfound holdAttached (hgrammar'.trans hgrammar)
        have hread : old.readWith read = view.readWith read := by
          rw [SectionView.readWith, hdocument, hcurrent, htext, SectionView.readWith]
        refine ⟨fun hyes => absurd hyes hcreated, fun _ => ?_⟩
        rw [← hproperties]
        refine ⟨fun value hvalue => ?_, hdue⟩
        rw [← hproperties] at hvalue
        rw [← hread]
        exact hcoherent value hvalue

end Workspace

end Polyglot
