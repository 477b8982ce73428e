import Polyglot.Proofs.Workspace.Memory
import Polyglot.Proofs.Workspace.Part

/-!
# What handlers have no hand in

Without the handlers, the properties of states and what was told, a part of a workspace shows what
handlers have no hand in (`Part.bare`). Whatever the handlers do, also those with a memory, telling
them changes nothing of it (`bare_part_deliverBy`), and what an edit makes of it, and what is then
to be told, does not depend on anything else (`bare_effect_congr`).
-/

set_option autoImplicit false

namespace Polyglot

/-! ## Matching without properties -/

namespace Reconciliation

/-- The outcome without what is kept among the properties of states. -/
def bare (r : Reconciliation) : Reconciliation where
  kept := r.kept.map .bare
  dropped := r.dropped.map .bare
  notifications := r.notifications

/-- To drop states does not depend on their properties. -/
theorem bare_dropping (states : List SectionState) (r : Reconciliation) :
    (r.dropping states).bare = r.bare.dropping (states.map .bare) := by
  simp only [bare, dropping, List.map_append, List.map_map]
  rfl

/-- To keep a state does not depend on its properties. -/
theorem bare_keeping (state : SectionState) (change? : Option SectionChange)
    (r : Reconciliation) : (r.keeping state change?).bare = r.bare.keeping state.bare change? :=
  rfl

end Reconciliation

namespace Revising

/-- Which states are passed over does not depend on properties. -/
theorem passed_map_bare (s : Section) (old : List SectionState) :
    passed s (old.map .bare) = ((passed s old).1.map .bare, (passed s old).2.map .bare) := by
  unfold passed
  rw [List.span_eq_takeWhile_dropWhile, List.span_eq_takeWhile_dropWhile, List.takeWhile_map,
    List.dropWhile_map]
  rfl

/-- Properties have no part in how old states are matched with new sections. -/
theorem reconcile_map_bare (r : Revising) (old : List SectionState) (place : Nat)
    (new : List Section) :
    r.reconcile (old.map .bare) place new = (r.reconcile old place new).bare := by
  induction new generalizing old place with
  | nil =>
      rw [reconcile, reconcile]
      exact (Reconciliation.bare_dropping old ⟨[], [], []⟩).symm
  | cons s rest ih =>
      rw [reconcile, reconcile, passed_map_bare]
      cases hremaining : (passed s old).2 with
      | nil =>
          simp only [hremaining, List.map_nil]
          rw [Reconciliation.bare_dropping, Reconciliation.bare_keeping, ← ih]
          rfl
      | cons state others =>
          have hidentity : state.bare.current.sameIdentity s = state.current.sameIdentity s := rfl
          simp only [hremaining, List.map_cons, hidentity]
          -- The state is kept, or it waits for a later section.
          split
          · rw [Reconciliation.bare_dropping, Reconciliation.bare_keeping, ← ih]
            rfl
          · rw [Reconciliation.bare_dropping, Reconciliation.bare_keeping, ← ih]
            rfl

end Revising

namespace Document

/-- The revision of a document does not depend on properties. -/
theorem revision_eq_of_bare {d d' : Document} (heq : d.bare = d'.bare) :
    d.revision = d'.revision := by
  simp only [bare, Document.mk.injEq] at heq
  exact heq.2.1

/-- How a document is revised does not depend on properties. -/
theorem revise_bare (d : Document) (text : String) (segmenter : Segmenter) :
    d.bare.revise text segmenter =
      ((d.revise text segmenter).1.bare, (d.revise text segmenter).2) := by
  simp only [revise, bare, Revising.reconcile_map_bare, List.map_append]
  rfl

/-- What the states of a document are told does not depend on properties. -/
theorem notifications_bare (d : Document) (change : SectionChange) :
    d.bare.notifications change = d.notifications change := by
  simp only [notifications, bare, List.map_map]
  rfl

/-- To release a document does not depend on properties. -/
theorem release_bare (d : Document) : d.bare.release = d.release.bare := by
  simp only [release, bare, List.map_map]
  rfl

end Document

/-! ## Parts without what handlers do -/

namespace Part

/-- The part without the handlers, the properties of states and what was told. -/
def bare (p : Part) : Part :=
  { p with
    grammars := .empty
    document? := p.document?.map Document.bare
    retired := p.retired.map Document.bare
    tellings := [] }

/-- To put a document into a part does not depend on properties. -/
theorem bare_put (p : Part) (d : Document) : (p.put d).bare = p.bare.put d.bare :=
  rfl

/-- To remember a revision does not depend on properties. -/
theorem bare_remember (p : Part) (closed? : Option Nat) :
    (p.remember closed?).bare = p.bare.remember closed? :=
  rfl

/-- To retire the document of a part does not depend on properties. -/
theorem bare_retire (p : Part) : p.retire.bare = p.bare.retire := by
  refine Part.ext rfl rfl rfl rfl ?_ rfl
  cases hd : p.document? with
  | none => simp [bare, retire, hd]
  | some d => simp [bare, retire, hd, Document.release_bare]

end Part

namespace Workspace

variable {w w' : Workspace} {id : String}

/-- Workspaces that are alike have the same bare parts. -/
theorem Alike.bare_part_eq (h : Alike w w') (id : String) :
    (w'.part id).bare = (w.part id).bare := by
  have hretired : ∀ w : Workspace, (w.part id).bare.retired =
      (w.retired.map Document.bare).filter fun d => decide (d.id = id) := by
    intro w
    rw [List.filter_map]
    rfl
  refine Part.ext rfl h.segmenter (h.document id) (congrArg (·.find? id) h.closed) ?_ rfl
  rw [hretired, hretired, h.retired]

/-- Whatever handlers do when they are told, also those with a memory, a bare part stays. -/
theorem bare_part_deliverBy (hw : w.WellFormed)
    (handlersAt : List JournalEntry → GrammarRegistry) (ns : List Notification) (id : String) :
    ((w.deliverBy handlersAt ns).part id).bare = (w.part id).bare :=
  (hw.alike_deliverBy handlersAt w.grammars ns).bare_part_eq id

/-- A document is open in both of two workspaces that have the same bare part, or in none. -/
theorem document?_of_bare (h : (w.part id).bare = (w'.part id).bare) :
    (w.document? id = none ∧ w'.document? id = none) ∨
      ∃ d d', w.document? id = some d ∧ w'.document? id = some d' ∧ d.bare = d'.bare := by
  have hdocument : (w.document? id).map Document.bare = (w'.document? id).map Document.bare :=
    congrArg Part.document? h
  cases hd : w.document? id with
  | none =>
      rw [hd, Option.map_none] at hdocument
      exact Or.inl ⟨rfl, Option.map_eq_none_iff.1 hdocument.symm⟩
  | some d =>
      rw [hd, Option.map_some] at hdocument
      obtain ⟨d', hd', hbare⟩ := Option.map_eq_some_iff.1 hdocument.symm
      exact Or.inr ⟨d, d', rfl, hd', hbare.symm⟩

/-- The next revision does not depend on properties. -/
theorem nextRevision_of_bare (h : (w.part id).bare = (w'.part id).bare) :
    w.nextRevision id = w'.nextRevision id := by
  have hclosed : w.closed.find? id = w'.closed.find? id := congrArg Part.closed? h
  rcases document?_of_bare h with ⟨hd, hd'⟩ | ⟨d, d', hd, hd', hbare⟩
  · unfold nextRevision
    rw [hd, hd', hclosed]
  · rw [nextRevision_of_some hd, nextRevision_of_some hd', Document.revision_eq_of_bare hbare]

/-- Who is told to be removed does not depend on properties. -/
theorem removed_of_bare (h : (w.part id).bare = (w'.part id).bare) :
    (w.retire id).2 = (w'.retire id).2 := by
  rcases document?_of_bare h with ⟨hd, hd'⟩ | ⟨d, d', hd, hd', hbare⟩
  · rw [retire_eq_of_none hd, retire_eq_of_none hd']
  · rw [retire_eq_of_some hd, retire_eq_of_some hd']
    show d.notifications .removed = d'.notifications .removed
    rw [← Document.notifications_bare, hbare, Document.notifications_bare]

/-- What an edit makes of the bare part of its identifier, and what is to be told, is determined by
the bare part. -/
theorem bare_effect_congr (hw : w.WellFormed) (hw' : w'.WellFormed) {e : Edit}
    (h : (w.part e.id).bare = (w'.part e.id).bare) :
    ((w.effect e).1.part e.id).bare = ((w'.effect e).1.part e.id).bare ∧
      (w.effect e).2 = (w'.effect e).2 := by
  have hsegmenter : w.segmenter = w'.segmenter := congrArg Part.segmenter h
  cases e with
  | openText id text =>
      change (w.part id).bare = (w'.part id).bare at h
      have hrevision := nextRevision_of_bare h
      constructor
      · show ((w.install id text).1.part id).bare = ((w'.install id text).1.part id).bare
        rw [part_install hw, part_install hw', if_pos rfl, if_pos rfl, Part.bare_remember,
          Part.bare_remember, Part.bare_put, Part.bare_put, Part.bare_retire, Part.bare_retire, h,
          hrevision, hsegmenter]
      · show (w.retire id).2 ++ _ = (w'.retire id).2 ++ _
        rw [removed_of_bare h, hrevision, hsegmenter]
  | changeText id text =>
      change (w.part id).bare = (w'.part id).bare at h
      rcases document?_of_bare h with ⟨hd, hd'⟩ | ⟨d, d', hd, hd', hbare⟩
      · rw [effect_changeText_of_none hd, effect_changeText_of_none hd']
        exact ⟨h, rfl⟩
      · have hrevise : ((d.revise text w.segmenter).1.bare, (d.revise text w.segmenter).2) =
            ((d'.revise text w'.segmenter).1.bare, (d'.revise text w'.segmenter).2) := by
          rw [← Document.revise_bare, ← Document.revise_bare, hbare, hsegmenter]
        obtain ⟨hrevised, htold⟩ := Prod.mk.inj hrevise
        have hput := part_put (w := w) id id (d.revise text w.segmenter).1
        have hput' := part_put (w := w') id id (d'.revise text w'.segmenter).1
        rw [if_pos rfl] at hput hput'
        rw [effect_changeText_of_some hd, effect_changeText_of_some hd']
        refine ⟨?_, htold⟩
        show Part.bare (Workspace.part _ id) = Part.bare (Workspace.part _ id)
        rw [hput, hput', Part.bare_put, Part.bare_put, h, hrevised]
  | close id =>
      change (w.part id).bare = (w'.part id).bare at h
      have htold := removed_of_bare h
      rcases document?_of_bare h with ⟨hd, hd'⟩ | ⟨d, d', hd, hd', hbare⟩
      · rw [effect_close_of_none hd, effect_close_of_none hd']
        exact ⟨h, rfl⟩
      · have hrevision := Document.revision_eq_of_bare hbare
        rw [retire_eq_of_some hd, retire_eq_of_some hd'] at htold
        rw [effect_close_of_some hd, effect_close_of_some hd']
        refine ⟨?_, htold⟩
        show Part.bare (Workspace.part _ id) = Part.bare (Workspace.part _ id)
        rw [part_withdraw hw, part_withdraw hw', if_pos rfl, if_pos rfl, Part.bare_remember,
          Part.bare_remember, Part.bare_retire, Part.bare_retire, h, hrevision]

/-- An edit makes of the bare part of its identifier what this bare part determines, with whatever
handlers. -/
theorem bare_part_applyBy_congr (hw : w.WellFormed) (hw' : w'.WellFormed)
    (handlersAt handlersAt' : List JournalEntry → GrammarRegistry) {e : Edit}
    (h : (w.part e.id).bare = (w'.part e.id).bare) :
    ((w.applyBy handlersAt e).part e.id).bare =
      ((w'.applyBy handlersAt' e).part e.id).bare := by
  rw [applyBy_eq_deliverBy_effect, applyBy_eq_deliverBy_effect,
    bare_part_deliverBy (hw.effect e), bare_part_deliverBy (hw'.effect e)]
  exact (bare_effect_congr hw hw' h).1

/-- An edit leaves the bare parts of other identifiers alone, with whatever handlers. -/
theorem bare_part_applyBy_of_ne (hw : w.WellFormed)
    (handlersAt : List JournalEntry → GrammarRegistry) {e : Edit} (hne : e.id ≠ id) :
    ((w.applyBy handlersAt e).part id).bare = (w.part id).bare := by
  rw [applyBy_eq_deliverBy_effect, bare_part_deliverBy (hw.effect e), part_effect_of_ne hw hne]

end Workspace

end Polyglot
