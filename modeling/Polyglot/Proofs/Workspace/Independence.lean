import Polyglot.Proofs.Workspace.Outline

/-!
# Documents do not interfere

A run of edits comes to the same, identifier by identifier, as the run of those edits that concern
the identifier (`part_run_congr`). Handlers with a memory may carry something from one document to
another, but it cannot reach what the handlers have no hand in (`bare_part_runBy_congr`).
-/

set_option autoImplicit false

namespace Polyglot

/-- Whether an edit is one of the document of an identifier. -/
def Edit.concerns (id : String) (e : Edit) : Bool :=
  decide (e.id = id)

namespace Workspace

variable {w w' : Workspace} {id : String}

/-! ## Runs -/

/-- A run comes to what the edits of the identifier come to in a workspace with the same part. -/
theorem part_run_congr (hw : w.WellFormed) (hw' : w'.WellFormed) (h : w.part id = w'.part id)
    (es : List Edit) :
    (w.run es).part id = (w'.run (es.filter (Edit.concerns id))).part id := by
  induction es generalizing w w' with
  | nil => exact h
  | cons e es ih =>
      by_cases hid : e.id = id
      · have hkept : (e :: es).filter (Edit.concerns id) = e :: es.filter (Edit.concerns id) :=
          List.filter_cons_of_pos (decide_eq_true hid)
        subst hid
        rw [hkept]
        exact ih (hw.apply e) (hw'.apply e) (part_apply_congr hw hw' h)
      · -- Only the first run carries the edit out, and it leaves the part alone.
        have hdropped : (e :: es).filter (Edit.concerns id) = es.filter (Edit.concerns id) :=
          List.filter_cons_of_neg (by simp [Edit.concerns, hid])
        rw [hdropped]
        exact ih (hw.apply e) hw' ((part_apply_of_ne hw hid).trans h)

/-- Runs in which the same edits concern an identifier leave it the same part. -/
theorem part_run_of_filter_eq (hw : w.WellFormed) {es es' : List Edit}
    (hsame : es.filter (Edit.concerns id) = es'.filter (Edit.concerns id)) :
    (w.run es).part id = (w.run es').part id := by
  rw [part_run_congr hw hw rfl es, part_run_congr hw hw rfl es', hsame]

/-- Of two edits of different documents at most one concerns an identifier. -/
theorem filter_concerns_swap {e e' : Edit} (hne : e.id ≠ e'.id) (es later : List Edit)
    (id : String) :
    (es ++ e :: e' :: later).filter (Edit.concerns id) =
      (es ++ e' :: e :: later).filter (Edit.concerns id) := by
  rw [List.filter_append, List.filter_append]
  by_cases hid : e.id = id
  · have hno : Edit.concerns id e' = false := decide_eq_false (hid ▸ hne.symm)
    simp only [List.filter_cons, hno, Bool.false_eq_true, if_false]
  · have hno : Edit.concerns id e = false := decide_eq_false hid
    simp only [List.filter_cons, hno, Bool.false_eq_true, if_false]

/-! ## Runs with handlers that have a memory -/

/-- What is to be told in a run of edits, in order, whether or not there are handlers for it. -/
def changesBy (handlersAt : List JournalEntry → GrammarRegistry) :
    Workspace → List Edit → List Notification
  | _, [] => []
  | w, e :: es => (w.effect e).2 ++ changesBy handlersAt (w.applyBy handlersAt e) es

/-- What is to be told of the document of an identifier in a run of edits. -/
def changesOfBy (handlersAt : List JournalEntry → GrammarRegistry) (w : Workspace) (id : String)
    (es : List Edit) : List Notification :=
  (changesBy handlersAt w es).filter fun n => decide (n.state.document.id = id)

/-- The changes of an edit come before those of the later ones. -/
theorem changesOfBy_cons (hw : w.WellFormed)
    (handlersAt : List JournalEntry → GrammarRegistry) (id : String) (e : Edit) (es : List Edit) :
    w.changesOfBy handlersAt id (e :: es) =
      (if e.id = id then (w.effect e).2 else []) ++
        (w.applyBy handlersAt e).changesOfBy handlersAt id es := by
  rw [changesOfBy, changesBy, List.filter_append]
  congr 1
  split
  · rename_i hid
    refine List.filter_eq_self.2 fun n hn => decide_eq_true ?_
    rw [hw.document_id_of_mem_effect hn, hid]
  · rename_i hid
    refine List.filter_eq_nil_iff.2 fun n hn => ?_
    rw [hw.document_id_of_mem_effect hn, decide_eq_true_eq]
    exact hid

/-- What handlers have no hand in comes to the same as in a run of the edits of the identifier, in
which the handlers may be others. -/
theorem bare_part_runBy_congr (hw : w.WellFormed) (hw' : w'.WellFormed)
    (handlersAt handlersAt' : List JournalEntry → GrammarRegistry)
    (h : (w.part id).bare = (w'.part id).bare) (es : List Edit) :
    ((w.runBy handlersAt es).part id).bare =
        ((w'.runBy handlersAt' (es.filter (Edit.concerns id))).part id).bare ∧
      w.changesOfBy handlersAt id es =
        w'.changesOfBy handlersAt' id (es.filter (Edit.concerns id)) := by
  induction es generalizing w w' with
  | nil => exact ⟨h, rfl⟩
  | cons e es ih =>
      have hnext := hw.applyBy handlersAt e
      rw [changesOfBy_cons hw]
      by_cases hid : e.id = id
      · have hkept : (e :: es).filter (Edit.concerns id) = e :: es.filter (Edit.concerns id) :=
          List.filter_cons_of_pos (decide_eq_true hid)
        subst hid
        obtain ⟨hpart, hchanges⟩ := ih hnext (hw'.applyBy handlersAt' e)
          (bare_part_applyBy_congr hw hw' handlersAt handlersAt' h)
        rw [hkept, changesOfBy_cons hw', if_pos rfl, if_pos rfl, (bare_effect_congr hw hw' h).2,
          hchanges]
        exact ⟨hpart, rfl⟩
      · have hdropped : (e :: es).filter (Edit.concerns id) = es.filter (Edit.concerns id) :=
          List.filter_cons_of_neg (by simp [Edit.concerns, hid])
        rw [hdropped, if_neg hid, List.nil_append]
        exact ih hnext hw' ((bare_part_applyBy_of_ne hw handlersAt hid).trans h)

/-- A workspace after any run of edits, against the runs of those edits that concern one identifier.
What it has under the identifier is the same: the document with its text, its revision and its
states, of which each has the key under which it was made, what was retired, and what the handlers
were told, in order and with the views that they were given. So the states of the identifier show
the same and belong to the same document. An edit of the identifier that follows has the same result
in both and fails in the same cases; an edit of another leaves all this alone. So two edits of
different documents may change places in any run. Handlers with a memory may differ in what they
leave among the properties of states; all else, and what is to be told, is still the same, also with
other handlers. -/
theorem documents_do_not_interfere (grammars : GrammarRegistry) (segmenter : Segmenter)
    (es : List Edit) :
    let empty := Workspace.empty grammars segmenter
    (∀ id, (empty.run es).part id = (empty.run (es.filter (Edit.concerns id))).part id) ∧
    (∀ key, (empty.run es).view? key =
        (empty.run (es.filter (Edit.concerns key.document.id))).view? key ∧
      (empty.run es).owner? key =
        (empty.run (es.filter (Edit.concerns key.document.id))).owner? key) ∧
    (∀ e, ((empty.run es).edit e).map (·.part e.id) =
      ((empty.run (es.filter (Edit.concerns e.id))).edit e).map (·.part e.id)) ∧
    (∀ e id, e.id ≠ id → (empty.run (es ++ [e])).part id = (empty.run es).part id) ∧
    (∀ e e' later, e.id ≠ e'.id → ∀ id,
      (empty.run (es ++ e :: e' :: later)).part id =
        (empty.run (es ++ e' :: e :: later)).part id) ∧
    ∀ handlersAt handlersAt' id,
      ((empty.runBy handlersAt es).part id).bare =
          ((empty.runBy handlersAt' (es.filter (Edit.concerns id))).part id).bare ∧
        empty.changesOfBy handlersAt id es =
          empty.changesOfBy handlersAt' id (es.filter (Edit.concerns id)) := by
  intro empty
  have hempty : Reachable grammars segmenter empty := .empty
  have hw := hempty.wellFormed
  have hrun : ∀ es, (empty.run es).WellFormed := fun es => (hempty.run es).wellFormed
  have hpart : ∀ id, (empty.run es).part id = (empty.run (es.filter (Edit.concerns id))).part id :=
    fun _ => part_run_congr hw hw rfl es
  refine ⟨hpart, fun key => ⟨?_, ?_⟩, fun e => ?_, ?_, ?_, ?_⟩
  · exact view?_congr (hpart _) rfl
  · exact owner?_congr (hpart _) rfl
  · exact edit_congr (hrun _) (hrun _) (hpart e.id)
  · intro e id hne
    rw [run_append]
    exact part_apply_of_ne (hrun es) hne
  · intro e e' later hne id
    exact part_run_of_filter_eq hw (filter_concerns_swap hne es later id)
  · intro handlersAt handlersAt' id
    exact bare_part_runBy_congr hw hw handlersAt handlersAt' rfl es

end Workspace

end Polyglot
