import Polyglot.Proofs.Workspace.Remembered

/-!
# The life of a state in the changes that are delivered

For each state that has a handler, the changes that were delivered over a run of edits read: it was
created, it was updated any number of times, and it was removed at most once
(`IsLifecycle`). The states that were created and not removed are those that open documents hold and
that have a handler (`changes_follow_lifecycle`). One edit adds to the changes of a state what is
told of it (`changesOf_apply`), which is what becomes of the state (`Told.apply`).
-/

set_option autoImplicit false

namespace Polyglot

namespace JournalEntry

/-- The change of a state that was delivered, if the entry tells of one. -/
def changeOf? (key : SectionKey) : JournalEntry → Option SectionChange
  | .delivered state change _ => if state = key then some change else none
  | .reported _ => none

end JournalEntry

/-- The state was created and updated any number of times. -/
def IsOngoing (changes : List SectionChange) : Prop :=
  ∃ n, changes = .created :: List.replicate n .updated

/-- The state was created, updated any number of times, and removed. -/
def IsEnded (changes : List SectionChange) : Prop :=
  ∃ n, changes = .created :: List.replicate n .updated ++ [.removed]

/-- The state was created once, then updated any number of times, then removed at most once. -/
def IsLifecycle (changes : List SectionChange) : Prop :=
  IsOngoing changes ∨ IsEnded changes

section Words

variable {changes : List SectionChange}

/-- To be created begins a life. -/
theorem isOngoing_created : IsOngoing [.created] :=
  ⟨0, rfl⟩

/-- A life goes on with an update. -/
theorem IsOngoing.append_updated (h : IsOngoing changes) : IsOngoing (changes ++ [.updated]) := by
  obtain ⟨n, rfl⟩ := h
  refine ⟨n + 1, ?_⟩
  rw [List.cons_append, List.replicate_succ']

/-- A life ends with the removal. -/
theorem IsOngoing.append_removed (h : IsOngoing changes) : IsEnded (changes ++ [.removed]) := by
  obtain ⟨n, rfl⟩ := h
  exact ⟨n, rfl⟩

/-- A life that goes on has begun. -/
theorem IsOngoing.ne_nil (h : IsOngoing changes) : changes ≠ [] := by
  obtain ⟨n, rfl⟩ := h
  exact List.cons_ne_nil _ _

/-- A life that goes on began with the creation. -/
theorem IsOngoing.created_mem (h : IsOngoing changes) : .created ∈ changes := by
  obtain ⟨n, rfl⟩ := h
  exact List.mem_cons_self

/-- A life that goes on has not been ended. -/
theorem IsOngoing.removed_not_mem (h : IsOngoing changes) : .removed ∉ changes := by
  obtain ⟨n, rfl⟩ := h
  intro hmem
  cases List.eq_of_mem_replicate ((List.mem_cons.1 hmem).resolve_left SectionChange.noConfusion)

/-- A life that has ended was ended by a removal. -/
theorem IsEnded.removed_mem (h : IsEnded changes) : .removed ∈ changes := by
  obtain ⟨n, rfl⟩ := h
  exact List.mem_append_right _ (List.mem_singleton.2 rfl)

/-- A life has begun. -/
theorem IsLifecycle.ne_nil (h : IsLifecycle changes) : changes ≠ [] := by
  rcases h with hongoing | hended
  · exact hongoing.ne_nil
  · exact List.ne_nil_of_mem hended.removed_mem

end Words

/-- What the first notification tells comes before what the others tell. -/
theorem toldOf_cons (n : Notification) (ns : List Notification) (key : SectionKey) :
    toldOf (n :: ns) key = toldOf [n] key ++ toldOf ns key := by
  unfold toldOf
  rw [← List.map_append, ← List.filter_append, List.singleton_append]

namespace Workspace

/-- The changes of a state that were delivered so far, in order. -/
def changesOf (w : Workspace) (key : SectionKey) : List SectionChange :=
  w.journal.filterMap (JournalEntry.changeOf? key)

/-- Whether the state is known and its grammar has a handler. -/
def hasHandler (w : Workspace) (key : SectionKey) : Bool :=
  ((w.view? key).bind fun view => w.grammars.handler? view.current.grammar).isSome

/-- The document that is open under the identifier has the state, and the state has a handler. -/
def Binds (w : Workspace) (id : String) (key : SectionKey) : Prop :=
  ∃ d, w.document? id = some d ∧ ∃ state ∈ d.sections, state.key = key ∧
    (w.grammars.handler? state.current.grammar).isSome = true

variable {w : Workspace} {key : SectionKey}

/-! ## What is delivered -/

/-- To tell handlers of changes gives no section another handler. -/
theorem hasHandler_deliver (ns : List Notification) (hw : w.WellFormed) :
    (w.deliver ns).hasHandler key = w.hasHandler key := by
  obtain ⟨leave, hleave⟩ := view?_deliver (w := w) ns key
  rw [hasHandler, hasHandler, hleave, (hw.alike_deliver ns).grammars]
  cases w.view? key <;> rfl

/-- A handler is told of a change of its own section, if there is a handler. -/
theorem changesOf_deliverOne (n : Notification) :
    (w.deliverOne n).changesOf key =
      w.changesOf key ++ if w.hasHandler key = true then toldOf [n] key else [] := by
  by_cases hkey : n.state = key
  · subst hkey
    have htold : toldOf [n] n.state = [n.change] := by simp [toldOf]
    rcases deliverOne_cases w n with ⟨heq, hnone⟩ | ⟨view, handler, hview, hhandler, heq⟩
    · have hno : w.hasHandler n.state = false := by
        unfold hasHandler
        cases hview : w.view? n.state with
        | none => rfl
        | some view => simp [hnone view hview]
      rw [heq, hno]
      simp
    · have hyes : w.hasHandler n.state = true := by simp [hasHandler, hview, hhandler]
      rw [heq, hyes, if_pos rfl, htold, changesOf, absorb_journal, log]
      simp [changesOf, JournalEntry.changeOf?, Function.comp_def]
  · have htold : toldOf [n] key = [] := by simp [toldOf, hkey]
    rcases deliverOne_cases w n with ⟨heq, _⟩ | ⟨view, handler, _, _, heq⟩
    · rw [heq, htold]
      simp
    · rw [heq, htold, changesOf, absorb_journal, log]
      simp [changesOf, JournalEntry.changeOf?, Function.comp_def, hkey]

/-- To the changes of a state is added what is told of it, if it has a handler. -/
theorem changesOf_deliver (ns : List Notification) (hw : w.WellFormed) :
    (w.deliver ns).changesOf key =
      w.changesOf key ++ if w.hasHandler key = true then toldOf ns key else [] := by
  induction ns generalizing w with
  | nil =>
      have hnil : toldOf [] key = [] := rfl
      rw [hnil, ite_self, List.append_nil]
      rfl
  | cons n ns ih =>
      have hone : (w.deliverOne n).hasHandler key = w.hasHandler key := hasHandler_deliver [n] hw
      have hrest := ih (hw.of_alike (hw.alike_deliverOne n))
      rw [changesOf_deliverOne, hone] at hrest
      change (w.deliver (n :: ns)).changesOf key = _ at hrest
      rw [hrest, toldOf_cons n ns key]
      split
      · exact List.append_assoc ..
      · simp only [List.append_nil]

/-- An edit adds to what was told of a section what it changes about it. -/
theorem changesOf_apply (hw : w.WellFormed) (e : Edit) (key : SectionKey) :
    (w.apply e).changesOf key = w.changesOf key ++
      if (w.apply e).hasHandler key = true then toldOf (w.effect e).2 key else [] := by
  have hw' := hw.effect e
  rw [apply_eq_deliver_effect, changesOf_deliver _ hw', hasHandler_deliver _ hw']
  unfold changesOf
  rw [(effect_shared e).2.2]

/-- Telling handlers of an edit changes nothing about which sections there are. -/
theorem WellFormed.holds_apply_iff (hw : w.WellFormed) (e : Edit) :
    (w.apply e).Holds key ↔ (w.effect e).1.Holds key := by
  rw [apply_eq_deliver_effect]
  exact ((hw.effect e).alike_deliver _).holds_iff key

/-- A known state keeps its handler, and a state without one gets none. -/
theorem WellFormed.hasHandler_apply (hw : w.WellFormed) (e : Edit) {view : SectionView}
    (hview : w.view? key = some view) : (w.apply e).hasHandler key = w.hasHandler key := by
  obtain ⟨view', hview', _, hgrammar⟩ := hw.exists_view?_apply e hview
  have halike := (hw.effect e).alike_deliver (w.effect e).2
  have hshared := (effect_shared (w := w) e).1
  rw [← apply_eq_deliver_effect] at halike
  rw [hasHandler, hasHandler, hview, hview', halike.grammars, hshared]
  simp only [Option.bind_some, hgrammar]

/-- A section that nobody has seen has no handler. -/
theorem hasHandler_eq_false_of_unknown (hview : w.view? key = none) : w.hasHandler key = false := by
  rw [hasHandler, hview]
  rfl

/-! ## What was delivered says where the state is -/

/-- The changes of a state that were delivered are those of its life so far. -/
structure Told (w : Workspace) (key : SectionKey) : Prop where
  silent : w.hasHandler key = false → w.changesOf key = []
  ongoing : w.Holds key → w.hasHandler key = true → IsOngoing (w.changesOf key)
  gone : ¬w.Holds key → w.changesOf key = [] ∨ IsEnded (w.changesOf key)

/-- At the beginning nothing was told. -/
theorem told_empty (grammars : GrammarRegistry) (segmenter : Segmenter) (key : SectionKey) :
    Told (Workspace.empty grammars segmenter) key := by
  refine ⟨fun _ => rfl, fun hholds => ?_, fun _ => Or.inl rfl⟩
  obtain ⟨d, hd, _⟩ := hholds
  cases hd

/-- A state that was held before an edit has the handler that it had, so it was told of. -/
theorem Told.ongoing_of_holds (h : Told w key) (hw : w.WellFormed) (e : Edit)
    (hbefore : w.Holds key) (hhandler : (w.apply e).hasHandler key = true) :
    IsOngoing (w.changesOf key) := by
  obtain ⟨view, hview, _⟩ := (hw.holds_iff_attached key).1 hbefore
  rw [hw.hasHandler_apply e hview] at hhandler
  exact h.ongoing hbefore hhandler

/-- A state that an edit brings in was never told of. -/
theorem Told.changesOf_eq_nil_of_enters (h : Told w key) (hw : w.WellFormed) (e : Edit)
    (hbefore : ¬w.Holds key) (hafter : (w.effect e).1.Holds key) : w.changesOf key = [] := by
  have hnew := hw.view?_eq_none_of_enters e hbefore hafter
  exact h.silent (hasHandler_eq_false_of_unknown hnew)

/-- Of a section without a handler nothing is told. -/
theorem Told.silent_apply (h : Told w key) (hw : w.WellFormed) (e : Edit)
    (hno : (w.apply e).hasHandler key = false) : (w.apply e).changesOf key = [] := by
  rw [changesOf_apply hw, hno, if_neg Bool.false_ne_true, List.append_nil]
  cases hview : w.view? key with
  | none => exact h.silent (hasHandler_eq_false_of_unknown hview)
  | some view =>
      rw [hw.hasHandler_apply e hview] at hno
      exact h.silent hno

/-- An edit continues the life of each state. -/
theorem Told.apply (h : Told w key) (hw : w.WellFormed) (e : Edit) : Told (w.apply e) key := by
  have hchanges := changesOf_apply hw e key
  have hpassage := hw.passage_effect e key
  -- What is told of the state is determined by whether it was held and is held.
  generalize toldOf (w.effect e).2 key = told at hchanges hpassage
  refine ⟨h.silent_apply hw e, ?_, ?_⟩
  · intro hafter hhandler
    rw [hw.holds_apply_iff] at hafter
    rw [hchanges, if_pos hhandler]
    cases hpassage with
    | absent _ hnot => exact absurd hafter hnot
    | enters hbefore _ =>
        rw [h.changesOf_eq_nil_of_enters hw e hbefore hafter, List.nil_append]
        exact isOngoing_created
    | stays hbefore _ =>
        rw [List.append_nil]
        exact h.ongoing_of_holds hw e hbefore hhandler
    | changes hbefore _ => exact (h.ongoing_of_holds hw e hbefore hhandler).append_updated
    | leaves _ hnot => exact absurd hafter hnot
  · intro hafter
    rw [hw.holds_apply_iff] at hafter
    by_cases hhandler : (w.apply e).hasHandler key = true
    · rw [hchanges, if_pos hhandler]
      cases hpassage with
      | absent hbefore _ =>
          rw [List.append_nil]
          exact h.gone hbefore
      | enters _ hholds => exact absurd hholds hafter
      | stays _ hholds => exact absurd hholds hafter
      | changes _ hholds => exact absurd hholds hafter
      | leaves hbefore _ =>
          exact Or.inr (h.ongoing_of_holds hw e hbefore hhandler).append_removed
    · exact Or.inl (h.silent_apply hw e (Bool.eq_false_iff.2 hhandler))

/-- What was told stays in order through any edits. -/
theorem Told.run (h : Told w key) (hw : w.WellFormed) (es : List Edit) : Told (w.run es) key := by
  induction es generalizing w with
  | nil => exact h
  | cons e es ih => exact ih (h.apply hw e) (hw.apply e)

/-- A document has a state under its own identifier only, and once. -/
theorem WellFormed.binds_iff (hw : w.WellFormed) (id : String) :
    w.Binds id key ↔ key.document.id = id ∧ w.Holds key ∧ w.hasHandler key = true := by
  constructor
  · rintro ⟨d, hd, state, hstate, rfl, hhandler⟩
    have hid := hw.document_id_eq hd hstate
    have hview := hw.view?_eq_some hd (List.mem_append_left _ hstate)
    refine ⟨hid, ⟨d, ?_, List.mem_map_of_mem hstate⟩, ?_⟩
    · rw [hid]
      exact hd
    · rw [hasHandler, hview]
      exact hhandler
  · rintro ⟨rfl, ⟨d, hd, hkey⟩, hhandler⟩
    obtain ⟨state, hstate, rfl⟩ := List.mem_map.1 hkey
    have hview := hw.view?_eq_some hd (List.mem_append_left _ hstate)
    rw [hasHandler, hview] at hhandler
    exact ⟨d, hd, state, hstate, rfl, hhandler⟩

/-- A section of which something was told has a handler. -/
theorem Told.hasHandler_of_ne_nil (h : Told w key) (hne : w.changesOf key ≠ []) :
    w.hasHandler key = true := by
  by_contra hno
  exact hne (h.silent (Bool.eq_false_iff.2 hno))

/-- All that was told of a section is its life, or a beginning of it. -/
theorem Told.isLifecycle (h : Told w key) (hne : w.changesOf key ≠ []) :
    IsLifecycle (w.changesOf key) := by
  by_cases hholds : w.Holds key
  · exact Or.inl (h.ongoing hholds (h.hasHandler_of_ne_nil hne))
  · exact Or.inr ((h.gone hholds).resolve_left hne)

/-- A state was created and not removed exactly if it is held and has a handler. -/
theorem Told.live_iff (h : Told w key) :
    .created ∈ w.changesOf key ∧ .removed ∉ w.changesOf key ↔
      w.Holds key ∧ w.hasHandler key = true := by
  constructor
  · rintro ⟨hcreated, hremoved⟩
    have hne := List.ne_nil_of_mem hcreated
    refine ⟨?_, h.hasHandler_of_ne_nil hne⟩
    by_contra hnot
    exact hremoved ((h.gone hnot).resolve_left hne).removed_mem
  · rintro ⟨hholds, hhandler⟩
    have hongoing := h.ongoing hholds hhandler
    exact ⟨hongoing.created_mem, hongoing.removed_not_mem⟩

/-! ## Over a run -/

/-- Edits add to what was told and take nothing back. -/
theorem changesOf_prefix_run (hw : w.WellFormed) (es : List Edit) (key : SectionKey) :
    w.changesOf key <+: (w.run es).changesOf key := by
  induction es generalizing w with
  | nil => exact List.prefix_rfl
  | cons e es ih =>
      have hone : w.changesOf key <+: (w.apply e).changesOf key := by
        rw [changesOf_apply hw]
        exact List.prefix_append _ _
      exact hone.trans (ih (hw.apply e))

/-- What is told first of a state is that an edit brought it in. -/
theorem Told.exists_binds_of_first (h : Told w key) (hw : w.WellFormed) (e : Edit)
    (hnone : w.changesOf key = []) (hne : (w.apply e).changesOf key ≠ []) :
    ∃ id, (w.apply e).Binds id key := by
  have hchanges := changesOf_apply hw e key
  have hpassage := hw.passage_effect e key
  rw [hnone, List.nil_append] at hchanges
  by_cases hhandler : (w.apply e).hasHandler key = true
  · rw [if_pos hhandler] at hchanges
    rw [hchanges] at hne
    have hbefore : ¬w.Holds key := by
      intro hholds
      exact (h.ongoing_of_holds hw e hholds hhandler).ne_nil hnone
    generalize toldOf (w.effect e).2 key = told at hne hpassage
    cases hpassage with
    | enters _ hafter =>
        rw [← hw.holds_apply_iff] at hafter
        exact ⟨key.document.id, ((hw.apply e).binds_iff _).2 ⟨rfl, hafter, hhandler⟩⟩
    | absent | stays => exact absurd rfl hne
    | changes hholds | leaves hholds => exact absurd hholds hbefore
  · rw [if_neg hhandler] at hchanges
    exact absurd hchanges hne

/-- A state of which a change was delivered was bound at some moment of the run. -/
theorem exists_binds_of_changesOf_ne_nil (grammars : GrammarRegistry) (segmenter : Segmenter)
    (es : List Edit) (hne : ((Workspace.empty grammars segmenter).run es).changesOf key ≠ []) :
    ∃ before, before <+: es ∧
      ∃ id, ((Workspace.empty grammars segmenter).run before).Binds id key := by
  induction es using List.reverseRecOn with
  | nil => exact absurd rfl hne
  | append_singleton es e ih =>
      by_cases hnone : ((Workspace.empty grammars segmenter).run es).changesOf key = []
      · have hempty : Reachable grammars segmenter (Workspace.empty grammars segmenter) := .empty
        have htold := (told_empty grammars segmenter key).run hempty.wellFormed es
        have hw := (hempty.run es).wellFormed
        rw [run_append] at hne
        refine ⟨es ++ [e], List.prefix_rfl, ?_⟩
        rw [run_append]
        exact htold.exists_binds_of_first hw e hnone hne
      · obtain ⟨before, hbefore, hbinds⟩ := ih hnone
        exact ⟨before, hbefore.trans (List.prefix_append es [e]), hbinds⟩

/-- The changes that were delivered of a state over a run of edits: those of a life if the state had
a handler and was held at some moment of the run, and otherwise none. The states that were created
and not removed are the states with a handler that open documents have, each in one document and
there once. -/
theorem changes_follow_lifecycle (grammars : GrammarRegistry) (segmenter : Segmenter)
    (es : List Edit) (key : SectionKey) :
    (IsLifecycle (((Workspace.empty grammars segmenter).run es).changesOf key) ↔
      ∃ before, before <+: es ∧
        ∃ id, ((Workspace.empty grammars segmenter).run before).Binds id key) ∧
    (¬IsLifecycle (((Workspace.empty grammars segmenter).run es).changesOf key) →
      ((Workspace.empty grammars segmenter).run es).changesOf key = []) ∧
    (.created ∈ ((Workspace.empty grammars segmenter).run es).changesOf key ∧
        .removed ∉ ((Workspace.empty grammars segmenter).run es).changesOf key ↔
      ∃ id, ((Workspace.empty grammars segmenter).run es).Binds id key) ∧
    ∀ id, ((Workspace.empty grammars segmenter).run es).Binds id key →
      ∀ other, (((Workspace.empty grammars segmenter).run es).stateKeys other).count key =
        if other = id then 1 else 0 := by
  have hreachable : Reachable grammars segmenter (Workspace.empty grammars segmenter) := .empty
  have htold : ∀ es : List Edit, Told ((Workspace.empty grammars segmenter).run es) key :=
    (told_empty grammars segmenter key).run hreachable.wellFormed
  have hw := (hreachable.run es).wellFormed
  refine ⟨⟨?_, ?_⟩, ?_, ?_, ?_⟩
  · intro hlife
    exact exists_binds_of_changesOf_ne_nil grammars segmenter es hlife.ne_nil
  · rintro ⟨before, ⟨after, rfl⟩, id, hbinds⟩
    have hw' := (hreachable.run before).wellFormed
    obtain ⟨_, hholds, hhandler⟩ := (hw'.binds_iff id).1 hbinds
    have hongoing := (htold before).ongoing hholds hhandler
    -- What was delivered by then is still the beginning of what was delivered in all.
    obtain ⟨later, hlater⟩ := changesOf_prefix_run hw' after key
    rw [← run_append] at hlater
    refine (htold _).isLifecycle ?_
    rw [← hlater]
    exact List.append_ne_nil_of_left_ne_nil hongoing.ne_nil later
  · intro hnot
    by_contra hne
    exact hnot ((htold es).isLifecycle hne)
  · rw [(htold es).live_iff]
    constructor
    · rintro ⟨hholds, hhandler⟩
      exact ⟨key.document.id, (hw.binds_iff _).2 ⟨rfl, hholds, hhandler⟩⟩
    · rintro ⟨id, hbinds⟩
      exact ((hw.binds_iff id).1 hbinds).2
  · intro id hbinds other
    obtain ⟨rfl, hholds, _⟩ := (hw.binds_iff id).1 hbinds
    split
    · rename_i heq
      rw [heq]
      exact List.count_eq_one_of_mem (hw.nodup_stateKeys _) (holds_iff.1 hholds)
    · rename_i hne
      refine List.count_eq_zero.2 fun hmem => ?_
      exact hne (hw.id_eq_of_mem hmem).symm

example : ((Workspace.empty (.ofList [.plain "notes"]) ⟨"notes"⟩).run
    [.openText "a" "x", .changeText "a" "y", .changeText "a" "y", .close "a"]).changesOf
      ⟨⟨"a", 0⟩, 0, 0⟩ = [.created, .updated, .removed] := by
  decide +kernel

end Workspace

end Polyglot
