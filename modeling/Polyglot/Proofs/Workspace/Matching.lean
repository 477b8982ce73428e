import Mathlib.Data.List.Basic
import Mathlib.Data.List.TakeDrop
import Polyglot.Workspace.Reconcile

/-!
# Matching old states with new sections

What reconciling is meant to do is said here without any order of processing: a section of the new
text is stood for by the first old state of its identity, or by a fresh state if there is none, and
the old states that stand for nothing are dropped. `Revising.reconcile_cons` says that one round of
the pass over the two ordered lists does this for the next section and leaves a list in which all
later sections find the state they would have found before; the statements about the whole pass
(`kept_reconcile`, `dropped_reconcile`, `notifications_reconcile`) follow by induction, and so does
the order in which the handlers are told (`pairwise_notifications_reconcile`).
-/

set_option autoImplicit false

namespace Polyglot

/-- States in the order in which their sections start, no two on one line. -/
def Ascending (states : List SectionState) : Prop :=
  states.Pairwise fun a b => a.current.start < b.current.start

namespace Revising

/-- The old state that can stand for a section. -/
def match? (old : List SectionState) (s : Section) : Option SectionState :=
  old.find? fun state => state.current.sameIdentity s

/-- The old states that can stand for none of the sections. -/
def unmatched (old : List SectionState) (new : List Section) : List SectionState :=
  old.filter fun state => !new.any state.current.sameIdentity

/-- The state of a section at a place of the new text. -/
def stateFor (r : Revising) (old : List SectionState) (place : Nat) (s : Section) : SectionState :=
  match match? old s with
  | some state => { state with current := s }
  | none => .fresh ⟨r.key, r.revision, place⟩ s

/-- What is to be told of the state of a section. -/
def changeFor (r : Revising) (old : List SectionState) (s : Section) : Option SectionChange :=
  match match? old s with
  | some state => if r.differs state.current s then some .updated else none
  | none => some .created

/-- The notification about the state of a section at a place, if there is one. -/
def notificationFor (r : Revising) (old : List SectionState) (place : Nat) (s : Section) :
    Option Notification :=
  (r.changeFor old s).map fun change => ⟨(r.stateFor old place s).key, change⟩

variable {old : List SectionState} {new : List Section} {s : Section}

/-- A section above has another identity. -/
theorem not_sameIdentity_of_lt {state : SectionState} (h : state.current.start < s.start) :
    state.current.sameIdentity s = false := by
  refine Bool.eq_false_iff.2 fun hsame => ?_
  have hstart := (Section.sameIdentity_iff.1 hsame).2.1
  omega

/-- A section below has another identity. -/
theorem not_sameIdentity_of_gt {state : SectionState} (h : s.start < state.current.start) :
    state.current.sameIdentity s = false := by
  refine Bool.eq_false_iff.2 fun hsame => ?_
  have hstart := (Section.sameIdentity_iff.1 hsame).2.1
  omega

/-- States of earlier sections in front do not change the match of a section. -/
theorem match?_append {gone left : List SectionState}
    (h : ∀ state ∈ gone, state.current.start < s.start) :
    match? (gone ++ left) s = match? left s := by
  have hnone : gone.find? (fun state => state.current.sameIdentity s) = none := by
    refine List.find?_eq_none.2 fun state hstate => ?_
    rw [not_sameIdentity_of_lt (h state hstate)]
    exact Bool.false_ne_true
  rw [match?, List.find?_append, hnone, Option.none_or, ← match?]

/-- States of sections in front of all new ones stand for none of them. -/
theorem unmatched_append {gone left : List SectionState}
    (h : ∀ state ∈ gone, ∀ s ∈ new, state.current.start < s.start) :
    unmatched (gone ++ left) new = gone ++ unmatched left new := by
  have hall : unmatched gone new = gone := by
    refine List.filter_eq_self.2 fun state hstate => ?_
    rw [Bool.not_eq_true', List.any_eq_false]
    intro s hs
    rw [not_sameIdentity_of_lt (h state hstate s hs)]
    exact Bool.false_ne_true
  have happend : unmatched (gone ++ left) new = unmatched gone new ++ unmatched left new :=
    List.filter_append _ _
  rw [happend, hall]

/-- A section that no state can stand for drops none. -/
theorem unmatched_cons (h : ∀ state ∈ old, state.current.sameIdentity s = false) :
    unmatched old (s :: new) = unmatched old new := by
  refine List.filter_congr fun state hstate => ?_
  rw [List.any_cons, h state hstate, Bool.false_or]

/-- At most one of the old states can stand for a section. -/
theorem match?_eq_some_iff (hold : Ascending old) (state : SectionState) :
    match? old s = some state ↔ state ∈ old ∧ state.current.sameIdentity s = true := by
  constructor
  · intro h
    unfold match? at h
    have hsame := List.find?_some h
    exact ⟨List.mem_of_find?_eq_some h, hsame⟩
  · rintro ⟨hmem, hsame⟩
    induction old with
    | nil => cases hmem
    | cons first rest ih =>
        obtain ⟨hfirst, hrest⟩ := List.pairwise_cons.1 hold
        rcases List.mem_cons.1 hmem with rfl | hmem
        · rw [match?, List.find?_cons, hsame]
        · have hbefore : first.current.sameIdentity s = false := by
            have hstart := (Section.sameIdentity_iff.1 hsame).2.1
            exact not_sameIdentity_of_lt (hstart ▸ hfirst state hmem)
          rw [match?, List.find?_cons, hbefore]
          exact ih hrest hmem

/-- A section has no match exactly if no state has its identity. -/
theorem match?_eq_none_iff :
    match? old s = none ↔ ∀ state ∈ old, state.current.sameIdentity s = false := by
  simp [match?]

/-- A state is unmatched if no new section has its identity. -/
theorem mem_unmatched_iff (state : SectionState) :
    state ∈ unmatched old new ↔
      state ∈ old ∧ ∀ s ∈ new, state.current.sameIdentity s = false := by
  simp [unmatched]

/-- A section's state shows the section. -/
@[simp]
theorem current_stateFor (r : Revising) (old : List SectionState) (place : Nat) (s : Section) :
    (r.stateFor old place s).current = s := by
  unfold stateFor
  split <;> rfl

/-- A section's state is an old one that shows it now, or a fresh one if no old one can stand for
it. -/
theorem stateFor_cases (r : Revising) (old : List SectionState) (place : Nat) (s : Section) :
    (∃ state ∈ old, state.current.sameIdentity s = true ∧ match? old s = some state ∧
        r.stateFor old place s = { state with current := s }) ∨
      (match? old s = none ∧
        r.stateFor old place s = .fresh ⟨r.key, r.revision, place⟩ s) := by
  cases hmatch : match? old s with
  | none => exact Or.inr ⟨rfl, by simp only [stateFor, hmatch]⟩
  | some state =>
      have hmatch' := hmatch
      unfold match? at hmatch'
      have hsame := List.find?_some hmatch'
      exact Or.inl ⟨state, List.mem_of_find?_eq_some hmatch', hsame, rfl,
        by simp only [stateFor, hmatch]⟩

/-- The states that are passed begin before the section, the others do not. -/
theorem exists_passed (s : Section) (old : List SectionState) (hold : Ascending old) :
    ∃ gone left, passed s old = (gone, left) ∧ old = gone ++ left ∧ Ascending left ∧
      (∀ state ∈ gone, state.current.start < s.start) ∧
        ∀ state ∈ left, s.start ≤ state.current.start := by
  let before := fun state : SectionState => decide (state.current.start < s.start)
  have hsplit : old.takeWhile before ++ old.dropWhile before = old :=
    List.takeWhile_append_dropWhile
  have hleft : Ascending (old.dropWhile before) := hold.sublist (List.dropWhile_sublist before)
  refine ⟨old.takeWhile before, old.dropWhile before, List.span_eq_takeWhile_dropWhile _ _,
    hsplit.symm, hleft, ?_, ?_⟩
  · intro state hstate
    exact of_decide_eq_true (List.all_eq_true.1 List.all_takeWhile state hstate)
  · intro state hstate
    have hfalse := List.head?_dropWhile_not before old
    cases hrest : old.dropWhile before with
    | nil =>
        rw [hrest] at hstate
        cases hstate
    | cons first rest =>
        rw [hrest] at hfalse hleft hstate
        have hfirst : s.start ≤ first.current.start := by simpa [before] using hfalse
        rcases List.mem_cons.1 hstate with rfl | hstate
        · exact hfirst
        · have hlt := (List.pairwise_cons.1 hleft).1 state hstate
          omega

/-- The old state that stands for the next section is used up by it, and by no later section. -/
theorem unmatched_cons_of_match {state : SectionState} {others : List SectionState}
    {rest : List Section} (hasc : Ascending (state :: others))
    (hsame : state.current.sameIdentity s = true) :
    unmatched (state :: others) (s :: rest) = unmatched others rest := by
  have hstart := (Section.sameIdentity_iff.1 hsame).2.1
  have hlater : ∀ other ∈ others, other.current.sameIdentity s = false := fun other hother =>
    not_sameIdentity_of_gt (hstart ▸ (List.pairwise_cons.1 hasc).1 other hother)
  have hused : unmatched (state :: others) (s :: rest) = unmatched others (s :: rest) := by
    rw [unmatched, List.filter_cons, List.any_cons, hsame, Bool.true_or, Bool.not_true,
      if_neg Bool.false_ne_true, ← unmatched]
  rw [hused, unmatched_cons hlater]

/-- One round of the pass: the next section gets its state, the old states before it are dropped,
and in the states that are left every later section finds the state that it would have found
before. -/
structure Round (r : Revising) (old : List SectionState) (place : Nat) (s : Section)
    (rest : List Section) (gone left : List SectionState) : Prop where
  reconcile_eq : r.reconcile old place (s :: rest) =
    .dropping gone (.keeping (r.stateFor old place s) (r.changeFor old s)
      (r.reconcile left (place + 1) rest))
  sublist : (gone ++ left).Sublist old
  gone_lt : ∀ state ∈ gone, state.current.start < s.start
  left_later : ∀ state ∈ left, s.start < state.current.start ∨
    (s.start = state.current.start ∧ r.changeFor old s = some .created)
  match?_eq : ∀ t, s.start < t.start → match? old t = match? left t
  unmatched_eq : unmatched old (s :: rest) = gone ++ unmatched left rest

/-- Each new section takes one round of the reconciliation. -/
theorem reconcile_cons (r : Revising) (hold : Ascending old) (place : Nat) {rest : List Section}
    (hrest : ∀ t ∈ rest, s.start < t.start) : ∃ gone left, Round r old place s rest gone left := by
  obtain ⟨gone, left, hpassed, rfl, hasc, hgone, hleft⟩ := exists_passed s old hold
  have hgone' : ∀ state ∈ gone, ∀ t ∈ s :: rest, state.current.start < t.start := by
    intro state hstate t ht
    have hlt := hgone state hstate
    rcases List.mem_cons.1 ht with rfl | ht
    · exact hlt
    · exact Nat.lt_trans hlt (hrest t ht)
  have hmatch : ∀ t, s.start ≤ t.start → match? (gone ++ left) t = match? left t := fun t ht =>
    match?_append fun state hstate => Nat.lt_of_lt_of_le (hgone state hstate) ht
  have hs := hmatch s (Nat.le_refl _)
  cases left with
  | nil =>
      -- Every old state begins before the section: a fresh state stands for it.
      have hnone : match? (gone ++ []) s = none := hs
      refine ⟨gone, [], ?_, List.Sublist.refl _, hgone, fun _ hnil => absurd hnil List.not_mem_nil,
        fun t ht => hmatch t (Nat.le_of_lt ht), unmatched_append hgone'⟩
      rw [reconcile, hpassed]
      simp only [stateFor, changeFor, hnone]
  | cons state others =>
      cases hsame : state.current.sameIdentity s with
      | true =>
          -- The old state at the head stands for the section and is used up.
          have hstart := (Section.sameIdentity_iff.1 hsame).2.1
          have hsome : match? (gone ++ state :: others) s = some state := by
            rw [hs, match?, List.find?_cons, hsame]
          refine ⟨gone, others, ?_, (List.sublist_cons_self state others).append_left gone, hgone,
            ?_, ?_, ?_⟩
          · rw [reconcile, hpassed]
            simp only [stateFor, changeFor, hsome, hsame, if_true]
          · intro other hother
            exact Or.inl (hstart ▸ (List.pairwise_cons.1 hasc).1 other hother)
          · intro t ht
            have hbefore : state.current.sameIdentity t = false :=
              not_sameIdentity_of_lt (hstart.symm ▸ ht)
            rw [hmatch t (Nat.le_of_lt ht), match?, List.find?_cons, hbefore, ← match?]
          · rw [unmatched_append hgone', unmatched_cons_of_match hasc hsame]
      | false =>
          -- The old state at the head waits for a later section.
          have hother : ∀ other ∈ state :: others, other.current.sameIdentity s = false := by
            intro other hother
            rcases List.mem_cons.1 hother with rfl | hother
            · exact hsame
            · have hhead := hleft state List.mem_cons_self
              have hlater := (List.pairwise_cons.1 hasc).1 other hother
              exact not_sameIdentity_of_gt (Nat.lt_of_le_of_lt hhead hlater)
          have hnone : match? (gone ++ state :: others) s = none :=
            hs.trans (match?_eq_none_iff.2 hother)
          refine ⟨gone, state :: others, ?_, List.Sublist.refl _, hgone, ?_,
            fun t ht => hmatch t (Nat.le_of_lt ht), ?_⟩
          · rw [reconcile, hpassed]
            simp only [stateFor, changeFor, hnone, hsame, Bool.false_eq_true, if_false]
          · intro other hmem
            rcases Nat.lt_or_eq_of_le (hleft other hmem) with hlt | heq
            · exact Or.inl hlt
            · exact Or.inr ⟨heq, by simp only [changeFor, hnone]⟩
          · rw [unmatched_append hgone', unmatched_cons hother]

/-- A round leaves states that were there before it. -/
theorem Round.left_sublist {r : Revising} {place : Nat} {rest : List Section}
    {gone left : List SectionState} (h : Round r old place s rest gone left) : left.Sublist old :=
  (List.sublist_append_right gone left).trans h.sublist

variable (r : Revising)

/-- The states of the new sections are those that stand for them. -/
theorem kept_reconcile (hold : Ascending old) (place : Nat)
    (hnew : new.Pairwise fun s t => s.start < t.start) :
    (r.reconcile old place new).kept =
      (new.zipIdx place).map fun s => r.stateFor old s.2 s.1 := by
  induction new generalizing old place with
  | nil => simp [reconcile, Reconciliation.dropping]
  | cons s rest ih =>
      obtain ⟨hs, hrest⟩ := List.pairwise_cons.1 hnew
      obtain ⟨gone, left, hround⟩ := r.reconcile_cons hold place hs
      have hcongr : (rest.zipIdx (place + 1)).map (fun t => r.stateFor left t.2 t.1) =
          (rest.zipIdx (place + 1)).map fun t => r.stateFor old t.2 t.1 := by
        refine List.map_congr_left fun t ht => ?_
        have hmem : t.1 ∈ rest := List.fst_mem_of_mem_zipIdx ht
        simp only [stateFor, hround.match?_eq t.1 (hs t.1 hmem)]
      rw [hround.reconcile_eq, List.zipIdx_cons, List.map_cons]
      simp only [Reconciliation.dropping, Reconciliation.keeping]
      rw [ih (hold.sublist hround.left_sublist) (place + 1) hrest, hcongr]

/-- The dropped states are those that stand for nothing. -/
theorem dropped_reconcile (hold : Ascending old) (place : Nat)
    (hnew : new.Pairwise fun s t => s.start < t.start) :
    (r.reconcile old place new).dropped = (unmatched old new).map SectionState.detach := by
  induction new generalizing old place with
  | nil => simp [reconcile, Reconciliation.dropping, unmatched, List.filter_eq_self.2]
  | cons s rest ih =>
      obtain ⟨hs, hrest⟩ := List.pairwise_cons.1 hnew
      obtain ⟨gone, left, hround⟩ := r.reconcile_cons hold place hs
      rw [hround.reconcile_eq, hround.unmatched_eq, List.map_append]
      simp only [Reconciliation.dropping, Reconciliation.keeping]
      rw [ih (hold.sublist hround.left_sublist) (place + 1) hrest]

/-- Told is, in some order, that the states that stand for nothing were removed, and of each new
section what befell its state. -/
theorem notifications_reconcile (hold : Ascending old) (place : Nat)
    (hnew : new.Pairwise fun s t => s.start < t.start) :
    (r.reconcile old place new).notifications.Perm
      ((unmatched old new).map (fun state => ⟨state.key, .removed⟩) ++
        (new.zipIdx place).filterMap fun s => r.notificationFor old s.2 s.1) := by
  induction new generalizing old place with
  | nil => simp [reconcile, Reconciliation.dropping, unmatched, List.filter_eq_self.2]
  | cons s rest ih =>
      obtain ⟨hs, hrest⟩ := List.pairwise_cons.1 hnew
      obtain ⟨gone, left, hround⟩ := r.reconcile_cons hold place hs
      have hcongr : (rest.zipIdx (place + 1)).filterMap (fun t => r.notificationFor left t.2 t.1) =
          (rest.zipIdx (place + 1)).filterMap fun t => r.notificationFor old t.2 t.1 := by
        refine List.filterMap_congr fun t ht => ?_
        have hmem : t.1 ∈ rest := List.fst_mem_of_mem_zipIdx ht
        simp only [notificationFor, stateFor, changeFor, hround.match?_eq t.1 (hs t.1 hmem)]
      have hcons : ((s :: rest).zipIdx place).filterMap (fun t => r.notificationFor old t.2 t.1) =
          (r.notificationFor old place s).toList ++
            (rest.zipIdx (place + 1)).filterMap fun t => r.notificationFor old t.2 t.1 := by
        rw [List.zipIdx_cons, List.filterMap_cons]
        cases r.notificationFor old place s <;> rfl
      have htail := ih (hold.sublist hround.left_sublist) (place + 1) hrest
      rw [hcongr] at htail
      rw [hround.reconcile_eq, hround.unmatched_eq, List.map_append, hcons, List.append_assoc]
      simp only [Reconciliation.dropping, Reconciliation.keeping]
      refine List.Perm.append_left _ ?_
      exact (htail.append_left _).trans (List.perm_append_comm_assoc _ _ _)

/-- Of two notifications the first is about an earlier line, or both are about one line on which a
section begins anew and another one has ended. -/
def Precedes (start : SectionKey → Nat) (a b : Notification) : Prop :=
  start a.state < start b.state ∨
    (start a.state = start b.state ∧ a.change = .created ∧ b.change = .removed)

variable {start : SectionKey → Nat}

/-- What is told is told of old states that are removed, and of the states of new sections. -/
theorem mem_notifications_reconcile (hold : Ascending old) (place : Nat)
    (hnew : new.Pairwise fun s t => s.start < t.start)
    (hstart : ∀ state ∈ old, start state.key = state.current.start)
    (hstates : ∀ s ∈ new.zipIdx place, start (r.stateFor old s.2 s.1).key = s.1.start)
    {n : Notification} (hn : n ∈ (r.reconcile old place new).notifications) :
    (∃ state ∈ old, n.change = .removed ∧ start n.state = state.current.start) ∨
      ∃ s ∈ new, start n.state = s.start := by
  rw [(r.notifications_reconcile hold place hnew).mem_iff, List.mem_append] at hn
  rcases hn with hremoved | htold
  · obtain ⟨state, hstate, rfl⟩ := List.mem_map.1 hremoved
    have hmem := ((mem_unmatched_iff state).1 hstate).1
    exact Or.inl ⟨state, hmem, rfl, hstart state hmem⟩
  · obtain ⟨s, hs, hsome⟩ := List.mem_filterMap.1 htold
    obtain ⟨change, _, rfl⟩ := Option.map_eq_some_iff.1 hsome
    exact Or.inr ⟨s.1, List.fst_mem_of_mem_zipIdx hs, hstates s hs⟩

/-- The handlers are told line by line. -/
theorem pairwise_notifications_reconcile (hold : Ascending old) (place : Nat)
    (hnew : new.Pairwise fun s t => s.start < t.start)
    (hstart : ∀ state ∈ old, start state.key = state.current.start)
    (hstates : ∀ s ∈ new.zipIdx place, start (r.stateFor old s.2 s.1).key = s.1.start) :
    (r.reconcile old place new).notifications.Pairwise (Precedes start) := by
  have hremoved : ∀ states : List SectionState, states.Sublist old →
      (states.map fun state => (⟨state.key, .removed⟩ : Notification)).Pairwise
        (Precedes start) := by
    intro states hsub
    refine List.pairwise_map.2 ((hold.sublist hsub).imp_of_mem fun ha hb hlt => Or.inl ?_)
    simpa only [hstart _ (hsub.subset ha), hstart _ (hsub.subset hb)] using hlt
  induction new generalizing old place with
  | nil => simpa [reconcile, Reconciliation.dropping] using hremoved old (List.Sublist.refl _)
  | cons s rest ih =>
      obtain ⟨hs, hrest⟩ := List.pairwise_cons.1 hnew
      obtain ⟨gone, left, hround⟩ := r.reconcile_cons hold place hs
      have hgone : gone.Sublist old := (List.sublist_append_left gone left).trans hround.sublist
      have hleft := hround.left_sublist
      have hstartleft : ∀ state ∈ left, start state.key = state.current.start :=
        fun state hstate => hstart state (hleft.subset hstate)
      rw [List.zipIdx_cons] at hstates
      obtain ⟨hown, hothers⟩ := List.forall_mem_cons.1 hstates
      have hstatesleft : ∀ t ∈ rest.zipIdx (place + 1),
          start (r.stateFor left t.2 t.1).key = t.1.start := by
        intro t ht
        have hmatch := hround.match?_eq t.1 (hs t.1 (List.fst_mem_of_mem_zipIdx ht))
        have hstate := hothers t ht
        simp only [stateFor, hmatch] at hstate ⊢
        exact hstate
      -- What the later rounds tell is about later lines, or about a state that `s` has displaced.
      have hlater : ∀ n ∈ (r.reconcile left (place + 1) rest).notifications,
          s.start < start n.state ∨
            (s.start = start n.state ∧ r.changeFor old s = some .created ∧
              n.change = .removed) := by
        intro n hn
        rcases r.mem_notifications_reconcile (hold.sublist hleft) (place + 1) hrest hstartleft
          hstatesleft hn with ⟨state, hstate, hchange, hn⟩ | ⟨t, ht, hn⟩
        · rw [hn]
          exact (hround.left_later state hstate).imp_right fun h => ⟨h.1, h.2, hchange⟩
        · rw [hn]
          exact Or.inl (hs t ht)
      rw [hround.reconcile_eq]
      simp only [Reconciliation.dropping, Reconciliation.keeping]
      refine List.pairwise_append.2 ⟨hremoved gone hgone, List.pairwise_append.2 ⟨?_, ?_, ?_⟩, ?_⟩
      · cases r.changeFor old s <;> simp
      · exact ih (hold.sublist hleft) (place + 1) hrest hstartleft hstatesleft
          fun states hsub => hremoved states (hsub.trans hleft)
      · intro a ha b hb
        obtain ⟨change, hchange, rfl⟩ := Option.map_eq_some_iff.1 (Option.mem_toList.1 ha)
        rw [Precedes, hown]
        refine (hlater b hb).imp_right fun h => ⟨h.1, ?_, h.2.2⟩
        exact Option.some.inj (hchange.symm.trans h.2.1)
      · intro a ha b hb
        obtain ⟨state, hstate, rfl⟩ := List.mem_map.1 ha
        have hbefore : start state.key < s.start := by
          rw [hstart state (hgone.subset hstate)]
          exact hround.gone_lt state hstate
        refine Or.inl (Nat.lt_of_lt_of_le hbefore ?_)
        rcases List.mem_append.1 hb with hb | hb
        · obtain ⟨change, _, rfl⟩ := Option.map_eq_some_iff.1 (Option.mem_toList.1 hb)
          exact Nat.le_of_eq hown.symm
        · rcases hlater b hb with hlt | heq
          · exact Nat.le_of_lt hlt
          · exact Nat.le_of_eq heq.1

end Revising

end Polyglot
