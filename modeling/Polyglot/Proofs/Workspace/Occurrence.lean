import Polyglot.Proofs.Sequence
import Polyglot.Workspace.Basic

/-!
# When computations are due

The past of a workspace, as far as it concerns memoized declarations, is a list of occurrences:
handlers were told of changes and were asked for declarations. It is timely if each computation ran
at the first question after the state was created or updated, and at no other (`Timely`).
-/

set_option autoImplicit false

namespace Polyglot

/-- What befalls the state of a section: its handler is told of a change, or is asked for its
declarations and computes them or has kept them. -/
inductive Occurrence where
  | told (state : SectionKey) (change : SectionChange)
  | asked (state : SectionKey) (ran : Bool)
deriving DecidableEq, Repr

/-- A computation is due for a state if its handler was told that the state was created or updated
and has not been asked since. -/
def Due (state : SectionKey) (past : List Occurrence) : Prop :=
  ∃ (before : List Occurrence) (change : SectionChange) (after : List Occurrence),
    past = before ++ .told state change :: after ∧ change ≠ .removed ∧
      ∀ ran, Occurrence.asked state ran ∉ after

/-- Computations ran exactly when they were due. -/
def Timely (past : List Occurrence) : Prop :=
  ∀ (before : List Occurrence) (state : SectionKey) (ran : Bool) (after : List Occurrence),
    past = before ++ .asked state ran :: after → (ran = true ↔ Due state before)

section Past

variable {past : List Occurrence} {o : Occurrence} {state : SectionKey}

/-- A computation is due since the handler was told of a change and as long as it was not asked. -/
theorem due_iff_since : Due state past ↔
    Since (fun o => ∃ change, o = .told state change ∧ change ≠ .removed)
      (fun o => ∃ ran, o = .asked state ran) past := by
  constructor
  · rintro ⟨before, change, after, heq, hchange, hafter⟩
    refine ⟨before, _, after, heq, ⟨change, rfl, hchange⟩, ?_⟩
    rintro _ hasked ⟨ran, rfl⟩
    exact hafter ran hasked
  · rintro ⟨before, _, after, heq, ⟨change, rfl, hchange⟩, hafter⟩
    exact ⟨before, change, after, heq, hchange, fun ran hasked => hafter _ hasked ⟨ran, rfl⟩⟩

/-- One occurrence more makes a computation due, or leaves it so unless it is asked for. -/
theorem due_append_iff : Due state (past ++ [o]) ↔
    (∃ change, o = .told state change ∧ change ≠ .removed) ∨
      (∀ ran, o ≠ .asked state ran) ∧ Due state past := by
  rw [due_iff_since, since_append_iff, not_exists, due_iff_since]

/-- To tell of a change makes the computation for this state due, unless it is removed. -/
theorem due_append_told_iff (state told : SectionKey) (change : SectionChange) :
    Due state (past ++ [.told told change]) ↔
      (told = state ∧ change ≠ .removed) ∨ Due state past := by
  rw [due_append_iff]
  constructor
  · rintro (⟨_, heq, hchange⟩ | ⟨_, hdue⟩)
    · cases heq
      exact Or.inl ⟨rfl, hchange⟩
    · exact Or.inr hdue
  · rintro (⟨rfl, hchange⟩ | hdue)
    · exact Or.inl ⟨change, rfl, hchange⟩
    · exact Or.inr ⟨fun ran => Occurrence.noConfusion, hdue⟩

/-- To ask for a computation settles the one for this state. -/
theorem due_append_asked_iff (state asked : SectionKey) (ran : Bool) :
    Due state (past ++ [.asked asked ran]) ↔ asked ≠ state ∧ Due state past := by
  rw [due_append_iff]
  constructor
  · rintro (⟨_, heq, _⟩ | ⟨hother, hdue⟩)
    · cases heq
    · exact ⟨fun heq => hother ran (by rw [heq]), hdue⟩
  · rintro ⟨hne, hdue⟩
    refine Or.inr ⟨fun ran' heq => ?_, hdue⟩
    cases heq
    exact hne rfl

/-- Nothing was untimely where nothing happened. -/
theorem timely_nil : Timely [] := by
  intro before state ran after heq
  cases before <;> cases heq

/-- To tell of a change is never untimely. -/
theorem Timely.append_told (h : Timely past) (told : SectionKey) (change : SectionChange) :
    Timely (past ++ [.told told change]) := by
  intro before state ran after heq
  rcases append_singleton_eq_iff.1 heq with ⟨_, hlast, _⟩ | ⟨rest, _, hpast⟩
  · cases hlast
  · exact h before state ran rest hpast

/-- A computation that runs exactly if it is due is timely. -/
theorem Timely.append_asked (h : Timely past) {state : SectionKey} {ran : Bool}
    (hran : ran = true ↔ Due state past) : Timely (past ++ [.asked state ran]) := by
  intro before other ran' after heq
  rcases append_singleton_eq_iff.1 heq with ⟨rfl, hlast, _⟩ | ⟨rest, _, hpast⟩
  · cases hlast
    exact hran
  · exact h before other ran' rest hpast

end Past

/-- What an entry of the journal shows. -/
def JournalEntry.occurrence? : JournalEntry → Option Occurrence
  | .delivered state change _ => some (.told state change)
  | .reported _ => none

end Polyglot
