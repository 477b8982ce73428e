import Mathlib.Data.List.Basic

/-!
# What has held since

A past is a list that grows at its end. Something holds since an item of it if the item brought it
about and no later item ended it (`Since`); what the next item does to that is `since_append_iff`.
-/

set_option autoImplicit false

namespace Polyglot

universe u

variable {β : Type u} {past : List β} {o : β}

/-- A list that ends with `o` is cut at its end or before. -/
theorem append_singleton_eq_iff {before after : List β} {x : β} :
    past ++ [o] = before ++ x :: after ↔
      (past = before ∧ o = x ∧ after = []) ∨
        ∃ rest, after = rest ++ [o] ∧ past = before ++ x :: rest := by
  constructor
  · intro h
    rcases List.eq_nil_or_concat after with rfl | ⟨rest, last, rfl⟩
    · obtain ⟨hpast, hlast⟩ := List.append_inj' h rfl
      exact Or.inl ⟨hpast, List.singleton_inj.1 hlast, rfl⟩
    · rw [List.concat_eq_append, ← List.cons_append, ← List.append_assoc] at h
      obtain ⟨hpast, hlast⟩ := List.append_inj' h rfl
      rw [List.concat_eq_append, List.singleton_inj.1 hlast]
      exact Or.inr ⟨rest, rfl, hpast⟩
  · rintro (⟨rfl, rfl, rfl⟩ | ⟨rest, rfl, rfl⟩)
    · rfl
    · rw [List.append_assoc, List.cons_append]

/-- An item begins something, and no later one ends it. -/
def Since (begins ends : β → Prop) (past : List β) : Prop :=
  ∃ before x after, past = before ++ x :: after ∧ begins x ∧ ∀ y ∈ after, ¬ends y

variable {begins ends : β → Prop}

/-- Nothing has begun where nothing happened. -/
theorem not_since_nil : ¬Since begins ends [] := by
  rintro ⟨before, x, after, heq, -⟩
  cases before <;> cases heq

/-- What holds since it began holds after one thing more if this begins it or does not end it. -/
theorem since_append_iff :
    Since begins ends (past ++ [o]) ↔ begins o ∨ ¬ends o ∧ Since begins ends past := by
  constructor
  · rintro ⟨before, x, after, heq, hbegins, hafter⟩
    rcases append_singleton_eq_iff.1 heq with ⟨_, rfl, _⟩ | ⟨rest, rfl, hpast⟩
    · exact Or.inl hbegins
    · obtain ⟨hrest, ho⟩ := List.forall_mem_append.1 hafter
      exact Or.inr ⟨ho o (List.mem_singleton_self o), before, x, rest, hpast, hbegins, hrest⟩
  · rintro (hbegins | ⟨hends, before, x, after, rfl, hbegins, hafter⟩)
    · exact ⟨past, o, [], rfl, hbegins, fun y hy => absurd hy List.not_mem_nil⟩
    · refine ⟨before, x, after ++ [o], ?_, hbegins, ?_⟩
      · rw [List.append_assoc, List.cons_append]
      · exact List.forall_mem_append.2 ⟨hafter, List.forall_mem_singleton.2 hends⟩

end Polyglot
