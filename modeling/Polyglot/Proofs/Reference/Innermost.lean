import Mathlib.Data.Set.Lattice
import Mathlib.Order.CompletePartialOrder
import Polyglot.Proofs.Reference.Pinning

/-!
# The innermost reference

`nearer` compares the best candidate so far with the next one. It is no order: of intervals that
overlap neither lies in the other, so nothing follows from it about candidates that were compared
with others. What a left fold keeps is that none of the candidates looked at so far lies properly
inside the best one, and that none in front of it has its interval (`IsNearest.next`). So the
reference at a position is an innermost one of those that cover it, and of several in one place the
first (`resolverAt_isInnermost`).
-/

set_option autoImplicit false

namespace Polyglot

namespace Interval

variable {i j : Interval}

/-- The positions in the interval, both ends included. -/
def positions (i : Interval) : Set Position :=
  {p | i.contains p = true}

/-- An interval has no positions besides those of another exactly if the other one subsumes it. -/
theorem positions_subset_iff : j.positions ⊆ i.positions ↔ i.subsumes j = true :=
  subsumes_iff.symm

/-- Intervals that subsume each other are the same. -/
theorem subsumes_antisymm (h : i.subsumes j = true) (h' : j.subsumes i = true) : i = j := by
  simp only [subsumes, Bool.and_eq_true, decide_eq_true_eq] at h h'
  have hstart := Position.le_antisymm h.1 h'.1
  have hstop := Position.le_antisymm h'.2 h.2
  cases i
  cases j
  simp only [mk.injEq]
  exact ⟨hstart, hstop⟩

/-- An interval is determined by its positions. -/
theorem positions_inj : i.positions = j.positions ↔ i = j := by
  constructor
  · intro h
    exact subsumes_antisymm (positions_subset_iff.1 h.ge) (positions_subset_iff.1 h.le)
  · rintro rfl
    rfl

/-- One interval subsumes another strictly exactly if the positions of the other are a proper subset
of its own. -/
theorem strictlySubsumes_iff : i.strictlySubsumes j = true ↔ j.positions ⊂ i.positions := by
  rw [Set.ssubset_iff_subset_ne, positions_subset_iff, ne_eq, positions_inj, strictlySubsumes,
    Bool.and_eq_true, decide_eq_true_eq, ne_comm]

end Interval

/-- The location is in the source, and the position lies in it. -/
def Location.Covers (l : Location) (source : String) (p : Position) : Prop :=
  l.source = source ∧ p ∈ l.interval.positions

/-- The test whether a location contains a position says whether it covers it. -/
theorem Location.contains_iff {l : Location} {source : String} {p : Position} :
    l.contains source p = true ↔ l.Covers source p := by
  rw [contains, Bool.and_eq_true, decide_eq_true_eq]
  rfl

section Innermost

variable {α : Type}

/-- The item is an innermost one of those that cover the position, and of those in its place the
first. If of any two that cover the position one lies in the other, it lies in all of them. -/
structure IsInnermost (locate : α → Location) (items : List α) (source : String) (p : Position)
    (item : α) : Prop where
  covers : (locate item).Covers source p
  not_inside : ∀ other ∈ items, (locate other).Covers source p →
    ¬(locate other).interval.positions ⊂ (locate item).interval.positions
  first : ∃ i : Nat, items[i]? = some item ∧
    ∀ j < i, ∀ other, items[j]? = some other → locate other ≠ locate item
  subset_of_nested :
    (∀ a ∈ items, (locate a).Covers source p → ∀ b ∈ items, (locate b).Covers source p →
      (locate a).interval.positions ⊆ (locate b).interval.positions ∨
        (locate b).interval.positions ⊆ (locate a).interval.positions) →
    ∀ other ∈ items, (locate other).Covers source p →
      (locate item).interval.positions ⊆ (locate other).interval.positions

/-- What is known of the best of the items that were looked at: it is one of them, none of them lies
properly inside it, and none in front of it has its interval. -/
structure IsNearest (locate : α → Location) (seen : List α) (best : α) : Prop where
  not_inside : ∀ item ∈ seen,
    ¬(locate item).interval.positions ⊂ (locate best).interval.positions
  split : ∃ before after, seen = before ++ best :: after ∧
    ∀ item ∈ before, (locate item).interval ≠ (locate best).interval

variable {locate : α → Location} {seen items : List α} {best : α} {source : String} {p : Position}

/-- A single item is the nearest one. -/
theorem isNearest_singleton (locate : α → Location) (item : α) :
    IsNearest locate [item] item := by
  refine ⟨?_, [], [], rfl, fun _ hnil => absurd hnil List.not_mem_nil⟩
  intro other hother
  rw [List.mem_singleton.1 hother]
  exact ssubset_irrefl _

/-- Looking at one more item. -/
theorem IsNearest.next (h : IsNearest locate seen best) (item : α) :
    IsNearest locate (seen ++ [item]) (nearer locate best item) := by
  unfold nearer
  split
  · -- The item lies properly inside the best one, so nothing seen before lies inside the item.
    rename_i hstrictly
    have hinside := Interval.strictlySubsumes_iff.1 hstrictly
    refine ⟨?_, seen, [], rfl, ?_⟩
    · intro other hother
      rcases List.mem_append.1 hother with hseen | hlast
      · exact fun hother => h.not_inside other hseen (hother.trans hinside)
      · rw [List.mem_singleton.1 hlast]
        exact ssubset_irrefl _
    · intro other hseen heq
      refine h.not_inside other hseen ?_
      rw [heq]
      exact hinside
  · rename_i hnot
    obtain ⟨before, after, rfl, hbefore⟩ := h.split
    refine ⟨?_, before, after ++ [item], by simp, hbefore⟩
    intro other hother
    rcases List.mem_append.1 hother with hseen | hlast
    · exact h.not_inside other hseen
    · rw [List.mem_singleton.1 hlast]
      exact fun hinside => hnot (Interval.strictlySubsumes_iff.2 hinside)

/-- Looking at more items, one after the other. -/
theorem IsNearest.foldl (h : IsNearest locate seen best) (rest : List α) :
    IsNearest locate (seen ++ rest) (rest.foldl (nearer locate) best) := by
  induction rest generalizing seen best with
  | nil =>
      rw [List.append_nil]
      exact h
  | cons item rest ih =>
      have hrest := ih (h.next item)
      rw [List.append_assoc, List.singleton_append] at hrest
      exact hrest

/-- No item is found exactly if none covers the position. -/
theorem innermost_eq_none_iff :
    innermost locate items source p = none ↔ ∀ item ∈ items, ¬(locate item).Covers source p := by
  have hfilter : (items.filter fun item => (locate item).contains source p) = [] ↔
      ∀ item ∈ items, ¬(locate item).Covers source p := by
    simp only [List.filter_eq_nil_iff, Location.contains_iff]
  rw [← hfilter]
  unfold innermost
  split
  · rename_i hnil
    exact iff_of_true rfl hnil
  · rename_i first rest hcons
    rw [hcons]
    exact iff_of_false (Option.some_ne_none _) (List.cons_ne_nil _ _)

/-- What is found is the nearest of the items that cover the position. -/
theorem isNearest_of_innermost {item : α} (h : innermost locate items source p = some item) :
    IsNearest locate (items.filter fun item => (locate item).contains source p) item := by
  unfold innermost at h
  split at h
  · cases h
  · rename_i first rest hcons
    obtain rfl := Option.some.inj h
    rw [hcons]
    exact (isNearest_singleton locate first).foldl rest

/-- What does not cover the position comes in between, but is in another place. -/
theorem IsNearest.exists_first {item : α} (hcovers : (locate item).Covers source p)
    (h : IsNearest locate (items.filter fun item => (locate item).contains source p) item) :
    ∃ i : Nat, items[i]? = some item ∧
      ∀ j < i, ∀ other, items[j]? = some other → locate other ≠ locate item := by
  obtain ⟨before, after, hfilter, hbefore⟩ := h.split
  obtain ⟨front, back, rfl, hfront, hback⟩ := List.filter_eq_append_iff.1 hfilter
  obtain ⟨passed, rest, rfl, hpassed, _, _⟩ := List.filter_eq_cons_iff.1 hback
  refine ⟨(front ++ passed).length, ?_, ?_⟩
  · rw [← List.append_assoc, List.getElem?_append_right (Nat.le_refl _), Nat.sub_self]
    rfl
  · intro j hj other hother hlocate
    rw [← List.append_assoc, List.getElem?_append_left hj] at hother
    have hcontains : (locate other).contains source p = true := by
      rw [hlocate]
      exact Location.contains_iff.2 hcovers
    rcases List.mem_append.1 (List.mem_of_getElem? hother) with hmem | hmem
    · have hearlier : other ∈ before := by
        rw [← hfront]
        exact List.mem_filter.2 ⟨hmem, hcontains⟩
      exact hbefore other hearlier (congrArg Location.interval hlocate)
    · exact hpassed other hmem hcontains

/-- What is found is the innermost item at the position. -/
theorem isInnermost_of_innermost {item : α} (h : innermost locate items source p = some item) :
    IsInnermost locate items source p item := by
  have hnearest := isNearest_of_innermost h
  have hcovers := Location.contains_iff.1 (mem_of_innermost h).2
  have hnot_inside : ∀ other ∈ items, (locate other).Covers source p →
      ¬(locate other).interval.positions ⊂ (locate item).interval.positions := by
    intro other hother hcovering
    have hcontains := Location.contains_iff.2 hcovering
    exact hnearest.not_inside other (List.mem_filter.2 ⟨hother, hcontains⟩)
  refine ⟨hcovers, hnot_inside, hnearest.exists_first hcovers, ?_⟩
  intro hnested other hother hcovering
  rcases hnested item (mem_of_innermost h).1 hcovers other hother hcovering with hle | hge
  · exact hle
  · -- The other one lies inside, but not properly: it is the same interval.
    by_contra hnot
    exact hnot_inside other hother hcovering ⟨hge, hnot⟩

end Innermost

/-- The reference at a position of a source: there is none exactly if no reference covers the
position, and otherwise it is an innermost one of those that do. -/
theorem resolverAt_isInnermost (resolvers : List Resolver) (source : String) (p : Position) :
    (resolverAt resolvers source p = none ↔ ∀ r ∈ resolvers, ¬r.location.Covers source p) ∧
      ∀ r, resolverAt resolvers source p = some r →
        IsInnermost Resolver.location resolvers source p r :=
  ⟨innermost_eq_none_iff, fun _ => isInnermost_of_innermost⟩

/-- The second interval does not lie in the first; the third lies in both. -/
example : innermost (Location.mk "notes")
    [⟨⟨0, 0⟩, ⟨0, 6⟩, by decide⟩, ⟨⟨0, 3⟩, ⟨0, 9⟩, by decide⟩, ⟨⟨0, 4⟩, ⟨0, 5⟩, by decide⟩]
    "notes" ⟨0, 4⟩ = some ⟨⟨0, 4⟩, ⟨0, 5⟩, by decide⟩ := by
  decide

end Polyglot
