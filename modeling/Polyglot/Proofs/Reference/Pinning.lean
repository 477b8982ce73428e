import Polyglot.Grammar.Keyword

/-!
# Pinned references

A provider of references pins what it finds to the revision that it reads (`Pins`), as a pinned
keyword grammar does (`KeywordGrammar.pins_references`). In a context that knows another revision of
the document, a pinned reference is refused as stale, and its target has no part in that
(`Resolver.resolveWith_eq_stale`).
-/

set_option autoImplicit false

namespace Polyglot

/-- What is found in a section is pinned to the revision of its document. -/
def Pins (find : SectionView → Reply (List Resolver)) : Prop :=
  ∀ view revision resolvers, view.revision = .ok revision →
    (find view).answer = .ok resolvers → ∀ r ∈ resolvers, r.revision? = some revision

section Innermost

variable {α : Type} {locate : α → Location} {items : List α} {source : String} {p : Position}

/-- What is kept is one of the items. -/
theorem foldl_nearer_mem (locate : α → Location) (first : α) (rest : List α) :
    rest.foldl (nearer locate) first ∈ first :: rest := by
  induction rest generalizing first with
  | nil => exact List.mem_singleton.2 rfl
  | cons next rest ih =>
      rw [List.foldl_cons]
      have hmem := ih (nearer locate first next)
      have hnearer : nearer locate first next = first ∨ nearer locate first next = next := by
        unfold nearer
        split
        · exact Or.inr rfl
        · exact Or.inl rfl
      rcases List.mem_cons.1 hmem with heq | hrest
      · rw [heq]
        rcases hnearer with hfirst | hnext
        · rw [hfirst]
          exact List.mem_cons_self
        · rw [hnext]
          exact List.mem_cons_of_mem _ List.mem_cons_self
      · exact List.mem_cons_of_mem _ (List.mem_cons_of_mem _ hrest)

/-- The innermost item is one of the items, and the position lies in it. -/
theorem mem_of_innermost {item : α} (h : innermost locate items source p = some item) :
    item ∈ items ∧ (locate item).contains source p = true := by
  unfold innermost at h
  split at h
  · cases h
  · rename_i first rest hfiltered
    have hmem := foldl_nearer_mem locate first rest
    rw [Option.some.inj h, ← hfiltered] at hmem
    exact List.mem_filter.1 hmem

end Innermost

/-- The reference at a position is one of those found, in the source that was asked for. -/
theorem mem_of_resolverAt {resolvers : List Resolver} {source : String} {p : Position}
    {r : Resolver}
    (h : resolverAt resolvers source p = some r) : r ∈ resolvers ∧ r.location.source = source := by
  obtain ⟨hmem, hcontains⟩ := mem_of_innermost h
  unfold Location.contains at hcontains
  exact ⟨hmem, of_decide_eq_true (Bool.and_eq_true_iff.1 hcontains).1⟩

/-- A context that knows another revision than the pinned one is stale, whatever the target. -/
theorem Resolver.resolveWith_eq_stale {r : Resolver} {context : Context} {expected actual : Nat}
    (hpinned : r.revision? = some expected)
    (hknown : context.revisionOf r.location.source = some actual) (hne : actual ≠ expected) :
    r.resolveWith (some context) =
      .error (.resolutionFailed r.location (.staleContext expected actual)) := by
  have hstale : r.staleness? context = some (.staleContext expected actual) := by
    unfold staleness?
    rw [hpinned, hknown]
    exact if_neg hne
  rw [resolveWith, resolve, hstale]
  rfl

/-- A pinned keyword grammar pins what it finds. -/
theorem KeywordGrammar.pins_references {g : KeywordGrammar} (hpinned : g.pinned = true)
    (keyword : String) : Pins (g.references keyword) := by
  intro view revision resolvers hrevision hfound r hr
  unfold references at hfound
  obtain rfl := Except.ok.inj hfound
  obtain ⟨found, _, rfl⟩ := List.mem_map.1 hr
  rw [hpinned, if_pos rfl, hrevision]
  rfl

end Polyglot
