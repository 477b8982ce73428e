import Polyglot.Grammar.Registry

/-!
# Memoized declarations

A handler memoizes its declarations if it keeps them among the properties of a section, under one
key, from the first time it is asked until it is told that the section was updated
(`Handler.Memoizes`). A view is coherent if what it keeps under the key is what would be read from
the section now: a memoizing handler then answers as one that reads each time
(`Memoizes.answer_declarations`), and leaves a coherent view (`Memoizes.find?_declarations`).
-/

set_option autoImplicit false

namespace Polyglot

/-- How declarations are found in a section: from the identifier of its document, its record and
the text of its lines. -/
abbrev DeclarationReader :=
  String → Section → Except Error String → List Declaration

namespace SectionView

/-- What is read from the section as it is. -/
def readWith (view : SectionView) (read : DeclarationReader) : List Declaration :=
  read view.documentId view.current view.text

/-- What memoization does when it is asked: the value under the key, which is read from the section
if there is none yet. -/
def memo (view : SectionView) (key : String) (read : DeclarationReader) :
    Computed PropertyKind .declarations :=
  view.properties.getOrCompute PropertyKind.declarations key fun _ => .ok (view.readWith read)

/-- What is kept under the key is what would be read from the section. -/
def Coherent (key : String) (read : DeclarationReader) (view : SectionView) : Prop :=
  ∀ value, view.properties.find? key = some value →
    value = ⟨PropertyKind.declarations, view.readWith read⟩

end SectionView

namespace Handler

/-- The handler keeps declarations under a key until it is told that a section was updated. With
the other properties, and besides its answers, it may do what it likes. -/
structure Memoizes (h : Handler) (key : String) (read : DeclarationReader) : Prop where
  answer_eq : ∀ (view : SectionView) (found : List Declaration),
    (view.memo key read).value = .ok (.ok found) → (h.declarations view).answer = .ok found
  properties_eq : ∀ view : SectionView,
    (h.declarations view).properties = (view.memo key read).store
  find?_sectionChanged : ∀ (view : SectionView) (change : SectionChange),
    (h.sectionChanged view change).properties.find? key =
      if change = .updated then none else view.properties.find? key

/-- The handler without memoization: its declarations are read each time. -/
def reading (h : Handler) (read : DeclarationReader) : Handler :=
  { h with declarations := fun view => .answering view (view.readWith read) }

/-- A handler that does nothing but keep declarations. -/
def memoizing (name key : String) (read : DeclarationReader) : Handler where
  name := name
  declarations := fun view =>
    let computed := view.memo key read
    ⟨computed.value.map fun found => found.toOption.getD [], computed.store, [], []⟩
  sectionChanged := fun view change =>
    ⟨.ok (), if change = .updated then view.properties.remove key else view.properties, [], []⟩

/-- A memoizing handler keeps what it reads. -/
theorem memoizes_memoizing (name key : String) (read : DeclarationReader) :
    (memoizing name key read).Memoizes key read := by
  refine ⟨?_, fun _ => rfl, ?_⟩
  · intro view found hvalue
    simp only [memoizing, hvalue]
    rfl
  · intro view change
    simp only [memoizing]
    split
    · rw [PropertyStore.find?_remove, if_pos rfl]
    · rfl

end Handler

namespace SectionView

variable {key : String} {read : DeclarationReader} {view : SectionView}

/-- The computation runs if nothing is kept under the key, and not otherwise. -/
theorem ran_memo (key : String) (read : DeclarationReader) (view : SectionView) :
    (view.memo key read).ran = true ↔ view.properties.find? key = none := by
  unfold memo PropertyStore.getOrCompute
  cases view.properties.find? key with
  | none => simp
  | some value => simp

/-- On a coherent view the value is what would be read, and afterwards it is what is kept. -/
theorem Coherent.memo_eq (hview : view.Coherent key read) :
    (view.memo key read).value = .ok (.ok (view.readWith read)) ∧
      (view.memo key read).store.find? key =
        some ⟨PropertyKind.declarations, view.readWith read⟩ := by
  unfold memo PropertyStore.getOrCompute
  cases hfound : view.properties.find? key with
  | none =>
      refine ⟨rfl, ?_⟩
      rw [PropertyStore.find?_set, if_pos rfl]
  | some value =>
      have hvalue := hview value hfound
      subst hvalue
      refine ⟨?_, hfound⟩
      simp only [PropertyStore.read, PropertyValue.as?_mk]

end SectionView

namespace Handler

variable {h : Handler} {key : String} {read : DeclarationReader} {view : SectionView}

/-- On a coherent view a memoizing handler answers what would be read. -/
theorem Memoizes.answer_declarations (hmemo : h.Memoizes key read)
    (hview : view.Coherent key read) :
    (h.declarations view).answer = .ok (view.readWith read) :=
  hmemo.answer_eq view _ hview.memo_eq.1

/-- When it has answered, what would be read is kept. -/
theorem Memoizes.find?_declarations (hmemo : h.Memoizes key read)
    (hview : view.Coherent key read) :
    (h.declarations view).properties.find? key =
      some ⟨PropertyKind.declarations, view.readWith read⟩ := by
  rw [hmemo.properties_eq]
  exact hview.memo_eq.2

end Handler

namespace GrammarRegistry

/-- Registering a handler replaces the one of its own grammar only. -/
theorem handler?_register (registry : GrammarRegistry) (h : Handler) (grammar : String) :
    (registry.register h).handler? grammar =
      if h.name = grammar then some h else registry.handler? grammar :=
  Dictionary.find?_insert registry.handlers h.name grammar h

end GrammarRegistry

end Polyglot
