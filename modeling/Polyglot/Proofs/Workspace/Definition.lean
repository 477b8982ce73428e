import Polyglot.Proofs.Workspace.Gathering

/-!
# Definitions

The definition at a position is the target of the innermost of the references that the handler of
the section there finds (`Query.run_definition_of_some`). It is refused exactly where no document is
open (`Query.run_definition_eq_refused_iff`).
-/

set_option autoImplicit false

namespace Polyglot

namespace Document

/-- What is found at a line is a section of the document. -/
theorem mem_of_sectionAt? {d : Document} {line : Nat} {state : SectionState}
    (h : d.sectionAt? line = some state) : state ∈ d.sections := by
  unfold sectionAt? at h
  split at h
  · split at h
    · exact List.mem_of_getElem? h
    · split at h
      · exact List.mem_of_getLast? h
      · cases h
  · cases h

end Document

namespace Workspace

/-- Who is asked for the references at a position: the view of the section there, and what its
handler finds in a view. -/
def provider? (w : Workspace) (id : String) (p : Position) :
    Option (SectionView × (SectionView → Reply (List Resolver))) := do
  let d ← w.document? id
  let state ← d.sectionAt? p.line
  let find ← (w.grammars.handler? state.current.grammar).bind Handler.references?
  return (Query.shown d state w, find)

/-- The references that are found for a position, unless the provider breaks off. -/
def collected (w : Workspace) (id : String) (p : Position) : Except Panic (List Resolver) :=
  match w.provider? id p with
  | none => .ok []
  | some (view, find) => (find view).answer

variable {w : Workspace} {id : String}

/-- Who finds the references at a position is the handler of the section at its line. -/
theorem provider?_of_some {d : Document} (hd : w.document? id = some d) (p : Position) :
    w.provider? id p = (d.sectionAt? p.line).bind fun state =>
      ((w.grammars.handler? state.current.grammar).bind Handler.references?).map fun find =>
        (Query.shown d state w, find) := by
  simp only [provider?, hd, Option.bind_eq_bind, Option.bind_some, Option.map_eq_bind]
  rfl

end Workspace

namespace Query

variable {d : Document} {w : Workspace} {id : String} {p : Position}

/-- Where nobody is there to find references, there is no definition. -/
theorem run_definition_of_noProvider (hd : w.document? id = some d)
    (hnone : ∀ state, d.sectionAt? p.line = some state →
      (w.grammars.handler? state.current.grammar).bind Handler.references? = none) :
    (definition id p).run w = (.ok none, w) := by
  rw [definition, run_bind, run_document_of_some hd]
  simp only
  rw [run_bind, run_askAt_of_none d hnone]
  rfl

/-- The handler of the section at the line of a position is asked for references, and nothing but
its reply changes the workspace. -/
theorem run_definition_of_provider {state : SectionState}
    {find : SectionView → Reply (List Resolver)} (hd : w.document? id = some d)
    (hstate : d.sectionAt? p.line = some state)
    (hfind : (w.grammars.handler? state.current.grammar).bind Handler.references? = some find) :
    (definition id p).run w =
      (((find (shown d state w)).answer.mapError QueryFailure.broken).map fun resolvers =>
          (resolverAt resolvers id p).bind fun r => (r.resolveWith w.context?).toOption,
        w.absorb state.key none (find (shown d state w))) := by
  rw [definition, run_bind, run_document_of_some hd]
  simp only
  rw [run_bind, run_askAt_of_some hstate hfind]
  cases (find (shown d state w)).answer with
  | error panic => rfl
  | ok resolvers =>
      simp only [Except.mapError, Except.map]
      cases resolverAt resolvers id p with
      | none => rfl
      | some r =>
          simp only
          rw [run_bind, run_workspace]
          simp only [Workspace.absorb_context?]
          rfl

/-- The definition is the target of the reference at the position, of those that are found. -/
theorem run_definition_of_some (hd : w.document? id = some d) (p : Position) :
    ((definition id p).run w).1 =
      ((w.collected id p).mapError QueryFailure.broken).map fun resolvers =>
        (resolverAt resolvers id p).bind fun r => (r.resolveWith w.context?).toOption := by
  rw [Workspace.collected, Workspace.provider?_of_some hd]
  -- The cases are those of the handler of the section at the line, if there is one.
  cases hstate : d.sectionAt? p.line with
  | none =>
      rw [run_definition_of_noProvider hd fun state hsome => by cases hstate.symm.trans hsome]
      rfl
  | some state =>
      cases hfind : (w.grammars.handler? state.current.grammar).bind Handler.references? with
      | none =>
          rw [run_definition_of_noProvider hd fun other hsome => by
            obtain rfl := Option.some.inj (hstate.symm.trans hsome)
            exact hfind]
          simp only [Option.bind_some, hfind, Option.map_none]
          rfl
      | some find =>
          simp only [run_definition_of_provider hd hstate hfind, Option.bind_some, hfind,
            Option.map_some]

/-- Where no document is open, asking for a definition is refused. -/
theorem run_definition_of_none (hd : w.document? id = none) (p : Position) :
    ((definition id p).run w).1 = .error (.refused (.unknownDocument id)) := by
  rw [definition, run_bind, run_document_of_none hd]

/-- A definition is refused exactly where no document is open. -/
theorem run_definition_eq_refused_iff (w : Workspace) (id : String) (p : Position)
    (reason : Error) :
    ((definition id p).run w).1 = .error (.refused reason) ↔
      w.document? id = none ∧ reason = .unknownDocument id := by
  cases hd : w.document? id with
  | none =>
      rw [run_definition_of_none hd]
      simp [eq_comm]
  | some d =>
      rw [run_definition_of_some hd]
      cases w.collected id p <;> simp [Except.mapError, Except.map]

end Query

end Polyglot
