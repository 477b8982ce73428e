import Polyglot.Proofs.Workspace.Reachable
import Polyglot.Workspace.Query

/-!
# Runs of queries

A query runs step by step: what it does first leaves the workspace in which the rest runs, and a
failure ends it. `Query.consulted` lists the views that handlers are shown while answers are
gathered; `run_gather_ok` and `run_gather_broken` say how the run goes on with one of them.
-/

set_option autoImplicit false

namespace Polyglot

namespace Query

variable {α β : Type}

/-- A query that fails ends those that would come after it. -/
theorem run_bind (q : Query α) (f : α → Query β) (w : Workspace) :
    (q >>= f).run w = match q.run w with
      | (.ok a, w') => (f a).run w'
      | (.error failure, w') => (.error failure, w') := by
  have hbind : (q >>= f).run w = (match q.run w with
      | (a, w') => ExceptT.bindCont f a w' : Except QueryFailure β × Workspace) := rfl
  rw [hbind]
  rcases q.run w with ⟨a | a, w'⟩ <;> rfl

/-- To answer without asking changes nothing. -/
theorem run_pure (a : α) (w : Workspace) : (pure a : Query α).run w = (.ok a, w) :=
  rfl

/-- To look at the workspace changes nothing. -/
theorem run_workspace (w : Workspace) : workspace.run w = (.ok w, w) :=
  rfl

/-- To change the workspace answers nothing. -/
theorem run_modify (f : Workspace → Workspace) (w : Workspace) :
    (modify f : Query Unit).run w = (.ok (), f w) :=
  rfl

/-- To look for a handler changes nothing. -/
theorem run_handler? (state : SectionState) (w : Workspace) :
    (handler? state).run w = (.ok (w.grammars.handler? state.current.grammar), w) :=
  rfl

/-- An open document is found. -/
theorem run_document_of_some {id : String} {d : Document} {w : Workspace}
    (hd : w.document? id = some d) : (document id).run w = (.ok d, w) := by
  rw [document, run_bind, run_workspace]
  simp only [hd]
  rfl

/-- A document that is not open is refused. -/
theorem run_document_of_none {id : String} {w : Workspace} (hd : w.document? id = none) :
    (document id).run w = (.error (.refused (.unknownDocument id)), w) := by
  rw [document, run_bind, run_workspace]
  simp only [hd]
  rfl

/-- The view that the handler of a state is shown. -/
def shown (d : Document) (state : SectionState) (w : Workspace) : SectionView :=
  (w.view? state.key).getD (d.view state)

/-- To ask a handler shows it the section, gives its answer and leaves what it leaves. -/
theorem run_ask (d : Document) (state : SectionState) (token? : Option TokenKey)
    (call : SectionView → Reply β) (w : Workspace) :
    (ask d state token? call).run w =
      ((call (shown d state w)).answer.mapError QueryFailure.broken,
        w.absorb state.key token? (call (shown d state w))) := by
  rw [ask, run_bind, run_workspace]
  simp only
  rw [run_bind, run_modify]
  unfold shown
  cases (call ((w.view? state.key).getD (d.view state))).answer <;> rfl

/-- The states whose handlers are asked while answers are gathered, in order, with the views that
the handlers are shown. A handler that breaks off is the last one. -/
def consulted (d : Document) (call? : Handler → Option (SectionView → Reply (List β))) :
    List SectionState → Workspace → List (SectionKey × SectionView)
  | [], _ => []
  | state :: states, w =>
    match (w.grammars.handler? state.current.grammar).bind call? with
    | none => consulted d call? states w
    | some call =>
      (state.key, shown d state w) ::
        match (call (shown d state w)).answer with
        | .ok _ => consulted d call? states (w.absorb state.key none (call (shown d state w)))
        | .error _ => []

variable (d : Document) {call? : Handler → Option (SectionView → Reply (List β))}
  {state : SectionState} (states : List SectionState) {w : Workspace}

/-- A state whose grammar has nobody to ask is passed over. -/
theorem run_gather_none (hcall : (w.grammars.handler? state.current.grammar).bind call? = none) :
    (gather d call? (state :: states)).run w = (gather d call? states).run w ∧
      consulted d call? (state :: states) w = consulted d call? states w := by
  refine ⟨?_, by simp only [consulted, hcall]⟩
  rw [gather, run_bind, run_handler?]
  simp only [hcall]
  rw [run_bind, run_pure]
  simp only
  rw [run_bind]
  rcases (gather d call? states).run w with ⟨a | a, w'⟩ <;> rfl

/-- After an answer, the gathering goes on in the workspace that the handler leaves. -/
theorem run_gather_ok {d : Document} {call : SectionView → Reply (List β)} {answer : List β}
    (hcall : (w.grammars.handler? state.current.grammar).bind call? = some call)
    (hanswer : (call (shown d state w)).answer = .ok answer) :
    (gather d call? (state :: states)).run w =
        (((gather d call? states).run
            (w.absorb state.key none (call (shown d state w)))).1.map (answer ++ ·),
          ((gather d call? states).run (w.absorb state.key none (call (shown d state w)))).2) ∧
      consulted d call? (state :: states) w = (state.key, shown d state w) ::
        consulted d call? states (w.absorb state.key none (call (shown d state w))) := by
  refine ⟨?_, by simp only [consulted, hcall, hanswer]⟩
  rw [gather, run_bind, run_handler?]
  simp only [hcall]
  rw [run_bind, run_ask, hanswer]
  simp only [Except.mapError]
  rw [run_bind]
  rcases (gather d call? states).run (w.absorb state.key none (call (shown d state w)))
    with ⟨a | a, w'⟩ <;> rfl

/-- A handler that breaks off ends the gathering. -/
theorem run_gather_broken {d : Document} {call : SectionView → Reply (List β)} {panic : Panic}
    (hcall : (w.grammars.handler? state.current.grammar).bind call? = some call)
    (hanswer : (call (shown d state w)).answer = .error panic) :
    (gather d call? (state :: states)).run w =
        (.error (.broken panic), w.absorb state.key none (call (shown d state w))) ∧
      consulted d call? (state :: states) w = [(state.key, shown d state w)] := by
  refine ⟨?_, by simp only [consulted, hcall, hanswer]⟩
  rw [gather, run_bind, run_handler?]
  simp only [hcall]
  rw [run_bind, run_ask, hanswer]
  rfl

/-- Where nobody is there to be asked at a line, the answer is empty. -/
theorem run_askAt_of_none {line : Nat}
    (hnone : ∀ state, d.sectionAt? line = some state →
      (w.grammars.handler? state.current.grammar).bind call? = none) :
    (askAt d line call?).run w = (.ok [], w) := by
  rw [askAt]
  cases hstate : d.sectionAt? line with
  | none => rfl
  | some state => exact (run_gather_none d [] (hnone state hstate)).1

/-- At a line one handler is asked. -/
theorem run_askAt_of_some {d : Document} {line : Nat} {call : SectionView → Reply (List β)}
    (hstate : d.sectionAt? line = some state)
    (hcall : (w.grammars.handler? state.current.grammar).bind call? = some call) :
    (askAt d line call?).run w =
      ((call (shown d state w)).answer.mapError QueryFailure.broken,
        w.absorb state.key none (call (shown d state w))) := by
  rw [askAt, hstate]
  simp only
  cases hanswer : (call (shown d state w)).answer with
  | ok answer =>
      rw [(run_gather_ok [] hcall hanswer).1, gather, run_pure]
      simp [Except.map, Except.mapError]
  | error panic => exact (run_gather_broken [] hcall hanswer).1

/-- The declarations of an open document are gathered from its states. -/
theorem run_declarations_of_some {d : Document} {id : String} (hd : w.document? id = some d) :
    (declarations id).run w =
      (gather d (fun handler => some handler.declarations) d.sections).run w := by
  rw [declarations, run_bind, run_document_of_some hd]

/-- Where no document is open, asking for declarations is refused. -/
theorem run_declarations_of_none {id : String} (hd : w.document? id = none) :
    (declarations id).run w = (.error (.refused (.unknownDocument id)), w) := by
  rw [declarations, run_bind, run_document_of_none hd]

end Query

namespace Workspace

variable {β : Type} {w : Workspace}

/-- A handler is shown what is found under the state's identity. -/
theorem shown_eq_of_view? (d : Document) {state : SectionState} {view : SectionView}
    (hview : w.view? state.key = some view) : Query.shown d state w = view := by
  rw [Query.shown, hview, Option.getD_some]

/-- Gathering answers keeps a workspace well formed. -/
theorem WellFormed.gather (hw : w.WellFormed) (d : Document)
    (call? : Handler → Option (SectionView → Reply (List β))) (states : List SectionState) :
    ((Query.gather d call? states).run w).2.WellFormed := by
  induction states generalizing w with
  | nil => exact hw
  | cons state states ih =>
      cases hcall : (w.grammars.handler? state.current.grammar).bind call? with
      | none =>
          rw [(Query.run_gather_none d states hcall).1]
          exact ih hw
      | some call =>
          have hnext := hw.of_alike
            (hw.alike_absorb state.key none (call (Query.shown d state w)))
          cases hanswer : (call (Query.shown d state w)).answer with
          | ok answer =>
              rw [(Query.run_gather_ok states hcall hanswer).1]
              exact ih hnext
          | error panic =>
              rw [(Query.run_gather_broken states hcall hanswer).1]
              exact hnext

end Workspace

end Polyglot
