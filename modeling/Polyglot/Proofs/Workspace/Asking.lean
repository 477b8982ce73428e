import Polyglot.Proofs.Workspace.Gathering
import Polyglot.Workspace.Task

/-!
# What queries keep

Whatever a query asks for, it changes a workspace only by what the handlers leave. So a property of
workspaces that survives this (`Lasting`) holds after every query (`Query.Keeps`) and after every
task. Being reachable is such a property, and so is being like a given workspace. For a query that
gives no handler a token, less is needed (`Steady`): it leaves all tokens as they are.
-/

set_option autoImplicit false

namespace Polyglot

/-- A property of workspaces that neither what handlers leave nor the tokens of tasks put an end
to. -/
structure Lasting (P : Workspace → Prop) : Prop where
  absorb : ∀ {β : Type} {w : Workspace} (key : SectionKey) (token? : Option TokenKey)
    (reply : Reply β), P w → P (w.absorb key token? reply)
  tokens : ∀ {w : Workspace} (cancellations : Cancellations String), P w →
    P { w with cancellations := cancellations }

/-- A property of workspaces to which nothing puts an end that handlers leave without a token in
hand. -/
def Steady (P : Workspace → Prop) : Prop :=
  ∀ {β : Type} {w : Workspace} (key : SectionKey) (reply : Reply β),
    P w → P (w.absorb key none reply)

/-- What lasts is kept by what handlers leave without a token. -/
theorem Lasting.steady {P : Workspace → Prop} (hP : Lasting P) : Steady P :=
  fun key reply => hP.absorb key none reply

namespace Query

/-- The property holds after the query if it held before. -/
def Keeps {β : Type} (P : Workspace → Prop) (q : Query β) : Prop :=
  ∀ w, P w → P (q.run w).2

namespace Keeps

variable {α β : Type} {P : Workspace → Prop}

/-- To answer without asking keeps everything. -/
theorem pure (a : α) : Keeps P (pure a : Query α) :=
  fun _ hw => hw

/-- To fail keeps everything. -/
theorem throw (failure : QueryFailure) : Keeps P (throw failure : Query α) :=
  fun _ hw => hw

/-- One query after the other keeps what both keep. -/
theorem bind {q : Query α} {f : α → Query β} (hq : Keeps P q) (hf : ∀ a, Keeps P (f a)) :
    Keeps P (q >>= f) := by
  intro w hw
  have hfirst := hq w hw
  rw [run_bind]
  cases hrun : q.run w with
  | mk result w' =>
      rw [hrun] at hfirst
      cases result with
      | ok a => exact hf a w' hfirst
      | error failure => exact hfirst

/-- To look at the workspace keeps everything. -/
theorem workspace : Keeps P workspace :=
  fun _ hw => hw

/-- To look for a handler keeps everything. -/
theorem handler? (state : SectionState) : Keeps P (handler? state) :=
  fun _ hw => hw

/-- To look at a token keeps everything. -/
theorem isCancelled (token : TokenKey) : Keeps P (isCancelled token) :=
  fun _ hw => hw

/-- To look for a document keeps everything. -/
theorem document (id : String) : Keeps P (document id) := by
  intro w hw
  cases hd : w.document? id with
  | none => rwa [run_document_of_none hd]
  | some d => rwa [run_document_of_some hd]

/-- To ask the handler of a section keeps what its reply leaves as it is. -/
theorem ask (d : Document) (state : SectionState) (token? : Option TokenKey)
    (call : SectionView → Reply β)
    (habsorb : ∀ {w : Workspace} (reply : Reply β), P w → P (w.absorb state.key token? reply)) :
    Keeps P (ask d state token? call) := by
  intro w hw
  rw [run_ask]
  exact habsorb _ hw

section Steady

variable (hP : Steady P)
include hP

/-- To ask the handlers of all sections in turn keeps what is steady. -/
theorem gather (d : Document) (call? : Handler → Option (SectionView → Reply (List β)))
    (states : List SectionState) : Keeps P (gather d call? states) := by
  induction states with
  | nil => exact pure []
  | cons state states ih =>
      have hrest : ∀ answer : List β,
        Keeps P (do return answer ++ (← Query.gather d call? states)) :=
        fun answer => bind ih fun _ => pure _
      refine bind (handler? state) fun handler => ?_
      cases handler.bind call? with
      | none => exact bind (pure []) hrest
      | some call => exact bind (ask d state none call (hP state.key)) hrest

/-- To ask the handler at a line keeps what is steady. -/
theorem askAt (d : Document) (line : Nat)
    (call? : Handler → Option (SectionView → Reply (List β))) :
    Keeps P (askAt d line call?) := by
  unfold Query.askAt
  split
  · exact pure []
  · exact gather hP d call? _

/-- To ask for declarations keeps what is steady. -/
theorem declarations (id : String) : Keeps P (declarations id) :=
  bind (document id) fun d => gather hP d _ d.sections

/-- To ask for completions keeps what is steady. -/
theorem completions (id : String) (p : Position) : Keeps P (completions id p) :=
  bind (document id) fun d => askAt hP d p.line _

/-- To ask for commands keeps what is steady. -/
theorem commands (id : String) (line : Nat) : Keeps P (commands id line) :=
  bind (document id) fun d => askAt hP d line _

/-- To ask for a definition keeps what is steady. -/
theorem definition (id : String) (p : Position) : Keeps P (definition id p) := by
  refine bind (document id) fun d => bind (askAt hP d p.line _) fun resolvers => ?_
  split
  · exact pure _
  · exact bind workspace fun w => pure _

end Steady

variable (hP : Lasting P)
include hP

/-- To ask for the diagnostics of sections keeps what lasts. -/
theorem gatherDiagnostics (d : Document) (token : TokenKey) (states : List SectionState) :
    Keeps P (gatherDiagnostics d token states) := by
  induction states with
  | nil => exact pure []
  | cons state states ih =>
      refine bind (isCancelled token) fun cancelled => ?_
      split
      · exact pure []
      · have hrest : ∀ answer : List Diagnostic,
            Keeps P (do return answer ++ (← Query.gatherDiagnostics d token states)) :=
          fun answer => bind ih fun _ => pure _
        refine bind workspace fun w => bind (handler? state) fun handler => ?_
        cases handler with
        | none => exact bind (pure []) hrest
        | some handler =>
            exact bind (ask d state (some token) _ (hP.absorb state.key (some token))) hrest

/-- To ask for diagnostics keeps what lasts. -/
theorem diagnostics (id : String) (token : TokenKey) : Keeps P (diagnostics id token) :=
  bind (document id) fun d => gatherDiagnostics hP d token d.sections

/-- To execute a command keeps what lasts. -/
theorem execute (id : String) (line : Nat) (command : String) (token : TokenKey) :
    Keeps P (execute id line command token) := by
  refine bind (document id) fun d => ?_
  split
  · exact throw _
  · rename_i state _
    refine bind (handler? state) fun handler => ?_
    split
    · exact pure _
    · refine bind (isCancelled token) fun cancelled => ?_
      split
      · exact pure _
      · exact bind workspace fun w => ask d state (some token) _ (hP.absorb state.key (some token))

end Keeps

end Query

namespace Workspace

variable {w : Workspace} {β : Type} {P : Workspace → Prop}

/-- A task leaves behind what its query and its token leave. -/
theorem keeps_runTask (hP : Lasting P) (hw : P w) (id : String) {q : TokenKey → Query β}
    (hq : ∀ token, (q token).Keeps P) : P (w.runTask id q).2 :=
  hP.tokens _ (hq _ _ (hP.tokens _ hw))

/-- To cancel the token of a task keeps what lasts. -/
theorem keeps_cancelTask (hP : Lasting P) (hw : P w) (id : String) : P (w.cancelTask id) :=
  hP.tokens _ hw

/-- To be reachable lasts. -/
theorem lasting_reachable (grammars : GrammarRegistry) (segmenter : Segmenter) :
    Lasting (Reachable grammars segmenter) where
  absorb key token? reply hw := hw.absorb key token? reply
  tokens cancellations hw := hw.share cancellations _ _ _

/-- To be like a workspace is to have its documents, but for the properties of their states. -/
theorem lasting_alike (w : Workspace) : Lasting fun w' => w'.WellFormed ∧ Alike w w' where
  absorb key token? reply hw' := by
    have halike := hw'.1.alike_absorb key token? reply
    exact ⟨hw'.1.of_alike halike, hw'.2.trans halike⟩
  tokens cancellations hw' := by
    refine ⟨hw'.1.of_alike ?_, hw'.2.trans ?_⟩
    · exact ⟨rfl, rfl, rfl, fun _ => rfl, rfl⟩
    · exact ⟨rfl, rfl, rfl, fun _ => rfl, rfl⟩

end Workspace

end Polyglot
