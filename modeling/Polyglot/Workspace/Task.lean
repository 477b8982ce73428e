import Polyglot.Workspace.Query

/-!
# Tasks

A task is a query that runs under a token of its own. The token is held under an identifier for as
long as the task runs, so that the task can be cancelled, and is closed when it ends in whatever
way.
-/

set_option autoImplicit false

namespace Polyglot.Workspace

variable {β : Type}

/-- How a task ended: with what result, and whether its token was cancelled by then. -/
structure TaskEnd (β : Type) where
  result : Except QueryFailure β
  cancelled : Bool

/-- Runs a query under a new token. -/
def runTask (w : Workspace) (id : String) (q : TokenKey → Query β) : TaskEnd β × Workspace :=
  let (token, issued) := w.cancellations.issue id
  let (result, w') := (q token).run { w with cancellations := issued }
  (⟨result, w'.cancellations.isCancelled token⟩,
    { w' with cancellations := w'.cancellations.close token })

/-- Cancels the task that runs under an identifier, if there is one. -/
def cancelTask (w : Workspace) (id : String) : Workspace :=
  { w with cancellations := (w.cancellations.cancelHeld id).2 }

end Polyglot.Workspace
