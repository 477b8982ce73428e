import Polyglot.Proofs.Cancellation.Holding
import Polyglot.Proofs.Workspace.Gathering
import Polyglot.Workspace.Task

/-!
# Runs that collect diagnostics

The handlers of sections reply one after the other, each with the same token in hand. A handler that
breaks off or cancels the token is the last one to be asked (`Reply.given`). What the replies until
then say is the answer, and what they leave is all that the run leaves (`run_gatherDiagnostics`).
-/

set_option autoImplicit false

namespace Polyglot

namespace Reply

variable {β : Type}

/-- The handler broke off or cancelled its token. -/
def stops (reply : Reply β) : Bool :=
  !reply.answer.isOk || reply.requests.contains .cancel

/-- The replies that come if nobody is asked any more after one that stops. -/
def given : List (SectionKey × Reply β) → List (SectionKey × Reply β)
  | [] => []
  | reply :: replies => reply :: if reply.2.stops then [] else given replies

/-- The answers one after the other, or the first panic. -/
def joined : List (SectionKey × Reply (List β)) → Except Panic (List β)
  | [] => .ok []
  | reply :: replies => do return (← reply.2.answer) ++ (← joined replies)

/-- All that is answered, whatever breaks off. -/
def answers (replies : List (SectionKey × Reply (List β))) : List β :=
  replies.flatMap fun reply => reply.2.answer.toOption.getD []

variable {replies : List (SectionKey × Reply β)}

/-- A reply does not stop the others exactly if it has an answer and does not cancel. -/
theorem stops_eq_false_iff {reply : Reply β} : reply.stops = false ↔
    reply.answer.isOk = true ∧ reply.requests.contains .cancel = false := by
  rw [stops, Bool.or_eq_false_iff, Bool.not_eq_false']

/-- If no reply stops the others, all are given. -/
theorem given_eq_self (hnone : replies.any (·.2.stops) = false) : given replies = replies := by
  induction replies with
  | nil => rfl
  | cons reply replies ih =>
      rw [List.any_cons, Bool.or_eq_false_iff] at hnone
      rw [given, hnone.1, if_neg Bool.false_ne_true, ih hnone.2]

/-- The replies that come are those before the first that stops, and this one. -/
theorem given_append {before after : List (SectionKey × Reply β)} {reply : SectionKey × Reply β}
    (hnone : before.any (·.2.stops) = false) (hstops : reply.2.stops = true) :
    given (before ++ reply :: after) = before ++ [reply] := by
  induction before with
  | nil => rw [List.nil_append, given, if_pos hstops, List.nil_append]
  | cons first before ih =>
      rw [List.any_cons, Bool.or_eq_false_iff] at hnone
      rw [List.cons_append, given, hnone.1, if_neg Bool.false_ne_true, ih hnone.2, List.cons_append]

/-- An answer comes before those of the later replies. -/
theorem joined_of_ok {reply : SectionKey × Reply (List β)} {answer : List β}
    (hanswer : reply.2.answer = .ok answer) (replies : List (SectionKey × Reply (List β))) :
    joined (reply :: replies) = (joined replies).map (answer ++ ·) := by
  rw [joined, hanswer]
  cases joined replies <;> rfl

/-- A handler that breaks off leaves no answer in common. -/
theorem joined_of_error {reply : SectionKey × Reply (List β)} {panic : Panic}
    (hanswer : reply.2.answer = .error panic) (replies : List (SectionKey × Reply (List β))) :
    joined (reply :: replies) = .error panic := by
  rw [joined, hanswer]
  rfl

/-- Unless one of them breaks off, the answers are joined. -/
theorem joined_eq_ok {replies : List (SectionKey × Reply (List β))}
    (hok : ∀ reply ∈ replies, reply.2.answer.isOk = true) :
    joined replies = .ok (answers replies) := by
  induction replies with
  | nil => rfl
  | cons reply replies ih =>
      obtain ⟨hfirst, hrest⟩ := List.forall_mem_cons.1 hok
      cases hanswer : reply.2.answer with
      | error panic =>
          rw [hanswer] at hfirst
          cases hfirst
      | ok answer =>
          rw [joined_of_ok hanswer, ih hrest, answers, answers, List.flatMap_cons, hanswer]
          rfl

/-- If one of the replies has no answer, there is none in common. -/
theorem exists_joined_eq_error {replies : List (SectionKey × Reply (List β))}
    {reply : SectionKey × Reply (List β)} (hmem : reply ∈ replies)
    (hbroken : reply.2.answer.isOk = false) : ∃ panic, joined replies = .error panic := by
  induction replies with
  | nil => cases hmem
  | cons first replies ih =>
      cases hanswer : first.2.answer with
      | error panic => exact ⟨panic, joined_of_error hanswer replies⟩
      | ok answer =>
          rcases List.mem_cons.1 hmem with rfl | hrest
          · rw [hanswer] at hbroken
            cases hbroken
          · obtain ⟨panic, hpanic⟩ := ih hrest
            rw [joined_of_ok hanswer, hpanic]
            exact ⟨panic, rfl⟩

end Reply

/-- What the handlers of states reply when they are asked for diagnostics, in order. -/
def Document.diagnosticReplies (d : Document) (grammars : GrammarRegistry) (seen : TokenView)
    (states : List SectionState) : List (SectionKey × Reply (List Diagnostic)) :=
  states.filterMap fun state =>
    (grammars.handler? state.current.grammar).map fun handler =>
      (state.key, handler.diagnostics (d.view state) seen)

namespace Document

variable {d : Document} {grammars : GrammarRegistry} {seen : TokenView} {state : SectionState}

/-- A section without a handler gives no reply. -/
theorem diagnosticReplies_of_none (hhandler : grammars.handler? state.current.grammar = none)
    (states : List SectionState) :
    d.diagnosticReplies grammars seen (state :: states) =
      d.diagnosticReplies grammars seen states := by
  rw [diagnosticReplies, List.filterMap_cons, hhandler]
  rfl

/-- A section with a handler gives its reply before the later ones. -/
theorem diagnosticReplies_of_some {handler : Handler}
    (hhandler : grammars.handler? state.current.grammar = some handler)
    (states : List SectionState) :
    d.diagnosticReplies grammars seen (state :: states) =
      (state.key, handler.diagnostics (d.view state) seen) ::
        d.diagnosticReplies grammars seen states := by
  rw [diagnosticReplies, List.filterMap_cons, hhandler]
  rfl

end Document

namespace Workspace

/-- The token of a task that is to run under an identifier. -/
def taskToken (w : Workspace) (id : String) : TokenKey :=
  (w.cancellations.issue id).1

/-- The workspace in which a task begins to run under an identifier. -/
def begun (w : Workspace) (id : String) : Workspace :=
  { w with cancellations := (w.cancellations.issue id).2 }

/-- The workspace after the task of a token has ended. -/
def ended (w : Workspace) (token : TokenKey) : Workspace :=
  { w with cancellations := w.cancellations.close token }

/-- Takes over what handlers left that were asked with a token in hand. -/
def absorbAll (w : Workspace) (token : TokenKey)
    (replies : List (SectionKey × Reply (List Diagnostic))) : Workspace :=
  replies.foldl (fun w reply => w.absorb reply.1 (some token) reply.2) w

/-- The token was made, and handlers see it so. -/
def Bears (w : Workspace) (token : TokenKey) (seen : TokenView) : Prop :=
  (w.cancellations.token? token).map (fun t => ⟨t.id, t.cancelled⟩) = some seen

variable {w : Workspace} {token : TokenKey} {seen : TokenView}

/-- What is seen of a token is its identifier and whether it is cancelled. -/
theorem bears_iff : w.Bears token seen ↔
    (w.cancellations.token? token).map Token.id = some seen.id ∧
      w.cancellations.isCancelled token = seen.cancelled := by
  unfold Bears Cancellations.isCancelled
  cases w.cancellations.token? token with
  | none => simp
  | some t =>
      cases seen
      simp

/-- A handler is shown what is seen of the token. -/
theorem Bears.tokenView_eq (hbears : w.Bears token seen) : w.tokenView token = seen := by
  obtain ⟨hid, hcancelled⟩ := bears_iff.1 hbears
  rw [tokenView, hcancelled, Cancellations.idOf, hid]
  rfl

/-- What comes of a task is what its query leaves before the token is closed. -/
theorem runTask_of_run {β : Type} {id : String} {q : TokenKey → Query β}
    {result : Except QueryFailure β} {w' : Workspace}
    (hrun : (q (w.taskToken id)).run (w.begun id) = (result, w')) :
    w.runTask id q =
      (⟨result, w'.cancellations.isCancelled (w.taskToken id)⟩, w'.ended (w.taskToken id)) := by
  have htask : w.runTask id q =
      (⟨((q (w.taskToken id)).run (w.begun id)).1,
          ((q (w.taskToken id)).run (w.begun id)).2.cancellations.isCancelled (w.taskToken id)⟩,
        ((q (w.taskToken id)).run (w.begun id)).2.ended (w.taskToken id)) := rfl
  rw [htask, hrun]

/-- A new token is not cancelled. -/
theorem bears_begun (w : Workspace) (id : String) :
    (w.begun id).Bears (w.taskToken id) ⟨id, false⟩ := by
  simp [Bears, begun, taskToken, Cancellations.issue, Cancellations.create, Cancellations.token?]

/-- A property of workspaces that has to do with their tokens alone, and with whether one of them is
cancelled: it goes along with what handlers do that are given this token. -/
structure Follows (token : TokenKey) (P : Bool → Workspace → Prop) : Prop where
  congr : ∀ {cancelled : Bool} {w w' : Workspace}, w'.cancellations = w.cancellations →
    P cancelled w → P cancelled w'
  serve : ∀ {cancelled : Bool} {w : Workspace} (request : TokenRequest), P cancelled w →
    P (cancelled || request == .cancel) (serve token w request)

section Follows

variable {P : Bool → Workspace → Prop} {cancelled : Bool} (hP : Follows token P)
include hP

/-- What follows the token does so through all requests. -/
theorem Follows.serveAll (h : P cancelled w) (requests : List TokenRequest) :
    P (cancelled || requests.contains .cancel) (requests.foldl (Workspace.serve token) w) := by
  induction requests generalizing w cancelled with
  | nil =>
      rw [List.contains_nil, Bool.or_false]
      exact h
  | cons request requests ih =>
      have hrest := ih (hP.serve request h)
      rw [Bool.or_assoc] at hrest
      rw [List.foldl_cons, List.contains_cons, BEq.comm]
      exact hrest

/-- What follows the token does so through a reply. -/
theorem Follows.absorb {β : Type} (h : P cancelled w) (key : SectionKey) (reply : Reply β) :
    P (cancelled || reply.requests.contains .cancel) (w.absorb key (some token) reply) := by
  refine hP.serveAll (hP.congr ?_ h) reply.requests
  exact setProperties_cancellations key reply.properties

/-- What follows the token does so through all replies. -/
theorem Follows.absorbAll (h : P cancelled w)
    (replies : List (SectionKey × Reply (List Diagnostic))) :
    P (cancelled || replies.any (·.2.requests.contains .cancel)) (w.absorbAll token replies) := by
  induction replies generalizing w cancelled with
  | nil =>
      rw [List.any_nil, Bool.or_false]
      exact h
  | cons reply replies ih =>
      have hrest := ih (hP.absorb h reply.1 reply.2)
      rw [Bool.or_assoc] at hrest
      exact hrest

end Follows

/-- A token changes for handlers when one of them cancels it, and not when it is closed. -/
theorem follows_bears (token : TokenKey) (id : String) :
    Follows token fun cancelled w => w.Bears token ⟨id, cancelled⟩ := by
  constructor
  · intro cancelled w w' hsame hbears
    rw [Bears, hsame]
    exact hbears
  · intro cancelled w request hbears
    obtain ⟨hid, hcancelled⟩ := bears_iff.1 hbears
    rw [bears_iff]
    cases request with
    | cancel =>
        refine ⟨(Cancellations.id_eq_run _ _ token).trans hid, ?_⟩
        have hmade : (w.cancellations.token? token).isSome := by
          rw [← Option.isSome_map, hid]
          rfl
        exact (Cancellations.isCancelled_cancel hmade).trans (Bool.or_true _).symm
    | close =>
        constructor
        · change ((w.cancellations.close token).tokens[token.serial]?).map Token.id = some id
          rw [Cancellations.tokens_close]
          exact hid
        · change (w.cancellations.close token).isCancelled token = _
          rw [Cancellations.isCancelled_close, hcancelled]
          exact (Bool.or_false _).symm

/-- The states of a document are found as the document has them. -/
def Displays (w : Workspace) (d : Document) (states : List SectionState) : Prop :=
  ∀ state ∈ states, w.view? state.key = some (d.view state)

/-- What a handler leaves for its own state is not seen at the others. -/
theorem Displays.absorb {β : Type} {d : Document} {states : List SectionState}
    (hdisplays : w.Displays d states) {key : SectionKey}
    (hother : key ∉ states.map SectionState.key) (token? : Option TokenKey) (reply : Reply β) :
    (w.absorb key token? reply).Displays d states := by
  intro state hstate
  have hne : key ≠ state.key := by
    rintro rfl
    exact hother (List.mem_map_of_mem hstate)
  rw [view?_absorb, if_neg hne]
  exact hdisplays state hstate

end Workspace

namespace Query

open Workspace

variable {w : Workspace} {d : Document} {token : TokenKey} {id : String} {state : SectionState}
  {states : List SectionState}

/-- To look at a token tells whether it is cancelled and changes nothing. -/
theorem run_isCancelled (token : TokenKey) (w : Workspace) :
    (isCancelled token).run w = (.ok (w.cancellations.isCancelled token), w) :=
  rfl

/-- Nobody is asked with a cancelled token. -/
theorem run_gatherDiagnostics_of_cancelled (hbears : w.Bears token ⟨id, true⟩)
    (states : List SectionState) :
    (gatherDiagnostics d token states).run w = (.ok [], w) := by
  cases states with
  | nil => rfl
  | cons state states =>
      rw [gatherDiagnostics, run_bind, run_isCancelled, (bears_iff.1 hbears).2]
      rfl

/-- A section without a handler is passed over. -/
theorem run_gatherDiagnostics_of_none (hbears : w.Bears token ⟨id, false⟩)
    (hhandler : w.grammars.handler? state.current.grammar = none) :
    (gatherDiagnostics d token (state :: states)).run w =
      (gatherDiagnostics d token states).run w := by
  rw [gatherDiagnostics, run_bind, run_isCancelled, (bears_iff.1 hbears).2]
  simp only [Bool.false_eq_true, if_false]
  rw [run_bind, run_workspace]
  simp only
  rw [run_bind, run_handler?, hhandler]
  simp only
  rw [run_bind, run_pure]
  simp only
  rw [run_bind]
  rcases (gatherDiagnostics d token states).run w with ⟨a | a, w'⟩ <;> rfl

/-- The next handler is asked with the token in hand, and an answer is followed by the others. -/
theorem run_gatherDiagnostics_of_some (hbears : w.Bears token ⟨id, false⟩) {handler : Handler}
    (hhandler : w.grammars.handler? state.current.grammar = some handler)
    (hview : w.view? state.key = some (d.view state)) {reply : Reply (List Diagnostic)}
    (hreply : handler.diagnostics (d.view state) ⟨id, false⟩ = reply) :
    (gatherDiagnostics d token (state :: states)).run w =
      match reply.answer with
      | .ok answer =>
        (((gatherDiagnostics d token states).run
            (w.absorb state.key (some token) reply)).1.map (answer ++ ·),
          ((gatherDiagnostics d token states).run (w.absorb state.key (some token) reply)).2)
      | .error panic => (.error (.broken panic), w.absorb state.key (some token) reply) := by
  rw [gatherDiagnostics, run_bind, run_isCancelled, (bears_iff.1 hbears).2]
  simp only [Bool.false_eq_true, if_false]
  rw [run_bind, run_workspace]
  simp only [hbears.tokenView_eq]
  rw [run_bind, run_handler?, hhandler]
  simp only
  rw [run_bind, run_ask, shown_eq_of_view? d hview, hreply]
  cases reply.answer with
  | error panic => rfl
  | ok answer =>
      simp only [Except.mapError]
      rw [run_bind]
      rcases (gatherDiagnostics d token states).run (w.absorb state.key (some token) reply)
        with ⟨a | a, w'⟩ <;> rfl

/-- The run gives what the replies say that come, and leaves what they leave. -/
theorem run_gatherDiagnostics (hbears : w.Bears token ⟨id, false⟩) (hdisplays : w.Displays d states)
    (hnodup : (states.map SectionState.key).Nodup) :
    (gatherDiagnostics d token states).run w =
      ((Reply.joined (Reply.given (d.diagnosticReplies w.grammars ⟨id, false⟩ states))).mapError
          QueryFailure.broken,
        w.absorbAll token (Reply.given (d.diagnosticReplies w.grammars ⟨id, false⟩ states))) := by
  induction states generalizing w with
  | nil => rfl
  | cons state states ih =>
      have hview := hdisplays state List.mem_cons_self
      have hothers : w.Displays d states :=
        fun other hother => hdisplays other (List.mem_cons_of_mem state hother)
      rw [List.map_cons, List.nodup_cons] at hnodup
      cases hhandler : w.grammars.handler? state.current.grammar with
      | none =>
          rw [run_gatherDiagnostics_of_none hbears hhandler,
            Document.diagnosticReplies_of_none hhandler]
          exact ih hbears hothers hnodup.2
      | some handler =>
          generalize hreply : handler.diagnostics (d.view state) ⟨id, false⟩ = reply
          rw [run_gatherDiagnostics_of_some hbears hhandler hview hreply,
            Document.diagnosticReplies_of_some hhandler, hreply, Reply.given]
          have hnext := (follows_bears token id).absorb hbears state.key reply
          cases hanswer : reply.answer with
          | error panic =>
              have hstops : reply.stops = true := by
                rw [Reply.stops, hanswer]
                rfl
              rw [if_pos hstops, Reply.joined_of_error hanswer]
              rfl
          | ok answer =>
              have hstops : reply.stops = reply.requests.contains .cancel := by
                rw [Reply.stops, hanswer]
                rfl
              simp only
              rw [Reply.joined_of_ok hanswer, hstops]
              cases hcancels : reply.requests.contains .cancel with
              | true =>
                  rw [hcancels] at hnext
                  rw [run_gatherDiagnostics_of_cancelled hnext]
                  rfl
              | false =>
                  rw [hcancels] at hnext
                  have hrest := ih hnext (hothers.absorb hnodup.1 (some token) reply) hnodup.2
                  rw [absorb_grammars] at hrest
                  rw [hrest, if_neg Bool.false_ne_true]
                  cases Reply.joined
                    (Reply.given (d.diagnosticReplies w.grammars ⟨id, false⟩ states)) <;> rfl

end Query

end Polyglot
