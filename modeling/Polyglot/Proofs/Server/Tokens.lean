import Polyglot.Proofs.Cancellation.Tasks
import Polyglot.Proofs.Server.Commands
import Polyglot.Proofs.Server.Publishing

/-!
# Tokens of requests

A message sets one task going at most: diagnostics are collected after an opening or a change, and a
command runs if it is well given (`Server.errand?`). The task leaves one more token, which is
cancelled if a handler that was given it asked for this, and the registry is empty when the message
has been handled (`Server.cancellations_handle`). Whoever keeps a clone of a token may cancel it
later, close it, or listen to it, and this does not change the registry either
(`tokens_end_with_their_requests`).
-/

set_option autoImplicit false

namespace Polyglot

open Cancellations (Underway)

namespace Workspace

variable {w : Workspace} {c : Cancellations String} {id : String} {cancelled : Bool}

/-! ## What leaves the tokens as they are -/

/-- What a handler leaves without a token cancels nothing. -/
theorem absorb_none_cancellations {β : Type} (w : Workspace) (key : SectionKey)
    (reply : Reply β) : (w.absorb key none reply).cancellations = w.cancellations :=
  setProperties_cancellations key reply.properties

/-- Telling handlers of changes cancels nothing. -/
theorem deliver_cancellations (w : Workspace) (ns : List Notification) :
    (w.deliver ns).cancellations = w.cancellations := by
  induction ns generalizing w with
  | nil => rfl
  | cons n ns ih =>
      refine (ih (w.deliverOne n)).trans ?_
      rcases w.deliverOne_cases n with ⟨hsame, _⟩ | ⟨view, handler, _, _, htold⟩
      · rw [hsame]
      · rw [htold, absorb_none_cancellations]
        rfl

/-- Edits cancel nothing. -/
theorem apply_cancellations (w : Workspace) (e : Edit) :
    (w.apply e).cancellations = w.cancellations := by
  have hretire : ∀ id, (w.retire id).1.cancellations = w.cancellations := by
    intro id
    cases hd : w.document? id with
    | none => rw [retire_eq_of_none hd]
    | some d => rw [retire_eq_of_some hd]
  rw [apply_eq_deliver_effect, deliver_cancellations]
  cases e with
  | openText id text => exact hretire id
  | changeText id text =>
      cases hd : w.document? id with
      | none => rw [effect_changeText_of_none hd]
      | some d => rw [effect_changeText_of_some hd]
  | close id =>
      cases hd : w.document? id with
      | none => rw [effect_close_of_none hd]
      | some d =>
          rw [effect_close_of_some hd]
          exact hretire id

/-- With an empty registry there is no task to cancel. -/
theorem cancelTask_of_empty (hempty : w.cancellations.held = .empty) (id : String) :
    w.cancelTask id = w := by
  have hnone : w.cancellations.get? id = none := by
    rw [Cancellations.get?, hempty, Dictionary.find?_empty]
  rw [cancelTask, Cancellations.cancelHeld, hnone]

/-- What handlers do to the token in hand is done to nothing else. -/
theorem follows_underway (hempty : c.held = .empty) :
    Follows c.nextKey fun cancelled w => Underway c id cancelled w.cancellations := by
  constructor
  · intro cancelled w w' hsame h
    rw [hsame]
    exact h
  · intro cancelled w request h
    cases request with
    | cancel =>
        rw [show (cancelled || TokenRequest.cancel == .cancel) = true from Bool.or_true _]
        exact h.cancel
    | close =>
        rw [show (cancelled || TokenRequest.close == .cancel) = cancelled from Bool.or_false _]
        change Underway c id cancelled (w.cancellations.close c.nextKey)
        rw [h.close hempty]
        exact .closed

/-- Whatever a task does to its token, the token is closed in the end. -/
theorem cancellations_runTask {β : Type} {q : TokenKey → Query β}
    (hempty : w.cancellations.held = .empty)
    (h : Underway w.cancellations id cancelled
      ((q (w.taskToken id)).run (w.begun id)).2.cancellations) :
    (w.runTask id q).2.cancellations = w.cancellations.withToken id cancelled := by
  rw [runTask_of_run (rfl : (q (w.taskToken id)).run (w.begun id) = (_, _))]
  exact h.close hempty

end Workspace

namespace Server

variable {s : Server} {w : Workspace} {m : Message} {uri : String} {d : Document}
  {grammars : GrammarRegistry}

/-! ## Tasks of messages -/

/-- Whether one of the handlers that are asked for diagnostics cancels the token it is given. -/
def diagnosticsCancelled (w : Workspace) (uri : String) : Bool :=
  (w.document? uri).any fun d =>
    (Reply.given (replies w uri d)).any (·.2.requests.contains .cancel)

/-- Whether the handler of the section at the line cancels the token with which it runs a
command. -/
def commandCancelled (w : Workspace) (c : Lsp.SectionCommand) (task : String) : Bool :=
  (do
    let d ← w.document? c.uri
    let state ← d.sectionAt? c.line
    let handler ← w.grammars.handler? state.current.grammar
    return (handler.execute (d.view state) c.id ⟨task, false⟩).requests.contains .cancel).getD false

/-- The task that a notice sets going, and whether it is cancelled. -/
def noticeErrand? (w : Workspace) : Lsp.Notice → Option (String × Bool)
  | .opened uri _ text => some (diagnosticsTask uri, diagnosticsCancelled (w.openText uri text) uri)
  | .changed uri _ (text :: _) =>
    some (diagnosticsTask uri, diagnosticsCancelled (putText w uri text) uri)
  | .ready | .changed _ _ [] | .closed _ => none

/-- The task that a request sets going, and whether it is cancelled. A command that is not well
given sets nothing going. -/
def requestErrand? (s : Server) : Lsp.Request → Option (String × Bool)
  | .execute call =>
    match commandOf call with
    | .ok c => some (commandTask s.commandCount,
        commandCancelled s.workspace c (commandTask s.commandCount))
    | .error _ => none
  | _ => none

/-- The task that a message sets going, and whether it is cancelled. -/
def errand? (s : Server) (m : Message) : Option (String × Bool) :=
  match s.heard? m with
  | some n => noticeErrand? s.workspace n
  | none => (s.asked? m).bind s.requestErrand?

/-- The tokens once a task is over. -/
def settled (c : Cancellations String) : Option (String × Bool) → Cancellations String
  | some (task, cancelled) => c.withToken task cancelled
  | none => c

/-- Diagnostics that are published leave one token more, cancelled if a handler cancelled it. -/
theorem cancellations_publish (hw : w.WellFormed) (hempty : w.cancellations.held = .empty)
    (hd : w.document? uri = some d) (version : Int) :
    (publish w uri version).1.cancellations =
      w.cancellations.withToken (diagnosticsTask uri) (diagnosticsCancelled w uri) := by
  have hpublish : (publish w uri version).1 =
      collected w uri (Reply.given (replies w uri d)) := by
    rw [publish, runTask_diagnosticItems hw hd]
    cases Reply.joined (Reply.given (replies w uri d)) <;> rfl
  have hopened : Underway w.cancellations (diagnosticsTask uri) false
      (w.begun (diagnosticsTask uri)).cancellations :=
    Cancellations.underway_issue _ _
  have hasked := (Workspace.follows_underway hempty).absorbAll hopened
    (Reply.given (replies w uri d))
  rw [hpublish, collected, Workspace.cancelTask_of_empty hempty, diagnosticsCancelled, hd]
  exact hasked.close hempty

/-- A command is cancelled by the handler that runs it. -/
theorem commandCancelled_of_some {c : Lsp.SectionCommand} {state : SectionState}
    {handler : Handler} (hd : w.document? c.uri = some d)
    (hstate : d.sectionAt? c.line = some state)
    (hhandler : w.grammars.handler? state.current.grammar = some handler) (task : String) :
    commandCancelled w c task =
      (handler.execute (d.view state) c.id ⟨task, false⟩).requests.contains .cancel := by
  simp [commandCancelled, hd, hstate, hhandler]

/-- A command that nobody runs is not cancelled. -/
theorem commandCancelled_of_none {c : Lsp.SectionCommand}
    (hnobody : ∀ d state, w.document? c.uri = some d → d.sectionAt? c.line = some state →
      w.grammars.handler? state.current.grammar = none) (task : String) :
    commandCancelled w c task = false := by
  cases hd : w.document? c.uri with
  | none => simp [commandCancelled, hd]
  | some d =>
      cases hstate : d.sectionAt? c.line with
      | none => simp [commandCancelled, hd, hstate]
      | some state => simp [commandCancelled, hd, hstate, hnobody d state hd hstate]

/-- A command that is run does nothing to tokens but to cancel or close its own. -/
theorem underway_execute (hw : w.WellFormed) (hempty : w.cancellations.held = .empty)
    (c : Lsp.SectionCommand) (task : String) :
    Underway w.cancellations task (commandCancelled w c task)
      ((Query.execute c.uri c.line c.id (w.taskToken task)).run
        (w.begun task)).2.cancellations := by
  have hopened : Underway w.cancellations task false (w.begun task).cancellations :=
    Cancellations.underway_issue _ _
  by_cases hhost : ∃ d state handler, w.document? c.uri = some d ∧
      d.sectionAt? c.line = some state ∧
      w.grammars.handler? state.current.grammar = some handler
  · obtain ⟨d, state, handler, hd, hstate, hhandler⟩ := hhost
    have hd' : (w.begun task).document? c.uri = some d := hd
    have hshown : Query.shown d state (w.begun task) = d.view state :=
      hw.shown_of_sectionAt? hd hstate
    rw [Query.run_execute (w.bears_begun task) hd' hstate hhandler rfl, hshown,
      commandCancelled_of_some hd hstate hhandler]
    exact (Workspace.follows_underway hempty).absorb hopened state.key
      (handler.execute (d.view state) c.id ⟨task, false⟩)
  · -- Without a document, a section or a handler nobody gets the token.
    have hnobody : ∀ d state, w.document? c.uri = some d → d.sectionAt? c.line = some state →
        w.grammars.handler? state.current.grammar = none := fun d state hd hstate =>
      Option.eq_none_iff_forall_ne_some.2 fun handler hhandler =>
        hhost ⟨d, state, handler, hd, hstate, hhandler⟩
    have hnobody' : ∀ d state, (w.begun task).document? c.uri = some d →
        d.sectionAt? c.line = some state →
          (w.begun task).grammars.handler? state.current.grammar = none := hnobody
    rw [commandCancelled_of_none hnobody, Query.run_execute_of_none hnobody']
    exact hopened

/-- A notice leaves the token of its task, if it has one, and an empty registry. -/
theorem cancellations_heed (hw : w.WellFormed) (hempty : w.cancellations.held = .empty)
    (n : Lsp.Notice) :
    (heed w n).1.cancellations = settled w.cancellations (noticeErrand? w n) := by
  have hkept : ∀ e, (w.apply e).cancellations.held = .empty := by
    intro e
    rw [Workspace.apply_cancellations]
    exact hempty
  cases n with
  | ready => rfl
  | opened uri version text =>
      obtain ⟨d, hd⟩ := hw.exists_hasText_openText uri text
      have hpublish := cancellations_publish (hw.apply (.openText uri text))
        (hkept (.openText uri text)) hd.document_eq version
      rw [Workspace.apply_cancellations] at hpublish
      simp only [heed, noticeErrand?, settled]
      exact hpublish
  | changed uri version texts =>
      cases texts with
      | nil => rfl
      | cons text more =>
          obtain ⟨d, hd⟩ := hw.exists_hasText_putText uri text
          simp only [heed, noticeErrand?, settled]
          rw [putText_eq_apply] at hd ⊢
          rw [cancellations_publish (hw.apply _) (hkept _) hd.document_eq version,
            Workspace.apply_cancellations]
  | closed uri =>
      simp only [heed, dropText, noticeErrand?, settled, Workspace.cancelTask_of_empty hempty,
        Workspace.apply_cancellations]

/-- A request leaves the token of its task, if it has one, and an empty registry. -/
theorem cancellations_reply (hw : s.workspace.WellFormed)
    (hempty : s.workspace.cancellations.held = .empty) (request : Lsp.Request) :
    (s.reply request).1.workspace.cancellations =
      settled s.workspace.cancellations (s.requestErrand? request) := by
  let P : Workspace → Prop := fun w => w.cancellations = s.workspace.cancellations
  have hsteady : Steady P :=
    fun key reply hsame => (Workspace.absorb_none_cancellations _ key reply).trans hsame
  cases request with
  | execute call =>
      cases hcall : commandOf call with
      | error error => simp only [reply, requestErrand?, hcall, settled]
      | ok c =>
          have htask :=
            Workspace.cancellations_runTask (q := Query.execute c.uri c.line c.id) hempty
            (underway_execute hw hempty c (commandTask s.commandCount))
          simp only [reply, requestErrand?, hcall, settled, execute]
          exact htask
  | _ =>
      have hkept : P s.workspace := rfl
      exact keeps_reply_question hsteady hkept fun _ => Lsp.Request.noConfusion

/-- What a message leaves of tokens is what its task leaves. -/
theorem cancellations_handle (hs : Sound grammars s)
    (hempty : s.workspace.cancellations.held = .empty) (m : Message) :
    (s.handle m).server.workspace.cancellations =
      settled s.workspace.cancellations (s.errand? m) := by
  obtain ⟨_, hreachable⟩ := hs.reachable
  have hw := hreachable.wellFormed
  cases hheard : s.heard? m with
  | some n =>
      rw [handle_of_heard hheard, errand?, hheard]
      exact cancellations_heed hw hempty n
  | none =>
      cases hasked : s.asked? m with
      | some request =>
          obtain ⟨id, hhandle⟩ := handle_of_asked hasked
          rw [hhandle, errand?, hheard, hasked]
          exact cancellations_reply hw hempty request
      | none =>
          rw [errand?, hheard, hasked]
          rcases handle_of_unanswered hheard hasked with hsame | ⟨roots, hstart⟩
          · rw [hsame]
            rfl
          · rw [hstart]
            rfl

/-! ## Runs with kept clones -/

/-- What someone may do who keeps a clone of a token. -/
inductive CloneAct where
  | listen (label : String) (reactions : List (Reaction String))
  | cancel
  | close
  | abandon
  | disarm

/-- The call on a token by which something is done with its clone. -/
def CloneAct.call (token : TokenKey) : CloneAct → Cancellations.Call String
  | listen label reactions => .listen token label reactions
  | cancel => .cancel token
  | close => .close token
  | abandon => .abandon token
  | disarm => .disarm token

/-- What happens to a server: a message arrives, or someone makes use of a clone of a token. -/
inductive Event where
  | message (m : Message)
  | kept (token : TokenKey) (act : CloneAct)

/-- The server after an event. -/
def occur (s : Server) : Event → Server
  | .message m => (s.handle m).server
  | .kept token act =>
    { s with workspace := { s.workspace with
        cancellations := s.workspace.cancellations.perform (act.call token) } }

/-- The server after events, one after the other. -/
def occurAll (s : Server) (es : List Event) : Server :=
  es.foldl occur s

/-- The event cancels the token: a handler does that is given the token by the message, or the clone
or a listener does. -/
def Cancels (s : Server) (key : TokenKey) : Event → Prop
  | .message m => ∃ task, s.errand? m = some (task, true) ∧ key = s.workspace.cancellations.nextKey
  | .kept token act => .cancelled key ∈ s.workspace.cancellations.deedsOf (act.call token)

/-- What is done with a clone issues no token. -/
theorem call_ne_issue (token : TokenKey) (act : CloneAct) (id : String) :
    act.call token ≠ .issue id := by
  cases act <;> intro h <;> cases h

/-- Before there are tokens, there is nothing to do with clones. -/
theorem perform_empty (token : TokenKey) (act : CloneAct) :
    Cancellations.empty.perform (act.call token) = .empty := by
  have hnone : (Cancellations.empty : Cancellations String).token? token = none := rfl
  have hloose : ∀ key, (Cancellations.empty : Cancellations String).close key = .empty :=
    Cancellations.close_of_empty rfl
  have hrest : (Cancellations.empty : Cancellations String).run [.body []] = .empty :=
    (Cancellations.run_body_nil _ []).trans (Cancellations.run_nil _)
  have hcancel : (Cancellations.empty : Cancellations String).cancel token = .empty := by
    rw [Cancellations.cancel, Cancellations.run_cons]
    simp only [Cancellations.step, Cancellations.stepBy, hnone]
    exact hrest
  cases act with
  | listen label reactions =>
      rw [CloneAct.call, Cancellations.perform, Cancellations.listen, Cancellations.run_cons]
      simp only [Cancellations.step, Cancellations.stepBy, hnone]
      exact hrest
  | cancel => exact hcancel
  | close => exact hloose token
  | abandon =>
      rw [CloneAct.call, Cancellations.perform, Cancellations.abandon, hcancel]
      exact hloose token
  | disarm => exact hloose token

/-- The server stays sound whatever occurs. -/
theorem Sound.occur (hs : Sound grammars s) (e : Event) : Sound grammars (s.occur e) := by
  cases e with
  | message m => exact hs.handle m
  | kept token act =>
      obtain ⟨segmenter, hw⟩ := hs.reachable
      refine ⟨fun hwaiting => ?_, segmenter, hw.share _ _ _ _⟩
      have huntouched := hs.untouched hwaiting
      simp only [Server.occur, huntouched]
      rw [show (Workspace.empty grammars default).cancellations = .empty from rfl, perform_empty]
      rfl

/-- The registry stays empty whatever occurs. -/
theorem held_occur (hs : Sound grammars s) (hempty : s.workspace.cancellations.held = .empty)
    (e : Event) : (s.occur e).workspace.cancellations.held = .empty := by
  cases e with
  | message m =>
      rw [Server.occur, cancellations_handle hs hempty m]
      cases s.errand? m <;> exact hempty
  | kept token act => exact Cancellations.held_perform hempty (call_ne_issue token act)

/-- A token is cancelled by what occurs or was so before. -/
theorem isCancelled_occur (hs : Sound grammars s) (hempty : s.workspace.cancellations.held = .empty)
    (e : Event) (key : TokenKey) :
    (s.occur e).workspace.cancellations.isCancelled key = true ↔
      s.workspace.cancellations.isCancelled key = true ∨ s.Cancels key e := by
  cases e with
  | kept token act => exact Cancellations.isCancelled_perform _ _ _
  | message m =>
      rw [Server.occur, cancellations_handle hs hempty m, Cancels]
      cases s.errand? m with
      | none => simp [settled]
      | some errand =>
          obtain ⟨task, cancelled⟩ := errand
          rw [settled, Cancellations.isCancelled_withToken]
          cases cancelled <;> simp

/-- The server stays sound and its registry empty through all that occurs. -/
theorem settled_occurAll (es : List Event) (hs : Sound grammars s)
    (hempty : s.workspace.cancellations.held = .empty) :
    Sound grammars (s.occurAll es) ∧ (s.occurAll es).workspace.cancellations.held = .empty := by
  induction es generalizing s with
  | nil => exact ⟨hs, hempty⟩
  | cons e es ih => exact ih (hs.occur e) (held_occur hs hempty e)

/-- A cancelled token was cancelled at some point of what occurred. -/
theorem isCancelled_occurAll (es : List Event) (hs : Sound grammars s)
    (hempty : s.workspace.cancellations.held = .empty) (key : TokenKey) :
    (s.occurAll es).workspace.cancellations.isCancelled key = true ↔
      s.workspace.cancellations.isCancelled key = true ∨
        ∃ before e after, es = before ++ e :: after ∧ (s.occurAll before).Cancels key e := by
  induction es generalizing s with
  | nil => simp [occurAll]
  | cons e es ih =>
      have hrest := ih (hs.occur e) (held_occur hs hempty e)
      have hfirst := isCancelled_occur hs hempty e key
      rw [show s.occurAll (e :: es) = (s.occur e).occurAll es from rfl, hrest, hfirst, or_assoc]
      refine or_congr_right ⟨?_, ?_⟩
      · rintro (hcancels | ⟨before, e', after, rfl, hcancels⟩)
        · exact ⟨[], e, es, rfl, hcancels⟩
        · exact ⟨e :: before, e', after, rfl, hcancels⟩
      · rintro ⟨before, e', after, hsplit, hcancels⟩
        cases before with
        | nil =>
            obtain ⟨rfl, rfl⟩ := List.cons.inj hsplit
            exact Or.inl hcancels
        | cons first before =>
            obtain ⟨rfl, rfl⟩ := List.cons.inj hsplit
            exact Or.inr ⟨before, e', after, rfl, hcancels⟩

/-- No task is going: the registry is empty, and the next message leaves one more token if it sets a
task going, and none if it does not. -/
structure Tidy (s : Server) : Prop where
  size_eq : s.workspace.cancellations.size = 0
  unheld : ∀ id, s.workspace.cancellations.get? id = none
  settles : ∀ m, (s.handle m).server.workspace.cancellations =
    settled s.workspace.cancellations (s.errand? m)
  /-- A command that is not well given changes nothing. -/
  rejects : ∀ m call error, s.asked? m = some (.execute call) → commandOf call = .error error →
    (s.handle m).server = s ∧ ∃ id, (s.handle m).response? = some ⟨id, .error error⟩

/-- A sound server with an empty registry is tidy. -/
theorem tidy_of_empty (hs : Sound grammars s) (hempty : s.workspace.cancellations.held = .empty) :
    s.Tidy := by
  refine ⟨?_, fun id => ?_, cancellations_handle hs hempty, fun m call error hasked hcall => ?_⟩
  · rw [Cancellations.size, hempty]
    rfl
  · rw [Cancellations.get?, hempty, Dictionary.find?_empty]
  · obtain ⟨id, hhandle⟩ := handle_of_asked hasked
    have hreply : s.reply (.execute call) = (s, [], .error error) := by simp only [reply, hcall]
    rw [hhandle, hreply]
    exact ⟨rfl, id, rfl⟩

/-- After any messages, whatever handlers do and whoever keeps clones, no task is going. A token is
cancelled only by a handler that was given it, or through a clone that was kept. -/
theorem tokens_end_with_their_requests (files : FileTree) (grammars : GrammarRegistry)
    (es : List Event) :
    ((create files grammars).occurAll es).Tidy ∧
      ∀ key, ((create files grammars).occurAll es).workspace.cancellations.isCancelled key = true ↔
        ∃ before e after, es = before ++ e :: after ∧
          ((create files grammars).occurAll before).Cancels key e := by
  have hempty : (create files grammars).workspace.cancellations.held = .empty := rfl
  have hs := sound_create files grammars
  obtain ⟨hs', hempty'⟩ := settled_occurAll es hs hempty
  refine ⟨tidy_of_empty hs' hempty', fun key => ?_⟩
  have hnone : (create files grammars).workspace.cancellations.isCancelled key = false := rfl
  rw [isCancelled_occurAll es hs hempty, hnone]
  simp

/-- Cancels the token that it is given. -/
def canceller : Handler where
  name := "Pure"
  diagnostics := fun view _ => ⟨.ok [], view.properties, [.cancel], []⟩

/-- A document is opened, and then the token of its diagnostics is closed once more. -/
def openingAndClosing : List Event :=
  [.message ⟨"initialize", some (.integer 1), some (.object [("capabilities", .object [])])⟩,
    .message ⟨"textDocument/didOpen", none, some (.object [("textDocument",
      .object [("uri", .string "file:///notes"), ("languageId", .string "plain"),
        ("version", .integer 1), ("text", .string "zero")])])⟩,
    .kept ⟨0⟩ .close]

/-- A message with a task leads to a tidy server, and its handler cancels the first token. -/
theorem tokens_end_with_their_requests_openingAndClosing :
    ((create .empty (.ofList [canceller])).occurAll openingAndClosing).Tidy ∧
      ∃ before e after, openingAndClosing = before ++ e :: after ∧
        ((create .empty (.ofList [canceller])).occurAll before).Cancels ⟨0⟩ e := by
  obtain ⟨htidy, hcancels⟩ :=
    tokens_end_with_their_requests .empty (.ofList [canceller]) openingAndClosing
  exact ⟨htidy, (hcancels ⟨0⟩).1 (by decide +kernel)⟩

end Server

end Polyglot
