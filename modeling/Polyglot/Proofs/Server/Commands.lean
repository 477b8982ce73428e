import Polyglot.Proofs.Server.Handling
import Polyglot.Proofs.Workspace.Definition
import Polyglot.Proofs.Workspace.Diagnosing

/-!
# Offered commands

Commands are offered by the handler of the section at the first line of a range
(`Query.exists_of_run_commands`). The offer leaves properties of this section and nothing else, so
the section is found again at the line (`WellFormed.exists_section_absorb`), and its handler runs
the command under a new token (`Query.run_execute`). The arguments of an offered command stand for
this very line and command, so whatever is offered can be run (`offered_commands_run`).
-/

set_option autoImplicit false

namespace Polyglot

namespace Document

variable {d d' : Document} {line : Nat} {state : SectionState}

/-- Looking up a line does not depend on the properties of sections. -/
theorem sectionAt?_bare (d : Document) (line : Nat) :
    d.bare.sectionAt? line = (d.sectionAt? line).map SectionState.bare := by
  have hcompare : d.bare.compareAt line = d.compareAt line := by
    funext place
    simp only [compareAt, bare, List.getElem?_map]
    cases d.sections[place]? <;> rfl
  unfold sectionAt?
  rw [hcompare]
  simp only [bare, List.length_map, List.getElem?_map, List.getLast?_map]
  split
  · split
    · rfl
    · split <;> rfl
  · rfl

/-- Where the section of a line is does not depend on what is kept among properties. -/
theorem exists_sectionAt? (heq : d'.bare = d.bare) (h : d.sectionAt? line = some state) :
    ∃ state', d'.sectionAt? line = some state' ∧ state'.bare = state.bare := by
  have hbare := d'.sectionAt?_bare line
  rw [heq, sectionAt?_bare, h, Option.map_some] at hbare
  exact Option.map_eq_some_iff.1 hbare.symm

end Document

namespace Workspace

variable {w : Workspace} {id : String} {d : Document} {line : Nat} {state : SectionState}

/-- A section that is looked up at a line is shown as a view of its document. -/
theorem WellFormed.view?_of_sectionAt? (hw : w.WellFormed) (hd : w.document? id = some d)
    (hstate : d.sectionAt? line = some state) : w.view? state.key = some (d.view state) :=
  hw.view?_eq_some hd (List.mem_append_left _ (Document.mem_of_sectionAt? hstate))

/-- A handler is shown the section at the line as the document has it. -/
theorem WellFormed.shown_of_sectionAt? (hw : w.WellFormed) (hd : w.document? id = some d)
    (hstate : d.sectionAt? line = some state) : Query.shown d state w = d.view state :=
  shown_eq_of_view? d (hw.view?_of_sectionAt? hd hstate)

/-- After a handler has left something for its section, the section is found where it was, and what
was left is seen in its view. -/
theorem WellFormed.exists_section_absorb {β : Type} (hw : w.WellFormed)
    (hd : w.document? id = some d) (hstate : d.sectionAt? line = some state) (reply : Reply β) :
    ∃ d' state', (w.absorb state.key none reply).document? id = some d' ∧
      d'.sectionAt? line = some state' ∧ state'.key = state.key ∧
      state'.current = state.current ∧
      Query.shown d' state' (w.absorb state.key none reply) =
        (d.view state).withProperties reply.properties := by
  obtain ⟨d', hd', hbare⟩ := (hw.alike_absorb state.key none reply).exists_document' hd
  obtain ⟨state', hstate', hbare'⟩ := Document.exists_sectionAt? hbare hstate
  have hkey : state'.bare.key = state.bare.key := congrArg SectionState.key hbare'
  have hcurrent : state'.bare.current = state.bare.current := congrArg SectionState.current hbare'
  simp only [SectionState.bare] at hkey hcurrent
  have hview' := view?_absorb (w := w) state.key state'.key none reply
  rw [if_pos hkey.symm, hkey, hw.view?_of_sectionAt? hd hstate, Option.map_some] at hview'
  exact ⟨d', state', hd', hstate', hkey, hcurrent, shown_eq_of_view? d' (hkey ▸ hview')⟩

end Workspace

namespace Query

variable {w : Workspace} {id command task : String} {d : Document} {line : Nat}
  {state : SectionState} {handler : Handler} {token : TokenKey}

/-- The handler of the section at a line is asked for commands. -/
theorem run_commands_of_some (hd : w.document? id = some d)
    (hstate : d.sectionAt? line = some state)
    (hhandler : w.grammars.handler? state.current.grammar = some handler) :
    (commands id line).run w =
      ((handler.commands (shown d state w)).answer.mapError QueryFailure.broken,
        w.absorb state.key none (handler.commands (shown d state w))) := by
  rw [commands, run_bind, run_document_of_some hd]
  simp only
  rw [run_askAt_of_some hstate (by rw [hhandler]; rfl)]

/-- Who offers a command is the handler of the section at the line. -/
theorem exists_of_run_commands {offered : List Command} {c : Command}
    (h : ((commands id line).run w).1 = .ok offered) (hc : c ∈ offered) :
    ∃ d state handler, w.document? id = some d ∧ d.sectionAt? line = some state ∧
      w.grammars.handler? state.current.grammar = some handler ∧
      (handler.commands (shown d state w)).answer = .ok offered := by
  cases hd : w.document? id with
  | none =>
      rw [commands, run_bind, run_document_of_none hd] at h
      cases h
  | some d =>
      have hasked : ∃ state handler, d.sectionAt? line = some state ∧
          w.grammars.handler? state.current.grammar = some handler := by
        by_contra hnobody
        have hempty : (askAt d line fun handler => some handler.commands).run w = (.ok [], w) := by
          refine run_askAt_of_none d fun state hstate => ?_
          cases hhandler : w.grammars.handler? state.current.grammar with
          | none => rfl
          | some handler => exact absurd ⟨state, handler, hstate, hhandler⟩ hnobody
        rw [commands, run_bind, run_document_of_some hd] at h
        simp only [hempty] at h
        rw [← Except.ok.inj h] at hc
        cases hc
      obtain ⟨state, handler, hstate, hhandler⟩ := hasked
      rw [run_commands_of_some hd hstate hhandler] at h
      refine ⟨d, state, handler, rfl, hstate, hhandler, ?_⟩
      cases hanswer : (handler.commands (shown d state w)).answer with
      | ok commands =>
          rw [hanswer] at h
          exact congrArg Except.ok (Except.ok.inj h)
      | error panic =>
          rw [hanswer] at h
          cases h

/-- A command is run by the handler of the section at the line. -/
theorem run_execute (hbears : w.Bears token ⟨task, false⟩) (hd : w.document? id = some d)
    (hstate : d.sectionAt? line = some state)
    (hhandler : w.grammars.handler? state.current.grammar = some handler)
    {reply : Reply CommandOutcome}
    (hreply : handler.execute (shown d state w) command ⟨task, false⟩ = reply) :
    (execute id line command token).run w =
      (reply.answer.mapError QueryFailure.broken, w.absorb state.key (some token) reply) := by
  rw [execute, run_bind, run_document_of_some hd]
  simp only [hstate]
  rw [run_bind, run_handler?, hhandler]
  simp only
  rw [run_bind, run_isCancelled, (Workspace.bears_iff.1 hbears).2]
  simp only [Bool.false_eq_true, if_false]
  rw [run_bind, run_workspace]
  simp only [hbears.tokenView_eq]
  rw [run_ask, hreply]

/-- Where nobody is there to run a command, nothing comes of it. -/
theorem run_execute_of_none (hnobody : ∀ d state, w.document? id = some d →
      d.sectionAt? line = some state → w.grammars.handler? state.current.grammar = none) :
    ((execute id line command token).run w).2 = w := by
  cases hd : w.document? id with
  | none => rw [execute, run_bind, run_document_of_none hd]
  | some d =>
      rw [execute, run_bind, run_document_of_some hd]
      simp only
      cases hstate : d.sectionAt? line with
      | none => rfl
      | some state =>
          simp only
          rw [run_bind, run_handler?, hnobody d state hd hstate]
          rfl

end Query

namespace Server

variable {w : Workspace} {uri : String} {line : Nat} {a : Lsp.Action} {offered : List Lsp.Action}

/-- What can be sent back is what was offered. -/
theorem commandOf_actionOf (uri : String) (hline : line < UInt32.size) (c : Command) :
    commandOf (actionOf uri line c).call = .ok ⟨uri, line, c.id⟩ := by
  have hback := Lsp.SectionCommand.ofArguments?_arguments ⟨uri, line, c.id⟩ hline
  simp only [commandOf, actionOf, Lsp.SectionCommand.invocation, if_true, hback]

/-- An offered action is that of a command that a handler offers. -/
theorem exists_of_actions {r : Lsp.Range} (h : (actions w uri r).2 = .ok (.actions offered))
    (ha : a ∈ offered) : ∃ (commands : List Command) (c : Command),
      ((Query.commands uri r.start.line).run w).1 = .ok commands ∧ c ∈ commands ∧
        a = actionOf uri r.start.line c := by
  have hsettled : (settle [] ((Query.commands uri r.start.line).run w).1).map
      (fun commands => Lsp.Answer.actions (commands.map (actionOf uri r.start.line))) =
        .ok (.actions offered) := h
  cases hrun : ((Query.commands uri r.start.line).run w).1 with
  | ok commands =>
      rw [hrun] at hsettled
      obtain rfl := Lsp.Answer.actions.inj (Except.ok.inj hsettled)
      obtain ⟨c, hc, rfl⟩ := List.mem_map.1 ha
      exact ⟨commands, c, rfl, hc, rfl⟩
  | error failure =>
      rw [hrun] at hsettled
      cases failure with
      | refused error =>
          obtain rfl := Lsp.Answer.actions.inj (Except.ok.inj hsettled)
          cases ha
      | broken panic => cases hsettled

/-- The call runs a command: a handler has its say about a state with a token in hand that is new
and not cancelled, and what comes of it is what the client is answered and shown. -/
structure Runs (s : Server) (call : Lsp.Invocation) (key : SectionKey) (task : String)
    (reply : Reply CommandOutcome) : Prop where
  fresh : s.workspace.cancellations.token? (s.workspace.taskToken task) = none
  uncancelled : (s.workspace.begun task).Bears (s.workspace.taskToken task) ⟨task, false⟩
  left : (s.reply (.execute call)).1.workspace =
    ((s.workspace.begun task).absorb key (some (s.workspace.taskToken task)) reply).ended
      (s.workspace.taskToken task)
  completed : ∀ message, reply.answer = .ok (.completed message) →
    (s.reply (.execute call)).2 = ([], .ok (.output message))
  cancelled : reply.answer = .ok .cancelled →
    (s.reply (.execute call)).2 = ([], .error .cancelled)
  failed : ∀ message, reply.answer = .ok (.failed message) →
    (s.reply (.execute call)).2 = ([.shown message], .error (.failed message))
  broken : ∀ panic, reply.answer = .error panic →
    (s.reply (.execute call)).2 = ([], .error .internal)
  /-- The parameters are never at fault. -/
  valid : ∀ error, (s.reply (.execute call)).2.2 = .error error → error.code ≠ -32602

/-- What becomes of a command follows from what its query leaves and answers. -/
theorem runs_of_runTask {s : Server} {call : Lsp.Invocation} {c : Lsp.SectionCommand}
    {key : SectionKey} {reply : Reply CommandOutcome} (hcall : commandOf call = .ok c)
    (hrun :
      (Query.execute c.uri c.line c.id (s.workspace.taskToken (commandTask s.commandCount))).run
        (s.workspace.begun (commandTask s.commandCount)) =
      (reply.answer.mapError QueryFailure.broken,
        (s.workspace.begun (commandTask s.commandCount)).absorb key
          (some (s.workspace.taskToken (commandTask s.commandCount))) reply)) :
    Runs s call key (commandTask s.commandCount) reply := by
  have htask := Workspace.runTask_of_run (q := Query.execute c.uri c.line c.id) hrun
  have hreply : s.reply (.execute call) = s.execute c := by simp only [Server.reply, hcall]
  have hanswer : (s.execute c).2 = outcome (reply.answer.mapError QueryFailure.broken) := by
    rw [execute, htask]
  refine ⟨?_, Workspace.bears_begun _ _, ?_, ?_, ?_, ?_, ?_, ?_⟩
  · simp [Workspace.taskToken, Cancellations.issue, Cancellations.create, Cancellations.token?]
  · rw [hreply, execute, htask]
  · intro message hcompleted
    rw [hreply, hanswer, hcompleted]
    rfl
  · intro hcancelled
    rw [hreply, hanswer, hcancelled]
    rfl
  · intro message hfailed
    rw [hreply, hanswer, hfailed]
    rfl
  · intro panic hbroken
    rw [hreply, hanswer, hbroken]
    rfl
  · intro error herror
    rw [hreply, hanswer] at herror
    generalize reply.answer = answer at herror
    rcases answer with panic | (message | _ | message) <;> cases herror <;>
      simp [Lsp.RequestError.code]

/-- What an offered command is: the handler of the section at the line offers it for what it is
shown of the section. -/
structure Offers (w : Workspace) (uri : String) (line : Nat) (d : Document) (state : SectionState)
    (handler : Handler) (c : Command) : Prop where
  document_eq : w.document? uri = some d
  section_eq : d.sectionAt? line = some state
  handler_eq : w.grammars.handler? state.current.grammar = some handler
  offered : ∃ commands, (handler.commands (d.view state)).answer = .ok commands ∧ c ∈ commands

/-- A command that is offered in a well-formed workspace runs when it is sent back: its handler is
shown the same section of the same text, with the properties that the offer has left. -/
theorem exists_runs {s : Server} (hw : s.workspace.WellFormed) {r : Lsp.Range}
    (hline : r.start.line < UInt32.size)
    (hoffered : (s.reply (.actions uri r)).2.2 = .ok (.actions offered)) (ha : a ∈ offered) :
    ∃ d state handler c, Offers s.workspace uri r.start.line d state handler c ∧
      a = actionOf uri r.start.line c ∧
      Runs (s.reply (.actions uri r)).1 a.call state.key (commandTask s.commandCount)
        (handler.execute
          ((d.view state).withProperties (handler.commands (d.view state)).properties) c.id
          ⟨commandTask s.commandCount, false⟩) := by
  obtain ⟨commands, c, hcommands, hc, rfl⟩ := exists_of_actions hoffered ha
  obtain ⟨d, state, handler, hd, hstate, hhandler, hanswer⟩ :=
    Query.exists_of_run_commands hcommands hc
  have hshown := hw.shown_of_sectionAt? hd hstate
  have hleft : (s.reply (.actions uri r)).1 = { s with
      workspace := s.workspace.absorb state.key none (handler.commands (d.view state)) } := by
    have hrun := Query.run_commands_of_some hd hstate hhandler
    rw [hshown] at hrun
    simp only [reply, replyWith, actions, consult, hrun]
  rw [hshown] at hanswer
  refine ⟨d, state, handler, c, ⟨hd, hstate, hhandler, commands, hanswer, hc⟩, rfl, ?_⟩
  obtain ⟨d', state', hd', hstate', hkey, hcurrent, hshown'⟩ :=
    hw.exists_section_absorb hd hstate (handler.commands (d.view state))
  rw [← hkey] at hd' hshown' hleft
  rw [← hkey, hleft]
  have hhandler' : (s.workspace.absorb state'.key none
      (handler.commands (d.view state))).grammars.handler? state'.current.grammar =
        some handler := by
    rw [Workspace.absorb_grammars, hcurrent]
    exact hhandler
  have hbears := (s.workspace.absorb state'.key none
    (handler.commands (d.view state))).bears_begun (commandTask s.commandCount)
  refine runs_of_runTask (commandOf_actionOf uri hline c)
    (Query.run_execute hbears hd' hstate' hhandler' ?_)
  rw [← hshown']
  rfl

/-- Whatever messages came before: a command that is offered for a range runs when its name and
arguments are sent back. -/
theorem offered_commands_run (files : FileTree) (grammars : GrammarRegistry) (ms : List Message)
    (uri : String) (r : Lsp.Range) (hline : r.start.line < UInt32.size)
    (offered : List Lsp.Action)
    (hoffered : (((create files grammars).run ms).reply (.actions uri r)).2.2 =
      .ok (.actions offered)) (a : Lsp.Action) (ha : a ∈ offered) :
    ∃ d state handler c,
      Offers ((create files grammars).run ms).workspace uri r.start.line d state handler c ∧
      a = actionOf uri r.start.line c ∧
      Runs (((create files grammars).run ms).reply (.actions uri r)).1 a.call state.key
        (commandTask ((create files grammars).run ms).commandCount)
        (handler.execute
          ((d.view state).withProperties (handler.commands (d.view state)).properties) c.id
          ⟨commandTask ((create files grammars).run ms).commandCount, false⟩) := by
  obtain ⟨_, hreachable⟩ := (sound_run files grammars ms).reachable
  exact exists_runs hreachable.wellFormed hline hoffered ha

/-- Whether a request was answered with commands. -/
def isOffer : Except Lsp.RequestError Lsp.Answer → Bool
  | .ok (.actions (_ :: _)) => true
  | _ => false

/-- A request that was answered with commands was answered with a first one. -/
theorem exists_of_isOffer {result : Except Lsp.RequestError Lsp.Answer}
    (hoffer : isOffer result = true) : ∃ a rest, result = .ok (.actions (a :: rest)) := by
  unfold isOffer at hoffer
  split at hoffer
  · exact ⟨_, _, rfl⟩
  · cases hoffer

/-- Offers a greeting. -/
def greeter : Handler where
  name := "Pure"
  commands := fun view => .answering view [⟨"greet", "Greet"⟩]
  execute := fun view command _ => .answering view (.completed (command ++ " " ++ view.documentId))

/-- The server of the greeter with one document open. -/
def greeted : Server :=
  (create .empty (.ofList [greeter])).run
    [⟨"initialize", some (.integer 1), some (.object [("capabilities", .object [])])⟩,
      ⟨"textDocument/didOpen", none, some (.object [("textDocument",
        .object [("uri", .string "file:///notes"), ("languageId", .string "plain"),
          ("version", .integer 1), ("text", .string "zero")])])⟩]

/-- A command that greets is offered on the first line, and sent back it greets. -/
theorem offered_commands_run_greeted : ∃ a rest d state handler c,
    (greeted.reply (.actions "file:///notes" ⟨⟨0, 0⟩, ⟨0, 0⟩⟩)).2.2 = .ok (.actions (a :: rest)) ∧
      Offers greeted.workspace "file:///notes" 0 d state handler c ∧
      Runs (greeted.reply (.actions "file:///notes" ⟨⟨0, 0⟩, ⟨0, 0⟩⟩)).1 a.call state.key
        (commandTask greeted.commandCount)
        (handler.execute
          ((d.view state).withProperties (handler.commands (d.view state)).properties) c.id
          ⟨commandTask greeted.commandCount, false⟩) := by
  have hoffer : isOffer (greeted.reply (.actions "file:///notes" ⟨⟨0, 0⟩, ⟨0, 0⟩⟩)).2.2 = true := by
    decide +kernel
  obtain ⟨a, rest, hoffered⟩ := exists_of_isOffer hoffer
  obtain ⟨d, state, handler, c, hoffers, _, hruns⟩ := offered_commands_run .empty
    (.ofList [greeter]) _ "file:///notes" ⟨⟨0, 0⟩, ⟨0, 0⟩⟩ (by decide) _ hoffered a
    List.mem_cons_self
  exact ⟨a, rest, d, state, handler, c, hoffered, hoffers, hruns⟩

end Server

end Polyglot
