import Polyglot.Proofs.Workspace.Coherence
import Polyglot.Proofs.Workspace.Gathering

/-!
# Asking for memoized declarations

Documents are edited and their declarations asked for, in any order (`Workspace.history`). A
memoizing handler then answers each time as one that reads each time, and its computations run
exactly when they are due (`declarations_memoized`). Other handlers may be registered beside it;
they may do what they like with their own sections.
-/

set_option autoImplicit false

namespace Polyglot

namespace Workspace

variable {w : Workspace} {past : List Occurrence} {h : Handler} {key : String}
  {read : DeclarationReader}

/-- The states of a list are found in the workspace, with content. -/
def Present (w : Workspace) (states : List SectionState) : Prop :=
  ∀ state ∈ states, ∃ view, w.view? state.key = some view ∧ view.isAttached = true ∧
    view.current = state.current

/-- The sections of an open document are present. -/
theorem WellFormed.present (hw : w.WellFormed) {id : String} {d : Document}
    (hd : w.document? id = some d) : w.Present d.sections := by
  intro state hstate
  refine ⟨d.view state, hw.view?_eq_some hd (List.mem_append_left _ hstate), ?_, rfl⟩
  rw [SectionView.isAttached, (hw.opened id d hd).content?_view hstate]
  rfl

/-- What a handler leaves hides no state. -/
theorem Present.absorb {β : Type} {states : List SectionState} (hpresent : w.Present states)
    (key : SectionKey) (reply : Reply β) : (w.absorb key none reply).Present states := by
  intro state hstate
  obtain ⟨view, hview, hattached, hcurrent⟩ := hpresent state hstate
  rw [view?_absorb, hview]
  by_cases hsame : key = state.key
  · rw [if_pos hsame]
    exact ⟨view.withProperties reply.properties, rfl, hattached, hcurrent⟩
  · rw [if_neg hsame]
    exact ⟨view, rfl, hattached, hcurrent⟩

/-- What another handler leaves for a state of its own grammar concerns nothing that is kept. -/
theorem Kept.absorb_other {β : Type} (hkept : Kept h key read w past []) {state : SectionKey}
    {view : SectionView} (hview : w.view? state = some view)
    (hother : view.current.grammar ≠ h.name)
    (reply : Reply β) : Kept h key read (w.absorb state none reply) past [] := by
  refine ⟨?_, hkept.timely, ?_⟩
  · rw [absorb_grammars]
    exact hkept.registered
  · intro state' view' hview' hattached hgrammar
    rw [view?_absorb] at hview'
    by_cases hsame : state = state'
    · subst hsame
      rw [if_pos rfl, hview, Option.map_some, Option.some.injEq] at hview'
      subst hview'
      exact absurd hgrammar hother
    · rw [if_neg hsame] at hview'
      exact hkept.views state' view' hview' hattached hgrammar

/-- When a memoizing handler has been asked for a state, nothing is due for it. -/
theorem Kept.absorb_declarations (hmemo : h.Memoizes key read) (hkept : Kept h key read w past [])
    {state : SectionKey} {view : SectionView} (hview : w.view? state = some view)
    (hattached : view.isAttached = true) (hgrammar : view.current.grammar = h.name) :
    Kept h key read (w.absorb state none (h.declarations view))
      (past ++ [.asked state (view.memo key read).ran]) [] := by
  obtain ⟨hcoherent, hdue⟩ := hkept.view hview hattached hgrammar
  have hran := (view.ran_memo key read).trans hdue
  refine ⟨?_, hkept.timely.append_asked hran, ?_⟩
  · rw [absorb_grammars]
    exact hkept.registered
  · intro state' view' hview' hattached' hgrammar' _
    refine ⟨fun hyes => absurd hyes List.not_mem_nil, fun _ => ?_⟩
    rw [view?_absorb] at hview'
    rw [due_append_asked_iff]
    by_cases hsame : state = state'
    · subst hsame
      rw [if_pos rfl, hview, Option.map_some, Option.some.injEq] at hview'
      subst hview'
      have hfound := hmemo.find?_declarations hcoherent
      change (view.withProperties (h.declarations view).properties).properties.find? key = _
        at hfound
      refine ⟨fun value hvalue => ?_, ?_⟩
      · exact (Option.some.inj (hfound.symm.trans hvalue)).symm
      · rw [hfound]
        simp
    · rw [if_neg hsame] at hview'
      obtain ⟨hcoherent', hdue'⟩ := hkept.view hview' hattached' hgrammar'
      refine ⟨hcoherent', ?_⟩
      rw [hdue', and_iff_right hsame]

/-- What is seen of a memoizing handler when a state is asked for its declarations. -/
def asking (h : Handler) (key : String) (read : DeclarationReader)
    (seen : SectionKey × SectionView) : Option Occurrence :=
  if seen.2.current.grammar = h.name then some (.asked seen.1 (seen.2.memo key read).ran) else none

/-- The question for declarations. -/
abbrev declared? (handler : Handler) : Option (SectionView → Reply (List Declaration)) :=
  some handler.declarations

/-- A registered handler is asked for its declarations. -/
theorem bind_declared? {registry : GrammarRegistry} {grammar : String} {handler : Handler}
    (hhandler : registry.handler? grammar = some handler) :
    (registry.handler? grammar).bind declared? = some handler.declarations := by
  rw [hhandler]
  rfl

/-- Without a handler nobody is asked for declarations. -/
theorem bind_declared?_of_none {registry : GrammarRegistry} {grammar : String}
    (hhandler : registry.handler? grammar = none) :
    (registry.handler? grammar).bind declared? = none := by
  rw [hhandler]
  rfl

/-- What is kept stays coherent when a handler is asked for a state, whichever handler it is. -/
theorem Kept.asked (hmemo : h.Memoizes key read) (hkept : Kept h key read w past [])
    {state : SectionKey} {view : SectionView} (hview : w.view? state = some view)
    (hattached : view.isAttached = true) {handler : Handler}
    (hhandler : w.grammars.handler? view.current.grammar = some handler) :
    Kept h key read (w.absorb state none (handler.declarations view))
      (past ++ (asking h key read (state, view)).toList) [] := by
  unfold asking
  by_cases hgrammar : view.current.grammar = h.name
  · have hself : handler = h := by
      rw [hgrammar, hkept.registered] at hhandler
      exact (Option.some.inj hhandler).symm
    rw [if_pos hgrammar, hself]
    exact hkept.absorb_declarations hmemo hview hattached hgrammar
  · rw [if_neg hgrammar, Option.toList_none, List.append_nil]
    exact hkept.absorb_other hview hgrammar _

/-- What is kept stays coherent when declarations are gathered. -/
theorem Kept.gather (hmemo : h.Memoizes key read) (hkept : Kept h key read w past [])
    (d : Document) {states : List SectionState} (hpresent : w.Present states) :
    Kept h key read ((Query.gather d declared? states).run w).2
      (past ++ (Query.consulted d declared? states w).filterMap (asking h key read)) [] := by
  induction states generalizing w past with
  | nil =>
      rw [Query.consulted, List.filterMap_nil, List.append_nil]
      exact hkept
  | cons state states ih =>
      obtain ⟨hstate, hstates⟩ := List.forall_mem_cons.1 hpresent
      obtain ⟨view, hview, hattached, hcurrent⟩ := hstate
      have hshown := shown_eq_of_view? d hview
      cases hhandler : w.grammars.handler? state.current.grammar with
      | none =>
          have hcall := bind_declared?_of_none hhandler
          obtain ⟨hrun, hconsulted⟩ := Query.run_gather_none d states hcall
          rw [hrun, hconsulted]
          exact ih hkept hstates
      | some handler =>
          have hcall := bind_declared? hhandler
          rw [← hcurrent] at hhandler
          have hnext := hkept.asked hmemo hview hattached hhandler
          have hcons : ∀ seen : List (SectionKey × SectionView),
              past ++ ((state.key, view) :: seen).filterMap (asking h key read) =
                past ++ (asking h key read (state.key, view)).toList ++
                  seen.filterMap (asking h key read) := by
            intro seen
            rw [List.append_assoc, List.filterMap_cons]
            cases asking h key read (state.key, view) <;> rfl
          cases hanswer : (handler.declarations (Query.shown d state w)).answer with
          | ok answer =>
              obtain ⟨hrun, hconsulted⟩ := Query.run_gather_ok states hcall hanswer
              rw [hrun, hconsulted, hshown, hcons]
              exact ih hnext (Present.absorb hstates state.key _)
          | error panic =>
              obtain ⟨hrun, hconsulted⟩ := Query.run_gather_broken states hcall hanswer
              rw [hrun, hconsulted, hshown, hcons, List.filterMap_nil, List.append_nil]
              exact hnext

/-- The workspace with a handler in place of the one of its name. -/
def withHandler (w : Workspace) (handler : Handler) : Workspace :=
  { w with grammars := w.grammars.register handler }

/-- Two workspaces that differ in that a handler memoizes in one and reads each time in the other,
and in what is kept for the sections of this handler. -/
structure Agree (h : Handler) (read : DeclarationReader) (w w' : Workspace) : Prop where
  registered : w'.grammars.handler? h.name = some (h.reading read)
  others : ∀ grammar, grammar ≠ h.name → w'.grammars.handler? grammar = w.grammars.handler? grammar
  views : ∀ (state : SectionKey) (view : SectionView), w.view? state = some view →
    ∃ properties, w'.view? state = some (view.withProperties properties) ∧
      (view.current.grammar ≠ h.name → properties = view.properties)

/-- Handlers that leave the same for sections of other grammars leave workspaces that agree. -/
theorem Agree.absorb {β : Type} {w' : Workspace} (hagree : Agree h read w w') {state : SectionKey}
    {view : SectionView} (hview : w.view? state = some view) (reply reply' : Reply β)
    (hsame : view.current.grammar ≠ h.name → reply'.properties = reply.properties) :
    Agree h read (w.absorb state none reply) (w'.absorb state none reply') := by
  refine ⟨?_, ?_, ?_⟩
  · rw [absorb_grammars]
    exact hagree.registered
  · intro grammar hgrammar
    rw [absorb_grammars, absorb_grammars]
    exact hagree.others grammar hgrammar
  · intro other seen hseen
    rw [view?_absorb] at hseen ⊢
    by_cases heq : state = other
    · subst heq
      obtain ⟨properties, hview', _⟩ := hagree.views state view hview
      rw [if_pos rfl, hview, Option.map_some, Option.some.injEq] at hseen
      subst hseen
      rw [if_pos rfl, hview', Option.map_some]
      exact ⟨reply'.properties, rfl, hsame⟩
    · rw [if_neg heq] at hseen ⊢
      exact hagree.views other seen hseen

/-- A handler that memoizes and one that reads each time answer the same, and leave workspaces that
agree; any other handler is shown the same view in both. -/
theorem Agree.asked (hmemo : h.Memoizes key read) {w' : Workspace}
    (hkept : Kept h key read w past []) (hagree : Agree h read w w') {state : SectionKey}
    {view view' : SectionView} (hview : w.view? state = some view)
    (hview' : w'.view? state = some view') (hattached : view.isAttached = true) {handler : Handler}
    (hhandler : w.grammars.handler? view.current.grammar = some handler) :
    ∃ handler', w'.grammars.handler? view.current.grammar = some handler' ∧
      (handler'.declarations view').answer = (handler.declarations view).answer ∧
      Agree h read (w.absorb state none (handler.declarations view))
        (w'.absorb state none (handler'.declarations view')) := by
  obtain ⟨properties, hfound, hproperties⟩ := hagree.views state view hview
  obtain rfl := Option.some.inj (hview'.symm.trans hfound)
  by_cases hgrammar : view.current.grammar = h.name
  · have hself : handler = h := by
      rw [hgrammar, hkept.registered] at hhandler
      exact (Option.some.inj hhandler).symm
    subst hself
    refine ⟨handler.reading read, by rw [hgrammar, hagree.registered], ?_, ?_⟩
    · -- What is kept is what would be read.
      rw [hmemo.answer_declarations (hkept.view hview hattached hgrammar).1]
      rfl
    · exact hagree.absorb hview _ _ fun hother => absurd hgrammar hother
  · have hsame : view.withProperties properties = view := by
      rw [hproperties hgrammar]
      rfl
    rw [hsame]
    refine ⟨handler, by rw [hagree.others _ hgrammar, hhandler], rfl, ?_⟩
    exact hagree.absorb hview _ _ fun _ => rfl

/-- Declarations are the same whether a handler memoizes or reads each time. -/
theorem Kept.gather_eq (hmemo : h.Memoizes key read) {w' : Workspace}
    (hkept : Kept h key read w past []) (hagree : Agree h read w w') (d : Document)
    {states : List SectionState} (hpresent : w.Present states) :
    ((Query.gather d declared? states).run w).1 = ((Query.gather d declared? states).run w').1 := by
  induction states generalizing w w' past with
  | nil => rfl
  | cons state states ih =>
      obtain ⟨hstate, hstates⟩ := List.forall_mem_cons.1 hpresent
      obtain ⟨view, hview, hattached, hcurrent⟩ := hstate
      obtain ⟨properties, hview', _⟩ := hagree.views state.key view hview
      have hshown := shown_eq_of_view? d hview
      have hshown' := shown_eq_of_view? d hview'
      cases hhandler : w.grammars.handler? state.current.grammar with
      | none =>
          have hother : state.current.grammar ≠ h.name := by
            intro heq
            rw [heq, hkept.registered] at hhandler
            cases hhandler
          have hcall := bind_declared?_of_none hhandler
          have hcall' := bind_declared?_of_none ((hagree.others _ hother).trans hhandler)
          rw [(Query.run_gather_none d states hcall).1, (Query.run_gather_none d states hcall').1]
          exact ih hkept hagree hstates
      | some handler =>
          have hcall := bind_declared? hhandler
          rw [← hcurrent] at hhandler
          obtain ⟨handler', hhandler', hsame, hnext⟩ :=
            hagree.asked hmemo hkept hview hview' hattached hhandler
          rw [hcurrent] at hhandler'
          have hcall' := bind_declared? hhandler'
          rw [← hshown', ← hshown] at hsame
          cases hanswer : (handler.declarations (Query.shown d state w)).answer with
          | ok answer =>
              rw [(Query.run_gather_ok states hcall hanswer).1,
                (Query.run_gather_ok states hcall' (hsame.trans hanswer)).1, hshown, hshown']
              refine congrArg (Except.map _) ?_
              exact ih (hkept.asked hmemo hview hattached hhandler) hnext
                (Present.absorb hstates state.key _)
          | error panic =>
              rw [(Query.run_gather_broken states hcall hanswer).1,
                (Query.run_gather_broken states hcall' (hsame.trans hanswer)).1]

/-- What is done with a workspace: its documents are edited, and declarations are asked for. -/
inductive Action where
  | edit (e : Edit)
  | declarations (id : String)
deriving DecidableEq, Repr

/-- Carries out an action and tells what befell the states of a memoizing handler: the changes that
were delivered are read from the journal, the questions are those that a query really asked. -/
def act (h : Handler) (key : String) (read : DeclarationReader) (w : Workspace) :
    Action → Workspace × List Occurrence
  | .edit e =>
    (w.apply e, ((w.apply e).journal.drop w.journal.length).filterMap JournalEntry.occurrence?)
  | .declarations id =>
    (((Query.declarations id).run w).2,
      match w.document? id with
      | some d => (Query.consulted d declared? d.sections w).filterMap (asking h key read)
      | none => [])

/-- Carries out actions one after the other and tells all that befell the states. -/
def history (h : Handler) (key : String) (read : DeclarationReader) (w : Workspace)
    (past : List Occurrence) : List Action → Workspace × List Occurrence
  | [] => (w, past)
  | a :: actions =>
    history h key read (act h key read w a).1 (past ++ (act h key read w a).2) actions

/-- An action keeps a workspace well formed and what is kept in it coherent. -/
theorem Kept.act (hmemo : h.Memoizes key read) (hw : w.WellFormed)
    (hkept : Kept h key read w past []) (a : Action) :
    (act h key read w a).1.WellFormed ∧
      Kept h key read (act h key read w a).1 (past ++ (act h key read w a).2) [] := by
  cases a with
  | edit e =>
      refine ⟨hw.apply e, ?_⟩
      obtain ⟨entries, hjournal, hdelivered⟩ := (hkept.effect hw e).deliver hmemo
      rw [(effect_shared e).2.2, ← apply_eq_deliver_effect] at hjournal
      rw [← apply_eq_deliver_effect] at hdelivered
      change Kept h key read (w.apply e) (past ++
        ((w.apply e).journal.drop w.journal.length).filterMap JournalEntry.occurrence?) []
      rw [hjournal, List.drop_left]
      exact hdelivered
  | declarations id =>
      unfold Workspace.act
      simp only
      cases hd : w.document? id with
      | none =>
          simp only [Query.run_declarations_of_none hd, List.append_nil]
          exact ⟨hw, hkept⟩
      | some d =>
          simp only [Query.run_declarations_of_some hd]
          exact ⟨hw.gather d declared? d.sections, hkept.gather hmemo d (hw.present hd)⟩

/-- What is kept stays so through any actions. -/
theorem Kept.history (hmemo : h.Memoizes key read) (hw : w.WellFormed)
    (hkept : Kept h key read w past []) (actions : List Action) :
    (history h key read w past actions).1.WellFormed ∧
      Kept h key read (history h key read w past actions).1
        (history h key read w past actions).2 [] := by
  induction actions generalizing w past with
  | nil => exact ⟨hw, hkept⟩
  | cons a actions ih =>
      obtain ⟨hw', hkept'⟩ := hkept.act hmemo hw a
      exact ih hw' hkept'

/-- At the beginning nothing is kept, and nothing is due. -/
theorem kept_empty (grammars : GrammarRegistry) (segmenter : Segmenter) (h : Handler) (key : String)
    (read : DeclarationReader) :
    Kept h key read (.empty (grammars.register h) segmenter) [] [] := by
  refine ⟨?_, timely_nil, ?_⟩
  · refine (grammars.handler?_register h h.name).trans ?_
    rw [if_pos rfl]
  · intro state view hview
    cases hview

/-- Whatever was done with the documents and asked about them: the declarations of a document are
those that are found without memoization in its text as it is, and computations ran at the first
question after a state was created or updated and at no other. -/
theorem declarations_memoized (grammars : GrammarRegistry) (segmenter : Segmenter) (h : Handler)
    (key : String) (read : DeclarationReader) (hmemo : h.Memoizes key read)
    (actions : List Action) :
    (∀ id, ((Query.declarations id).run
        (history h key read (.empty (grammars.register h) segmenter) [] actions).1).1 =
      ((Query.declarations id).run
        ((history h key read (.empty (grammars.register h) segmenter) [] actions).1.withHandler
          (h.reading read))).1) ∧
      Timely (history h key read (.empty (grammars.register h) segmenter) [] actions).2 := by
  obtain ⟨hw, hkept⟩ := (kept_empty grammars segmenter h key read).history hmemo
    (wellFormed_empty (grammars.register h) segmenter) actions
  refine ⟨?_, hkept.timely⟩
  generalize (history h key read (.empty (grammars.register h) segmenter) [] actions).1 = w at *
  intro id
  have hagree : Agree h read w (w.withHandler (h.reading read)) := by
    refine ⟨?_, ?_, ?_⟩
    · refine (w.grammars.handler?_register (h.reading read) h.name).trans ?_
      exact if_pos rfl
    · intro grammar hgrammar
      refine (w.grammars.handler?_register (h.reading read) grammar).trans ?_
      exact if_neg hgrammar.symm
    · intro state view hview
      exact ⟨view.properties, hview, fun _ => rfl⟩
  cases hd : w.document? id with
  | none =>
      have hd' : (w.withHandler (h.reading read)).document? id = none := hd
      rw [Query.run_declarations_of_none hd, Query.run_declarations_of_none hd']
  | some d =>
      have hd' : (w.withHandler (h.reading read)).document? id = some d := hd
      rw [Query.run_declarations_of_some hd, Query.run_declarations_of_some hd']
      exact hkept.gather_eq hmemo hagree d (hw.present hd)

/-- Declares one entity in each section: its text. -/
def declareText : DeclarationReader := fun id s text =>
  text.toOption.toList.map fun text => ⟨text, s.grammar, ⟨id, .point ⟨s.start, 0⟩⟩, []⟩

/-- A document is asked for its declarations twice, again when only a break was changed, and again
when it was closed and opened anew. -/
def askedAndEdited : List Action :=
  [.edit (.openText "notes" "intro\n###Mapping\nx"), .declarations "notes", .declarations "notes",
    .edit (.changeText "notes" "intro\n###Mapping\r\nx"), .declarations "notes",
    .edit (.close "notes"), .declarations "notes", .edit (.openText "notes" "###Mapping"),
    .declarations "notes"]

/-- A handler that keeps its declarations is asked, told of an edit and asked again. -/
theorem declarations_memoized_askedAndEdited :
    (Handler.memoizing "Mapping" "decls" declareText).Memoizes "decls" declareText ∧
      ∃ (w : Workspace) (past : List Occurrence),
        history (.memoizing "Mapping" "decls" declareText) "decls" declareText
          (.empty (GrammarRegistry.empty.register (.memoizing "Mapping" "decls" declareText))
            default) [] askedAndEdited = (w, past) ∧
        past = [.told ⟨⟨"notes", 0⟩, 0, 1⟩ .created, .asked ⟨⟨"notes", 0⟩, 0, 1⟩ true,
          .asked ⟨⟨"notes", 0⟩, 0, 1⟩ false, .told ⟨⟨"notes", 0⟩, 0, 1⟩ .updated,
          .asked ⟨⟨"notes", 0⟩, 0, 1⟩ true, .told ⟨⟨"notes", 0⟩, 0, 1⟩ .removed,
          .told ⟨⟨"notes", 2⟩, 2, 0⟩ .created, .asked ⟨⟨"notes", 2⟩, 2, 0⟩ true] ∧
        (∀ id, ((Query.declarations id).run w).1 =
          ((Query.declarations id).run (w.withHandler
            ((Handler.memoizing "Mapping" "decls" declareText).reading declareText))).1) ∧
        Timely past := by
  have hmemo := Handler.memoizes_memoizing "Mapping" "decls" declareText
  obtain ⟨hsame, htimely⟩ :=
    declarations_memoized .empty default _ "decls" declareText hmemo askedAndEdited
  exact ⟨hmemo, _, _, (Prod.eta _).symm, by decide +kernel, hsame, htimely⟩

end Workspace

end Polyglot
