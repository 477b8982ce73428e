import Polyglot.Proofs.Workspace.Memory
import Polyglot.Proofs.Workspace.Telling

/-!
# Handlers that break off

A handler that is told of a change may do all that it has to do and break off at the end. Which
handlers do so, and when, may depend on the section, on the change, and on all that was delivered
and reported before (`Breakdown`). Apart from the handlers that serve it, the workspace in which
handlers break off is always the one in which none of them does: after each telling
(`withGrammars_deliverBy`), and so after each run (`withGrammars_runBy`).
-/

set_option autoImplicit false

namespace Polyglot

/-- When a handler breaks off that is told of a change, given what the workspace has told and heard
so far. -/
def Breakdown :=
  List JournalEntry → SectionView → SectionChange → Option Panic

/-- The reply of a function that does all that it has to do and then breaks off, if at all. -/
def Reply.breakingOff {β : Type} (reply : Reply β) : Option Panic → Reply β
  | some panic => { reply with answer := .error panic }
  | none => reply

/-- The handler that breaks off at the end of being told of certain changes. -/
def Handler.breakingOff (panic? : SectionView → SectionChange → Option Panic) (handler : Handler) :
    Handler :=
  { handler with
    sectionChanged := fun view change =>
      (handler.sectionChanged view change).breakingOff (panic? view change) }

namespace GrammarRegistry

/-- The registry whose handlers break off at the end of being told of certain changes. -/
def breakingOff (registry : GrammarRegistry)
    (panic? : SectionView → SectionChange → Option Panic) : GrammarRegistry :=
  ⟨registry.handlers.map (·.breakingOff panic?)⟩

/-- A registry of handlers that break off finds the same handlers, which break off. -/
theorem handler?_breakingOff (registry : GrammarRegistry)
    (panic? : SectionView → SectionChange → Option Panic) (grammar : String) :
    (registry.breakingOff panic?).handler? grammar =
      (registry.handler? grammar).map (·.breakingOff panic?) :=
  Dictionary.find?_map _ _ _

end GrammarRegistry

/-- The handlers at a moment, of which some break off. -/
def Breakdown.over (breakdown : Breakdown) (handlersAt : List JournalEntry → GrammarRegistry)
    (journal : List JournalEntry) : GrammarRegistry :=
  (handlersAt journal).breakingOff (breakdown journal)

namespace Workspace

variable {w w' : Workspace} {grammars : GrammarRegistry}

/-- What a handler leaves does not depend on whether it breaks off. -/
theorem absorb_breakingOff {β : Type} (key : SectionKey) (token? : Option TokenKey)
    (reply : Reply β) (panic? : Option Panic) :
    w.absorb key token? (reply.breakingOff panic?) = w.absorb key token? reply := by
  cases panic? <;> rfl

/-- To replace a document is the same with other handlers. -/
theorem setDocument_withGrammars (d : Document) :
    (w.withGrammars grammars).setDocument d = (w.setDocument d).withGrammars grammars := by
  have hopen : (w.withGrammars grammars).openDocument? d.key = w.openDocument? d.key := rfl
  rw [setDocument, setDocument, hopen]
  split <;> rfl

/-- To keep properties is the same with other handlers. -/
theorem setProperties_withGrammars (key : SectionKey) (properties : Properties) :
    (w.withGrammars grammars).setProperties key properties =
      (w.setProperties key properties).withGrammars grammars := by
  have hdocument : (w.withGrammars grammars).documentOf? key.document =
    w.documentOf? key.document := rfl
  rw [setProperties, setProperties, hdocument]
  split
  · exact setDocument_withGrammars _
  · rfl

/-- What a handler leaves does not depend on the handlers that serve. -/
theorem absorb_withGrammars {β : Type} (key : SectionKey) (reply : Reply β) :
    (w.withGrammars grammars).absorb key none reply =
      (w.absorb key none reply).withGrammars grammars := by
  simp only [absorb, setProperties_withGrammars]
  rfl

/-- Without a handler for its grammar nobody is told of the change. -/
theorem deliverOne_withGrammars_of_none {n : Notification}
    (hnone : ∀ view, w.view? n.state = some view →
      grammars.handler? view.current.grammar = none) :
    (w.withGrammars grammars).deliverOne n = w.withGrammars grammars := by
  have hview : (w.withGrammars grammars).view? n.state = w.view? n.state := rfl
  rw [deliverOne, hview]
  cases hfound : w.view? n.state with
  | none => rfl
  | some view =>
      have hhandler : (w.withGrammars grammars).grammars.handler? view.current.grammar = none :=
        hnone view hfound
      simp only [hhandler]

/-- The handler of the grammar is told of the change. -/
theorem deliverOne_withGrammars_of_some {n : Notification} {view : SectionView}
    {handler : Handler} (hview : w.view? n.state = some view)
    (hhandler : grammars.handler? view.current.grammar = some handler) :
    (w.withGrammars grammars).deliverOne n =
      ((w.log (.delivered n.state n.change view)).absorb n.state none
        (handler.sectionChanged view n.change)).withGrammars grammars := by
  have hview' : (w.withGrammars grammars).view? n.state = some view := hview
  have hhandler' : (w.withGrammars grammars).grammars.handler? view.current.grammar =
    some handler := hhandler
  rw [← absorb_withGrammars]
  simp only [deliverOne, hview', hhandler']
  rfl

/-- A handler that breaks off leaves what it would leave otherwise. -/
theorem withGrammars_deliverOne (panic? : SectionView → SectionChange → Option Panic)
    (n : Notification) :
    ((w.withGrammars (grammars.breakingOff panic?)).deliverOne n).withGrammars grammars =
      (w.withGrammars grammars).deliverOne n := by
  have hserved := grammars.handler?_breakingOff panic?
  rcases deliverOne_cases (w.withGrammars grammars) n with
    ⟨hsame, hnone⟩ | ⟨view, handler, hview, hhandler, _⟩
  · have hnone' : ∀ view, w.view? n.state = some view →
        (grammars.breakingOff panic?).handler? view.current.grammar = none := by
      intro view hview
      rw [hserved, Option.map_eq_none_iff]
      exact hnone view hview
    rw [deliverOne_withGrammars_of_none hnone', hsame]
    rfl
  · change w.view? n.state = some view at hview
    change grammars.handler? view.current.grammar = some handler at hhandler
    have hhandler' : (grammars.breakingOff panic?).handler? view.current.grammar =
        some (handler.breakingOff panic?) := by
      rw [hserved, hhandler, Option.map_some]
    rw [deliverOne_withGrammars_of_some hview hhandler',
      deliverOne_withGrammars_of_some hview hhandler, Handler.breakingOff, absorb_breakingOff]
    rfl

/-- At each moment of telling, the workspace in which handlers break off is the one in which they
do not. -/
theorem withGrammars_deliverBy (handlersAt : List JournalEntry → GrammarRegistry)
    (breakdown : Breakdown) (hsame : w.withGrammars grammars = w'.withGrammars grammars)
    (ns : List Notification) :
    (w.deliverBy (breakdown.over handlersAt) ns).withGrammars grammars =
      (w'.deliverBy handlersAt ns).withGrammars grammars := by
  induction ns generalizing w w' with
  | nil => exact hsame
  | cons n ns ih =>
      -- The journals are the same, so the same handlers serve now, but for those that break off.
      have hjournal : w.journal = w'.journal := by
        show (w.withGrammars grammars).journal = w'.journal
        rw [hsame]
        rfl
      have hserved : w.withGrammars (handlersAt w.journal) =
          w'.withGrammars (handlersAt w'.journal) := by
        rw [hjournal]
        exact congrArg (·.withGrammars (handlersAt w'.journal)) hsame
      have hstep : (((w.withGrammars (breakdown.over handlersAt w.journal)).deliverOne
          n).withGrammars (handlersAt w.journal)) =
            (w'.withGrammars (handlersAt w'.journal)).deliverOne n := by
        rw [← hserved]
        exact withGrammars_deliverOne (breakdown w.journal) n
      exact ih (congrArg (·.withGrammars grammars) hstep)

/-- To retire a document is the same with other handlers. -/
theorem retire_withGrammars (id : String) :
    (w.withGrammars grammars).retire id =
      ((w.retire id).1.withGrammars grammars, (w.retire id).2) := by
  cases hd : w.document? id with
  | none => rw [retire_eq_of_none hd, retire_eq_of_none (w := w.withGrammars grammars) hd]
  | some d =>
      rw [retire_eq_of_some hd, retire_eq_of_some (w := w.withGrammars grammars) hd]
      rfl

/-- Before it tells the handlers, no edit asks for them. -/
theorem start_withGrammars (e : Edit) :
    (w.withGrammars grammars).start e =
      (w.start e).map fun started => (started.1.withGrammars grammars, started.2) := by
  cases e with
  | openText id text =>
      rw [start, install, retire_withGrammars]
      rfl
  | changeText id text =>
      rw [start, start]
      cases hd : w.document? id with
      | none =>
          have hd' : (w.withGrammars grammars).document? id = none := hd
          simp only [replace, hd, hd', Except.map]
      | some d =>
          rw [replace_eq_of_some hd, replace_eq_of_some (w := w.withGrammars grammars) hd]
          rfl
  | close id =>
      rw [start, start]
      cases hd : w.document? id with
      | none =>
          have hd' : (w.withGrammars grammars).document? id = none := hd
          simp only [withdraw, hd, hd', Except.map]
      | some d =>
          rw [withdraw_eq_of_some hd, withdraw_eq_of_some (w := w.withGrammars grammars) hd,
            retire_withGrammars]
          rfl

/-- The effect of an edit is the same with other handlers. -/
theorem effect_withGrammars (e : Edit) :
    (w.withGrammars grammars).effect e =
      ((w.effect e).1.withGrammars grammars, (w.effect e).2) := by
  rw [effect_eq_start, effect_eq_start, start_withGrammars]
  cases w.start e <;> rfl

/-- An edit starts in the same way in workspaces that are the same but for the handlers. -/
theorem start_congr (hsame : w.withGrammars grammars = w'.withGrammars grammars) (e : Edit) :
    (∃ reason, w.start e = .error reason ∧ w'.start e = .error reason) ∨
      ∃ v v' ns, w.start e = .ok (v, ns) ∧ w'.start e = .ok (v', ns) ∧
        v.withGrammars grammars = v'.withGrammars grammars := by
  have hstart : (w'.start e).map (fun started => (started.1.withGrammars grammars, started.2)) =
      (w.start e).map fun started => (started.1.withGrammars grammars, started.2) := by
    rw [← start_withGrammars, ← start_withGrammars, hsame]
  cases hw : w.start e with
  | error reason =>
      cases hw' : w'.start e with
      | error reason' =>
          rw [hw, hw'] at hstart
          obtain rfl := Except.error.inj hstart
          exact Or.inl ⟨reason', rfl, rfl⟩
      | ok started' =>
          rw [hw, hw'] at hstart
          cases hstart
  | ok started =>
      cases hw' : w'.start e with
      | error reason' =>
          rw [hw, hw'] at hstart
          cases hstart
      | ok started' =>
          rw [hw, hw'] at hstart
          obtain ⟨hstarted, htold⟩ := Prod.mk.inj (Except.ok.inj hstart)
          refine Or.inr ⟨started.1, started'.1, started.2, rfl, ?_, hstarted.symm⟩
          rw [← htold]

/-- An edit has the same result whether handlers break off or not. -/
theorem withGrammars_editBy (handlersAt : List JournalEntry → GrammarRegistry)
    (breakdown : Breakdown) (hsame : w.withGrammars grammars = w'.withGrammars grammars)
    (e : Edit) :
    (w.editBy (breakdown.over handlersAt) e).map (·.withGrammars grammars) =
      (w'.editBy handlersAt e).map (·.withGrammars grammars) := by
  unfold editBy
  rcases start_congr hsame e with ⟨reason, hw, hw'⟩ | ⟨v, v', ns, hw, hw', hstarted⟩
  · rw [hw, hw']
    rfl
  · rw [hw, hw']
    exact congrArg Except.ok (withGrammars_deliverBy handlersAt breakdown hstarted ns)

/-- An edit has the same outcome whether handlers break off or not. -/
theorem withGrammars_applyBy (handlersAt : List JournalEntry → GrammarRegistry)
    (breakdown : Breakdown) (hsame : w.withGrammars grammars = w'.withGrammars grammars)
    (e : Edit) :
    (w.applyBy (breakdown.over handlersAt) e).withGrammars grammars =
      (w'.applyBy handlersAt e).withGrammars grammars := by
  unfold applyBy editBy
  rcases start_congr hsame e with ⟨reason, hw, hw'⟩ | ⟨v, v', ns, hw, hw', hstarted⟩
  · rw [hw, hw']
    exact hsame
  · rw [hw, hw']
    exact withGrammars_deliverBy handlersAt breakdown hstarted ns

/-- A run has the same outcome whether handlers break off or not. -/
theorem withGrammars_runBy (handlersAt : List JournalEntry → GrammarRegistry)
    (breakdown : Breakdown) (hsame : w.withGrammars grammars = w'.withGrammars grammars)
    (es : List Edit) :
    (w.runBy (breakdown.over handlersAt) es).withGrammars grammars =
      (w'.runBy handlersAt es).withGrammars grammars := by
  induction es generalizing w w' with
  | nil => exact hsame
  | cons e es ih => exact ih (withGrammars_applyBy handlersAt breakdown hsame e)

/-! ### Against handlers that stay the same -/

/-- Delivered to handlers that break off, notifications leave what they leave otherwise. -/
theorem deliverBy_over_const (breakdown : Breakdown) (ns : List Notification) :
    (w.deliverBy (breakdown.over fun _ => grammars) ns).withGrammars grammars =
      (w.withGrammars grammars).deliver ns := by
  have hsame : (w.deliverBy (breakdown.over fun _ => grammars) ns).withGrammars grammars =
      ((w.withGrammars grammars).deliverBy (fun _ => grammars) ns).withGrammars grammars :=
    withGrammars_deliverBy _ breakdown (withGrammars_withGrammars w _ _).symm ns
  rw [hsame, deliverBy_const (grammars_withGrammars w grammars)]
  exact withGrammars_self (grammars_deliver _ ns)

/-- With handlers that break off, an edit gives what it gives otherwise. -/
theorem editBy_over_const (breakdown : Breakdown) (e : Edit) :
    (w.editBy (breakdown.over fun _ => grammars) e).map (·.withGrammars grammars) =
      (w.withGrammars grammars).edit e := by
  have hsame : (w.editBy (breakdown.over fun _ => grammars) e).map (·.withGrammars grammars) =
      ((w.withGrammars grammars).editBy (fun _ => grammars) e).map (·.withGrammars grammars) :=
    withGrammars_editBy _ breakdown (withGrammars_withGrammars w _ _).symm e
  rw [hsame, editBy_const (grammars_withGrammars w grammars)]
  exact edit_withGrammars_self rfl e

/-- With handlers that break off, edits lead where they lead otherwise. -/
theorem runBy_over_const (breakdown : Breakdown) (es : List Edit) :
    (w.runBy (breakdown.over fun _ => grammars) es).withGrammars grammars =
      (w.withGrammars grammars).run es := by
  have hsame : (w.runBy (breakdown.over fun _ => grammars) es).withGrammars grammars =
      ((w.withGrammars grammars).runBy (fun _ => grammars) es).withGrammars grammars :=
    withGrammars_runBy _ breakdown (withGrammars_withGrammars w _ _).symm es
  rw [hsame, runBy_const (grammars_withGrammars w grammars)]
  exact withGrammars_self (grammars_run _ es)

/-- A run of edits in which handlers, when they are told of changes, do what they have to do and
break off at the end, against the run in which they do not. The workspaces are the same but for the
handlers that serve them: documents, sections, revisions, what is attached, and all that was
delivered and reported. The next edit has the same result. It takes the same effect, the same is
then to be told, and the workspaces are still the same after any part of the telling. All this holds
whatever the panics depend on; handlers whose panics depend on nothing but the section and the
change may take part in the run as they are. And it holds of handlers with a memory, whose replies
depend on all that went before. -/
theorem panics_are_isolated (grammars : GrammarRegistry) (segmenter : Segmenter)
    (breakdown : Breakdown) (es : List Edit) :
    let calm := (Workspace.empty grammars segmenter).run es
    let shakenBy := breakdown.over fun _ => grammars
    let shaken := (Workspace.empty grammars segmenter).runBy shakenBy es
    shaken.withGrammars grammars = calm ∧
    shaken.journal = calm.journal ∧
    (∀ e, (shaken.editBy shakenBy e).map (·.withGrammars grammars) = calm.edit e) ∧
    (∀ e, (shaken.effect e).2 = (calm.effect e).2 ∧
      ∀ told, ((shaken.effect e).1.deliverBy shakenBy told).withGrammars grammars =
        (calm.effect e).1.deliver told) ∧
    (∀ panic? : SectionView → SectionChange → Option Panic,
      ((Workspace.empty (grammars.breakingOff panic?) segmenter).run es).withGrammars grammars =
        calm) ∧
    ∀ handlersAt : List JournalEntry → GrammarRegistry,
      ((Workspace.empty grammars segmenter).runBy (breakdown.over handlersAt) es).withGrammars
        grammars = ((Workspace.empty grammars segmenter).runBy handlersAt es).withGrammars
          grammars := by
  intro calm shakenBy shaken
  have hsame : shaken.withGrammars grammars = calm := runBy_over_const breakdown es
  have heffect : ∀ e, calm.effect e =
      ((shaken.effect e).1.withGrammars grammars, (shaken.effect e).2) := by
    intro e
    rw [← hsame, effect_withGrammars]
  refine ⟨hsame, ?_, fun e => ?_, fun e => ?_, fun panic? => ?_, fun handlersAt => ?_⟩
  · show (shaken.withGrammars grammars).journal = calm.journal
    rw [hsame]
  · rw [editBy_over_const, hsame]
  · rw [heffect]
    exact ⟨rfl, deliverBy_over_const breakdown⟩
  · have hfixed := runBy_const (w := .empty (grammars.breakingOff panic?) segmenter) rfl es
    rw [← hfixed]
    exact runBy_over_const (fun _ => panic?) es
  · exact withGrammars_runBy handlersAt breakdown rfl es

/-- A section whose handler breaks off comes before one whose handler is told all the same. -/
example :
    let handlers := (GrammarRegistry.ofList [.plain "Broken", .plain "Mapping"]).breakingOff
      fun view _ => if view.current.grammar = "Broken" then some (.ofMessage "broken") else none
    (((Workspace.empty handlers default).run
      [.openText "doc1" "###Broken\nx\n###Mapping\ny"]).tellings.map Prod.fst =
        [⟨⟨⟨"doc1", 0⟩, 0, 0⟩, .created⟩, ⟨⟨⟨"doc1", 0⟩, 0, 1⟩, .created⟩]) := by
  decide +kernel

end Workspace

end Polyglot
