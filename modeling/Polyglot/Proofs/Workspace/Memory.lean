import Polyglot.Proofs.Workspace.Reachable

/-!
# Handlers with a memory

The handlers of a workspace answer from what they are shown. A handler that also remembers what went
before is one that depends on the journal, which holds all that was delivered and reported:
`deliverBy` and the functions built on it carry out edits with handlers that are chosen anew for
each delivery. With handlers that stay the same they are `deliver`, `edit` and `run`
(`runBy_const`).
-/

set_option autoImplicit false

namespace Polyglot

namespace Workspace

/-- The workspace served by other handlers. -/
def withGrammars (w : Workspace) (grammars : GrammarRegistry) : Workspace :=
  { w with grammars := grammars }

/-- Tells the handlers of changes, each time those that the journal chooses. -/
def deliverBy (handlersAt : List JournalEntry → GrammarRegistry) (w : Workspace)
    (ns : List Notification) : Workspace :=
  ns.foldl (fun w n => (w.withGrammars (handlersAt w.journal)).deliverOne n) w

/-- What an edit does before the handlers are told, and what they are to be told. -/
def start (w : Workspace) : Edit → Except Error (Workspace × List Notification)
  | .openText id text => .ok (w.install id text)
  | .changeText id text => w.replace id text
  | .close id => w.withdraw id

/-- Carries out an edit with the handlers that the journal chooses. -/
def editBy (handlersAt : List JournalEntry → GrammarRegistry) (w : Workspace) (e : Edit) :
    Except Error Workspace :=
  (w.start e).map fun (w', ns) => w'.deliverBy handlersAt ns

/-- Carries out an edit with the handlers that the journal chooses; one that fails leaves the
workspace as it is. -/
def applyBy (handlersAt : List JournalEntry → GrammarRegistry) (w : Workspace) (e : Edit) :
    Workspace :=
  match w.editBy handlersAt e with
  | .ok w' => w'
  | .error _ => w

/-- Carries out edits one after the other with the handlers that the journal chooses. -/
def runBy (handlersAt : List JournalEntry → GrammarRegistry) (w : Workspace) (es : List Edit) :
    Workspace :=
  es.foldl (applyBy handlersAt) w

variable {w w' : Workspace} {grammars : GrammarRegistry}

/-- An edit starts, and what it is to tell is then delivered. -/
theorem edit_eq_start (e : Edit) : w.edit e = (w.start e).map fun (w', ns) => w'.deliver ns := by
  cases e <;> rfl

/-- The effect of an edit is how it starts, and an edit that is refused has none. -/
theorem effect_eq_start (e : Edit) : w.effect e = (w.start e).toOption.getD (w, []) := by
  cases e <;> rfl

/-- An edit takes effect as a whole and then tells the handlers, also those that the journal
chooses. -/
theorem applyBy_eq_deliverBy_effect (handlersAt : List JournalEntry → GrammarRegistry) (e : Edit) :
    w.applyBy handlersAt e = (w.effect e).1.deliverBy handlersAt (w.effect e).2 := by
  rw [applyBy, editBy, effect_eq_start]
  cases w.start e <;> rfl

/-! ## Handlers that stay the same -/

/-- The handlers of a workspace are those that it was given. -/
theorem grammars_withGrammars (w : Workspace) (grammars : GrammarRegistry) :
    (w.withGrammars grammars).grammars = grammars :=
  rfl

/-- Of handlers that are given one after the other the last ones count. -/
theorem withGrammars_withGrammars (w : Workspace) (registry grammars : GrammarRegistry) :
    (w.withGrammars registry).withGrammars grammars = w.withGrammars grammars :=
  rfl

/-- To give a workspace its own handlers changes nothing. -/
theorem withGrammars_self (hw : w.grammars = grammars) : w.withGrammars grammars = w := by
  rw [← hw]
  rfl

/-- To tell a handler of a change leaves the handlers as they are. -/
theorem grammars_deliverOne (w : Workspace) (n : Notification) :
    (w.deliverOne n).grammars = w.grammars := by
  rcases deliverOne_cases w n with ⟨heq, _⟩ | ⟨view, handler, _, _, heq⟩
  · rw [heq]
  · rw [heq, absorb_grammars]
    rfl

/-- To tell handlers of changes leaves the handlers as they are. -/
theorem grammars_deliver (w : Workspace) (ns : List Notification) :
    (w.deliver ns).grammars = w.grammars := by
  induction ns generalizing w with
  | nil => rfl
  | cons n ns ih => exact (ih (w.deliverOne n)).trans (grammars_deliverOne w n)

/-- With handlers that stay the same, notifications are delivered as they are otherwise. -/
theorem deliverBy_const (hw : w.grammars = grammars) (ns : List Notification) :
    w.deliverBy (fun _ => grammars) ns = w.deliver ns := by
  induction ns generalizing w with
  | nil => rfl
  | cons n ns ih =>
      calc w.deliverBy (fun _ => grammars) (n :: ns)
          = ((w.withGrammars grammars).deliverOne n).deliverBy (fun _ => grammars) ns := rfl
        _ = (w.deliverOne n).deliverBy (fun _ => grammars) ns := by rw [withGrammars_self hw]
        _ = (w.deliverOne n).deliver ns := ih ((grammars_deliverOne w n).trans hw)

/-- Edits leave the handlers as they are. -/
theorem grammars_run (w : Workspace) (es : List Edit) : (w.run es).grammars = w.grammars := by
  induction es generalizing w with
  | nil => rfl
  | cons e es ih =>
      have happly : (w.apply e).grammars = w.grammars := by
        rw [apply_eq_deliver_effect, grammars_deliver, (effect_shared e).1]
      exact (ih (w.apply e)).trans happly

/-- To give a workspace its own handlers after an edit changes nothing. -/
theorem edit_withGrammars_self (hw : w.grammars = grammars) (e : Edit) :
    (w.edit e).map (·.withGrammars grammars) = w.edit e := by
  cases hedit : w.edit e with
  | error reason => rfl
  | ok result =>
      have hresult : w.run [e] = result := by
        show w.apply e = result
        rw [Workspace.apply, hedit]
      have hgrammars := (grammars_run w [e]).trans hw
      rw [hresult] at hgrammars
      exact congrArg Except.ok (withGrammars_self hgrammars)

/-- With handlers that stay the same, an edit gives what it gives otherwise. -/
theorem editBy_const (hw : w.grammars = grammars) (e : Edit) :
    w.editBy (fun _ => grammars) e = w.edit e := by
  rw [editBy, edit_eq_start]
  cases hstart : w.start e with
  | error reason => rfl
  | ok started =>
      have hgrammars := (effect_shared (w := w) e).1
      rw [effect_eq_start, hstart] at hgrammars
      exact congrArg Except.ok (deliverBy_const (hgrammars.trans hw) started.2)

/-- With handlers that stay the same, edits lead where they lead otherwise. -/
theorem runBy_const (hw : w.grammars = grammars) (es : List Edit) :
    w.runBy (fun _ => grammars) es = w.run es := by
  induction es generalizing w with
  | nil => rfl
  | cons e es ih =>
      have happly : w.applyBy (fun _ => grammars) e = w.apply e := by
        rw [applyBy, editBy_const hw]
        rfl
      calc w.runBy (fun _ => grammars) (e :: es)
          = (w.applyBy (fun _ => grammars) e).runBy (fun _ => grammars) es := rfl
        _ = (w.apply e).runBy (fun _ => grammars) es := by rw [happly]
        _ = (w.apply e).run es := ih ((grammars_run w [e]).trans hw)

/-! ## Handlers of any kind -/

/-- A workspace is well formed with any handlers. -/
theorem WellFormed.withGrammars (hw : w.WellFormed) (grammars : GrammarRegistry) :
    (w.withGrammars grammars).WellFormed :=
  ⟨hw.id_eq, hw.opened, hw.released, hw.retired_nodup, hw.retired_lt⟩

/-- Alike workspaces are so with any handlers. -/
theorem Alike.withGrammars (h : Alike w w') (grammars : GrammarRegistry) :
    Alike (w.withGrammars grammars) (w'.withGrammars grammars) :=
  ⟨rfl, h.segmenter, h.closed, h.document, h.retired⟩

/-- Handlers with a memory, too, leave a workspace alike. -/
theorem WellFormed.alike_deliverBy (hw : w.WellFormed)
    (handlersAt : List JournalEntry → GrammarRegistry) (grammars : GrammarRegistry)
    (ns : List Notification) :
    Alike (w.withGrammars grammars) ((w.deliverBy handlersAt ns).withGrammars grammars) := by
  induction ns generalizing w with
  | nil => exact Alike.refl _
  | cons n ns ih =>
      have hserved := (hw.withGrammars (handlersAt w.journal)).alike_deliverOne n
      have hnext := (hw.withGrammars (handlersAt w.journal)).of_alike hserved
      exact (hserved.withGrammars grammars).trans (ih hnext)

/-- An edit leaves a workspace well formed, whatever handlers are told of it. -/
theorem WellFormed.applyBy (hw : w.WellFormed) (handlersAt : List JournalEntry → GrammarRegistry)
    (e : Edit) : (w.applyBy handlersAt e).WellFormed := by
  have heffect := hw.effect e
  have halike := heffect.alike_deliverBy handlersAt w.grammars (w.effect e).2
  rw [applyBy_eq_deliverBy_effect]
  exact ((heffect.withGrammars w.grammars).of_alike halike).withGrammars _

end Workspace

end Polyglot
