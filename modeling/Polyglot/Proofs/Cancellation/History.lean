import Polyglot.Cancellation.Registry

/-!
# What happens while work is done

A step of a frame registers a listener, cancels a token, lets a listener fire, or does nothing that
counts; `Moves` lists these cases with the frames that are left. `Works` takes one step after the
other and records in order what happens, whatever the conduct of the listeners is. Work need not
come to an end (`Ends`), but if listeners follow their plans it does, after as many steps as it
weighs at most (`works_run`).

Work is nested: what a reaction sets going is done before the next reaction of the same listener
(`Works.append_frames`), and a listener that breaks off takes only its own reactions with it
(`works_panic`).
-/

set_option autoImplicit false

namespace Polyglot

variable {α : Type}

/-- The firing of a listener that finds its token cancelled. -/
def Listener.firing (key : TokenKey) (l : Listener α) : Firing α :=
  ⟨l.serial, key, l.label, true⟩

namespace Cancellations

/-- What may happen in one step. -/
inductive Event (α : Type) where
  | registered (token : TokenKey) (listener : Listener α)
  | cancelled (token : TokenKey)
  | fired (firing : Firing α)

/-- What happens in one step of a frame. -/
def events (c : Cancellations α) : Frame α → List (Event α)
  | .body (.cancel key :: _) =>
    match c.token? key with
    | some token => if token.cancelled then [] else [.cancelled key]
    | none => []
  | .body (.listen key label reactions :: _) =>
    match c.token? key with
    | some _ => [.registered key (c.enlist label reactions).1]
    | none => []
  | .queue key (l :: _) => [.fired ⟨l.serial, key, l.label, c.isCancelled key⟩]
  | _ => []

/-- All that happens until the work of the frames is done, if listeners follow their plans. -/
def trace (c : Cancellations α) : List (Frame α) → List (Event α)
  | [] => []
  | f :: fs => c.events f ++ trace (c.step f).1 ((c.step f).2 ++ fs)
termination_by fs => c.waiting + Frame.weights fs
decreasing_by
  have := step_decreases c f
  simp only [Frame.weights, total_append, total_cons] at *
  omega

/-- The work of the frames goes on for a number of steps, with these events, and comes to a state
with these frames left. -/
inductive Works (conduct : Conduct α) : Nat → Cancellations α → List (Frame α) → List (Event α) →
    Cancellations α → List (Frame α) → Prop where
  | refl (c : Cancellations α) (fs : List (Frame α)) : Works conduct 0 c fs [] c fs
  | step {n : Nat} {c c' : Cancellations α} {f : Frame α} {fs gs : List (Frame α)}
      {h : List (Event α)}
      (rest : Works conduct n (c.stepBy conduct f).1 ((c.stepBy conduct f).2 ++ fs) h c' gs) :
      Works conduct (n + 1) c (f :: fs) (c.events f ++ h) c' gs

/-- The work of the frames comes to an end. -/
def Ends (conduct : Conduct α) (c : Cancellations α) (fs : List (Frame α)) : Prop :=
  ∃ n h c', Works conduct n c fs h c' []

variable {conduct : Conduct α} {m n : Nat} {c c' d : Cancellations α} {h h' : List (Event α)}
  {fs gs ks : List (Frame α)} {key : TokenKey}

namespace Works

/-- Work is done in the same way in front of other frames. -/
theorem append_frames (hw : Works conduct n c fs h c' gs) (ks : List (Frame α)) :
    Works conduct n c (fs ++ ks) h c' (gs ++ ks) := by
  induction hw with
  | refl c fs => exact .refl c (fs ++ ks)
  | step rest ih =>
      rw [List.append_assoc] at ih
      exact .step ih

/-- The work of the first frames is done before that of the others. -/
theorem split (hw : Works conduct n c (fs ++ ks) h c' []) :
    ∃ m k h₁ h₂ d, Works conduct m c fs h₁ d [] ∧ Works conduct k d ks h₂ c' [] := by
  generalize hall : fs ++ ks = all at hw
  generalize hnone : ([] : List (Frame α)) = none at hw
  induction hw generalizing fs with
  | refl c all =>
      subst hnone
      obtain ⟨rfl, rfl⟩ := List.append_eq_nil_iff.1 hall
      exact ⟨0, 0, [], [], c, .refl c [], .refl c []⟩
  | @step n c c' f all none h rest ih =>
      subst hnone
      rcases fs with _ | ⟨g, fs⟩
      · subst hall
        exact ⟨0, n + 1, [], _, c, .refl c [], .step rest⟩
      · obtain ⟨rfl, rfl⟩ := List.cons.inj hall
        obtain ⟨m, k, _, _, d, hfirst, hrest⟩ := ih (List.append_assoc _ _ _) rfl
        exact ⟨m + 1, k, _, _, d, .step hfirst, hrest⟩

/-- Work that comes to an end goes through the states to which it has got. -/
theorem exists_rest (hw : Works conduct n c fs h d gs) (hwhole : Works conduct m c fs h' c' []) :
    ∃ k h'', Works conduct k d gs h'' c' [] := by
  induction hw generalizing m h' with
  | refl c fs => exact ⟨m, h', hwhole⟩
  | step rest ih =>
      cases hwhole with
      | step hrest => exact ih hrest

end Works

/-- Step by step the work of listeners that follow their plans comes to rest, and that is what a run
gives. -/
theorem works_run (c : Cancellations α) (fs : List (Frame α)) :
    ∃ n ≤ c.waiting + Frame.weights fs, Works asPlanned n c fs (c.trace fs) (c.run fs) [] := by
  fun_induction run c fs with
  | case1 c =>
      rw [trace]
      exact ⟨0, Nat.zero_le _, .refl c []⟩
  | case2 c f fs ih =>
      obtain ⟨n, hn, hrun⟩ := ih
      have hless := step_decreases c f
      rw [trace]
      refine ⟨n + 1, ?_, .step hrun⟩
      simp only [Frame.weights, total_append, total_cons] at hn hless ⊢
      omega

/-! ## Nested work -/

/-- A listener that breaks off takes only its own reactions with it. -/
theorem works_panic (conduct : Conduct α) (c : Cancellations α) (rest : List (Reaction α))
    (fs : List (Frame α)) : Works conduct 1 c (.body (.panic :: rest) :: fs) [] c fs :=
  .step (.refl c fs)

/-- Nothing is left to do without frames. -/
theorem run_nil (c : Cancellations α) : c.run [] = c := by
  rw [run]

/-- A run takes a step of the first frame. -/
theorem run_cons (c : Cancellations α) (f : Frame α) (fs : List (Frame α)) :
    c.run (f :: fs) = (c.step f).1.run ((c.step f).2 ++ fs) := by
  rw [run]

/-- The work of the first frames is done before that of the others. -/
theorem run_append (c : Cancellations α) (fs gs : List (Frame α)) :
    c.run (fs ++ gs) = (c.run fs).run gs := by
  fun_induction run c fs with
  | case1 c => rfl
  | case2 c f fs ih => rw [List.cons_append, run_cons, ← List.append_assoc, ih]

/-- A listener that is done leaves the rest of the work as it is. -/
theorem run_body_nil (c : Cancellations α) (fs : List (Frame α)) :
    c.run (.body [] :: fs) = c.run fs :=
  run_cons c _ fs

/-- A reaction leaves the frames that it sets going in front of the reactions behind it. -/
theorem exists_stepBy_body (conduct : Conduct α) (c : Cancellations α) {r : Reaction α}
    (hr : r ≠ .panic) :
    ∃ c' gs, ∀ rs, c.stepBy conduct (.body (r :: rs)) = (c', gs ++ [.body rs]) := by
  cases r with
  | panic => exact absurd rfl hr
  | close key => exact ⟨c.close key, [], fun rs => rfl⟩
  | cancel key =>
      simp only [stepBy]
      split
      · exact ⟨c, [], fun rs => rfl⟩
      · rename_i token _
        split
        · exact ⟨c, [], fun rs => rfl⟩
        · exact ⟨_, [.queue key token.listeners], fun rs => rfl⟩
  | listen key label reactions =>
      simp only [stepBy]
      split
      · exact ⟨c, [], fun rs => rfl⟩
      · split
        · exact ⟨_, [.queue key [_]], fun rs => rfl⟩
        · exact ⟨_, [], fun rs => rfl⟩

/-- The reactions behind a reaction wait until all that it sets going is done. -/
theorem run_body_cons (c : Cancellations α) {r : Reaction α} (hr : r ≠ .panic)
    (rs : List (Reaction α)) (fs : List (Frame α)) :
    c.run (.body (r :: rs) :: fs) = (c.run [.body [r]]).run (.body rs :: fs) := by
  obtain ⟨c', gs, hstep⟩ := c.exists_stepBy_body asPlanned hr
  rw [run_cons, run_cons c, step, step, hstep, hstep]
  simp only [List.append_assoc, List.append_nil]
  rw [run_append, run_append c', run_body_nil, run_nil]
  rfl

/-- A token is cancelled if it was made and its flag is set. -/
theorem isCancelled_iff :
    c.isCancelled key = true ↔ ∃ token, c.token? key = some token ∧ token.cancelled = true := by
  cases h : c.token? key <;> simp [isCancelled, h]

/-! ## The cases of a step -/

/-- What one step of a frame does: what happens, and the state and the frames after it. -/
inductive Moves (c : Cancellations α) :
    Frame α → List (Event α) → Cancellations α → List (Frame α) → Prop where
  /-- Nothing that counts, and no listener is before or after it in the frames. -/
  | quiet {f : Frame α} {c' : Cancellations α} {fs : List (Frame α)}
      (tokens_eq : c'.tokens = c.tokens) (registered_eq : c'.registered = c.registered)
      (fired_eq : c'.fired = c.fired) (idle : ∀ g ∈ f :: fs, ∀ key l ls, g ≠ .queue key (l :: ls)) :
      Moves c f [] c' fs
  | cancels (key : TokenKey) (rs : List (Reaction α)) (token : Token α)
      (token_eq : c.token? key = some token) (pending : token.cancelled = false) :
      Moves c (.body (.cancel key :: rs)) [.cancelled key]
        (c.update key ⟨token.id, true, []⟩) [.queue key token.listeners, .body rs]
  | waits (key : TokenKey) (label : α) (reactions rs : List (Reaction α)) (token : Token α)
      (token_eq : c.token? key = some token) (pending : token.cancelled = false) :
      Moves c (.body (.listen key label reactions :: rs))
        [.registered key (c.enlist label reactions).1]
        ((c.enlist label reactions).2.update key
          { token with listeners := token.listeners ++ [(c.enlist label reactions).1] }) [.body rs]
  | starts (key : TokenKey) (label : α) (reactions rs : List (Reaction α)) (token : Token α)
      (token_eq : c.token? key = some token) (done : token.cancelled = true) :
      Moves c (.body (.listen key label reactions :: rs))
        [.registered key (c.enlist label reactions).1] (c.enlist label reactions).2
        [.queue key [(c.enlist label reactions).1], .body rs]
  /-- What the listener is going to do depends on its conduct. -/
  | fires (key : TokenKey) (l : Listener α) (ls : List (Listener α)) (rs : List (Reaction α)) :
      Moves c (.queue key (l :: ls)) [.fired ⟨l.serial, key, l.label, c.isCancelled key⟩]
        (c.record key l) [.body rs, .queue key ls]

/-- A step is one of these cases, whatever the conduct of the listeners is. -/
theorem moves_stepBy (conduct : Conduct α) (c : Cancellations α) (f : Frame α) :
    Moves c f (c.events f) (c.stepBy conduct f).1 (c.stepBy conduct f).2 := by
  rcases f with (_ | ⟨r, rs⟩) | ⟨key, _ | ⟨l, ls⟩⟩
  · exact .quiet rfl rfl rfl (by simp [stepBy])
  · cases r with
    | panic => exact .quiet rfl rfl rfl (by simp [stepBy])
    | close key =>
        refine .quiet (tokens_close c key) ?_ ?_ (by simp [stepBy]) <;>
          (simp only [stepBy, close]; split <;> rfl)
    | cancel key =>
        cases htoken : c.token? key with
        | none => simpa [events, stepBy, htoken] using Moves.quiet rfl rfl rfl (by simp)
        | some token =>
            cases hflag : token.cancelled with
            | true => simpa [events, stepBy, htoken, hflag] using Moves.quiet rfl rfl rfl (by simp)
            | false => simpa [events, stepBy, htoken, hflag] using
                Moves.cancels key rs token htoken hflag
    | listen key label reactions =>
        cases htoken : c.token? key with
        | none => simpa [events, stepBy, htoken] using Moves.quiet rfl rfl rfl (by simp)
        | some token =>
            cases hflag : token.cancelled with
            | true =>
                simpa [events, stepBy, htoken, hflag] using
                  Moves.starts key label reactions rs token htoken hflag
            | false =>
                simpa [events, stepBy, htoken, hflag] using
                  Moves.waits key label reactions rs token htoken hflag
  · exact .quiet rfl rfl rfl (by simp [stepBy])
  · exact .fires key l ls _

/-- A step of listeners that follow their plans is one of these cases. -/
theorem moves_step (c : Cancellations α) (f : Frame α) :
    Moves c f (c.events f) (c.step f).1 (c.step f).2 :=
  moves_stepBy asPlanned c f

end Cancellations

end Polyglot
