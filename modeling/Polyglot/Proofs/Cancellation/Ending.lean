import Polyglot.Proofs.Cancellation.Firing

/-!
# When work comes to an end

A step registers a listener or uses something up: a listener that fires is not waiting any more, and
the other steps shorten a frame (`stepBy_progress`). So work comes to an end exactly if it registers
only so many listeners (`ends_iff`). It may go on without end: on a cancelled token, a listener that
registers one like itself never lets the call return that registered it (`not_ends_listen`).
-/

set_option autoImplicit false

namespace Polyglot

variable {α : Type}

namespace Frame

/-- How many listeners are going to fire from the frame. -/
def pending : Frame α → Nat
  | .body _ => 0
  | .queue _ ls => ls.length

/-- How many steps the frame may take at most before a listener fires or is registered. -/
def extent : Frame α → Nat
  | .body rs => 1 + 2 * rs.length
  | .queue _ _ => 1

end Frame

namespace Cancellations

/-- How many listeners wait on tokens. -/
def waiters (c : Cancellations α) : Nat :=
  total (fun t : Token α => t.listeners.length) c.tokens

/-- How many listeners have not fired yet, on tokens and in frames. -/
def unfired (c : Cancellations α) (fs : List (Frame α)) : Nat :=
  c.waiters + total Frame.pending fs

variable {conduct : Conduct α} {m n : Nat} {c c' d : Cancellations α} {h h' : List (Event α)}
  {fs gs : List (Frame α)} {key : TokenKey}

/-! ## What a step uses up -/

/-- Replacing a token puts its new listeners in place of the old ones. -/
theorem waiters_update {old : Token α} (new : Token α) (htoken : c.token? key = some old) :
    (c.update key new).waiters + old.listeners.length = c.waiters + new.listeners.length :=
  total_set (fun t : Token α => t.listeners.length) c.tokens key.serial old new htoken

/-- Either a listener is registered, or one fires, or only frames get shorter. -/
theorem stepBy_progress (conduct : Conduct α) (c : Cancellations α) (f : Frame α) :
    (c.stepBy conduct f).1.registered = c.registered + 1 ∨
      (c.stepBy conduct f).1.registered = c.registered ∧
        ((c.stepBy conduct f).1.unfired (c.stepBy conduct f).2 < c.unfired [f] ∨
          (c.stepBy conduct f).1.unfired (c.stepBy conduct f).2 = c.unfired [f] ∧
            total Frame.extent (c.stepBy conduct f).2 < f.extent) := by
  rcases f with (_ | ⟨r, rs⟩) | ⟨key, _ | ⟨l, ls⟩⟩
  · simp [stepBy, unfired, Frame.pending, Frame.extent]
  · cases r with
    | panic =>
        refine Or.inr ⟨rfl, Or.inr ⟨rfl, ?_⟩⟩
        simp only [stepBy, Frame.extent, total_nil, List.length_cons]
        omega
    | close key =>
        have hsame : (c.close key).registered = c.registered := by
          unfold close
          split <;> rfl
        simp [stepBy, unfired, waiters, hsame, Frame.pending, Frame.extent]
    | cancel key =>
        simp only [stepBy]
        split
        · simp [unfired, Frame.pending, Frame.extent]
        · rename_i token htoken
          split
          · simp [unfired, Frame.pending, Frame.extent]
          · -- The listeners go from the token into a frame, and fewer reactions are left.
            have hwaiters := waiters_update ⟨token.id, true, []⟩ htoken
            refine Or.inr ⟨rfl, Or.inr ?_⟩
            simp only [unfired, Frame.pending, Frame.extent, List.length_nil, List.length_cons,
              total_cons, total_nil] at hwaiters ⊢
            omega
    | listen key label reactions =>
        simp only [stepBy, enlist]
        split
        · simp [unfired, Frame.pending, Frame.extent]
        · split
          · exact Or.inl rfl
          · exact Or.inl rfl
  · simp [stepBy, unfired, Frame.pending, Frame.extent]
  · simp [stepBy, record, unfired, waiters, Frame.pending]

/-- Listeners are only added to those registered. -/
theorem Works.registered_le (hw : Works conduct n c fs h c' gs) : c.registered ≤ c'.registered := by
  induction hw with
  | refl c fs => exact Nat.le_refl _
  | @step _ c _ f _ _ _ rest ih =>
      refine Nat.le_trans ?_ ih
      rcases stepBy_progress conduct c f with hmore | ⟨hsame, _⟩ <;> omega

/-- Work comes to an end if it cannot register more than a number of listeners. -/
theorem ends_of_bounded (bound : Nat) (c : Cancellations α) (fs : List (Frame α))
    (hbound : ∀ n h c' gs, Works conduct n c fs h c' gs → c'.registered ≤ bound) :
    Ends conduct c fs := by
  match fs with
  | [] => exact ⟨0, [], c, .refl c []⟩
  | f :: fs =>
      obtain ⟨n, h, c', hrest⟩ := ends_of_bounded bound (c.stepBy conduct f).1
        ((c.stepBy conduct f).2 ++ fs) fun n h c' gs hw => hbound (n + 1) _ c' gs (.step hw)
      exact ⟨n + 1, _, c', .step hrest⟩
-- Frames get shorter until a listener fires, and the bound leaves room for only so many more.
termination_by (bound - c.registered, c.unfired fs, total Frame.extent fs)
decreasing_by
  have hnext := hbound 1 _ _ _ (.step (.refl _ _))
  simp only [Prod.lex_def, unfired, total_append, total_cons]
  rcases stepBy_progress conduct c f with hmore | ⟨hsame, hfires | ⟨hkept, hshorter⟩⟩
  · omega
  · simp only [unfired, total_cons, total_nil] at hfires
    omega
  · simp only [unfired, total_cons, total_nil] at hkept
    omega

/-- Work comes to an end exactly if it registers only so many listeners. -/
theorem ends_iff : Ends conduct c fs ↔
    ∃ bound, ∀ n h c' gs, Works conduct n c fs h c' gs → c'.registered ≤ bound := by
  constructor
  · rintro ⟨m, h, c', hwhole⟩
    refine ⟨c'.registered, fun n h' d gs hw => ?_⟩
    obtain ⟨k, h'', hrest⟩ := hw.exists_rest hwhole
    exact hrest.registered_le
  · rintro ⟨bound, hbound⟩
    exact ends_of_bounded bound c fs hbound

/-! ## Cancelled tokens stay cancelled -/

/-- No step takes back that a token is cancelled. -/
theorem Moves.isCancelled {f : Frame α} {es : List (Event α)} (hmoves : Moves c f es c' gs)
    (hyes : c.isCancelled key = true) : c'.isCancelled key = true := by
  cases hmoves with
  | quiet tokens_eq registered_eq fired_eq idle => rwa [isCancelled_congr tokens_eq]
  | cancels key' rs token token_eq pending =>
      rw [isCancelled_update token_eq]
      split
      · rfl
      · exact hyes
  | waits key' label reactions rs token token_eq pending =>
      rw [isCancelled_update (c := (c.enlist label reactions).2) token_eq]
      split
      · rename_i hkey
        rwa [hkey, isCancelled_eq token_eq] at hyes
      · exact hyes
  | starts key' label reactions rs token token_eq done => exact hyes
  | fires key' l ls rs => exact hyes

/-- A token that is cancelled stays so, however far the work has come. -/
theorem Works.isCancelled (hw : Works conduct n c fs h c' gs) (hyes : c.isCancelled key = true) :
    c'.isCancelled key = true := by
  induction hw with
  | refl c fs => exact hyes
  | step rest ih => exact ih ((moves_stepBy conduct _ _).isCancelled hyes)

/-- The first thing that cancelling a token does is to set its flag. -/
theorem isCancelled_stepBy_cancel (conduct : Conduct α) (hmade : (c.token? key).isSome)
    (rest : List (Reaction α)) :
    (c.stepBy conduct (.body (.cancel key :: rest))).1.isCancelled key = true := by
  obtain ⟨token, htoken⟩ := Option.isSome_iff_exists.1 hmade
  cases hflag : token.cancelled with
  | true => simpa [stepBy, htoken, hflag] using (isCancelled_eq htoken).trans hflag
  | false =>
      simp only [stepBy, htoken, hflag, Bool.false_eq_true, if_false]
      rw [isCancelled_update htoken, if_pos rfl]

/-- A token that was made is cancelled after a call that cancels it. -/
theorem isCancelled_cancel (hmade : (c.token? key).isSome) :
    (c.cancel key).isCancelled key = true := by
  rw [cancel, run_cons]
  obtain ⟨n, -, hrun⟩ := works_run (c.step (.body [.cancel key])).1
    ((c.step (.body [.cancel key])).2 ++ [])
  exact hrun.isCancelled (isCancelled_stepBy_cancel asPlanned hmade [])

/-! ## Work without end -/

/-- Every listener registers one like itself on the token. -/
def relentless (key : TokenKey) : Conduct α :=
  fun _ l => [.listen key l.label []]

/-- At the front a listener of the token fires next, or is registered and will fire then. -/
inductive IsRelentless (key : TokenKey) : List (Frame α) → Prop where
  | registers (label : α) (rest : List (Reaction α)) (fs : List (Frame α)) :
      IsRelentless key (.body (.listen key label [] :: rest) :: fs)
  | fires (l : Listener α) (ls : List (Listener α)) (fs : List (Frame α)) :
      IsRelentless key (.queue key (l :: ls) :: fs)

/-- Each step on a cancelled token leads to the next registration or to the next firing. -/
theorem IsRelentless.step {f : Frame α} (hfs : IsRelentless key (f :: fs))
    (hyes : c.isCancelled key = true) :
    IsRelentless key ((c.stepBy (relentless key) f).2 ++ fs) := by
  obtain ⟨token, htoken, hflag⟩ := isCancelled_iff.1 hyes
  cases hfs with
  | registers label rest fs =>
      simp only [stepBy, htoken, hflag, if_true]
      exact .fires _ [] _
  | fires l ls fs => exact .registers l.label [] _

/-- However far the work has come, another listener is going to be registered. -/
theorem Works.isRelentless (hw : Works (relentless key) n c fs h c' gs)
    (hyes : c.isCancelled key = true) (hfs : IsRelentless key fs) : IsRelentless key gs := by
  induction hw with
  | refl c fs => exact hfs
  | step rest ih => exact ih ((moves_stepBy _ _ _).isCancelled hyes) (hfs.step hyes)

/-- On a cancelled token, registering a listener that registers one like itself never ends. -/
theorem not_ends_listen (hyes : c.isCancelled key = true) (label : α) :
    ¬Ends (relentless key) c [.body [.listen key label []]] := by
  rintro ⟨n, h, c', hw⟩
  cases hw.isRelentless hyes (.registers label [] [])

end Cancellations

end Polyglot
