import Polyglot.Proofs.Cancellation.Holding

/-!
# The token of a task

A task has a token issued for it, may cancel and close this token while it runs, and closes it when
it ends. If the registry was empty before, it is empty afterwards, and all that is left of the task
is one more token, which is cancelled if the task cancelled it (`Underway.close`). Calls that issue
nothing leave an empty registry empty as well (`held_perform`), and what they cancel is among their
deeds (`isCancelled_perform`).
-/

set_option autoImplicit false

namespace Polyglot.Cancellations

variable {α : Type} {c c' : Cancellations α} {id : String} {cancelled : Bool} {key : TokenKey}

/-- The key of the next token. -/
def nextKey (c : Cancellations α) : TokenKey :=
  ⟨c.tokens.length⟩

/-- The state with one more token, on which no listener waits. -/
def withToken (c : Cancellations α) (id : String) (cancelled : Bool) : Cancellations α :=
  { c with tokens := c.tokens ++ [⟨id, cancelled, []⟩] }

/-- Since a token was issued, nothing but this token was cancelled or closed. -/
inductive Underway (c : Cancellations α) (id : String) (cancelled : Bool) :
    Cancellations α → Prop where
  | opened : Underway c id cancelled
      { c.withToken id cancelled with held := c.held.insert id c.nextKey }
  | closed : Underway c id cancelled (c.withToken id cancelled)

/-- A task begins when its token is issued. -/
theorem underway_issue (c : Cancellations α) (id : String) : Underway c id false (c.issue id).2 :=
  .opened

/-- One more token is cancelled as it says, and the others as before. -/
theorem isCancelled_withToken (c : Cancellations α) (id : String) (cancelled : Bool)
    (key : TokenKey) : (c.withToken id cancelled).isCancelled key = true ↔
      c.isCancelled key = true ∨ key = c.nextKey ∧ cancelled = true := by
  obtain ⟨serial⟩ := key
  simp only [isCancelled, token?, withToken, nextKey, TokenKey.mk.injEq]
  rcases Nat.lt_trichotomy serial c.tokens.length with hlt | heq | hgt
  · rw [List.getElem?_append_left hlt]
    simp [Nat.ne_of_lt hlt]
  · simp [heq]
  · rw [List.getElem?_eq_none (by simpa using Nat.succ_le_of_lt hgt),
      List.getElem?_eq_none (Nat.le_of_lt hgt)]
    simp [Nat.ne_of_gt hgt]

/-- Cancelling a token on which nothing waits sets its flag. -/
theorem cancel_of_token? (htoken : c.token? key = some ⟨id, cancelled, []⟩) :
    c.cancel key = c.update key ⟨id, true, []⟩ := by
  have hlast : ∀ c' : Cancellations α, c'.run [.body []] = c' :=
    fun c' => (run_body_nil c' []).trans (run_nil c')
  rw [cancel, run_cons]
  cases cancelled with
  | true =>
      simp only [step, stepBy, htoken, if_true]
      rw [List.append_nil, hlast, update]
      obtain ⟨hlt, hget⟩ := List.getElem?_eq_some_iff.1 htoken
      rw [← hget, List.set_getElem_self]
  | false =>
      simp only [step, stepBy, htoken, Bool.false_eq_true, if_false]
      rw [List.append_nil, run_cons]
      exact hlast _

/-- All that a task under way changes of the tokens is that there is one more. -/
theorem Underway.tokens_eq (h : Underway c id cancelled c') :
    c'.tokens = c.tokens ++ [⟨id, cancelled, []⟩] := by
  cases h <;> rfl

/-- The token of a task under way is the last one, and nobody waits on it. -/
theorem Underway.token?_eq (h : Underway c id cancelled c') :
    c'.token? c.nextKey = some ⟨id, cancelled, []⟩ := by
  rw [token?, h.tokens_eq]
  simp [nextKey]

/-- A task may cancel its token. -/
theorem Underway.cancel (h : Underway c id cancelled c') :
    Underway c id true (c'.cancel c.nextKey) := by
  have hset : c'.tokens.set c.nextKey.serial ⟨id, true, []⟩ = c.tokens ++ [⟨id, true, []⟩] := by
    rw [h.tokens_eq]
    simp [nextKey]
  rw [cancel_of_token? h.token?_eq, update, hset]
  cases h with
  | opened => exact .opened
  | closed => exact .closed

/-- Closed, the token is all that is left, if the registry was empty before. -/
theorem Underway.close (h : Underway c id cancelled c') (hempty : c.held = .empty) :
    c'.close c.nextKey = c.withToken id cancelled := by
  have hid : c'.idOf c.nextKey = id := by
    rw [idOf, h.token?_eq]
    rfl
  rw [Cancellations.close, hid]
  cases h with
  | opened =>
      have hheld : (c.held.insert id c.nextKey).find? id = some c.nextKey := by
        rw [Dictionary.find?_insert, if_pos rfl]
      have herase : (c.held.insert id c.nextKey).erase id = c.held := by
        simp [hempty, Dictionary.erase, Dictionary.insert, Dictionary.insertInto, Dictionary.empty]
      rw [get?, if_pos hheld]
      simp only [herase]
      rfl
  | closed => rw [get?, if_neg (by simp [withToken, hempty])]

/-! ## Calls that issue nothing -/

/-- There is nothing to close in an empty registry. -/
theorem close_of_empty (hempty : c.held = .empty) (key : TokenKey) : c.close key = c := by
  rw [Cancellations.close, get?, hempty, if_neg (by simp)]

/-- Work leaves an empty registry empty. -/
theorem held_run (hempty : c.held = .empty) (fs : List (Frame α)) : (c.run fs).held = .empty := by
  fun_induction run c fs with
  | case1 c => exact hempty
  | case2 c f fs ih =>
      refine ih ?_
      by_cases hclose : ∃ key rest, f = .body (.close key :: rest)
      · obtain ⟨key, rest, rfl⟩ := hclose
        rw [step, stepBy, close_of_empty hempty]
        exact hempty
      · exact (held_step fun key rest heq => hclose ⟨key, rest, heq⟩).trans hempty

/-- A call that issues nothing leaves an empty registry empty. -/
theorem held_perform (hempty : c.held = .empty) {call : Call α}
    (hissue : ∀ id, call ≠ .issue id) : (c.perform call).held = .empty := by
  rw [perform_eq_run]
  refine held_run ?_ _
  cases call with
  | issue id => exact absurd rfl (hissue id)
  | _ => exact hempty

/-- What is cancelled after work was so before or is cancelled in it. -/
theorem isCancelled_run_iff (c : Cancellations α) (fs : List (Frame α)) (key : TokenKey) :
    (c.run fs).isCancelled key = true ↔
      c.isCancelled key = true ∨ .cancelled key ∈ c.deeds fs := by
  fun_induction run c fs with
  | case1 c => simp [deeds]
  | case2 c f fs ih =>
      rw [ih, isCancelled_step, deeds, List.mem_append, Option.mem_toList, or_assoc]

/-- What is cancelled after a call was so before or is cancelled in the call. -/
theorem isCancelled_perform (c : Cancellations α) (call : Call α) (key : TokenKey) :
    (c.perform call).isCancelled key = true ↔
      c.isCancelled key = true ∨ .cancelled key ∈ c.deedsOf call := by
  have hentered : (c.entered call).isCancelled key = c.isCancelled key := by
    cases call with
    | create id => exact isCancelled_create c id key
    | issue id => exact isCancelled_create c id key
    | _ => rfl
  have hissuance : .cancelled key ∉ c.issuance call := by
    cases call <;> simp [issuance]
  rw [perform_eq_run, isCancelled_run_iff, hentered, deedsOf, List.mem_append,
    or_iff_right hissuance]

end Polyglot.Cancellations
