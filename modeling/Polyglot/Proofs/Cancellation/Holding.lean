import Polyglot.Proofs.Cancellation.Calls
import Polyglot.Proofs.Sequence

/-!
# What the registry holds and which tokens are cancelled

The deeds of calls and of listeners are kept in one list: tokens are issued, cancelled and closed.
Under an identifier the registry holds the token that was issued last, as long as that very token
has not been closed since (`IsHeld`), and a token is cancelled if it was cancelled at some time,
and not by being closed or replaced. Every step agrees with its deed (`Registers.step`), so runs and
calls do (`Registers.run`, `Registers.performAll`).
-/

set_option autoImplicit false

namespace Polyglot

variable {α : Type}

namespace Cancellations

/-- What calls and listeners do to tokens and to the registry. -/
inductive Deed where
  | issued (id : String) (token : TokenKey)
  | cancelled (token : TokenKey)
  | closed (token : TokenKey)
deriving DecidableEq, Repr

/-- What is done in one step of a frame; a token that was not made cannot be cancelled. -/
def deed? (c : Cancellations α) : Frame α → Option Deed
  | .body (.cancel key :: _) => (c.token? key).map fun _ => .cancelled key
  | .body (.close key :: _) => some (.closed key)
  | _ => none

/-- All that is done until the work of the frames is done. -/
def deeds (c : Cancellations α) : List (Frame α) → List Deed
  | [] => []
  | f :: fs => (c.deed? f).toList ++ deeds (c.step f).1 ((c.step f).2 ++ fs)
termination_by fs => c.waiting + Frame.weights fs
decreasing_by
  have := step_decreases c f
  simp only [Frame.weights, total_append, total_cons] at *
  omega

/-- What a call issues. -/
def issuance (c : Cancellations α) : Call α → List Deed
  | .issue id => [.issued id (c.issue id).1]
  | _ => []

/-- What is done in a call, by its listeners too. -/
def deedsOf (c : Cancellations α) (call : Call α) : List Deed :=
  c.issuance call ++ (c.entered call).deeds [.body (c.demands call)]

/-- What is done in calls one after the other. -/
def annals (c : Cancellations α) : List (Call α) → List Deed
  | [] => []
  | call :: calls => c.deedsOf call ++ (c.perform call).annals calls

/-- A token was issued under the identifier, and since then it was not closed and no token was
issued under the identifier. -/
def IsHeld (h : List Deed) (id : String) (key : TokenKey) : Prop :=
  Since (fun d => d = .issued id key) (fun d => d = .closed key ∨ ∃ other, d = .issued id other) h

variable {c : Cancellations α} {h ds : List Deed} {f : Frame α} {fs : List (Frame α)}
  {id id' : String} {key key' : TokenKey}

/-! ## One deed more -/

/-- A token that is issued takes the place of any other under its identifier. -/
theorem isHeld_append_issued : IsHeld (h ++ [.issued id' key']) id key ↔
    (id' = id ∧ key' = key) ∨ id' ≠ id ∧ IsHeld h id key := by
  simp [IsHeld, since_append_iff]

/-- Cancelling a token does not change what is held. -/
theorem isHeld_append_cancelled :
    IsHeld (h ++ [.cancelled key']) id key ↔ IsHeld h id key := by
  simp [IsHeld, since_append_iff]

/-- Closing a token ends its own hold only. -/
theorem isHeld_append_closed :
    IsHeld (h ++ [.closed key']) id key ↔ key' ≠ key ∧ IsHeld h id key := by
  simp [IsHeld, since_append_iff]

/-- Without a new token, what is held is what was held and not closed. -/
theorem isHeld_append_iff (hnone : ∀ id key, .issued id key ∉ ds) :
    IsHeld (h ++ ds) id key ↔ IsHeld h id key ∧ .closed key ∉ ds := by
  induction ds generalizing h with
  | nil => simp
  | cons d ds ih =>
      obtain ⟨hd, hds⟩ : (∀ id key, d ≠ .issued id key) ∧ ∀ id key, .issued id key ∉ ds :=
        ⟨fun id key heq => hnone id key (heq ▸ List.mem_cons_self),
          fun id key hmem => hnone id key (List.mem_cons_of_mem d hmem)⟩
      rw [List.append_cons, ih hds]
      cases d with
      | issued id' key' => exact absurd rfl (hd id' key')
      | cancelled key' => simp [isHeld_append_cancelled]
      | closed key' => simp [isHeld_append_closed, and_assoc, and_left_comm, eq_comm]

/-! ## What a step does -/

/-- No listener issues a token. -/
theorem not_issued_mem_deeds (c : Cancellations α) (fs : List (Frame α)) (id : String)
    (key : TokenKey) : .issued id key ∉ c.deeds fs := by
  fun_induction deeds c fs with
  | case1 c => exact List.not_mem_nil
  | case2 c f fs ih =>
      rw [List.mem_append, not_or]
      refine ⟨?_, ih⟩
      unfold deed?
      split <;> simp

/-- A closing is a step that closes the token. -/
theorem step_of_deed?_closed (hdeed : c.deed? f = some (.closed key)) :
    (c.step f).1 = c.close key := by
  unfold deed? at hdeed
  split at hdeed
  · simp at hdeed
  · cases hdeed
    rfl
  · cases hdeed

/-- Only closings change the registry. -/
theorem held_step (hopen : ∀ key rest, f ≠ .body (.close key :: rest)) :
    (c.step f).1.held = c.held := by
  rcases f with (_ | ⟨r, rs⟩) | ⟨key, _ | ⟨l, ls⟩⟩
  · rfl
  · cases r with
    | close key => exact absurd rfl (hopen key rs)
    | panic => rfl
    | cancel key =>
        simp only [step, stepBy]
        split
        · rfl
        · split <;> rfl
    | listen key label reactions =>
        simp only [step, stepBy]
        split
        · rfl
        · split <;> rfl
  · rfl
  · rfl

/-- Without a closing the registry stays as it is. -/
theorem held_step_of_deed? (hopen : ∀ key, c.deed? f ≠ some (.closed key)) :
    (c.step f).1.held = c.held := by
  refine held_step fun key rest heq => hopen key ?_
  rw [heq]
  rfl

/-- No step gives a token another identifier. -/
theorem Moves.id_eq {c' : Cancellations α} {es : List (Event α)} {gs : List (Frame α)}
    (hmoves : Moves c f es c' gs) (key : TokenKey) :
    (c'.token? key).map Token.id = (c.token? key).map Token.id := by
  cases hmoves with
  | quiet tokens_eq registered_eq fired_eq idle => rw [token?, tokens_eq, token?]
  | cancels key' rs token token_eq pending =>
      rw [token?_update token_eq]
      split
      · rename_i hkey
        rw [hkey, token_eq]
        rfl
      · rfl
  | waits key' label reactions rs token token_eq pending =>
      rw [token?_update (c := (c.enlist label reactions).2) token_eq]
      split
      · rename_i hkey
        rw [hkey, token_eq]
        rfl
      · rfl
  | starts key' label reactions rs token token_eq done => rfl
  | fires key' l ls rs => rfl

/-- No work gives a token another identifier. -/
theorem id_eq_run (c : Cancellations α) (fs : List (Frame α)) (key : TokenKey) :
    ((c.run fs).token? key).map Token.id = (c.token? key).map Token.id := by
  fun_induction Cancellations.run c fs with
  | case1 c => rfl
  | case2 c f fs ih => exact ih.trans ((moves_step c f).id_eq key)

/-- To record a firing cancels nothing. -/
@[simp]
theorem isCancelled_record (c : Cancellations α) (key' : TokenKey) (l : Listener α)
    (key : TokenKey) : (c.record key' l).isCancelled key = c.isCancelled key := rfl

/-- To count a listener cancels nothing. -/
@[simp]
theorem isCancelled_enlist (c : Cancellations α) (label : α) (reactions : List (Reaction α))
    (key : TokenKey) : (c.enlist label reactions).2.isCancelled key = c.isCancelled key := rfl

/-- To close a token cancels nothing. -/
@[simp]
theorem isCancelled_close (c : Cancellations α) (key' key : TokenKey) :
    (c.close key').isCancelled key = c.isCancelled key :=
  isCancelled_congr (tokens_close c key') key

/-- A token is cancelled in the step that cancels it and in no other. -/
theorem isCancelled_step (c : Cancellations α) (f : Frame α) (key : TokenKey) :
    (c.step f).1.isCancelled key = true ↔
      c.isCancelled key = true ∨ c.deed? f = some (.cancelled key) := by
  rcases f with (_ | ⟨r, rs⟩) | ⟨key', _ | ⟨l, ls⟩⟩
  · simp [step, stepBy, deed?]
  · cases r with
    | panic => simp [step, stepBy, deed?]
    | close key' => simp [step, stepBy, deed?]
    | cancel key' =>
        cases htoken : c.token? key' with
        | none => simp [step, stepBy, deed?, htoken]
        | some token =>
            have hflag : c.isCancelled key' = token.cancelled := isCancelled_eq htoken
            cases hcancelled : token.cancelled with
            | true =>
                rw [hcancelled] at hflag
                simp only [step, stepBy, deed?, htoken, hcancelled, if_true, Option.map_some,
                  Option.some.injEq, Deed.cancelled.injEq, iff_self_or]
                rintro rfl
                exact hflag
            | false =>
                simp only [step, stepBy, deed?, htoken, hcancelled, Bool.false_eq_true, if_false,
                  Option.map_some, Option.some.injEq, Deed.cancelled.injEq]
                rw [isCancelled_update htoken]
                by_cases hkey : key = key'
                · simp [hkey]
                · have hne : ¬key' = key := fun heq => hkey heq.symm
                  simp [hkey, hne]
    | listen key' label reactions =>
        cases htoken : c.token? key' with
        | none => simp [step, stepBy, deed?, htoken]
        | some token =>
            have hflag : c.isCancelled key' = token.cancelled := isCancelled_eq htoken
            cases hcancelled : token.cancelled with
            | true => simp [step, stepBy, deed?, htoken, hcancelled]
            | false =>
                simp only [step, stepBy, deed?, htoken, hcancelled, Bool.false_eq_true, if_false,
                  reduceCtorEq, or_false]
                rw [isCancelled_update (c := (c.enlist label reactions).2) htoken]
                by_cases hkey : key = key'
                · simp [hkey, hflag, hcancelled]
                · simp [hkey]
  · simp [step, stepBy, deed?]
  · simp [step, stepBy, deed?]

/-! ## The registry agrees with the deeds -/

/-- The registry and the tokens are as the deeds say. -/
structure Registers (h : List Deed) (c : Cancellations α) : Prop where
  held_iff : ∀ id key, c.get? id = some key ↔ IsHeld h id key
  cancelled_iff : ∀ key, c.isCancelled key = true ↔ .cancelled key ∈ h
  id_eq : ∀ id key, .issued id key ∈ h → (c.token? key).map Token.id = some id

/-- What is held was issued. -/
theorem IsHeld.mem (hheld : IsHeld h id key) : .issued id key ∈ h := by
  obtain ⟨before, _, after, rfl, rfl, _⟩ := hheld
  exact List.mem_append_right _ List.mem_cons_self

/-- Closing takes away the token itself, whatever its identifier. -/
theorem get?_close_iff (hid : ∀ id, c.get? id = some key' → c.idOf key' = id) :
    (c.close key').get? id = some key ↔ key' ≠ key ∧ c.get? id = some key := by
  unfold close
  split
  · rename_i hheld
    rw [get?, Dictionary.find?_erase]
    split
    · rename_i heq
      rw [heq] at hheld
      constructor
      · intro hnone
        cases hnone
      · rintro ⟨hne, hget⟩
        exact absurd (Option.some.inj (hheld.symm.trans hget)) hne
    · rename_i hne
      refine ⟨fun hget => ⟨?_, hget⟩, And.right⟩
      rintro rfl
      exact hne (hid id hget)
  · rename_i hloose
    refine ⟨fun hget => ⟨?_, hget⟩, And.right⟩
    rintro rfl
    rw [hid id hget] at hloose
    exact hloose hget

namespace Registers

/-- At the beginning the registry and the tokens agree with the deeds. -/
theorem empty : Registers [] (empty : Cancellations α) where
  held_iff id key := by simp [get?, Cancellations.empty, IsHeld, not_since_nil]
  cancelled_iff key := by simp [isCancelled, token?, Cancellations.empty]
  id_eq id key hmem := by cases hmem

/-- A token that is held is held under its own identifier. -/
theorem idOf_eq (hr : Registers h c) (hheld : c.get? id = some key) : c.idOf key = id := by
  rw [idOf, hr.id_eq id key ((hr.held_iff id key).1 hheld).mem]
  rfl

/-- Every step agrees with its deed. -/
theorem step (hr : Registers h c) (f : Frame α) :
    Registers (h ++ (c.deed? f).toList) (c.step f).1 where
  held_iff id key := by
    cases hdeed : c.deed? f with
    | none =>
        rw [Option.toList_none, List.append_nil, get?, held_step_of_deed? (by simp [hdeed])]
        exact hr.held_iff id key
    | some d =>
        cases d with
        | issued id' key' => exact absurd hdeed (by unfold deed?; split <;> simp)
        | cancelled key' =>
            rw [get?, held_step_of_deed? (by simp [hdeed])]
            exact (hr.held_iff id key).trans isHeld_append_cancelled.symm
        | closed key' =>
            rw [step_of_deed?_closed hdeed, get?_close_iff fun id' hget => hr.idOf_eq hget,
              hr.held_iff id key]
            exact isHeld_append_closed.symm
  cancelled_iff key := by
    rw [isCancelled_step, hr.cancelled_iff key, List.mem_append, Option.mem_toList]
  id_eq id key hmem := by
    rw [(moves_step c f).id_eq key]
    refine hr.id_eq id key ((List.mem_append.1 hmem).resolve_right ?_)
    unfold deed?
    split <;> simp

/-- A run agrees with its deeds. -/
theorem run (hr : Registers h c) : Registers (h ++ c.deeds fs) (c.run fs) := by
  fun_induction Cancellations.run c fs generalizing h with
  | case1 c => rwa [deeds, List.append_nil]
  | case2 c f fs ih =>
      rw [deeds, ← List.append_assoc]
      exact ih (hr.step f)

/-- A new token is not cancelled, and if it is issued, it is held from then on. -/
theorem entered (hr : Registers h c) (call : Call α) :
    Registers (h ++ c.issuance call) (c.entered call) := by
  have hids : ∀ id id' key, .issued id' key ∈ h →
      ((c.create id).2.token? key).map Token.id = some id' := by
    intro id id' key hmem
    have hid := hr.id_eq id' key hmem
    obtain ⟨token, htoken, -⟩ := Option.map_eq_some_iff.1 hid
    have hlt : key.serial < c.tokens.length := (List.getElem?_eq_some_iff.1 htoken).1
    rw [← hid, token?, create, List.getElem?_append_left hlt, token?]
  cases call with
  | create id =>
      rw [issuance, List.append_nil]
      · refine ⟨hr.held_iff, fun key => ?_, hids id⟩
        rw [← hr.cancelled_iff, ← isCancelled_create c id]
        rfl
      · rintro id' ⟨⟩
  | issue id =>
      refine ⟨fun id' key => ?_, fun key => ?_, fun id' key hmem => ?_⟩
      · rw [issuance, isHeld_append_issued, ← hr.held_iff]
        show (c.held.insert id ⟨c.tokens.length⟩).find? id' = some key ↔
          (id = id' ∧ ⟨c.tokens.length⟩ = key) ∨ id ≠ id' ∧ c.held.find? id' = some key
        rw [Dictionary.find?_insert]
        split
        · rename_i hid
          simp [hid]
        · rename_i hid
          simp [hid]
      · rw [issuance, List.mem_append, ← hr.cancelled_iff, ← isCancelled_create c id]
        simp [Cancellations.entered, issue, isCancelled, token?]
      · rcases List.mem_append.1 hmem with hmem | hmem
        · exact hids id id' key hmem
        · obtain ⟨rfl, rfl⟩ := Deed.issued.inj (List.mem_singleton.1 hmem)
          simp [Cancellations.entered, issue, create, token?]
  | _ => exact (List.append_nil h).symm ▸ hr

/-- A call agrees with its deeds. -/
theorem perform (hr : Registers h c) (call : Call α) :
    Registers (h ++ c.deedsOf call) (c.perform call) := by
  rw [perform_eq_run, deedsOf, ← List.append_assoc]
  exact (hr.entered call).run

/-- Calls agree with their deeds. -/
theorem performAll (hr : Registers h c) (calls : List (Call α)) :
    Registers (h ++ c.annals calls) (c.performAll calls) := by
  induction calls generalizing c h with
  | nil => rwa [annals, List.append_nil]
  | cons call calls ih =>
      rw [annals, ← List.append_assoc]
      exact ih (hr.perform call)

/-- The registry has the identifiers under which a token is held. -/
theorem mem_keys_iff (hr : Registers h c) : id ∈ c.held.keys ↔ ∃ key, IsHeld h id key := by
  rw [Dictionary.mem_keys_iff, Option.isSome_iff_exists]
  exact exists_congr fun key => hr.held_iff id key

/-- To close a token that no identifier has changes nothing. -/
theorem close_eq_self (hr : Registers h c) (hloose : ∀ id, ¬IsHeld h id key) :
    c.close key = c :=
  if_neg fun hheld => hloose _ ((hr.held_iff _ _).1 hheld)

/-- Unless it issues a token, a call takes from the registry what is closed in it and nothing
else. -/
theorem get?_perform_iff (hr : Registers h c) {call : Call α} (hissue : ∀ id, call ≠ .issue id) :
    (c.perform call).get? id = some key ↔
      c.get? id = some key ∧ .closed key ∉ c.deedsOf call := by
  have hnone : ∀ id key, .issued id key ∉ c.deedsOf call := by
    intro id key
    rw [deedsOf, List.mem_append, not_or]
    refine ⟨?_, not_issued_mem_deeds _ _ id key⟩
    cases call with
    | issue id' => exact absurd rfl (hissue id')
    | _ => exact List.not_mem_nil
  rw [(hr.perform call).held_iff, isHeld_append_iff hnone, ← hr.held_iff]

end Registers

/-- A token that was closed or replaced each time after it was issued is not held. -/
theorem not_isHeld_of_lapsed (hlapsed : ∀ before id after, h = before ++ .issued id key :: after →
    .closed key ∈ after ∨ ∃ other, .issued id other ∈ after) (id : String) : ¬IsHeld h id key := by
  rintro ⟨before, _, after, heq, rfl, hafter⟩
  rcases hlapsed before id after heq with hclosed | ⟨other, hissued⟩
  · exact hafter _ hclosed (Or.inl rfl)
  · exact hafter _ hissued (Or.inr ⟨other, rfl⟩)

/-- A demand to cancel a token that was made is done. -/
theorem cancelled_mem_deeds (hmade : (c.token? key).isSome) (rs : List (Reaction α)) :
    .cancelled key ∈ c.deeds [.body (.cancel key :: rs)] := by
  obtain ⟨token, htoken⟩ := Option.isSome_iff_exists.1 hmade
  rw [deeds, deed?, htoken]
  exact List.mem_append_left _ (List.mem_singleton_self _)

/-- What the deeds tell about the registry and about the tokens. -/
structure Agreement (h : List Deed) (c : Cancellations α) : Prop where
  /-- The registry has the token issued last, if that very token was not closed since. -/
  held_iff : ∀ id key, c.get? id = some key ↔ IsHeld h id key
  /-- It counts the identifiers with such a token. -/
  size_eq : ∃ ids : List String,
    ids.Nodup ∧ (∀ id, id ∈ ids ↔ ∃ key, IsHeld h id key) ∧ c.size = ids.length
  /-- To close a token that was never issued, or was closed or replaced since, changes nothing. -/
  close_eq_self : ∀ key,
    (∀ before id after, h = before ++ .issued id key :: after →
      .closed key ∈ after ∨ ∃ other, .issued id other ∈ after) →
    c.close key = c
  /-- The next call, unless it issues a token, takes from the registry only what it closes. -/
  perform_iff : ∀ call, (∀ id, call ≠ .issue id) → ∀ id key,
    ((c.perform call).get? id = some key ↔ c.get? id = some key ∧ .closed key ∉ c.deedsOf call)
  cancelled_iff : ∀ key, c.isCancelled key = true ↔ .cancelled key ∈ h

/-- All that the deeds tell follows from the agreement. -/
theorem Registers.agreement (hr : Registers h c) : Agreement h c where
  held_iff := hr.held_iff
  size_eq :=
    ⟨c.held.keys, c.held.nodup, fun _ => hr.mem_keys_iff, (List.length_map Prod.fst).symm⟩
  close_eq_self _ hlapsed := hr.close_eq_self (not_isHeld_of_lapsed hlapsed)
  perform_iff _ hissue _ _ := hr.get?_perform_iff hissue
  cancelled_iff := hr.cancelled_iff

/-- After any calls, whatever the listeners plan, the registry and the tokens are as the deeds tell.
In any state, in the middle of work too, only a closing takes from the registry; new tokens,
closings and disarmed guards leave every token as cancelled as it was; and a token that was made is
cancelled by a call that cancels it, by its identifier if it is held, or by giving up a guard on
it. -/
theorem registry_agrees_with_deeds (calls : List (Call α)) :
    Agreement (empty.annals calls) (empty.performAll calls) ∧
    (∀ (c : Cancellations α) (f : Frame α),
      (∀ key rest, f ≠ .body (.close key :: rest)) → (c.step f).1.held = c.held) ∧
    (∀ (c : Cancellations α) (key : TokenKey),
      (∀ id, (c.perform (.create id)).isCancelled key = c.isCancelled key ∧
        (c.perform (.issue id)).isCancelled key = c.isCancelled key) ∧
      (∀ other, (c.perform (.close other)).isCancelled key = c.isCancelled key ∧
        (c.perform (.disarm other)).isCancelled key = c.isCancelled key)) ∧
    (∀ (c : Cancellations α) (key : TokenKey), (c.token? key).isSome →
      .cancelled key ∈ c.deedsOf (.cancel key) ∧ .cancelled key ∈ c.deedsOf (.abandon key) ∧
        ∀ id, c.get? id = some key → .cancelled key ∈ c.deedsOf (.cancelHeld id)) := by
  refine ⟨?_, fun c f hopen => held_step hopen, fun c key => ⟨?_, ?_⟩, ?_⟩
  · exact (Registers.empty.performAll calls).agreement
  · exact fun id => ⟨isCancelled_create c id key, isCancelled_create c id key⟩
  · exact fun other => ⟨isCancelled_close c other key, isCancelled_close c other key⟩
  · intro c key hmade
    refine ⟨cancelled_mem_deeds hmade [], cancelled_mem_deeds hmade [.close key], ?_⟩
    intro id hheld
    rw [deedsOf, demands, hheld]
    exact cancelled_mem_deeds hmade []

-- The listener of the second token closes the first, which no longer holds the identifier.
example : (empty : Cancellations String).annals [.issue "run", .issue "run",
    .listen ⟨1⟩ "late" [.close ⟨0⟩], .cancelHeld "run", .disarm ⟨1⟩] =
      [.issued "run" ⟨0⟩, .issued "run" ⟨1⟩, .cancelled ⟨1⟩, .closed ⟨0⟩, .closed ⟨1⟩] := by
  cbv

end Cancellations

end Polyglot
