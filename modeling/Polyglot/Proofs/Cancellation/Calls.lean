import Polyglot.Proofs.Cancellation.Ending

/-!
# Calls on tokens

Calls from outside make tokens, register listeners, cancel, close, and give up or disarm guards, in
any order and on any tokens. A call comes to an end unless listeners are registered in it for ever.
After calls that came to an end, whatever the listeners did, the listeners of cancelled tokens have
fired once each and the others have not fired (`Accounts.exactlyOnce`); within a call that goes on,
none has fired twice (`Accounts.atMostOnce`).
-/

set_option autoImplicit false

namespace Polyglot

variable {α : Type}

namespace Cancellations

/-- A call on tokens, on the registry or on a guard. -/
inductive Call (α : Type) where
  | create (id : String)
  | issue (id : String)
  | listen (token : TokenKey) (label : α) (reactions : List (Reaction α))
  | cancel (token : TokenKey)
  | cancelHeld (id : String)
  | close (token : TokenKey)
  | abandon (token : TokenKey)
  | disarm (token : TokenKey)

/-- Carries out a call. -/
def perform (c : Cancellations α) : Call α → Cancellations α
  | .create id => (c.create id).2
  | .issue id => (c.issue id).2
  | .listen key label reactions => c.listen key label reactions
  | .cancel key => c.cancel key
  | .cancelHeld id => (c.cancelHeld id).2
  | .close key => c.close key
  | .abandon key => c.abandon key
  | .disarm key => c.close key

/-- Carries out calls one after the other. -/
def performAll (c : Cancellations α) (calls : List (Call α)) : Cancellations α :=
  calls.foldl perform c

/-- The state from which the work of a call starts: only new tokens are there at once. -/
def entered (c : Cancellations α) : Call α → Cancellations α
  | .create id => (c.create id).2
  | .issue id => (c.issue id).2
  | _ => c

/-- The work of a call, as if a listener did it. -/
def demands (c : Cancellations α) : Call α → List (Reaction α)
  | .create _ | .issue _ => []
  | .listen key label reactions => [.listen key label reactions]
  | .cancel key => [.cancel key]
  | .cancelHeld id => ((c.get? id).map Reaction.cancel).toList
  | .close key | .disarm key => [.close key]
  | .abandon key => [.cancel key, .close key]

/-- The calls come to an end one after the other, with these events, and lead to this state. -/
inductive Completes (conduct : Conduct α) :
    Cancellations α → List (Call α) → List (Event α) → Cancellations α → Prop where
  | nil (c : Cancellations α) : Completes conduct c [] [] c
  | cons {n : Nat} {c c' d : Cancellations α} {call : Call α} {calls : List (Call α)}
      {h h' : List (Event α)}
      (ends : Works conduct n (c.entered call) [.body (c.demands call)] h d [])
      (rest : Completes conduct d calls h' c') : Completes conduct c (call :: calls) (h ++ h') c'

/-- All that happens in calls if listeners follow their plans. -/
def history (c : Cancellations α) : List (Call α) → List (Event α)
  | [] => []
  | call :: calls =>
    (c.entered call).trace [.body (c.demands call)] ++ (c.perform call).history calls

variable {conduct : Conduct α} {n : Nat} {c c' : Cancellations α} {h h' : List (Event α)}
  {fs gs : List (Frame α)} {key : TokenKey}

/-! ## A call as a run -/

/-- Closing sets no work going. -/
theorem run_close (c : Cancellations α) (key : TokenKey) :
    c.run [.body [.close key]] = c.close key := by
  rw [run_cons]
  exact (run_body_nil (c.close key) []).trans (run_nil _)

/-- A call does what its demands ask for. -/
theorem perform_eq_run (c : Cancellations α) (call : Call α) :
    c.perform call = (c.entered call).run [.body (c.demands call)] := by
  cases call with
  | create id => exact ((run_body_nil _ []).trans (run_nil _)).symm
  | issue id => exact ((run_body_nil _ []).trans (run_nil _)).symm
  | listen key label reactions => rfl
  | cancel key => rfl
  | cancelHeld id =>
      cases hheld : c.get? id with
      | none =>
          simp only [perform, cancelHeld, entered, demands, hheld, Option.map_none,
            Option.toList_none]
          exact ((run_body_nil _ []).trans (run_nil _)).symm
      | some key => simp [perform, cancelHeld, entered, demands, hheld, cancel]
  | close key => exact (run_close c key).symm
  | abandon key =>
      have hrun : c.run [.body [.cancel key, .close key]] = (c.cancel key).close key := by
        rw [run_body_cons c (by simp), run_close]
        rfl
      exact hrun.symm
  | disarm key => exact (run_close c key).symm

/-- Calls come to an end if listeners follow their plans. -/
theorem completes_performAll (c : Cancellations α) (calls : List (Call α)) :
    Completes asPlanned c calls (c.history calls) (c.performAll calls) := by
  induction calls generalizing c with
  | nil => exact .nil c
  | cons call calls ih =>
      obtain ⟨n, -, hrun⟩ := works_run (c.entered call) [.body (c.demands call)]
      rw [← perform_eq_run] at hrun
      exact .cons hrun (ih (c.perform call))

/-- A token that is created is new, and the others are as they were. -/
theorem token?_create (c : Cancellations α) (id : String) (key : TokenKey) :
    (c.create id).2.token? key = c.token? key ∨
      c.token? key = none ∧ (c.create id).2.token? key = some ⟨id, false, []⟩ := by
  simp only [token?, create, List.getElem?_append, List.getElem?_singleton]
  split
  · exact Or.inl rfl
  · rw [List.getElem?_eq_none (by omega)]
    split
    · exact Or.inr ⟨rfl, rfl⟩
    · exact Or.inl rfl

/-- A new token is not cancelled. -/
theorem isCancelled_create (c : Cancellations α) (id : String) (key : TokenKey) :
    (c.create id).2.isCancelled key = c.isCancelled key := by
  rcases c.token?_create id key with hsame | ⟨hnone, hnew⟩
  · rw [isCancelled, hsame, isCancelled]
  · rw [isCancelled, hnew, isCancelled, hnone]
    rfl

/-- Nothing waits on a new token. -/
theorem waitingOn_create (c : Cancellations α) (id : String) (key : TokenKey) :
    (c.create id).2.waitingOn key = c.waitingOn key := by
  rcases c.token?_create id key with hsame | ⟨hnone, hnew⟩
  · rw [waitingOn, hsame, waitingOn]
  · rw [waitingOn, hnew, waitingOn, hnone]
    rfl

namespace Accounts

/-- A new token has no listeners and is not cancelled. -/
theorem entered (ha : Accounts h c fs) (call : Call α) : Accounts h (c.entered call) fs := by
  cases call with
  | create id =>
      exact ha.congr (c.isCancelled_create id) (c.waitingOn_create id) rfl rfl fun _ => rfl
  | issue id =>
      exact ha.congr (c.isCancelled_create id) (c.waitingOn_create id) rfl rfl fun _ => rfl
  | _ => exact ha

/-- The accounts are kept by what a call sets going, however far this has come. -/
theorem call (ha : Accounts h c []) {call : Call α}
    (hw : Works conduct n (c.entered call) [.body (c.demands call)] h' c' gs) :
    Accounts (h ++ h') c' gs := by
  have hstart : Accounts h (c.entered call) [.body (c.demands call)] :=
    (ha.entered call).congr (fun _ => rfl) (fun _ => rfl) rfl rfl fun _ => rfl
  exact hstart.works hw

/-- The accounts are kept by calls that come to an end. -/
theorem completes {calls : List (Call α)} (ha : Accounts h c [])
    (hcalls : Completes conduct c calls h' c') : Accounts (h ++ h') c' [] := by
  induction hcalls generalizing h with
  | nil c =>
      rw [List.append_nil]
      exact ha
  | cons ends rest ih =>
      rw [← List.append_assoc]
      exact ih (ha.call ends)

end Accounts

/-! ## The record only grows -/

/-- A step adds its firings to the record. -/
theorem Moves.fired {f : Frame α} {es : List (Event α)} (hmoves : Moves c f es c' gs) :
    c'.fired = c.fired ++ firings es := by
  cases hmoves with
  | quiet tokens_eq registered_eq fired_eq idle => exact fired_eq.trans (List.append_nil _).symm
  | fires key' l ls rs => rfl
  | _ => exact (List.append_nil _).symm

/-- Work adds its firings to the record. -/
theorem Works.fired (hw : Works conduct n c fs h c' gs) : c'.fired = c.fired ++ firings h := by
  induction hw with
  | refl c fs => exact (List.append_nil _).symm
  | step rest ih => rw [ih, (moves_stepBy conduct _ _).fired, firings_append, List.append_assoc]

/-- A listener on a cancelled token fires when it is registered, before any that it registers. -/
theorem fired_of_listen (hyes : c.isCancelled key = true) {label : α}
    {reactions : List (Reaction α)}
    (hw : Works conduct n c [.body [.listen key label reactions]] h c' []) :
    ∃ later, c'.fired = c.fired ++ (c.enlist label reactions).1.firing key :: later := by
  obtain ⟨token, htoken, hflag⟩ := isCancelled_iff.1 hyes
  -- The first step registers the listener and puts it in front, and in the second one it fires.
  have hregister : c.stepBy conduct (.body [.listen key label reactions]) =
      ((c.enlist label reactions).2, [.queue key [(c.enlist label reactions).1], .body []]) := by
    simp [stepBy, htoken, hflag]
  have hrecord : ((c.enlist label reactions).2.record key (c.enlist label reactions).1).fired =
      c.fired ++ [(c.enlist label reactions).1.firing key] := by
    rw [Listener.firing, ← hyes]
    rfl
  cases hw with
  | step rest =>
      rw [hregister] at rest
      cases rest with
      | step rest =>
          have hlater := rest.fired
          simp only [stepBy] at hlater
          rw [hrecord, List.append_assoc] at hlater
          exact ⟨_, hlater⟩

/-- When all that a reaction sets going is done, its listener goes on with the next one. -/
theorem Works.next {r : Reaction α} (hr : r ≠ .panic) (hw : Works conduct n c [.body [r]] h c' [])
    (rest : List (Reaction α)) (fs : List (Frame α)) :
    ∃ m h', Works conduct m c (.body (r :: rest) :: fs) h' c' (.body rest :: fs) := by
  obtain ⟨d, gs, hstep⟩ := c.exists_stepBy_body conduct hr
  cases hw with
  | step hrest =>
      rw [hstep, List.append_nil] at hrest
      obtain ⟨m, k, h₁, h₂, d', hfirst, hlast⟩ := hrest.split
      obtain rfl : c' = d' := by
        cases hlast with
        | step hend =>
            cases hend
            rfl
      have hbefore : Works conduct m (c.stepBy conduct (.body (r :: rest))).1
          ((c.stepBy conduct (.body (r :: rest))).2 ++ fs) h₁ c' (.body rest :: fs) := by
        rw [hstep, List.append_assoc]
        exact hfirst.append_frames (.body rest :: fs)
      exact ⟨m + 1, _, .step hbefore⟩

/-! ## Exactly once -/

/-- Among items with different values only the item itself has its value. -/
theorem filter_eq_singleton {β γ : Type} [DecidableEq γ] {f : β → γ} {xs : List β} {x : β}
    (hnodup : (xs.map f).Nodup) (hx : x ∈ xs) :
    (xs.filter fun y => decide (f y = f x)) = [x] := by
  induction xs with
  | nil => cases hx
  | cons y ys ih =>
      rw [List.map_cons, List.nodup_cons] at hnodup
      obtain ⟨hy, hys⟩ := hnodup
      rcases List.mem_cons.1 hx with rfl | hx
      · have hnone : (ys.filter fun z => decide (f z = f x)) = [] := by
          refine List.filter_eq_nil_iff.2 fun z hz heq => hy ?_
          exact List.mem_map.2 ⟨z, hz, of_decide_eq_true heq⟩
        rw [List.filter_cons_of_pos (by simp), hnone]
      · have hne : f y ≠ f x := fun heq => hy (List.mem_map.2 ⟨x, hx, heq.symm⟩)
        rw [List.filter_cons_of_neg (by simpa using hne), ih hys hx]

/-- A listener is listed as registered if an event says so. -/
theorem mem_registrations {l : Listener α} :
    (key, l) ∈ registrations h ↔ .registered key l ∈ h := by
  rw [registrations, List.mem_filterMap]
  constructor
  · rintro ⟨e, he, hregistration⟩
    cases e <;> cases hregistration
    exact he
  · exact fun he => ⟨_, he, rfl⟩

/-- The test for a cancellation finds the event. -/
theorem any_cancels : h.any (Event.cancels key) = true ↔ .cancelled key ∈ h := by
  rw [List.any_eq_true]
  constructor
  · rintro ⟨e, he, hcancels⟩
    cases e with
    | cancelled key' =>
        obtain rfl := of_decide_eq_true hcancels
        exact he
    | _ => cases hcancels
  · exact fun he => ⟨_, he, decide_eq_true rfl⟩

/-- The firings that listeners are good for come from their registrations. -/
theorem mem_registeredOn {f : Firing α} :
    f ∈ registeredOn key h ↔ ∃ l, .registered key l ∈ h ∧ f = l.firing key := by
  simp only [registeredOn, List.mem_map, List.mem_filter, decide_eq_true_eq]
  constructor
  · rintro ⟨⟨key', l⟩, ⟨hl, rfl⟩, rfl⟩
    exact ⟨l, mem_registrations.1 hl, rfl⟩
  · rintro ⟨l, hl, rfl⟩
    exact ⟨(key, l), ⟨mem_registrations.2 hl, rfl⟩, rfl⟩

/-- What is known of the listeners at any time. -/
structure AtMostOnce (h : List (Event α)) (c : Cancellations α) : Prop where
  /-- Each listener is registered once, under its own number. -/
  numbered : (registrations h).map (fun r => r.2.serial) = List.range c.registered
  /-- The record has all firings in order. -/
  recorded : firings h = c.fired
  cancelled_iff : ∀ key, .cancelled key ∈ h ↔ c.isCancelled key = true
  /-- No listener has fired twice. -/
  atMost : ∀ key l, .registered key l ∈ h →
    (c.fired.filter fun f => decide (f.listener = l.serial)).length ≤ 1
  /-- Only listeners fire, and they find their token cancelled. -/
  sound : ∀ f ∈ c.fired, f.cancelled = true ∧ c.isCancelled f.token = true ∧
    ∃ l, .registered f.token l ∈ h ∧ f = l.firing f.token

/-- What is known of the listeners when no work is left. -/
structure ExactlyOnce (h : List (Event α)) (c : Cancellations α) : Prop
    extends AtMostOnce h c where
  /-- A listener has fired once if its token is cancelled, and never otherwise. -/
  once : ∀ key l, .registered key l ∈ h →
    (c.fired.filter fun f => decide (f.listener = l.serial)) =
      if c.isCancelled key = true then [l.firing key] else []
  /-- The listeners registered before the token was cancelled fire in the order in which they
  came. -/
  ordered : ∀ key, c.isCancelled key = true → (registeredBefore key h).Sublist c.fired

namespace Accounts

/-- Every firing of a token on record is that of a listener registered on it. -/
theorem mem_of_firedOn (ha : Accounts h c fs) {f : Firing α} (hf : f ∈ c.firedOn key) :
    ∃ l, .registered key l ∈ h ∧ f = l.firing key := by
  refine mem_registeredOn.1 ((ha.perm key).mem_iff.1 ?_)
  rw [course, List.append_assoc]
  exact List.mem_append_left _ hf

/-- Only listeners of cancelled tokens have fired. -/
theorem isCancelled_of_mem (ha : Accounts h c fs) {f : Firing α} (hf : f ∈ c.fired) :
    c.isCancelled f.token = true := by
  by_contra hno
  have hnone := (ha.pending f.token (Bool.eq_false_iff.2 hno)).1
  exact List.filter_eq_nil_iff.1 hnone f hf (decide_eq_true rfl)

/-- No number is given twice. -/
theorem nodup_serials (ha : Accounts h c fs) :
    ((registrations h).map fun r => r.2.serial).Nodup := by
  rw [ha.serials_eq]
  exact List.nodup_range

/-- Two listeners with one number are one listener on one token. -/
theorem registered_inj (ha : Accounts h c fs) {key' : TokenKey} {l l' : Listener α}
    (hl : .registered key l ∈ h) (hl' : .registered key' l' ∈ h)
    (hserial : l'.serial = l.serial) : key' = key ∧ l' = l := by
  exact Prod.mk.inj (List.inj_on_of_nodup_map ha.nodup_serials (mem_registrations.2 hl')
    (mem_registrations.2 hl) hserial)

/-- Of the firings that the listeners of a token are good for, a listener has one. -/
theorem filter_registeredOn (ha : Accounts h c fs) {l : Listener α}
    (hl : .registered key l ∈ h) :
    ((registeredOn key h).filter fun f => decide (f.listener = l.serial)) = [l.firing key] := by
  have hone : ((registrations h).filter fun r => decide (r.2.serial = l.serial)) = [(key, l)] :=
    filter_eq_singleton ha.nodup_serials (mem_registrations.2 hl)
  rw [registeredOn, List.filter_map, List.filter_comm]
  show ((((registrations h).filter fun r => decide (r.2.serial = l.serial)).filter
    fun r => decide (r.1 = key)).map fun r => r.2.firing key) = _
  rw [hone]
  simp

/-- All firings with the number of a listener are firings of its token. -/
theorem filter_fired (ha : Accounts h c fs) {l : Listener α} (hl : .registered key l ∈ h) :
    (c.fired.filter fun f => decide (f.listener = l.serial)) =
      (c.firedOn key).filter fun f => decide (f.listener = l.serial) := by
  rw [firedOn, List.filter_filter]
  refine List.filter_congr fun f hf => ?_
  by_cases hserial : f.listener = l.serial
  · have hon : f ∈ c.firedOn f.token := List.mem_filter.2 ⟨hf, decide_eq_true rfl⟩
    obtain ⟨l', hl', hfiring⟩ := ha.mem_of_firedOn hon
    have hsame : l'.serial = l.serial := by
      rw [← hserial, hfiring]
      rfl
    simp [hserial, (ha.registered_inj hl hl' hsame).1]
  · simp [hserial]

/-- Whatever work is left, no listener has fired twice. -/
theorem atMostOnce (ha : Accounts h c fs) : AtMostOnce h c where
  numbered := ha.serials_eq
  recorded := ha.fired_eq
  cancelled_iff key := by rw [← any_cancels, ha.cancelled_eq]
  atMost key l hl := by
    have hperm := (ha.perm key).filter fun f => decide (f.listener = l.serial)
    have hlength := hperm.length_eq
    rw [ha.filter_registeredOn hl, course, List.append_assoc, List.filter_append,
      List.length_append, List.length_singleton] at hlength
    rw [ha.filter_fired hl]
    omega
  sound f hf := by
    have hon : f ∈ c.firedOn f.token := List.mem_filter.2 ⟨hf, decide_eq_true rfl⟩
    obtain ⟨l, hl, hfiring⟩ := ha.mem_of_firedOn hon
    exact ⟨by rw [hfiring]; rfl, ha.isCancelled_of_mem hf, l, hl, hfiring⟩

/-- When no work is left, the listeners of cancelled tokens have fired. -/
theorem exactlyOnce (ha : Accounts h c []) : ExactlyOnce h c := by
  have hcourse : ∀ key, c.isCancelled key = true → c.course [] key = c.firedOn key := by
    intro key hyes
    rw [course, queuedOn_nil, ha.settled key hyes]
    simp
  refine ⟨ha.atMostOnce, ?_, ?_⟩
  · intro key l hl
    rw [ha.filter_fired hl]
    split
    · rename_i hyes
      have hperm := ha.perm key
      rw [hcourse key hyes] at hperm
      rw [← List.perm_singleton, ← ha.filter_registeredOn hl]
      exact hperm.filter _
    · rename_i hno
      rw [(ha.pending key (Bool.eq_false_iff.2 hno)).1]
      rfl
  · intro key hyes
    have hordered := ha.ordered key
    rw [hcourse key hyes] at hordered
    exact hordered.trans List.filter_sublist

end Accounts

/-- Whatever the listeners do: after calls that came to an end, each listener has fired exactly once
if its token is cancelled, and otherwise never; within a call that goes on, none has fired twice. A
call comes to an end exactly if only so many listeners are registered in it, so always if listeners
follow their plans. Cancelling sets the flag of a token at once, and it stays set. A listener that
is registered on a cancelled token fires first, and the listener that registered it goes on when all
that this sets going is done. One that breaks off changes nothing for the others. -/
theorem listeners_fire_exactly_once (conduct : Conduct α) :
    (∀ (calls : List (Call α)) (h : List (Event α)) (c : Cancellations α),
      Completes conduct empty calls h c → ExactlyOnce h c ∧
        ∀ call n h' c' gs, Works conduct n (c.entered call) [.body (c.demands call)] h' c' gs →
          AtMostOnce (h ++ h') c') ∧
    (∀ (c : Cancellations α) (call : Call α),
      Ends conduct (c.entered call) [.body (c.demands call)] ↔
        ∃ bound, ∀ n h c' gs, Works conduct n (c.entered call) [.body (c.demands call)] h c' gs →
          c'.registered ≤ bound) ∧
    (∀ (c : Cancellations α) (call : Call α),
      ∃ n ≤ (c.entered call).waiting + Frame.weights [.body (c.demands call)],
        Works asPlanned n (c.entered call) [.body (c.demands call)]
          ((c.entered call).trace [.body (c.demands call)]) (c.perform call) []) ∧
    (∀ calls : List (Call α),
      Completes asPlanned empty calls (empty.history calls) (empty.performAll calls)) ∧
    (∀ (c : Cancellations α) (key : TokenKey) (rest : List (Reaction α)), (c.token? key).isSome →
      (c.stepBy conduct (.body (.cancel key :: rest))).1.isCancelled key = true) ∧
    (∀ (c c' : Cancellations α) (fs gs : List (Frame α)) (n : Nat) (h : List (Event α))
        (key : TokenKey), c.isCancelled key = true → Works conduct n c fs h c' gs →
      c'.isCancelled key = true) ∧
    (∀ (c c' : Cancellations α) (key : TokenKey) (label : α) (reactions rest : List (Reaction α))
        (fs : List (Frame α)) (n : Nat) (h : List (Event α)), c.isCancelled key = true →
      Works conduct n c [.body [.listen key label reactions]] h c' [] →
        (∃ later, c'.fired = c.fired ++ (c.enlist label reactions).1.firing key :: later) ∧
        ∃ m h', Works conduct m c (.body (.listen key label reactions :: rest) :: fs) h' c'
          (.body rest :: fs)) ∧
    (∀ (c : Cancellations α) (rest : List (Reaction α)) (fs : List (Frame α)),
      Works conduct 1 c (.body (.panic :: rest) :: fs) [] c fs) := by
  refine ⟨?_, fun c call => ends_iff, ?_, completes_performAll empty, ?_, ?_, ?_, ?_⟩
  · intro calls h c hcalls
    have haccounts : Accounts ([] ++ h) c [] := Accounts.start.completes hcalls
    exact ⟨haccounts.exactlyOnce, fun call n h' c' gs hw => (haccounts.call hw).atMostOnce⟩
  · intro c call
    rw [perform_eq_run]
    exact works_run _ _
  · exact fun c key rest hmade => isCancelled_stepBy_cancel conduct hmade rest
  · exact fun c c' fs gs n h key hyes hw => hw.isCancelled hyes
  · intro c c' key label reactions rest fs n h hyes hw
    exact ⟨fired_of_listen hyes hw, hw.next (by simp) rest fs⟩
  · exact fun c rest fs => works_panic conduct c rest fs

/-- After two calls that come to an end, a third one does not: on a token that is cancelled a
listener is registered that registers one like itself. -/
theorem listener_registers_itself_forever :
    ∃ h c, Completes (relentless ⟨0⟩) empty [.create "", .cancel ⟨0⟩] h c ∧
      ¬Ends (relentless ⟨0⟩) (c.entered (.listen ⟨0⟩ () []))
        [.body (c.demands (.listen ⟨0⟩ () []))] :=
  ⟨_, _, .cons (.step (.refl _ [])) (.cons (.step (.step (.step (.refl _ [])))) (.nil _)),
    not_ends_listen (by decide) ()⟩

-- The listener of the first token cancels the second, whose listener cancels the first again.
example : (empty.performAll [.create "", .create "",
    .listen ⟨0⟩ "first" [.cancel ⟨1⟩, .listen ⟨0⟩ "late" [.panic], .panic],
    .listen ⟨1⟩ "other" [.cancel ⟨0⟩], .listen ⟨0⟩ "second" [],
    .cancel ⟨0⟩]).fired.map Firing.label = ["first", "other", "late", "second"] := by
  cbv

end Cancellations

end Polyglot
