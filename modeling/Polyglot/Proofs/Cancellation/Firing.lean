import Mathlib.Data.List.Nodup
import Mathlib.Data.List.Perm.Basic
import Mathlib.Data.List.TakeWhile
import Polyglot.Proofs.Cancellation.History

/-!
# Listeners fire exactly once

What became of the listeners of a token is accounted for at every step (`Accounts`): in this order
they have fired, stand in a frame to fire next, or wait on the token, and together they are the
listeners that were registered on it. Those registered before the token was cancelled keep the order
in which they came.
-/

set_option autoImplicit false

namespace Polyglot

variable {α : Type}

namespace Cancellations

namespace Event

/-- The listener that is registered, with its token. -/
def registration? : Event α → Option (TokenKey × Listener α)
  | .registered key l => some (key, l)
  | .cancelled _ | .fired _ => none

/-- The firing that takes place. -/
def firing? : Event α → Option (Firing α)
  | .fired firing => some firing
  | .registered _ _ | .cancelled _ => none

/-- Whether the token is cancelled by the event. -/
def cancels (key : TokenKey) : Event α → Bool
  | .cancelled key' => decide (key' = key)
  | .registered _ _ | .fired _ => false

end Event

/-- The listeners that were registered, with their tokens, in order. -/
def registrations (h : List (Event α)) : List (TokenKey × Listener α) :=
  h.filterMap Event.registration?

/-- The firings that took place, in order. -/
def firings (h : List (Event α)) : List (Firing α) :=
  h.filterMap Event.firing?

/-- The firings of a token that its registered listeners are good for, in order. -/
def registeredOn (key : TokenKey) (h : List (Event α)) : List (Firing α) :=
  ((registrations h).filter fun r => decide (r.1 = key)).map fun r => r.2.firing key

/-- The same for the listeners that were registered before the token was cancelled. -/
def registeredBefore (key : TokenKey) (h : List (Event α)) : List (Firing α) :=
  registeredOn key (h.takeWhile fun e => !e.cancels key)

/-- The firings of a token on record. -/
def firedOn (c : Cancellations α) (key : TokenKey) : List (Firing α) :=
  c.fired.filter fun f => decide (f.token = key)

/-- The firings of a token that the frames are going to bring. -/
def queuedOn (key : TokenKey) : List (Frame α) → List (Firing α)
  | [] => []
  | .body _ :: fs => queuedOn key fs
  | .queue key' ls :: fs =>
    if key' = key then ls.map (Listener.firing key) ++ queuedOn key fs else queuedOn key fs

/-- The listeners that wait on a token. -/
def waitingOn (c : Cancellations α) (key : TokenKey) : List (Listener α) :=
  ((c.token? key).map Token.listeners).getD []

/-- What became of the listeners of a token: the firings on record, in the frames, and to come. -/
def course (c : Cancellations α) (fs : List (Frame α)) (key : TokenKey) : List (Firing α) :=
  c.firedOn key ++ queuedOn key fs ++ (c.waitingOn key).map (Listener.firing key)

variable {c c' : Cancellations α} {h : List (Event α)} {fs gs : List (Frame α)}
  {key key' : TokenKey} {token : Token α}

/-! ## Events one by one -/

/-- Later registrations come behind the earlier ones. -/
theorem registrations_append (h h' : List (Event α)) :
    registrations (h ++ h') = registrations h ++ registrations h' :=
  List.filterMap_append

/-- Later firings come behind the earlier ones. -/
theorem firings_append (h h' : List (Event α)) : firings (h ++ h') = firings h ++ firings h' :=
  List.filterMap_append

/-- What later registrations are good for comes behind the rest. -/
theorem registeredOn_append (key : TokenKey) (h h' : List (Event α)) :
    registeredOn key (h ++ h') = registeredOn key h ++ registeredOn key h' := by
  simp [registeredOn, registrations_append]

/-- Once a token is cancelled, no listener is registered before that any more. -/
theorem registeredBefore_append (key : TokenKey) (h h' : List (Event α)) :
    registeredBefore key (h ++ h') = registeredBefore key h ++
      if h.any (Event.cancels key) = true then [] else registeredBefore key h' := by
  have hwhole : h.any (Event.cancels key) = false ↔
      h.takeWhile (fun e => !e.cancels key) = h := by
    simp [List.takeWhile_eq_self_iff]
  unfold registeredBefore
  rw [List.takeWhile_append]
  cases hany : h.any (Event.cancels key) with
  | false =>
      have hself := hwhole.1 hany
      simp only [hself, if_true, Bool.false_eq_true, if_false, registeredOn_append]
  | true =>
      rw [if_neg, if_pos rfl, List.append_nil]
      intro hlength
      rw [hwhole.2 ((List.takeWhile_prefix _).eq_of_length hlength)] at hany
      cases hany

section One

variable (key key' : TokenKey) (l : Listener α) (f : Firing α)

/-- A listener is good for a firing of its own token only. -/
@[simp]
theorem registeredOn_registered :
    registeredOn key [.registered key' l] = if key' = key then [l.firing key] else [] := by
  by_cases hkey : key' = key <;> simp [registeredOn, registrations, Event.registration?, hkey]

/-- To cancel a token registers nothing. -/
@[simp]
theorem registeredOn_cancelled : registeredOn key [(.cancelled key' : Event α)] = [] := rfl

/-- A firing registers nothing. -/
@[simp]
theorem registeredOn_fired : registeredOn key [.fired f] = [] := rfl

/-- A registration alone is one before any cancellation. -/
@[simp]
theorem registeredBefore_registered :
    registeredBefore key [.registered key' l] = registeredOn key [.registered key' l] := rfl

/-- To cancel a token registers nothing before it. -/
@[simp]
theorem registeredBefore_cancelled :
    registeredBefore key [(.cancelled key' : Event α)] = [] := by
  by_cases hkey : key' = key
  · simp [registeredBefore, Event.cancels, hkey, registeredOn, registrations]
  · simp [registeredBefore, Event.cancels, hkey]

/-- A firing registers nothing before a cancellation. -/
@[simp]
theorem registeredBefore_fired : registeredBefore key [.fired f] = [] := rfl

end One

/-! ## Listeners in frames -/

/-- Without frames nothing is going to fire. -/
@[simp]
theorem queuedOn_nil (key : TokenKey) : queuedOn key ([] : List (Frame α)) = [] := rfl

/-- Nothing fires directly from the rest of a running listener. -/
@[simp]
theorem queuedOn_body (key : TokenKey) (rs : List (Reaction α)) (fs : List (Frame α)) :
    queuedOn key (.body rs :: fs) = queuedOn key fs := rfl

/-- The listeners in a frame fire on their own token only. -/
@[simp]
theorem queuedOn_queue (key key' : TokenKey) (ls : List (Listener α)) (fs : List (Frame α)) :
    queuedOn key (.queue key' ls :: fs) =
      (if key' = key then ls.map (Listener.firing key) else []) ++ queuedOn key fs := by
  by_cases hkey : key' = key <;> simp [queuedOn, hkey]

/-- Frames without listeners do not matter for what is going to fire. -/
theorem queuedOn_append_of_idle (hidle : ∀ g ∈ gs, ∀ key l ls, g ≠ .queue key (l :: ls)) :
    queuedOn key (gs ++ fs) = queuedOn key fs := by
  induction gs with
  | nil => rfl
  | cons g gs ih =>
      obtain ⟨hg, hgs⟩ := List.forall_mem_cons.1 hidle
      rcases g with rs | ⟨key', _ | ⟨l, ls⟩⟩
      · exact ih hgs
      · simp [ih hgs]
      · exact absurd rfl (hg key' l ls)

/-! ## One token changes -/

/-- Replacing a token leaves the others as they are. -/
theorem token?_update (htoken : c.token? key = some token) (new : Token α) (key' : TokenKey) :
    (c.update key new).token? key' = if key' = key then some new else c.token? key' := by
  obtain ⟨serial⟩ := key
  obtain ⟨serial'⟩ := key'
  have hlt : serial < c.tokens.length := (List.getElem?_eq_some_iff.1 htoken).1
  by_cases hkey : serial' = serial
  · subst hkey
    simp [token?, update, hlt]
  · simp [token?, update, hkey, Ne.symm hkey]

/-- Replacing a token decides whether it is cancelled, and nothing about the others. -/
theorem isCancelled_update (htoken : c.token? key = some token) (new : Token α)
    (key' : TokenKey) : (c.update key new).isCancelled key' =
      if key' = key then new.cancelled else c.isCancelled key' := by
  rw [isCancelled, token?_update htoken]
  split <;> rfl

/-- Replacing a token decides who waits on it, and nothing about the others. -/
theorem waitingOn_update (htoken : c.token? key = some token) (new : Token α) (key' : TokenKey) :
    (c.update key new).waitingOn key' = if key' = key then new.listeners else c.waitingOn key' := by
  rw [waitingOn, token?_update htoken]
  split <;> rfl

/-- Whether a token is cancelled is its flag. -/
theorem isCancelled_eq (htoken : c.token? key = some token) :
    c.isCancelled key = token.cancelled := by
  simp [isCancelled, htoken]

/-- Those who wait on a token are its listeners. -/
theorem waitingOn_eq (htoken : c.token? key = some token) :
    c.waitingOn key = token.listeners := by
  simp [waitingOn, htoken]

/-- A token that is cancelled is not one that is not. -/
theorem ne_of_isCancelled (hyes : c.isCancelled key = true) (hno : c.isCancelled key' = false) :
    key ≠ key' := by
  rintro rfl
  rw [hyes] at hno
  cases hno

/-- Which tokens are cancelled depends on the tokens alone. -/
theorem isCancelled_congr (htokens : c'.tokens = c.tokens) (key : TokenKey) :
    c'.isCancelled key = c.isCancelled key := by
  simp [isCancelled, token?, htokens]

/-- Who waits on a token depends on the tokens alone. -/
theorem waitingOn_congr (htokens : c'.tokens = c.tokens) (key : TokenKey) :
    c'.waitingOn key = c.waitingOn key := by
  simp [waitingOn, token?, htokens]

/-- Which listeners of a token have fired depends on the record alone. -/
theorem firedOn_congr (hfired : c'.fired = c.fired) (key : TokenKey) :
    c'.firedOn key = c.firedOn key := by
  rw [firedOn, firedOn, hfired]

/-! ## The accounts -/

/-- What happened so far, against the state and the frames that are left. -/
structure Accounts (h : List (Event α)) (c : Cancellations α) (fs : List (Frame α)) : Prop where
  fired_eq : firings h = c.fired
  serials_eq : (registrations h).map (fun r => r.2.serial) = List.range c.registered
  cancelled_eq : ∀ key, h.any (Event.cancels key) = c.isCancelled key
  settled : ∀ key, c.isCancelled key = true → c.waitingOn key = []
  pending : ∀ key, c.isCancelled key = false → c.firedOn key = [] ∧ queuedOn key fs = []
  perm : ∀ key, (c.course fs key).Perm (registeredOn key h)
  ordered : ∀ key, (registeredBefore key h).Sublist (c.course fs key)

namespace Accounts

/-- Before anything happens the accounts hold. -/
theorem start : Accounts [] (empty : Cancellations α) [] := by
  refine ⟨rfl, rfl, fun _ => rfl, fun _ _ => rfl, fun _ _ => ⟨rfl, rfl⟩, fun _ => ?_, fun _ => ?_⟩
  · exact List.Perm.refl []
  · exact List.Sublist.refl []

/-- The accounts do not depend on identifiers, on the registry or on frames without listeners. -/
theorem congr (ha : Accounts h c fs)
    (hcancelled : ∀ key, c'.isCancelled key = c.isCancelled key)
    (hwaiting : ∀ key, c'.waitingOn key = c.waitingOn key)
    (hregistered : c'.registered = c.registered) (hfired : c'.fired = c.fired)
    (hqueued : ∀ key, queuedOn key gs = queuedOn key fs) : Accounts h c' gs := by
  have hcourse : ∀ key, c'.course gs key = c.course fs key := fun key => by
    rw [course, course, firedOn_congr hfired, hqueued, hwaiting]
  obtain ⟨hfirings, hserials, hflags, hsettled, hpending, hperm, hordered⟩ := ha
  refine ⟨by rw [hfired, hfirings], by rw [hregistered, hserials], ?_, ?_, ?_, ?_, ?_⟩
  · simpa only [hcancelled] using hflags
  · simpa only [hcancelled, hwaiting] using hsettled
  · simpa only [hcancelled, firedOn_congr hfired, hqueued] using hpending
  · simpa only [hcourse] using hperm
  · simpa only [hcourse] using hordered

/-- The listeners that wait on a token go into a frame when it is cancelled. -/
theorem cancels (ha : Accounts h c fs) (htoken : c.token? key = some token)
    (hflag : token.cancelled = false) :
    Accounts (h ++ [.cancelled key]) (c.update key ⟨token.id, true, []⟩)
      (.queue key token.listeners :: fs) := by
  have hcancelled := isCancelled_update htoken ⟨token.id, true, []⟩
  have hwaiting := waitingOn_update htoken ⟨token.id, true, []⟩
  have hcourse : ∀ key', (c.update key ⟨token.id, true, []⟩).course
      (.queue key token.listeners :: fs) key' = c.course fs key' := by
    intro key'
    rw [course, course, hwaiting, queuedOn_queue]
    by_cases hkey : key' = key
    · -- Nothing of this token is in the frames yet.
      subst hkey
      have hnone := (ha.pending key' ((isCancelled_eq htoken).trans hflag)).2
      simp [hnone, waitingOn_eq htoken]
      rfl
    · simp [hkey, Ne.symm hkey]
      rfl
  refine ⟨?_, ?_, ?_, ?_, ?_, ?_, ?_⟩
  · rw [firings_append, ha.fired_eq]
    exact List.append_nil _
  · rw [registrations_append, List.map_append, ha.serials_eq]
    exact List.append_nil _
  · intro key'
    rw [List.any_append, ha.cancelled_eq, hcancelled]
    by_cases hkey : key' = key
    · simp [Event.cancels, hkey]
    · simp [Event.cancels, hkey, Ne.symm hkey]
  · intro key' hyes
    rw [hwaiting]
    rw [hcancelled] at hyes
    by_cases hkey : key' = key
    · rw [if_pos hkey]
    · rw [if_neg hkey] at hyes ⊢
      exact ha.settled key' hyes
  · intro key' hno
    rw [hcancelled] at hno
    by_cases hkey : key' = key
    · simp [hkey] at hno
    · rw [if_neg hkey] at hno
      obtain ⟨hfired, hqueued⟩ := ha.pending key' hno
      exact ⟨hfired, by simpa [Ne.symm hkey] using hqueued⟩
  · intro key'
    rw [hcourse, registeredOn_append, registeredOn_cancelled, List.append_nil]
    exact ha.perm key'
  · intro key'
    rw [hcourse, registeredBefore_append, registeredBefore_cancelled, ite_self, List.append_nil]
    exact ha.ordered key'

/-- A listener is registered: on a token that is not cancelled it comes behind the others, on a
cancelled one it comes somewhere. -/
theorem register (ha : Accounts h c fs) {l : Listener α} (hserial : l.serial = c.registered)
    (hregistered : c'.registered = c.registered + 1) (hfired : c'.fired = c.fired)
    (hcancelled : ∀ key', c'.isCancelled key' = c.isCancelled key')
    (hsettled : ∀ key', c.isCancelled key' = true → c'.waitingOn key' = [])
    (hpending : ∀ key', c.isCancelled key' = false → queuedOn key' gs = [])
    (hperm : ∀ key', (c'.course gs key').Perm
      (c.course fs key' ++ registeredOn key' [.registered key l]))
    (hlate : ∀ key', c.isCancelled key' = true → (c.course fs key').Sublist (c'.course gs key'))
    (hearly : ∀ key', c.isCancelled key' = false →
      c'.course gs key' = c.course fs key' ++ registeredOn key' [.registered key l]) :
    Accounts (h ++ [.registered key l]) c' gs := by
  refine ⟨?_, ?_, ?_, ?_, ?_, ?_, ?_⟩
  · rw [firings_append, ha.fired_eq, hfired]
    exact List.append_nil _
  · rw [registrations_append, List.map_append, ha.serials_eq, hregistered, List.range_succ,
      ← hserial]
    rfl
  · intro key'
    rw [List.any_append, ha.cancelled_eq, hcancelled]
    exact Bool.or_false _
  · simpa only [hcancelled] using hsettled
  · intro key' hno
    rw [hcancelled] at hno
    rw [firedOn_congr hfired]
    exact ⟨(ha.pending key' hno).1, hpending key' hno⟩
  · intro key'
    rw [registeredOn_append]
    exact (hperm key').trans ((ha.perm key').append_right _)
  · intro key'
    rw [registeredBefore_append, ha.cancelled_eq]
    cases hflag : c.isCancelled key' with
    | true =>
        rw [if_pos rfl, List.append_nil]
        exact (ha.ordered key').trans (hlate key' hflag)
    | false =>
        rw [if_neg Bool.false_ne_true, hearly key' hflag, registeredBefore_registered]
        exact (ha.ordered key').append (List.Sublist.refl _)

/-- A listener on a token that is not cancelled waits behind those that came before it. -/
theorem waits (ha : Accounts h c fs) (htoken : c.token? key = some token)
    (hflag : token.cancelled = false) (label : α) (reactions : List (Reaction α)) :
    Accounts (h ++ [.registered key (c.enlist label reactions).1])
      ((c.enlist label reactions).2.update key
        { token with listeners := token.listeners ++ [(c.enlist label reactions).1] }) fs := by
  have hno : c.isCancelled key = false := (isCancelled_eq htoken).trans hflag
  generalize hnew : ({ token with
    listeners := token.listeners ++ [(c.enlist label reactions).1] } : Token α) = new
  have hcancelled := isCancelled_update (c := (c.enlist label reactions).2) htoken new
  have hwaiting := waitingOn_update (c := (c.enlist label reactions).2) htoken new
  have hcourse : ∀ key', ((c.enlist label reactions).2.update key new).course fs key' =
      c.course fs key' ++ registeredOn key' [.registered key (c.enlist label reactions).1] := by
    intro key'
    rw [course, hwaiting, registeredOn_registered]
    by_cases hkey : key' = key
    · subst hkey
      rw [if_pos rfl, if_pos rfl, course, waitingOn_eq htoken, ← hnew, List.map_append]
      exact (List.append_assoc _ _ _).symm
    · rw [if_neg hkey, if_neg (Ne.symm hkey), List.append_nil]
      rfl
  refine ha.register rfl rfl rfl ?_ ?_ (fun key' h' => (ha.pending key' h').2) ?_ ?_ ?_
  · intro key'
    rw [hcancelled]
    split
    · rename_i hkey
      rw [hkey, hno, ← hnew, ← hflag]
    · rfl
  · intro key' hyes
    rw [hwaiting, if_neg (ne_of_isCancelled hyes hno)]
    exact ha.settled key' hyes
  · exact fun key' => .of_eq (hcourse key')
  · exact fun key' _ => hcourse key' ▸ List.sublist_append_left _ _
  · exact fun key' _ => hcourse key'

/-- A listener on a cancelled token is the next one to fire. -/
theorem starts (ha : Accounts h c fs) (hyes : c.isCancelled key = true) (label : α)
    (reactions : List (Reaction α)) :
    Accounts (h ++ [.registered key (c.enlist label reactions).1]) (c.enlist label reactions).2
      (.queue key [(c.enlist label reactions).1] :: fs) := by
  have hcourse : ∀ key', (c.enlist label reactions).2.course
      (.queue key [(c.enlist label reactions).1] :: fs) key' =
        c.firedOn key' ++ registeredOn key' [.registered key (c.enlist label reactions).1] ++
          (queuedOn key' fs ++ (c.waitingOn key').map (Listener.firing key')) := by
    intro key'
    rw [course, queuedOn_queue, registeredOn_registered]
    split
    · simp only [List.map_cons, List.map_nil, List.append_assoc]
      rfl
    · simp only [List.append_nil, List.nil_append, List.append_assoc]
      rfl
  have hsplit : ∀ key', c.course fs key' =
      c.firedOn key' ++ (queuedOn key' fs ++ (c.waitingOn key').map (Listener.firing key')) :=
    fun key' => List.append_assoc _ _ _
  refine ha.register rfl rfl rfl (fun _ => rfl) ha.settled ?_ ?_ ?_ ?_
  · intro key' hno
    rw [queuedOn_queue, if_neg (ne_of_isCancelled hyes hno), List.nil_append]
    exact (ha.pending key' hno).2
  · intro key'
    rw [hcourse, hsplit, List.append_assoc, List.append_assoc]
    exact List.perm_append_comm.append_left _
  · intro key' _
    rw [hcourse, hsplit]
    exact (List.sublist_append_left _ _).append (List.Sublist.refl _)
  · intro key' hno
    rw [hcourse, hsplit, registeredOn_registered, if_neg (ne_of_isCancelled hyes hno),
      List.append_nil, List.append_nil]

/-- Listeners stand in the frames of cancelled tokens only. -/
theorem isCancelled_queue {l : Listener α} {ls : List (Listener α)}
    (ha : Accounts h c (.queue key (l :: ls) :: fs)) : c.isCancelled key = true := by
  by_contra hno
  have hqueued := (ha.pending key (Bool.eq_false_iff.2 hno)).2
  simp at hqueued

/-- The first listener of a frame fires, whatever it is going to do. -/
theorem fires {l : Listener α} {ls : List (Listener α)}
    (ha : Accounts h c (.queue key (l :: ls) :: fs)) (rs : List (Reaction α)) :
    Accounts (h ++ [.fired ⟨l.serial, key, l.label, c.isCancelled key⟩]) (c.record key l)
      (.body rs :: .queue key ls :: fs) := by
  have hyes := ha.isCancelled_queue
  have hfired : ∀ key', (c.record key l).firedOn key' =
      c.firedOn key' ++ if key = key' then [l.firing key'] else [] := by
    intro key'
    by_cases hkey : key = key'
    · subst hkey
      simp [firedOn, record, Listener.firing, hyes]
    · simp [firedOn, record, hkey]
  have hcourse : ∀ key', (c.record key l).course (.body rs :: .queue key ls :: fs) key' =
      c.course (.queue key (l :: ls) :: fs) key' := by
    intro key'
    rw [course, course, hfired, queuedOn_body, queuedOn_queue, queuedOn_queue]
    by_cases hkey : key = key'
    · simp only [hkey, if_true, List.map_cons, List.append_assoc, List.cons_append,
        List.nil_append]
      rfl
    · simp only [hkey, if_false, List.append_nil]
      rfl
  refine ⟨?_, ?_, ?_, ha.settled, ?_, ?_, ?_⟩
  · rw [firings_append, ha.fired_eq]
    rfl
  · rw [registrations_append, List.map_append, ha.serials_eq]
    exact List.append_nil _
  · intro key'
    rw [List.any_append, ha.cancelled_eq]
    exact Bool.or_false _
  · intro key' hno
    have hkey := ne_of_isCancelled hyes hno
    obtain ⟨hnone, hqueued⟩ := ha.pending key' hno
    rw [queuedOn_queue, if_neg hkey] at hqueued
    rw [hfired, queuedOn_body, queuedOn_queue, if_neg hkey, if_neg hkey, hnone]
    exact ⟨rfl, hqueued⟩
  · intro key'
    rw [hcourse, registeredOn_append, registeredOn_fired, List.append_nil]
    exact ha.perm key'
  · intro key'
    rw [hcourse, registeredBefore_append, registeredBefore_fired, ite_self, List.append_nil]
    exact ha.ordered key'

/-- What a running listener has left to do does not count. -/
theorem body {rs : List (Reaction α)} (ha : Accounts h c (.body rs :: fs))
    (rs' : List (Reaction α)) : Accounts h c (.body rs' :: fs) :=
  ha.congr (fun _ => rfl) (fun _ => rfl) rfl rfl fun _ => rfl

/-- The accounts are kept by one step. -/
theorem moves {f : Frame α} {es : List (Event α)} (ha : Accounts h c (f :: fs))
    (hmoves : Moves c f es c' gs) : Accounts (h ++ es) c' (gs ++ fs) := by
  cases hmoves with
  | quiet tokens_eq registered_eq fired_eq idle =>
      obtain ⟨hf, hgs⟩ := List.forall_mem_cons.1 idle
      rw [List.append_nil]
      refine ha.congr (isCancelled_congr tokens_eq) (waitingOn_congr tokens_eq) registered_eq
        fired_eq fun key => (queuedOn_append_of_idle hgs).trans ?_
      exact (queuedOn_append_of_idle (List.forall_mem_singleton.2 hf)).symm
  | cancels key rs token token_eq pending =>
      exact (ha.body rs).cancels token_eq pending
  | waits key label reactions rs token token_eq pending =>
      exact (ha.body rs).waits token_eq pending label reactions
  | starts key label reactions rs token token_eq done =>
      exact (ha.body rs).starts ((isCancelled_eq token_eq).trans done) label reactions
  | fires key l ls rs => exact ha.fires rs

/-- The accounts are kept by work, however far it has come. -/
theorem works {conduct : Conduct α} {n : Nat} {h' : List (Event α)} (ha : Accounts h c fs)
    (hw : Works conduct n c fs h' c' gs) : Accounts (h ++ h') c' gs := by
  induction hw generalizing h with
  | refl c fs =>
      rw [List.append_nil]
      exact ha
  | step rest ih =>
      rw [← List.append_assoc]
      exact ih (ha.moves (moves_stepBy conduct _ _))

end Accounts

end Cancellations

end Polyglot
