import Polyglot.Cancellation.Token
import Polyglot.Dictionary
import Polyglot.Text.Record

/-!
# The registry of tokens

All tokens of a workspace, with the registry that holds the last token issued under each
identifier until that token is closed.

Cancelling a token and registering a listener set work going. What is to be done is a stack of
frames; a listener that breaks off loses the rest of its own frame and nothing else.

What a listener does when it fires is its conduct. It need not follow the plan with which the
listener was registered: a listener may look at the state that it finds, and it may register one
like itself, so that the work never ends. If all listeners follow their plans, every step shortens
what the frames and the waiting listeners have left to do (`step_decreases`), and `run` comes to an
end.
-/

set_option autoImplicit false

namespace Polyglot

variable {α : Type}

/-- All tokens, the registry, the number of listeners registered so far, and the record. -/
structure Cancellations (α : Type) where
  tokens : List (Token α)
  held : Dictionary TokenKey
  registered : Nat
  fired : List (Firing α)

namespace Cancellations

/-- No tokens. -/
def empty : Cancellations α :=
  ⟨[], .empty, 0, []⟩

/-- The token of a key. -/
def token? (c : Cancellations α) (key : TokenKey) : Option (Token α) :=
  c.tokens[key.serial]?

/-- Whether the token is cancelled. -/
def isCancelled (c : Cancellations α) (key : TokenKey) : Bool :=
  (c.token? key).any Token.cancelled

/-- The identifier of the token. -/
def idOf (c : Cancellations α) (key : TokenKey) : String :=
  ((c.token? key).map Token.id).getD ""

/-- Makes a token that no registry holds. -/
def create (c : Cancellations α) (id : String) : TokenKey × Cancellations α :=
  (⟨c.tokens.length⟩, { c with tokens := c.tokens ++ [⟨id, false, []⟩] })

/-- Makes a token and holds it under its identifier in place of any other. -/
def issue (c : Cancellations α) (id : String) : TokenKey × Cancellations α :=
  let (key, c') := c.create id
  (key, { c' with held := c'.held.insert id key })

/-- The token held under an identifier. -/
def get? (c : Cancellations α) (id : String) : Option TokenKey :=
  c.held.find? id

/-- The number of identifiers with a token. -/
def size (c : Cancellations α) : Nat :=
  c.held.size

/-- Takes a token from the registry, if it is the one held under its identifier. -/
def close (c : Cancellations α) (key : TokenKey) : Cancellations α :=
  if c.get? (c.idOf key) = some key then { c with held := c.held.erase (c.idOf key) } else c

/-- Replaces the token of a key. -/
def update (c : Cancellations α) (key : TokenKey) (token : Token α) : Cancellations α :=
  { c with tokens := c.tokens.set key.serial token }

/-- Puts a firing of the listener into the record. -/
def record (c : Cancellations α) (key : TokenKey) (l : Listener α) : Cancellations α :=
  { c with fired := c.fired ++ [⟨l.serial, key, l.label, c.isCancelled key⟩] }

/-- The next listener with the label and the reactions, and the count that includes it. -/
def enlist (c : Cancellations α) (label : α) (reactions : List (Reaction α)) :
    Listener α × Cancellations α :=
  (⟨c.registered, label, reactions⟩, { c with registered := c.registered + 1 })

/-- What listeners do: the reactions of a listener that fires, in the state that it finds. -/
def Conduct (α : Type) : Type :=
  Cancellations α → Listener α → List (Reaction α)

/-- Listeners follow their plans. -/
def asPlanned : Conduct α :=
  fun _ l => l.reactions

/-- One step of a frame, and the frames that take its place. -/
def stepBy (conduct : Conduct α) (c : Cancellations α) :
    Frame α → Cancellations α × List (Frame α)
  | .body [] => (c, [])
  | .body (.panic :: _) => (c, [])
  | .body (.cancel key :: rs) =>
    match c.token? key with
    | none => (c, [.body rs])
    | some token =>
      if token.cancelled then (c, [.body rs])
      else (c.update key ⟨token.id, true, []⟩, [.queue key token.listeners, .body rs])
  | .body (.close key :: rs) => (c.close key, [.body rs])
  | .body (.listen key label reactions :: rs) =>
    match c.token? key with
    | none => (c, [.body rs])
    | some token =>
      let (l, c') := c.enlist label reactions
      if token.cancelled then (c', [.queue key [l], .body rs])
      else (c'.update key { token with listeners := token.listeners ++ [l] }, [.body rs])
  | .queue _ [] => (c, [])
  | .queue key (l :: ls) =>
    (c.record key l, [.body (conduct (c.record key l) l), .queue key ls])

/-- One step of a frame if listeners follow their plans. -/
def step (c : Cancellations α) (f : Frame α) : Cancellations α × List (Frame α) :=
  c.stepBy asPlanned f

/-- What the waiting listeners of all tokens leave to do at most. -/
def waiting (c : Cancellations α) : Nat :=
  total (fun t : Token α => Listener.weights t.listeners) c.tokens

/-- Replacing a token puts its new listeners in place of the old ones. -/
theorem waiting_update {c : Cancellations α} {key : TokenKey} {old : Token α} (new : Token α)
    (h : c.token? key = some old) :
    (c.update key new).waiting + Listener.weights old.listeners =
      c.waiting + Listener.weights new.listeners :=
  total_set (fun t : Token α => Listener.weights t.listeners) c.tokens key.serial old new h

/-- Closing a token leaves the tokens as they are. -/
@[simp]
theorem tokens_close (c : Cancellations α) (key : TokenKey) : (c.close key).tokens = c.tokens := by
  unfold close
  split <;> rfl

/-- Each step uses up some of what was left to do, if listeners follow their plans. -/
theorem step_decreases (c : Cancellations α) (f : Frame α) :
    (c.step f).1.waiting + Frame.weights (c.step f).2 < c.waiting + f.weight := by
  rcases f with (_ | ⟨r, rs⟩) | ⟨key, _ | ⟨l, ls⟩⟩
  · simp only [step, stepBy, Frame.weights, Frame.weight, total_nil]
    omega
  · cases r with
    | panic =>
      simp only [step, stepBy, Frame.weights, Frame.weight, total_nil]
      omega
    | cancel key =>
      simp only [step, stepBy]
      split
      · simp [Frame.weights, Frame.weight, Reaction.weights, Reaction.weight]
      · rename_i token htoken
        split
        · simp [Frame.weights, Frame.weight, Reaction.weights, Reaction.weight]
        · have := waiting_update ⟨token.id, true, []⟩ htoken
          simp only [Frame.weights, Frame.weight, Reaction.weights, Reaction.weight,
            Listener.weights, total_cons, total_nil] at this ⊢
          omega
    | close key =>
      simp [step, stepBy, Frame.weights, Frame.weight, Reaction.weights, Reaction.weight, waiting]
    | listen key label reactions =>
      simp only [step, stepBy, enlist]
      split
      · simp only [Frame.weights, Frame.weight, Reaction.weights, Reaction.weight, total_cons,
          total_nil]
        omega
      · rename_i token htoken
        split
        · simp only [waiting, Frame.weights, Frame.weight, Reaction.weights, Reaction.weight,
            Listener.weights, Listener.weight, total_cons, total_nil]
          omega
        · have := waiting_update (c := { c with registered := c.registered + 1 })
            { token with listeners := token.listeners ++ [⟨c.registered, label, reactions⟩] } htoken
          simp only [waiting, Frame.weights, Frame.weight, Reaction.weights, Reaction.weight,
            Listener.weights, Listener.weight, total_append, total_cons, total_nil] at this ⊢
          omega
  · simp only [step, stepBy, Frame.weights, Frame.weight, total_nil]
    omega
  · simp only [step, stepBy, asPlanned, record, waiting, Frame.weights, Frame.weight,
      Listener.weights,
      Listener.weight, total_cons, total_nil]
    omega

/-- Does all that the frames ask for, the first frame first; listeners follow their plans. -/
def run (c : Cancellations α) : List (Frame α) → Cancellations α
  | [] => c
  | f :: fs => run (c.step f).1 ((c.step f).2 ++ fs)
termination_by fs => c.waiting + Frame.weights fs
decreasing_by
  have := step_decreases c f
  simp only [Frame.weights, total_append, total_cons] at *
  omega

/-- Cancels a token and runs its listeners in the order in which they came. Only the first time
has an effect. -/
def cancel (c : Cancellations α) (key : TokenKey) : Cancellations α :=
  c.run [.body [.cancel key]]

/-- Registers a listener on a token; on a cancelled token the listener runs at once. -/
def listen (c : Cancellations α) (key : TokenKey) (label : α) (reactions : List (Reaction α)) :
    Cancellations α :=
  c.run [.body [.listen key label reactions]]

/-- Cancels the token held under an identifier, and tells whether there was one. -/
def cancelHeld (c : Cancellations α) (id : String) : Bool × Cancellations α :=
  match c.get? id with
  | some key => (true, c.cancel key)
  | none => (false, c)

/-- Gives up a guarded token: it is cancelled and then closed. -/
def abandon (c : Cancellations α) (key : TokenKey) : Cancellations α :=
  (c.cancel key).close key

/-- The token as debugging output shows it. -/
def debug (c : Cancellations α) (key : TokenKey) : String :=
  Text.record "CancellationToken"
    [("id", Text.quoted (c.idOf key)), ("cancelled", Text.truth (c.isCancelled key))]

end Cancellations

end Polyglot
