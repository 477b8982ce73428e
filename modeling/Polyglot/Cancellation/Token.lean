import Polyglot.Total

/-!
# Tokens, listeners and reactions

A token is a signal that can be given once. Listeners on a token run when the signal is given, or
at once if it has been given before. A running listener leaves a firing in the record and then
carries out reactions: it may cancel or close any token, register further listeners, and break off.
A frame is a part of the work under way: the rest of a running listener, or the listeners of a
cancelled token that have not run yet.

A listener is registered with a plan, the reactions that it is meant to carry out, and so are the
listeners that these register. Plans are finite, and the weights bound what plans, listeners that
follow theirs, and frames of these leave to do.
-/

set_option autoImplicit false

namespace Polyglot

/-- The identity of a token: how many tokens were made before it. -/
structure TokenKey where
  serial : Nat
deriving DecidableEq, Repr

/-- What a listener does when it runs. -/
inductive Reaction (α : Type) where
  /-- Breaks off. -/
  | panic
  /-- Cancels a token. -/
  | cancel (token : TokenKey)
  /-- Takes a token from the registry. -/
  | close (token : TokenKey)
  /-- Registers a listener on a token. -/
  | listen (token : TokenKey) (label : α) (reactions : List (Reaction α))

/-- A listener: its number among all listeners, its label in the record, and its plan. -/
structure Listener (α : Type) where
  serial : Nat
  label : α
  reactions : List (Reaction α)

/-- A token: its identifier, whether it is cancelled, and the listeners that wait for that. -/
structure Token (α : Type) where
  id : String
  cancelled : Bool
  listeners : List (Listener α)

/-- The record of a listener that ran: its number, its token, its label, and whether the listener
found its token cancelled. -/
structure Firing (α : Type) where
  listener : Nat
  token : TokenKey
  label : α
  cancelled : Bool

/-- A part of the work under way: the rest of a running listener, or the listeners of a cancelled
token that have not run yet. -/
inductive Frame (α : Type) where
  | body (reactions : List (Reaction α))
  | queue (token : TokenKey) (listeners : List (Listener α))

variable {α : Type}

mutual

/-- What a reaction leaves to do at most. -/
def Reaction.weight : Reaction α → Nat
  | .panic => 1
  | .cancel _ => 2
  | .close _ => 1
  | .listen _ _ reactions => 4 + Reaction.weights reactions

/-- What a list of reactions leaves to do at most. -/
def Reaction.weights : List (Reaction α) → Nat
  | [] => 0
  | r :: rs => r.weight + Reaction.weights rs

end

namespace Listener

/-- What a listener that follows its plan leaves to do at most. -/
def weight (l : Listener α) : Nat :=
  2 + Reaction.weights l.reactions

/-- What a list of listeners leaves to do at most. -/
def weights (ls : List (Listener α)) : Nat :=
  total weight ls

end Listener

namespace Frame

/-- What a frame leaves to do at most. -/
def weight : Frame α → Nat
  | body reactions => 1 + Reaction.weights reactions
  | queue _ listeners => 1 + Listener.weights listeners

/-- What a stack of frames leaves to do at most. -/
def weights (fs : List (Frame α)) : Nat :=
  total weight fs

end Frame

end Polyglot
