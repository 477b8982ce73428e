/-!
# Panics

Code that is not the library's own, such as a handler of a grammar or the computation of a
property, may break off. What it leaves is a panic, which may carry a message.
-/

set_option autoImplicit false

namespace Polyglot

/-- How foreign code broke off: with a message, or with something that is no text. -/
structure Panic where
  message? : Option String
deriving DecidableEq, Repr

namespace Panic

/-- The panic of a computation that broke off with a message. -/
def ofMessage (message : String) : Panic :=
  ⟨some message⟩

/-- The message of a panic, or a stand-in where it has none. -/
def message (p : Panic) : String :=
  p.message?.getD "unknown panic"

end Panic

end Polyglot
