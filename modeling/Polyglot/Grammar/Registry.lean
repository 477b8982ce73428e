import Polyglot.Grammar.Handler

/-!
# Grammar registry

The registry finds the handler of a grammar by name. A later handler of the same name replaces an
earlier one.
-/

set_option autoImplicit false

namespace Polyglot

/-- Handlers by the names of their grammars. -/
structure GrammarRegistry where
  handlers : Dictionary Handler

namespace GrammarRegistry

/-- The registry without handlers. -/
def empty : GrammarRegistry :=
  ⟨.empty⟩

/-- The registry with the handler under its own name. -/
def register (registry : GrammarRegistry) (handler : Handler) : GrammarRegistry :=
  ⟨registry.handlers.insert handler.name handler⟩

/-- The registry of a list of handlers, registered in order. -/
def ofList (handlers : List Handler) : GrammarRegistry :=
  handlers.foldl register empty

/-- The handler of a grammar. -/
def handler? (registry : GrammarRegistry) (grammar : String) : Option Handler :=
  registry.handlers.find? grammar

/-- The handler of a grammar, if it finds references. -/
def referenceProvider? (registry : GrammarRegistry) (grammar : String) : Option Handler :=
  (registry.handler? grammar).filter fun handler => handler.references?.isSome

/-- The names of the grammars, sorted. -/
def names (registry : GrammarRegistry) : List String :=
  registry.handlers.sortedKeys

/-- The registry as debugging output shows it. -/
def debug (registry : GrammarRegistry) : String :=
  Text.record "GrammarRegistry" [("grammars", Text.bracketed (registry.names.map Text.quoted))]

end GrammarRegistry

end Polyglot
