import Polyglot.Grammar.Answer

/-!
# Property values

A property may hold values of several kinds. A kind has a type of values and a name, which error
messages give. A value knows its kind, and reading it as another kind fails.

The kinds of this library are texts, natural numbers, truth values and lists of declarations.
-/

set_option autoImplicit false

namespace Polyglot

/-- The kinds of values, each with its type of values and its name. -/
class ValueKind (K : Type) where
  Carrier : K → Type
  name : K → String

/-- A value together with its kind. -/
structure PropertyValue (K : Type) [ValueKind K] where
  kind : K
  content : ValueKind.Carrier kind

namespace PropertyValue

variable {K : Type} [DecidableEq K] [ValueKind K]

/-- The value read as one of the kind, if it is of that kind. -/
def as? (kind : K) (value : PropertyValue K) : Option (ValueKind.Carrier kind) :=
  if h : value.kind = kind then some (h ▸ value.content) else none

/-- A value has the content of its own kind. -/
@[simp]
theorem as?_mk (kind : K) (content : ValueKind.Carrier kind) :
    (PropertyValue.mk kind content).as? kind = some content := by
  simp [as?]

end PropertyValue

/-- The kinds of values that handlers and callers keep. -/
inductive PropertyKind where
  | text
  | number
  | flag
  | declarations
deriving DecidableEq, Repr

namespace PropertyKind

instance : ValueKind PropertyKind where
  Carrier
    | text => String
    | number => Nat
    | flag => Bool
    | declarations => List Declaration
  name
    | text => "alloc::string::String"
    | number => "u64"
    | flag => "bool"
    | declarations => "declarations"

end PropertyKind

end Polyglot
