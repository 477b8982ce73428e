/-!
# Client positions

Clients of the language server protocol count columns in UTF-16 units and give ranges by a first
position and the position behind the last. A position and a range are ordered values without a
further condition: what a client sends need not lie in any text.
-/

set_option autoImplicit false

namespace Polyglot.Lsp

/-- A line and a column in UTF-16 units, both counted from zero. -/
structure Position where
  line : Nat
  character : Nat
deriving DecidableEq, Repr

namespace Position

/-- Client positions are ordered by line, and on one line by character. -/
def Le (p q : Position) : Prop :=
  p.line < q.line ∨ p.line = q.line ∧ p.character ≤ q.character

instance : LE Position where
  le := Le

instance (p q : Position) : Decidable (p ≤ q) :=
  inferInstanceAs (Decidable (p.line < q.line ∨ p.line = q.line ∧ p.character ≤ q.character))

/-- Client positions are in order by their lines, and on one line by their characters. -/
theorem le_iff {p q : Position} :
    p ≤ q ↔ p.line < q.line ∨ p.line = q.line ∧ p.character ≤ q.character :=
  Iff.rfl

end Position

/-- A half-open range: `stop` is the position behind the last one. -/
structure Range where
  start : Position
  stop : Position
deriving DecidableEq, Repr

/-- A range of the text that a URI names. -/
structure Location where
  uri : String
  range : Range
deriving DecidableEq, Repr

end Polyglot.Lsp
