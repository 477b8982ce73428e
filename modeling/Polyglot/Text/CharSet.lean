/-!
# Sets of characters

A set of characters is a list of ranges of code points, both ends included. Properties of a
character database are given in this form, and membership is a search through the ranges.
-/

set_option autoImplicit false

namespace Polyglot.Text

/-- A set of characters, as ranges of code points with both ends included. -/
structure CharSet where
  /-- The ranges, each as its first and its last code point. -/
  ranges : List (Nat × Nat)

namespace CharSet

/-- Whether one of the ranges holds the code point of `c`. -/
def contains (s : CharSet) (c : Char) : Bool :=
  s.ranges.any fun r => decide (r.1 ≤ c.toNat) && decide (c.toNat ≤ r.2)

instance : Membership Char CharSet where
  mem s c := s.contains c = true

instance (c : Char) (s : CharSet) : Decidable (c ∈ s) :=
  inferInstanceAs (Decidable (s.contains c = true))

/-- A character belongs to a set exactly if some range of the set holds its code point. -/
theorem mem_iff (c : Char) (s : CharSet) :
    c ∈ s ↔ ∃ r ∈ s.ranges, r.1 ≤ c.toNat ∧ c.toNat ≤ r.2 := by
  show s.contains c = true ↔ _
  simp [contains, List.any_eq_true]

end CharSet

end Polyglot.Text
