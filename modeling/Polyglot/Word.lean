/-!
# Words

Lines and columns are words of 32 bits. A number that is too great for a word keeps only its low
bits, and arithmetic on words wraps around at either end, as it does where overflow is not checked.

Both definitions are irreducible: unfolding them brings in a great number and shows nothing that the
lemmas here do not say.
-/

set_option autoImplicit false

namespace Polyglot

/-- What a word of 32 bits keeps of a number. -/
@[irreducible]
def lowWord (n : Nat) : Nat :=
  n % UInt32.size

/-- The word before a word; before zero it is the greatest one. -/
@[irreducible]
def previousWord (w : Nat) : Nat :=
  if w = 0 then UInt32.size - 1 else w - 1

/-- A word is below the number of words. -/
theorem lowWord_lt (n : Nat) : lowWord n < UInt32.size := by
  unfold lowWord
  exact Nat.mod_lt n (by decide)

/-- A word is no more than the number that it is taken from. -/
theorem lowWord_le (n : Nat) : lowWord n ≤ n := by
  unfold lowWord
  exact Nat.mod_le n UInt32.size

/-- Zero fits into a word. -/
@[simp]
theorem lowWord_zero : lowWord 0 = 0 :=
  Nat.le_zero.1 (lowWord_le 0)

/-- A word keeps all of a number that fits into it. -/
theorem lowWord_of_lt {n : Nat} (h : n < UInt32.size) : lowWord n = n := by
  unfold lowWord
  exact Nat.mod_eq_of_lt h

/-- Behind the greatest word there is zero. -/
theorem lowWord_size : lowWord UInt32.size = 0 := by
  unfold lowWord
  exact Nat.mod_self UInt32.size

/-- Only before zero the word before a word wraps around. -/
theorem previousWord_of_pos {w : Nat} (h : 0 < w) : previousWord w = w - 1 := by
  unfold previousWord
  exact if_neg (Nat.ne_of_gt h)

/-- Going back by one and keeping the low bits may change places. -/
theorem previousWord_lowWord {n : Nat} (h : 0 < n) :
    previousWord (lowWord n) = lowWord (n - 1) := by
  unfold previousWord lowWord
  simp only [UInt32.size]
  split <;> omega

end Polyglot
