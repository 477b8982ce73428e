/-!
# Totals along a list

The sum of a measure over the items of a list. A total adds up over the parts of a list, and an
item that is replaced changes it by the difference of the two measures.
-/

set_option autoImplicit false

namespace Polyglot

variable {α : Type}

/-- The sum of a measure over the items of a list. -/
def total (f : α → Nat) : List α → Nat
  | [] => 0
  | x :: xs => f x + total f xs

/-- Nothing has no total. -/
@[simp]
theorem total_nil (f : α → Nat) : total f [] = 0 := rfl

/-- The first item adds its measure to the total of the others. -/
@[simp]
theorem total_cons (f : α → Nat) (x : α) (xs : List α) :
    total f (x :: xs) = f x + total f xs := rfl

/-- Totals of two lists add up. -/
@[simp]
theorem total_append (f : α → Nat) (xs ys : List α) :
    total f (xs ++ ys) = total f xs + total f ys := by
  induction xs with
  | nil => simp
  | cons x xs ih => rw [List.cons_append, total_cons, total_cons, ih, Nat.add_assoc]

/-- Replacing an item takes its measure away and adds that of the new one. -/
theorem total_set (f : α → Nat) (xs : List α) (i : Nat) (x y : α) (h : xs[i]? = some x) :
    total f (xs.set i y) + f x = total f xs + f y := by
  induction xs generalizing i with
  | nil => simp at h
  | cons z zs ih =>
    cases i with
    | zero =>
      obtain rfl : z = x := by simpa using h
      simp only [List.set_cons_zero, total_cons]
      omega
    | succ i =>
      have h' := ih i (by simpa using h)
      simp only [List.set_cons_succ, total_cons]
      omega

end Polyglot
