/-!
# Binary search

`locate size probe` looks for an index below `size` at which `probe` answers `eq`. The probe says
how the entry at an index compares with what is sought, so it must answer `lt`, then `eq`, then
`gt` as the index grows. The search halves a window of indices and ends either at an index that
matches or at the place where the sought entry would have to be put in.

Main statements: an index that is found does match (`probe_of_locate_found`), and if the probe
answers in the order above, an insertion place has only smaller entries below it and only
greater ones from it on (`locate_absent`).
-/

set_option autoImplicit false

namespace Polyglot

/-- The outcome of a search: a matching index, or the place where a match would be put in. -/
inductive Located where
  | found (index : Nat)
  | absent (place : Nat)
deriving DecidableEq, Repr

namespace Search

/-- The search in the window of the indices `i` with `lo ≤ i < hi`. -/
def within (probe : Nat → Ordering) (lo hi : Nat) : Located :=
  if lo < hi then
    let middle := lo + (hi - lo) / 2
    match probe middle with
    | .eq => .found middle
    | .lt => within probe (middle + 1) hi
    | .gt => within probe lo middle
  else .absent lo
termination_by hi - lo

/-- The search among all indices below `size`. -/
def locate (size : Nat) (probe : Nat → Ordering) : Located :=
  within probe 0 size

/-- Where the search finds something, the probe says so. -/
theorem within_found {probe : Nat → Ordering} {lo hi i : Nat}
    (h : within probe lo hi = .found i) : lo ≤ i ∧ i < hi ∧ probe i = .eq := by
  fun_induction within probe lo hi with
  | case1 lo hi hlt middle heq =>
    injection h with h
    subst h
    exact ⟨by omega, by omega, heq⟩
  | case2 lo hi hlt middle hless ih =>
    obtain ⟨h₁, h₂, h₃⟩ := ih h
    exact ⟨by omega, h₂, h₃⟩
  | case3 lo hi hlt middle hgreater ih =>
    obtain ⟨h₁, h₂, h₃⟩ := ih h
    exact ⟨h₁, by omega, h₃⟩
  | case4 => cases h

/-- A found index is in range and matches. -/
theorem probe_of_locate_found {size i : Nat} {probe : Nat → Ordering}
    (h : locate size probe = .found i) : i < size ∧ probe i = .eq :=
  (within_found h).2

/-- If what is before comes first and what is after comes last, the search that finds nothing ends
between the two. -/
theorem within_absent {probe : Nat → Ordering} {size lo hi p : Nat}
    (hlo : ∀ i, i < lo → probe i = .lt) (hhi : ∀ i, hi ≤ i → i < size → probe i = .gt)
    (hmono : ∀ i j, i ≤ j → j < size → probe j = .lt → probe i = .lt)
    (hmono' : ∀ i j, i ≤ j → j < size → probe i = .gt → probe j = .gt)
    (hsize : hi ≤ size) (hle : lo ≤ hi) (h : within probe lo hi = .absent p) :
    p ≤ size ∧ (∀ i, i < p → probe i = .lt) ∧ ∀ i, p ≤ i → i < size → probe i = .gt := by
  fun_induction within probe lo hi with
  | case1 lo hi hlt middle heq => cases h
  | case2 lo hi hlt middle hless ih =>
    refine ih ?_ hhi hsize (by omega) h
    intro i hi'
    exact hmono i middle (by omega) (by omega) hless
  | case3 lo hi hlt middle hgreater ih =>
    refine ih hlo ?_ (by omega) (by omega) h
    intro i hi' hsz
    exact hmono' middle i hi' hsz hgreater
  | case4 lo hi hnlt =>
    injection h with h
    have : hi = p := by omega
    subst h this
    exact ⟨hsize, hlo, hhi⟩

/-- Where nothing matches, the insertion place separates the smaller entries from the greater. -/
theorem locate_absent {size p : Nat} {probe : Nat → Ordering}
    (hmono : ∀ i j, i ≤ j → j < size → probe j = .lt → probe i = .lt)
    (hmono' : ∀ i j, i ≤ j → j < size → probe i = .gt → probe j = .gt)
    (h : locate size probe = .absent p) :
    p ≤ size ∧ (∀ i, i < p → probe i = .lt) ∧ ∀ i, p ≤ i → i < size → probe i = .gt :=
  within_absent (fun i hi => absurd hi (Nat.not_lt_zero i))
    (fun _ hi hlt => absurd hlt (Nat.not_lt.2 hi)) hmono hmono' (Nat.le_refl size)
    (Nat.zero_le size) h

end Search

end Polyglot
