import Polyglot.Total

/-!
# Measures of a text

A text is measured in bytes of its UTF-8 form and in units of its UTF-16 form. Every character
has a positive width in both measures, so a place in a text can be given in either, and
`widthBefore` converts between them: it walks over whole characters until a width in one measure
is used up and says how much of the other measure was passed.

A number of bytes is a *boundary* of a text if some prefix of whole characters has that size.
-/

set_option autoImplicit false

namespace Polyglot.Text

/-- The number of bytes of a text in UTF-8. -/
def byteSize : List Char → Nat
  | [] => 0
  | c :: cs => c.utf8Size + byteSize cs

/-- The number of UTF-16 units of a character: two beyond the basic plane. -/
def unitWidth (c : Char) : Nat :=
  if c.toNat < 0x10000 then 1 else 2

/-- The number of units of a text in UTF-16. -/
def unitSize : List Char → Nat
  | [] => 0
  | c :: cs => unitWidth c + unitSize cs

/-- The `count` width of the shortest prefix of whole characters whose `stop` width is at least
`n`, or of the whole text if it is not that wide. -/
def widthBefore (stop count : Char → Nat) : Nat → List Char → Nat
  | _, [] => 0
  | n, c :: cs => if n = 0 then 0 else count c + widthBefore stop count (n - stop c) cs

/-- The UTF-16 units of the characters that begin before byte `n`. -/
def unitsBeforeByte (n : Nat) (cs : List Char) : Nat :=
  widthBefore Char.utf8Size unitWidth n cs

/-- The bytes of the shortest prefix of whole characters that has at least `n` UTF-16 units. -/
def bytesBeforeUnit (n : Nat) (cs : List Char) : Nat :=
  widthBefore unitWidth Char.utf8Size n cs

/-- The text from byte `n` on. -/
def dropBytes : Nat → List Char → List Char
  | _, [] => []
  | n, c :: cs => if n = 0 then c :: cs else dropBytes (n - c.utf8Size) cs

/-- The text up to byte `n`. -/
def takeBytes : Nat → List Char → List Char
  | _, [] => []
  | n, c :: cs => if n = 0 then [] else c :: takeBytes (n - c.utf8Size) cs

/-- The text from byte `start` up to byte `stop`. -/
def slice (start stop : Nat) (cs : List Char) : List Char :=
  takeBytes (stop - start) (dropBytes start cs)

/-- Whether some prefix of whole characters has exactly `n` bytes. -/
def isBoundary : Nat → List Char → Bool
  | n, [] => n == 0
  | n, c :: cs => n == 0 || (decide (c.utf8Size ≤ n) && isBoundary (n - c.utf8Size) cs)

/-- The greatest boundary below byte `n`, or 0. -/
def boundaryBefore : Nat → List Char → Nat
  | _, [] => 0
  | n, c :: cs => if n ≤ c.utf8Size then 0 else c.utf8Size + boundaryBefore (n - c.utf8Size) cs

/-- The least boundary at byte `n` or above it, or the size of the text. -/
def boundaryAfter (n : Nat) (cs : List Char) : Nat :=
  widthBefore Char.utf8Size Char.utf8Size n cs

/-- The width in bytes of the character that begins at byte `n`; 0 if none begins there. -/
def widthAt : Nat → List Char → Nat
  | _, [] => 0
  | n, c :: cs =>
    if n = 0 then c.utf8Size
    else if n < c.utf8Size then 0
    else widthAt (n - c.utf8Size) cs

/-- The bytes of two texts add up. -/
theorem byteSize_append (cs ds : List Char) :
    byteSize (cs ++ ds) = byteSize cs + byteSize ds := by
  induction cs with
  | nil => simp [byteSize]
  | cons c cs ih => simp [byteSize, ih, Nat.add_assoc]

/-- The units of two texts add up. -/
theorem unitSize_append (cs ds : List Char) :
    unitSize (cs ++ ds) = unitSize cs + unitSize ds := by
  induction cs with
  | nil => simp [unitSize]
  | cons c cs ih => simp [unitSize, ih, Nat.add_assoc]

/-- Every character has a unit. -/
theorem unitWidth_pos (c : Char) : 0 < unitWidth c := by
  unfold unitWidth
  split <;> decide

/-- Nothing is counted before the beginning. -/
@[simp]
theorem widthBefore_zero (stop count : Char → Nat) (cs : List Char) :
    widthBefore stop count 0 cs = 0 := by
  cases cs <;> simp [widthBefore]

/-- Every character has some width, so no character of a prefix begins after the prefix. -/
theorem widthBefore_append (stop count : Char → Nat) (hstop : ∀ c, 0 < stop c) (cs ds : List Char)
    (n : Nat) (h : total stop cs ≤ n) :
    widthBefore stop count n (cs ++ ds) =
      total count cs + widthBefore stop count (n - total stop cs) ds := by
  induction cs generalizing n with
  | nil => simp
  | cons c cs ih =>
    have hc := hstop c
    simp only [total_cons] at h ⊢
    have hn : n ≠ 0 := by omega
    rw [List.cons_append, widthBefore, if_neg hn, ih (n - stop c) (by omega), Nat.sub_sub,
      Nat.add_assoc]

/-- To drop no bytes leaves the text. -/
@[simp]
theorem dropBytes_zero (cs : List Char) : dropBytes 0 cs = cs := by
  cases cs <;> simp [dropBytes]

/-- To take no bytes leaves nothing. -/
@[simp]
theorem takeBytes_zero (cs : List Char) : takeBytes 0 cs = [] := by
  cases cs <;> simp [takeBytes]

/-- As many bytes as a prefix has are this prefix. -/
theorem takeBytes_byteSize_append (cs ds : List Char) :
    takeBytes (byteSize cs) (cs ++ ds) = cs := by
  induction cs with
  | nil => simp [byteSize]
  | cons c cs ih =>
    have hc := c.utf8Size_pos
    have hn : c.utf8Size + byteSize cs ≠ 0 := by omega
    rw [byteSize, List.cons_append, takeBytes, if_neg hn, Nat.add_sub_cancel_left, ih]

/-- Behind as many bytes as a prefix has is the rest. -/
theorem dropBytes_byteSize_append (cs ds : List Char) :
    dropBytes (byteSize cs) (cs ++ ds) = ds := by
  induction cs with
  | nil => simp [byteSize]
  | cons c cs ih =>
    have hc := c.utf8Size_pos
    have hn : c.utf8Size + byteSize cs ≠ 0 := by omega
    rw [byteSize, List.cons_append, dropBytes, if_neg hn, Nat.add_sub_cancel_left, ih]

/-- A boundary is the size of a prefix. -/
theorem isBoundary_iff (n : Nat) (cs : List Char) :
    isBoundary n cs = true ↔ ∃ p s, cs = p ++ s ∧ byteSize p = n := by
  induction cs generalizing n with
  | nil =>
    constructor
    · intro h
      exact ⟨[], [], rfl, (of_decide_eq_true h).symm⟩
    · rintro ⟨p, s, h, rfl⟩
      obtain ⟨rfl, rfl⟩ := List.append_eq_nil_iff.1 h.symm
      rfl
  | cons c cs ih =>
    simp only [isBoundary, Bool.or_eq_true, Bool.and_eq_true, beq_iff_eq, decide_eq_true_eq, ih]
    constructor
    · rintro (rfl | ⟨hle, p, s, rfl, hp⟩)
      · exact ⟨[], c :: cs, rfl, rfl⟩
      · exact ⟨c :: p, s, rfl, by simp only [byteSize]; omega⟩
    · rintro ⟨p, s, h, rfl⟩
      cases p with
      | nil => exact Or.inl rfl
      | cons d p =>
        simp only [List.cons_append, List.cons.injEq] at h
        obtain ⟨rfl, rfl⟩ := h
        refine Or.inr ⟨?_, p, s, rfl, ?_⟩ <;> simp only [byteSize] <;> omega

end Polyglot.Text
