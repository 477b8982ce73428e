import Polyglot.Proofs.Text.Covering

/-!
# Boundaries of characters

What is asked of a byte behind a prefix is asked of the rest of the text (`isBoundary_add_byteSize`,
`widthAt_add_byteSize` and so on). A byte of a text is at a boundary or inside one character
(`isBoundary_or_liesInside`), and of an offset inside a character the boundaries on both sides are
those of the character (`LiesInside.boundaries`).
-/

set_option autoImplicit false

namespace Polyglot.Text

variable {b n low high : Nat} {cs : List Char}

/-- Behind a prefix the boundaries are those of the rest. -/
theorem isBoundary_add_byteSize (n : Nat) (p s : List Char) :
    isBoundary (byteSize p + n) (p ++ s) = isBoundary n s := by
  induction p with
  | nil => simp [byteSize]
  | cons c p ih =>
      have hc := c.utf8Size_pos
      have hsub : c.utf8Size + byteSize p + n - c.utf8Size = byteSize p + n := by omega
      have hle : c.utf8Size ≤ c.utf8Size + byteSize p + n := by omega
      simp [isBoundary, byteSize, hsub, hle, hc.ne', ih]

/-- Behind a prefix the characters are as wide as in the rest. -/
theorem widthAt_add_byteSize (n : Nat) (p s : List Char) :
    widthAt (byteSize p + n) (p ++ s) = widthAt n s := by
  induction p with
  | nil => simp [byteSize]
  | cons c p ih =>
      have hc := c.utf8Size_pos
      have hsub : c.utf8Size + byteSize p + n - c.utf8Size = byteSize p + n := by omega
      rw [List.cons_append, byteSize, widthAt, if_neg (by omega), if_neg (by omega), hsub, ih]

/-- Behind a prefix the boundary before an offset is that of the rest. -/
theorem boundaryBefore_add_byteSize (hn : 0 < n) (p s : List Char) :
    boundaryBefore (byteSize p + n) (p ++ s) = byteSize p + boundaryBefore n s := by
  induction p with
  | nil => simp [byteSize]
  | cons c p ih =>
      have hsub : c.utf8Size + byteSize p + n - c.utf8Size = byteSize p + n := by omega
      rw [List.cons_append, byteSize, boundaryBefore, if_neg (by omega), hsub, ih, Nat.add_assoc]

/-- Behind a prefix the boundary after an offset is that of the rest. -/
theorem boundaryAfter_add_byteSize (n : Nat) (p s : List Char) :
    boundaryAfter (byteSize p + n) (p ++ s) = byteSize p + boundaryAfter n s := by
  have hle : total Char.utf8Size p ≤ byteSize p + n := by
    rw [← byteSize_eq_total]
    omega
  rw [boundaryAfter, widthBefore_append _ _ Char.utf8Size_pos p s _ hle, ← byteSize_eq_total,
    Nat.add_sub_cancel_left, boundaryAfter]

/-- A character that begins below a boundary ends there at the latest. -/
theorem add_widthAt_le (hb : isBoundary b cs = true) (hlt : n < b) : n + widthAt n cs ≤ b := by
  induction cs generalizing b n with
  | nil =>
      have hzero : b = 0 := by simpa [isBoundary] using hb
      omega
  | cons c cs ih =>
      simp only [isBoundary, Bool.or_eq_true, Bool.and_eq_true, beq_iff_eq, decide_eq_true_eq] at hb
      obtain hzero | ⟨hc, hrest⟩ := hb
      · omega
      · unfold widthAt
        split
        · omega
        · split
          · omega
          · have := ih hrest (n := n - c.utf8Size) (by omega)
            omega

/-- The end of a prefix is a boundary. -/
theorem isBoundary_byteSize_append (p s : List Char) :
    isBoundary (byteSize p) (p ++ s) = true :=
  (isBoundary_iff_exists_isPrefix _ _).2 ⟨p, List.prefix_append p s, rfl⟩

/-- What stands behind a text plays no part for the boundaries up to its end. -/
theorem isBoundary_append (h : n ≤ byteSize cs) (ds : List Char) :
    isBoundary n (cs ++ ds) = isBoundary n cs := by
  rw [Bool.eq_iff_iff, isBoundary_iff_exists_isPrefix, isBoundary_iff_exists_isPrefix]
  constructor
  · rintro ⟨p, hp, rfl⟩
    rw [byteSize_eq_total, byteSize_eq_total] at h
    exact ⟨p, isPrefix_of_total_le Char.utf8Size_pos hp h, rfl⟩
  · rintro ⟨p, hp, rfl⟩
    exact ⟨p, hp.trans (List.prefix_append cs ds), rfl⟩

/-- At the end of a prefix stands the first character of the rest. -/
theorem widthAt_byteSize_append (p s : List Char) :
    widthAt (byteSize p) (p ++ s) = widthAt 0 s :=
  widthAt_add_byteSize 0 p s

/-- At the end of a text stands no character. -/
theorem widthAt_byteSize (cs : List Char) : widthAt (byteSize cs) cs = 0 := by
  have h := widthAt_byteSize_append cs []
  rw [List.append_nil] at h
  rw [h, widthAt]

/-- A character does not reach behind the text. -/
theorem add_widthAt_le_byteSize (h : n ≤ byteSize cs) : n + widthAt n cs ≤ byteSize cs := by
  rcases Nat.eq_or_lt_of_le h with rfl | hlt
  · rw [widthAt_byteSize, Nat.add_zero]
  · have hwhole := isBoundary_byteSize_append cs []
    rw [List.append_nil] at hwhole
    exact add_widthAt_le hwhole hlt

/-- Characters end in the order of their offsets, if the later offset is a boundary. -/
theorem add_widthAt_mono {m : Nat} (hm : isBoundary m cs = true) (h : n ≤ m) :
    n + widthAt n cs ≤ m + widthAt m cs := by
  rcases Nat.eq_or_lt_of_le h with rfl | hlt
  · exact Nat.le_refl _
  · have := add_widthAt_le hm hlt
    omega

/-- Byte `n` lies inside the character that begins at byte `low` and ends at byte `high`. -/
def LiesInside (cs : List Char) (n low high : Nat) : Prop :=
  ∃ before c after, cs = before ++ c :: after ∧ low = byteSize before ∧
    high = byteSize before + c.utf8Size ∧ low < n ∧ n < high

/-- An offset in the text is a boundary or lies inside a character. -/
theorem isBoundary_or_liesInside (h : n ≤ byteSize cs) :
    isBoundary n cs = true ∨ ∃ low high, LiesInside cs n low high := by
  induction cs generalizing n with
  | nil =>
      obtain rfl : n = 0 := Nat.le_zero.1 h
      exact Or.inl rfl
  | cons c cs ih =>
      rw [byteSize] at h
      rcases Nat.lt_or_ge n c.utf8Size with hlt | hge
      · rcases Nat.eq_zero_or_pos n with rfl | hpos
        · exact Or.inl rfl
        · exact Or.inr ⟨0, c.utf8Size, [], c, cs, rfl, rfl, (Nat.zero_add _).symm, hpos, hlt⟩
      · rcases ih (n := n - c.utf8Size) (by omega) with hboundary | ⟨low, high, hinside⟩
        · refine Or.inl ?_
          simp [isBoundary, hge, hboundary]
        · obtain ⟨before, d, after, rfl, rfl, rfl, hlow, hhigh⟩ := hinside
          refine Or.inr ⟨_, _, c :: before, d, after, rfl, rfl, rfl, ?_, ?_⟩ <;>
            rw [byteSize] <;> omega

/-- Inside a character there is no boundary, no character begins, and the boundaries on both sides
are those of the character. -/
theorem LiesInside.boundaries (h : LiesInside cs n low high) :
    isBoundary n cs = false ∧ widthAt n cs = 0 ∧ boundaryBefore n cs = low ∧
      boundaryAfter n cs = high := by
  obtain ⟨before, c, after, rfl, rfl, rfl, hlow, hhigh⟩ := h
  obtain ⟨m, rfl⟩ := Nat.exists_eq_add_of_le hlow.le
  have hpos : 0 < m := by omega
  have hlt : m < c.utf8Size := by omega
  have hzero : m - c.utf8Size = 0 := by omega
  rw [isBoundary_add_byteSize, widthAt_add_byteSize, boundaryBefore_add_byteSize hpos,
    boundaryAfter_add_byteSize]
  simp [isBoundary, widthAt, boundaryBefore, boundaryAfter, widthBefore, hpos.ne', hlt, hlt.le,
    Nat.not_le.2 hlt, hzero]

/-- The end of the character that begins at a boundary is a boundary. -/
theorem exists_widthAt (h : isBoundary n cs = true) :
    (n = byteSize cs ∧ widthAt n cs = 0) ∨
      ∃ before c after, cs = before ++ c :: after ∧ byteSize before = n ∧
        widthAt n cs = c.utf8Size := by
  obtain ⟨p, s, rfl, rfl⟩ := (isBoundary_iff n cs).1 h
  have hwidth := widthAt_byteSize_append p s
  cases s with
  | nil => exact Or.inl ⟨by rw [List.append_nil], hwidth⟩
  | cons c s =>
      refine Or.inr ⟨p, c, s, rfl, rfl, ?_⟩
      rw [hwidth, widthAt, if_pos rfl]

/-- Behind a character is a boundary. -/
theorem isBoundary_add_widthAt (h : isBoundary n cs = true) :
    isBoundary (n + widthAt n cs) cs = true := by
  rcases exists_widthAt h with ⟨_, hzero⟩ | ⟨before, c, after, rfl, rfl, hwidth⟩
  · rwa [hzero, Nat.add_zero]
  · rw [hwidth, isBoundary_add_byteSize]
    cases after <;> simp [isBoundary]

end Polyglot.Text
