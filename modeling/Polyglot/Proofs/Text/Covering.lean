import Mathlib.Order.Bounds.Basic
import Polyglot.Text.Measure

/-!
# Prefixes that cover a width

`covering width n cs` is the shortest prefix of whole characters that is at least `n` wide, or the
whole text if it is not that wide. `Text.widthBefore` measures this prefix in another width
(`widthBefore_eq`), and the width of the prefix itself is the least one of a prefix that reaches `n`
(`isLeast_covering`). A prefix covers its own width (`covering_total`), so going from one measure to
the other and back stays on the same prefix.
-/

set_option autoImplicit false

namespace Polyglot

section Total

variable {α : Type} {f g : α → Nat} {xs ys : List α}

/-- A beginning has no more in total than the whole. -/
theorem total_le_of_isPrefix (h : xs <+: ys) : total f xs ≤ total f ys := by
  obtain ⟨zs, rfl⟩ := h
  simp

/-- A greater measure has a greater total. -/
theorem total_le_total (h : ∀ x, f x ≤ g x) (xs : List α) : total f xs ≤ total g xs := by
  induction xs with
  | nil => simp
  | cons x xs ih =>
      have hx := h x
      simp only [total_cons]
      omega

end Total

namespace Text

/-- The size in bytes is the total of the sizes of the characters. -/
theorem byteSize_eq_total (cs : List Char) : byteSize cs = total Char.utf8Size cs := by
  induction cs with
  | nil => rfl
  | cons c cs ih => rw [byteSize, ih, total_cons]

/-- The size in units is the total of the widths of the characters. -/
theorem unitSize_eq_total (cs : List Char) : unitSize cs = total unitWidth cs := by
  induction cs with
  | nil => rfl
  | cons c cs ih => rw [unitSize, ih, total_cons]

/-- A character of one byte is one unit wide, and none has more than two units. -/
theorem unitWidth_le_utf8Size (c : Char) : unitWidth c ≤ c.utf8Size := by
  have hpos := c.utf8Size_pos
  unfold unitWidth
  split
  · exact hpos
  · rename_i hwide
    rw [Char.utf8Size]
    split
    · rename_i hle
      have hval : c.toNat ≤ 127 := UInt32.le_iff_toNat_le.1 hle
      omega
    · split_ifs <;> omega

/-- The shortest prefix of whole characters that is at least `n` wide, or the whole text. -/
def covering (width : Char → Nat) : Nat → List Char → List Char
  | _, [] => []
  | n, c :: cs => if n = 0 then [] else c :: covering width (n - width c) cs

variable {width : Char → Nat} {n m : Nat} {p cs : List Char}

/-- Nothing is needed to cover nothing. -/
@[simp]
theorem covering_zero (width : Char → Nat) (cs : List Char) : covering width 0 cs = [] := by
  cases cs <;> simp [covering]

/-- What is counted before a number is the total over the covering prefix. -/
theorem widthBefore_eq (stop count : Char → Nat) (n : Nat) (cs : List Char) :
    widthBefore stop count n cs = total count (covering stop n cs) := by
  induction cs generalizing n with
  | nil => rfl
  | cons c cs ih =>
      by_cases hn : n = 0
      · simp [hn]
      · rw [widthBefore, covering, if_neg hn, if_neg hn, ih, total_cons]

/-- The covering prefix is a prefix. -/
theorem covering_isPrefix (width : Char → Nat) (n : Nat) (cs : List Char) :
    covering width n cs <+: cs := by
  induction cs generalizing n with
  | nil => exact List.prefix_rfl
  | cons c cs ih =>
      rw [covering]
      split
      · exact List.nil_prefix
      · exact List.cons_prefix_cons.2 ⟨rfl, ih _⟩

/-- The covering prefix covers what the text can cover. -/
theorem le_total_covering (h : n ≤ total width cs) : n ≤ total width (covering width n cs) := by
  induction cs generalizing n with
  | nil => exact h
  | cons c cs ih =>
      rw [covering]
      split
      · omega
      · rw [total_cons] at h ⊢
        have hrest := ih (n := n - width c) (by omega)
        omega

/-- What stands behind a text that is wide enough plays no part. -/
theorem covering_append (h : n ≤ total width cs) (ds : List Char) :
    covering width n (cs ++ ds) = covering width n cs := by
  induction cs generalizing n with
  | nil =>
      obtain rfl : n = 0 := Nat.le_zero.1 h
      simp
  | cons c cs ih =>
      rw [total_cons] at h
      rw [List.cons_append, covering, covering, ih (by omega)]

section Positive

variable (hwidth : ∀ c, 0 < width c)
include hwidth

/-- A beginning that does not cover enough is all in the covering prefix. -/
theorem covering_append_of_le (h : total width cs ≤ n) (ds : List Char) :
    covering width n (cs ++ ds) = cs ++ covering width (n - total width cs) ds := by
  induction cs generalizing n with
  | nil => simp
  | cons c cs ih =>
      have hc := hwidth c
      rw [total_cons] at h ⊢
      rw [List.cons_append, covering, if_neg (by omega), ih (by omega), Nat.sub_sub,
        List.cons_append]

/-- A text that does not cover more is its own covering prefix. -/
theorem covering_eq_self (h : total width cs ≤ n) : covering width n cs = cs := by
  have happend := covering_append_of_le hwidth h []
  rw [List.append_nil] at happend
  rw [happend]
  simp [covering]

/-- A prefix is what covers its width. -/
theorem covering_total (h : p <+: cs) : covering width (total width p) cs = p := by
  obtain ⟨ds, rfl⟩ := h
  rw [covering_append (Nat.le_refl _), covering_eq_self hwidth (Nat.le_refl _)]

/-- A prefix that is no wider than the first of two texts ends in it. -/
theorem isPrefix_of_total_le {q ds : List Char} (hq : q <+: cs ++ ds)
    (hle : total width q ≤ total width cs) : q <+: cs := by
  have hcovering := covering_total hwidth hq
  rw [covering_append hle] at hcovering
  rw [← hcovering]
  exact covering_isPrefix _ _ _

end Positive

/-- Every prefix that is wide enough holds the shortest one. -/
theorem covering_prefix_of_le (h : p <+: cs) (hn : n ≤ total width p) :
    covering width n cs <+: p := by
  obtain ⟨ds, rfl⟩ := h
  rw [covering_append hn]
  exact covering_isPrefix width n p

/-- To cover more takes a longer prefix. -/
theorem covering_mono (hnm : n ≤ m) (cs : List Char) :
    covering width n cs <+: covering width m cs := by
  induction cs generalizing n m with
  | nil => exact List.prefix_rfl
  | cons c cs ih =>
      rw [covering, covering]
      split
      · exact List.nil_prefix
      · rw [if_neg (by omega)]
        exact List.cons_prefix_cons.2 ⟨rfl, ih (by omega)⟩

/-- The covering prefix has the least width of all that reach `n`. -/
theorem isLeast_covering (h : n ≤ total width cs) :
    IsLeast {w | (∃ p, p <+: cs ∧ total width p = w) ∧ n ≤ w}
      (total width (covering width n cs)) := by
  refine ⟨⟨⟨_, covering_isPrefix width n cs, rfl⟩, le_total_covering h⟩, ?_⟩
  rintro w ⟨⟨p, hp, rfl⟩, hn⟩
  exact total_le_of_isPrefix (covering_prefix_of_le hp hn)

/-- Boundaries are the sizes of prefixes. -/
theorem isBoundary_iff_exists_isPrefix (n : Nat) (cs : List Char) :
    isBoundary n cs = true ↔ ∃ p, p <+: cs ∧ byteSize p = n := by
  rw [isBoundary_iff]
  constructor
  · rintro ⟨p, s, rfl, hp⟩
    exact ⟨p, List.prefix_append p s, hp⟩
  · rintro ⟨p, ⟨s, rfl⟩, hp⟩
    exact ⟨p, s, rfl, hp⟩

end Text

end Polyglot
