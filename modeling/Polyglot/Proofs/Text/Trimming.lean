import Mathlib.Data.List.DropRight
import Mathlib.Data.List.TakeWhile
import Polyglot.Text.Classes

/-!
# Trimming

Trimming takes runs of characters of a class off both ends of a text and stops at the first other
character. `trim_surrounded` and `exists_trim` say together that the trimmed text is the only one
that stands between two such runs and neither begins nor ends with a character of the class.
-/

set_option autoImplicit false

namespace Polyglot.Text

variable {p : Char → Bool}

/-- Characters of the class in front of a text do not show after trimming. -/
theorem trim_append_left {pre cs : List Char} (h : ∀ c ∈ pre, p c = true) :
    trim p (pre ++ cs) = trim p cs := by
  rw [trim, List.dropWhile_append_of_pos h, ← trim]

/-- Characters of the class behind a text do not show after trimming its end. -/
theorem trimEnd_append_right {cs post : List Char} (h : ∀ c ∈ post, p c = true) :
    trimEnd p (cs ++ post) = trimEnd p cs := by
  have hrev : ∀ c ∈ post.reverse, p c = true := fun c hc => h c (List.mem_reverse.1 hc)
  rw [trimEnd, List.reverse_append, List.dropWhile_append_of_pos hrev, ← trimEnd]

/-- A text whose last character is not of the class has nothing to lose at its end. -/
theorem trimEnd_eq_self {cs : List Char} (h : ∀ c, cs.getLast? = some c → p c = false) :
    trimEnd p cs = cs := by
  refine List.rdropWhile_eq_self_iff.2 ?_
  intro hne
  rw [h _ (List.getLast?_eq_some_getLast hne)]
  exact Bool.false_ne_true

/-- A text that begins with another character keeps its beginning. -/
theorem dropWhile_eq_self {cs : List Char} (h : ∀ c, cs.head? = some c → p c = false) :
    cs.dropWhile p = cs := by
  cases cs with
  | nil => rfl
  | cons c cs =>
      have hc : p c = false := h c rfl
      rw [List.dropWhile_cons, hc, if_neg Bool.false_ne_true]

/-- What stands between two runs of the class, and neither begins nor ends in the class, is what
trimming leaves. -/
theorem trim_surrounded {pre core post : List Char} (hpre : ∀ c ∈ pre, p c = true)
    (hpost : ∀ c ∈ post, p c = true) (hfirst : ∀ c, core.head? = some c → p c = false)
    (hlast : ∀ c, core.getLast? = some c → p c = false) (hne : core ≠ []) :
    trim p (pre ++ core ++ post) = core := by
  have hhead : ∀ c, (core ++ post).head? = some c → p c = false := by
    intro c hc
    rw [List.head?_append_of_ne_nil _ hne] at hc
    exact hfirst c hc
  rw [List.append_assoc, trim_append_left hpre, trim, dropWhile_eq_self hhead,
    trimEnd_append_right hpost, trimEnd_eq_self hlast]

/-- Trimming takes a run of the class off each end. -/
theorem exists_trim (p : Char → Bool) (cs : List Char) :
    ∃ pre post, cs = pre ++ trim p cs ++ post ∧ (∀ c ∈ pre, p c = true) ∧
      ∀ c ∈ post, p c = true := by
  obtain ⟨post, hpost, hall⟩ := exists_trimEnd_append p (cs.dropWhile p)
  refine ⟨cs.takeWhile p, post, ?_, List.all_eq_true.1 List.all_takeWhile, hall⟩
  rw [List.append_assoc, trim, hpost, List.takeWhile_append_dropWhile]

/-- Nothing is left exactly if all characters are of the class. -/
theorem trim_eq_nil_iff (cs : List Char) : trim p cs = [] ↔ ∀ c ∈ cs, p c = true := by
  constructor
  · intro h c hc
    obtain ⟨pre, post, heq, hpre, hpost⟩ := exists_trim p cs
    rw [h, List.append_nil] at heq
    rw [heq, List.mem_append] at hc
    exact hc.elim (hpre c) (hpost c)
  · intro h
    rw [trim, List.dropWhile_eq_nil_iff.2 h]
    rfl

end Polyglot.Text
