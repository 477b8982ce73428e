import Mathlib.Data.List.Chain
import Mathlib.Data.List.TakeWhile
import Polyglot.Text.Classes

/-!
# How the classes of characters lie to one another

Sets of characters are compared by their ranges: two sets have no character in common if no range of
the one meets a range of the other, and one is part of the other if each of its ranges is within one
of the other's. So no blank character is a word character (`not_isWord_of_isBlank`), and neither is
a number that is neither a digit nor a letter (`not_isWord_of_otherNumber`).
-/

set_option autoImplicit false

namespace Polyglot.Text

namespace CharSet

variable {s t : CharSet} {c : Char}

/-- The first range holds something and ends before the second begins. -/
def Precedes (r q : Nat × Nat) : Prop :=
  r.1 ≤ r.2 ∧ r.2 < q.1

instance (r q : Nat × Nat) : Decidable (Precedes r q) :=
  inferInstanceAs (Decidable (r.1 ≤ r.2 ∧ r.2 < q.1))

instance : Trans Precedes Precedes Precedes where
  trans h h' := ⟨h.1, by unfold Precedes at *; omega⟩

/-- Whether each range lies between two neighbours of the other list, both lists being ascending.
Those of the other list that end before one range need not be looked at for the next. -/
def areApart : List (Nat × Nat) → List (Nat × Nat) → Bool
  | [], _ => true
  | r :: rs, qs =>
    match qs.dropWhile fun q => Nat.blt q.2 r.1 with
    | [] => true
    | q :: rest => Nat.blt r.2 q.1 && areApart rs (q :: rest)

/-- Whether both sets are given in ascending ranges and no range of the one meets one of the
other. -/
def isApart (s t : CharSet) : Bool :=
  decide (s.ranges.IsChain Precedes) && decide (t.ranges.IsChain Precedes) &&
    areApart s.ranges t.ranges

/-- Whether every range of one set lies within a range of the other. -/
def isWithin (s t : CharSet) : Bool :=
  s.ranges.all fun r => t.ranges.any fun q => Nat.ble q.1 r.1 && Nat.ble r.2 q.2

/-- Ranges that are apart have no number in common. -/
theorem areApart_spec {rs qs : List (Nat × Nat)} (hrs : rs.Pairwise Precedes)
    (hqs : qs.Pairwise Precedes) (h : areApart rs qs = true) :
    ∀ r ∈ rs, ∀ q ∈ qs, r.2 < q.1 ∨ q.2 < r.1 := by
  induction rs generalizing qs with
  | nil => simp
  | cons r rs ih =>
      obtain ⟨hr, hrest⟩ := List.pairwise_cons.1 hrs
      have hsplit := List.takeWhile_append_dropWhile (p := fun q => Nat.blt q.2 r.1) (l := qs)
      have hpassed : ∀ q ∈ qs.takeWhile fun q => Nat.blt q.2 r.1, q.2 < r.1 := fun q hq =>
        Nat.blt_eq.mp (List.all_eq_true.1 List.all_takeWhile q hq)
      have hleft : (qs.dropWhile fun q => Nat.blt q.2 r.1).Pairwise Precedes :=
        hqs.sublist (List.dropWhile_sublist _)
      -- What ends before the range ends before all later ones.
      have hlater : ∀ r' ∈ r :: rs, ∀ q : Nat × Nat, q.2 < r.1 → q.2 < r'.1 := by
        intro r' hr' q hq
        rcases List.mem_cons.1 hr' with rfl | hr'
        · exact hq
        · have hprecedes := hr r' hr'
          unfold Precedes at hprecedes
          omega
      rw [areApart] at h
      intro r' hr' q hq
      rw [← hsplit, List.mem_append] at hq
      rcases hq with hq | hq
      · exact Or.inr (hlater r' hr' q (hpassed q hq))
      · cases hdrop : qs.dropWhile fun q => Nat.blt q.2 r.1 with
        | nil =>
            rw [hdrop] at hq
            cases hq
        | cons first others =>
            rw [hdrop] at h hq hleft
            obtain ⟨hfirst, hothers⟩ := Bool.and_eq_true_iff.1 h
            rcases List.mem_cons.1 hr' with rfl | hr'
            · have hbefore := Nat.blt_eq.mp hfirst
              rcases List.mem_cons.1 hq with rfl | hq
              · exact Or.inl hbefore
              · have hprecedes := (List.pairwise_cons.1 hleft).1 q hq
                unfold Precedes at hprecedes
                omega
            · exact ih hrest hleft hothers r' hr' q hq

/-- Sets whose ranges are apart have no character in common. -/
theorem not_contains_of_isApart (h : s.isApart t = true) (hc : s.contains c = true) :
    t.contains c = false := by
  obtain ⟨hboth, hranges⟩ := Bool.and_eq_true_iff.1 h
  obtain ⟨hs, ht⟩ := Bool.and_eq_true_iff.1 hboth
  obtain ⟨r, hr, hlow, hhigh⟩ := (mem_iff c s).1 hc
  refine Bool.eq_false_iff.2 fun hcontains => ?_
  obtain ⟨q, hq, hlow', hhigh'⟩ := (mem_iff c t).1 hcontains
  have hapart := areApart_spec (List.isChain_iff_pairwise.1 (of_decide_eq_true hs))
    (List.isChain_iff_pairwise.1 (of_decide_eq_true ht)) hranges r hr q hq
  omega

/-- What a set contains is in every set in which it is within. -/
theorem contains_of_isWithin (h : s.isWithin t = true) (hc : s.contains c = true) :
    t.contains c = true := by
  obtain ⟨r, hr, hlow, hhigh⟩ := (mem_iff c s).1 hc
  obtain ⟨q, hq, hwithin⟩ := List.any_eq_true.1 (List.all_eq_true.1 h r hr)
  simp only [Bool.and_eq_true, Nat.ble_eq] at hwithin
  exact (mem_iff c t).2 ⟨q, hq, by omega, by omega⟩

end CharSet

variable {c : Char}

/-- The sets that make up the word characters. -/
def wordSets : List CharSet :=
  [alphabetic, mark, decimalNumber, connector, joinControl]

/-- What is apart from these sets holds no word character. -/
theorem not_isWord_of_isApart {s : CharSet} (h : ∀ t ∈ wordSets, s.isApart t = true)
    (hc : s.contains c = true) : isWord c = false := by
  have hset : ∀ t ∈ wordSets, t.contains c = false :=
    fun t ht => CharSet.not_contains_of_isApart (h t ht) hc
  simp only [wordSets, List.mem_cons, List.not_mem_nil, or_false, forall_eq_or_imp, forall_eq]
    at hset
  obtain ⟨h₁, h₂, h₃, h₄, h₅⟩ := hset
  simp [isWord, h₁, h₂, h₃, h₄, h₅]

/-- No blank character is a word character, by the tables. -/
theorem whiteSpace_isApart : ∀ t ∈ wordSets, whiteSpace.isApart t = true := by
  decide +kernel

/-- No other number is a word character, by the tables. -/
theorem otherNumber_isApart : ∀ t ∈ wordSets, otherNumber.isApart t = true := by
  decide +kernel

/-- Digits are no marks, connectors or join controls. -/
theorem decimalNumber_isApart :
    ∀ t ∈ [mark, connector, joinControl], decimalNumber.isApart t = true := by
  decide +kernel

/-- Letter numbers are alphabetic. -/
theorem letterNumber_isWithin : letterNumber.isWithin alphabetic = true := by
  decide +kernel

/-- Blank characters are no word characters. -/
theorem not_isWord_of_isBlank (h : isBlank c = true) : isWord c = false :=
  not_isWord_of_isApart whiteSpace_isApart h

/-- Word characters are not blank. -/
theorem not_isBlank_of_isWord (h : isWord c = true) : isBlank c = false := by
  refine Bool.eq_false_iff.2 fun hblank => ?_
  rw [not_isWord_of_isBlank hblank] at h
  exact Bool.false_ne_true h

/-- Word characters do not break lines. -/
theorem not_isBreak_of_isWord (h : isWord c = true) : isBreak c = false := by
  have hblank := not_isBlank_of_isWord h
  refine Bool.eq_false_iff.2 fun hbreak => ?_
  simp only [isBreak, Bool.or_eq_true, beq_iff_eq] at hbreak
  rcases hbreak with rfl | rfl <;> exact absurd hblank (by decide)

/-- A number that is neither a digit nor a letter is no word character. -/
theorem not_isWord_of_otherNumber (h : otherNumber.contains c = true) : isWord c = false :=
  not_isWord_of_isApart otherNumber_isApart h

/-- A mark, a connector or a join control that is not alphabetic is not alphanumeric. -/
theorem not_isAlphanumeric_of_mark
    (h : mark.contains c = true ∨ connector.contains c = true ∨ joinControl.contains c = true)
    (halphabetic : alphabetic.contains c = false) : isAlphanumeric c = false := by
  have hletter : letterNumber.contains c = false := by
    refine Bool.eq_false_iff.2 fun hc => ?_
    rw [CharSet.contains_of_isWithin letterNumber_isWithin hc] at halphabetic
    exact Bool.noConfusion halphabetic
  have hnumber : decimalNumber.contains c = false ∧ otherNumber.contains c = false := by
    constructor <;> refine Bool.eq_false_iff.2 fun hc => ?_
    · have hset := fun t ht => CharSet.not_contains_of_isApart (decimalNumber_isApart t ht) hc
      simp only [List.mem_cons, List.not_mem_nil, or_false, forall_eq_or_imp, forall_eq] at hset
      simp [hset] at h
    · have hset := fun t ht => CharSet.not_contains_of_isApart (otherNumber_isApart t ht) hc
      simp only [wordSets, List.mem_cons, List.not_mem_nil, or_false, forall_eq_or_imp, forall_eq]
        at hset
      simp [hset] at h
  simp [isAlphanumeric, halphabetic, hletter, hnumber]

end Polyglot.Text
