import Mathlib.Algebra.Group.Nat.Defs
import Mathlib.Data.List.Forall2
import Mathlib.Data.List.Lex
import Polyglot.Lsp.Completion

/-!
# Completions sorted by their sort texts

A client shows completions in the order of their sort texts. Numerals that are filled up to one
width stand in the order of their numbers (`Text.lex_padZeros`), so the sort texts ascend as long as
every place of the list has a numeral of four digits (`isBefore_sortTextOf`). The first place with
five digits comes before the last one with four (`isBefore_sortTextOf_overflow`). So sorting keeps
the order of the handler exactly if it offers no more than ten thousand completions
(`completionResponse_keeps_order_iff`).
-/

set_option autoImplicit false

namespace Polyglot

namespace Text

/-- The first character has the smaller code point. -/
def IsBelow (c d : Char) : Prop :=
  c.toNat < d.toNat

/-- The first text comes before the second in the order of code points: it has the smaller one at
the first place where they differ, or it is a proper beginning of the second. -/
def IsBefore (s t : String) : Prop :=
  List.Lex IsBelow s.toList t.toList

/-- No two texts are before each other. -/
theorem IsBefore.asymm {s t : String} (h : IsBefore s t) : ¬IsBefore t s :=
  List.lex_asymm (r := IsBelow) Nat.lt_asymm h

/-- What stands behind beginnings of one length plays no part. -/
theorem lex_append {α : Type} {r : α → α → Prop} {as bs : List α} (h : List.Lex r as bs)
    (hlength : as.length = bs.length) (cs ds : List α) : List.Lex r (as ++ cs) (bs ++ ds) := by
  induction h with
  | nil => cases hlength
  | rel hlt => exact .rel hlt
  | cons _ ih => exact .cons (ih (Nat.succ.inj hlength))

variable {width i j n : Nat}

/-- The last digit of a number that is filled up stands behind the others, filled up as well. -/
theorem padZeros_toDigits_succ (hwidth : 0 < width) (n : Nat) :
    padZeros (width + 1) (Nat.toDigits 10 n) =
      padZeros width (Nat.toDigits 10 (n / 10)) ++ [(n % 10).digitChar] := by
  rcases Nat.lt_or_ge n 10 with hn | hn
  · obtain ⟨fill, rfl⟩ := Nat.exists_eq_add_of_le' hwidth
    rw [Nat.toDigits_of_lt_base hn, Nat.div_eq_of_lt hn, Nat.mod_eq_of_lt hn, Nat.toDigits_zero]
    simp [padZeros, List.replicate_succ']
  · rw [Nat.toDigits_of_base_le (by decide) hn]
    simp [padZeros]

/-- A number of no more digits than asked for is filled up to just that many. -/
theorem length_padZeros_toDigits (hwidth : 0 < width) (hn : n < 10 ^ width) :
    (padZeros width (Nat.toDigits 10 n)).length = width := by
  have hdigits := (Nat.length_toDigits_le_iff (by decide) hwidth).2 hn
  simp only [padZeros, List.length_append, List.length_replicate]
  omega

/-- Numerals of one width stand in the order of their numbers. -/
theorem lex_padZeros (hij : i < j) (hj : j < 10 ^ width) :
    List.Lex IsBelow (padZeros width (Nat.toDigits 10 i)) (padZeros width (Nat.toDigits 10 j)) := by
  have hdigit : ∀ a b : Nat, a < b → b < 10 → IsBelow a.digitChar b.digitChar := by
    intro a b hab hb
    rw [IsBelow, Nat.toNat_digitChar_of_lt_ten hb, Nat.toNat_digitChar_of_lt_ten (hab.trans hb)]
    omega
  -- The induction takes the last digits away, as long as there is more than one.
  induction width generalizing i j with
  | zero => omega
  | succ width ih =>
      rcases Nat.eq_zero_or_pos width with rfl | hwidth
      · have hj10 : j < 10 := by simpa using hj
        rw [Nat.toDigits_of_lt_base hj10, Nat.toDigits_of_lt_base (hij.trans hj10)]
        exact .rel (hdigit i j hij hj10)
      · rw [Nat.pow_succ] at hj
        have hi10 : i / 10 < 10 ^ width := by omega
        have hj10 : j / 10 < 10 ^ width := by omega
        rw [padZeros_toDigits_succ hwidth, padZeros_toDigits_succ hwidth]
        rcases Nat.eq_or_lt_of_le (Nat.div_le_div_right (c := 10) hij.le) with heq | hlt
        · have hlast := hdigit (i % 10) (j % 10) (by omega) (Nat.mod_lt j (by decide))
          rw [heq]
          exact .append_left _ (.rel hlast) _
        · refine lex_append (ih hlt hj10) ?_ _ _
          rw [length_padZeros_toDigits hwidth hi10, length_padZeros_toDigits hwidth hj10]

end Text

namespace Lsp

open CompletionItem (sortTextOf ofCompletion)
open Text (IsBefore)

variable {completions : List Completion} {items shown : List CompletionItem} {i j : Nat}

/-- Where all numerals have four digits, sort texts stand in the order of the places. -/
theorem isBefore_sortTextOf (hij : i < j) (hj : j < 10000) (label label' : String) :
    IsBefore (sortTextOf i label) (sortTextOf j label') := by
  have hj' : j < 10 ^ 4 := hj
  have hlex := Text.lex_padZeros hij hj'
  have hlength := Text.length_padZeros_toDigits (by decide) (hij.trans hj')
  have hlength' := Text.length_padZeros_toDigits (by decide) hj'
  unfold IsBefore sortTextOf
  simp only [String.toList_append, String.toList_ofList, List.append_assoc]
  exact Text.lex_append hlex (hlength.trans hlength'.symm) _ _

/-- The first numeral of five digits comes before the last one of four. -/
theorem isBefore_sortTextOf_overflow (label label' : String) :
    IsBefore (sortTextOf 10000 label) (sortTextOf 9999 label') := by
  unfold IsBefore sortTextOf
  simp only [String.toList_append, String.toList_ofList, List.append_assoc]
  exact .rel (show '1'.toNat < '9'.toNat by decide)

/-- The item offers what the completion does. -/
def Offers (c : Completion) (item : CompletionItem) : Prop :=
  item.label = c.label ∧ item.detail = c.detail ∧ item.insertText = c.insertText

/-- The items as a client may show them: none stands behind an item whose sort text comes after its
own. -/
def SortedFrom (items shown : List CompletionItem) : Prop :=
  shown.Perm items ∧ shown.Pairwise fun a b => ¬IsBefore b.sortText a.sortText

/-- The sort texts of the items ascend. -/
def Ascending (items : List CompletionItem) : Prop :=
  items.Pairwise fun a b => IsBefore a.sortText b.sortText

/-- The item at a place of the list is made from the completion at this place. -/
def AreItemsOf (completions : List Completion) (items : List CompletionItem) : Prop :=
  List.Forall₂ Offers completions items ∧
    ∀ (place : Nat) (h : place < items.length),
      items[place].sortText = sortTextOf place items[place].label

/-- The answer lists the completions in order with their sort texts. -/
theorem completionResponse_eq_some (h : completionResponse completions = some items) :
    AreItemsOf completions items := by
  unfold completionResponse at h
  split at h
  · cases h
  · cases h
    constructor
    · rw [List.forall₂_iff_get]
      refine ⟨by simp, fun place h₁ h₂ => ?_⟩
      simp [Offers, ofCompletion]
    · intro place h
      simp [ofCompletion]

/-- Each completion has its item. -/
theorem AreItemsOf.length_eq (h : AreItemsOf completions items) :
    items.length = completions.length :=
  h.1.length_eq.symm

/-- Up to ten thousand items ascend. -/
theorem AreItemsOf.ascending (h : AreItemsOf completions items)
    (hfew : completions.length ≤ 10000) : Ascending items := by
  refine List.pairwise_iff_getElem.2 fun i j hi hj hij => ?_
  rw [h.2 i hi, h.2 j hj]
  exact isBefore_sortTextOf hij (Nat.lt_of_lt_of_le hj (h.length_eq ▸ hfew)) _ _

/-- Among more than ten thousand items, one comes before an earlier one. -/
theorem AreItemsOf.exists_descent (h : AreItemsOf completions items)
    (hmany : 10000 < completions.length) :
    ∃ (i j : Nat) (hi : i < items.length) (hj : j < items.length), i < j ∧
      IsBefore items[j].sortText items[i].sortText := by
  have hlast : 10000 < items.length := h.length_eq ▸ hmany
  refine ⟨9999, 10000, by omega, hlast, by omega, ?_⟩
  rw [h.2 9999 (by omega), h.2 10000 hlast]
  exact isBefore_sortTextOf_overflow _ _

/-- Items ascend exactly as long as four digits suffice for their numbers. -/
theorem AreItemsOf.ascending_iff (h : AreItemsOf completions items) :
    Ascending items ↔ completions.length ≤ 10000 := by
  refine ⟨fun hascending => ?_, h.ascending⟩
  by_contra hmany
  obtain ⟨i, j, hi, hj, hij, hbefore⟩ := h.exists_descent (by omega)
  exact hbefore.asymm (List.pairwise_iff_getElem.1 hascending i j hi hj hij)

/-- Items with ascending sort texts can be shown in one order only. -/
theorem Ascending.eq_of_sortedFrom (h : Ascending items) (hshown : SortedFrom items shown) :
    shown = items := by
  have hkept : items.Pairwise fun a b => ¬IsBefore b.sortText a.sortText :=
    h.imp IsBefore.asymm
  refine hshown.1.eq_of_pairwise (fun a b ha hb hab hba => ?_) hshown.2 hkept
  by_contra hne
  -- Two items of the list are in one of the two orders, whichever of them is the earlier.
  obtain ⟨i, hi, rfl⟩ := List.getElem_of_mem (hshown.1.mem_iff.1 ha)
  obtain ⟨j, hj, rfl⟩ := List.getElem_of_mem hb
  have hij : i ≠ j := fun heq => hne (by subst heq; rfl)
  rcases Nat.lt_or_gt_of_ne hij with hlt | hgt
  · exact hba (List.pairwise_iff_getElem.1 h i j hi hj hlt)
  · exact hab (List.pairwise_iff_getElem.1 h j i hj hi hgt)

/-- Sorted as the client does, items stay as they are exactly as long as four digits suffice. -/
theorem AreItemsOf.shown_eq_iff (h : AreItemsOf completions items)
    (hshown : SortedFrom items shown) : shown = items ↔ completions.length ≤ 10000 := by
  refine ⟨fun heq => ?_, fun hfew => (h.ascending hfew).eq_of_sortedFrom hshown⟩
  by_contra hmany
  obtain ⟨i, j, hi, hj, hij, hbefore⟩ := h.exists_descent (by omega)
  subst heq
  exact List.pairwise_iff_getElem.1 hshown.2 i j hi hj hij hbefore

/-- There is a response exactly if something is offered. Its items offer what the handler does, in
its order. Their sort texts ascend, and a client that sorts by them shows this order, exactly if
there are no more than ten thousand. -/
theorem completionResponse_keeps_order_iff (completions : List Completion) :
    (completionResponse completions = none ↔ completions = []) ∧
      ∀ items, completionResponse completions = some items →
        List.Forall₂ Offers completions items ∧
          (Ascending items ↔ completions.length ≤ 10000) ∧
          ∀ shown, SortedFrom items shown → (shown = items ↔ completions.length ≤ 10000) := by
  constructor
  · simp [completionResponse]
  · intro items h
    have hitems := completionResponse_eq_some h
    exact ⟨hitems.1, hitems.ascending_iff, fun shown hshown => hitems.shown_eq_iff hshown⟩

/-- Labels play no part: two completions stay in their order although the labels descend. -/
theorem completionResponse_keeps_order_iff_descendingLabels :
    ∃ items, completionResponse [⟨"Mapping", some "section", none⟩, ⟨"Class", none, none⟩] =
        some items ∧ Ascending items ∧ ∀ shown, SortedFrom items shown → shown = items := by
  obtain ⟨_, hitems⟩ := completionResponse_keeps_order_iff
    [⟨"Mapping", some "section", none⟩, ⟨"Class", none, none⟩]
  obtain ⟨_, hascending, hshown⟩ := hitems _ rfl
  exact ⟨_, rfl, hascending.2 (by decide), fun shown h => (hshown shown h).2 (by decide)⟩

/-- The last of ten thousand and one completions does not stay in its place. -/
theorem completionResponse_moves_last :
    ∃ items, completionResponse (List.replicate 10001 ⟨"a", none, none⟩) = some items ∧
      ¬Ascending items ∧ ∀ shown, SortedFrom items shown → shown ≠ items := by
  have hsome : (completionResponse (List.replicate 10001 ⟨"a", none, none⟩)).isSome := by
    rw [List.replicate_succ]
    rfl
  obtain ⟨items, hresponse⟩ := Option.isSome_iff_exists.1 hsome
  have hitems := completionResponse_eq_some hresponse
  have hlength : ¬(List.replicate 10001 (⟨"a", none, none⟩ : Completion)).length ≤ 10000 := by
    rw [List.length_replicate]
    decide
  exact ⟨items, hresponse, fun h => hlength (hitems.ascending_iff.1 h),
    fun shown hshown heq => hlength ((hitems.shown_eq_iff hshown).1 heq)⟩

end Lsp

end Polyglot
