import Mathlib.Data.List.Lex
import Mathlib.Data.String.Basic

/-!
# The order of bytes

The bytes of a character with a smaller code point come before those of one with a greater,
whatever stands behind them (`lex_utf8EncodeChar`). So texts stand in the order of their code points
exactly if their bytes do (`utf8_le_iff`).
-/

set_option autoImplicit false

namespace Polyglot.Text

/-- The bytes of a text. -/
def utf8 (s : String) : List UInt8 :=
  s.toUTF8.data.toList

/-- The bytes of a text are those of its characters one after the other. -/
theorem utf8_eq (s : String) : utf8 s = s.toList.flatMap String.utf8EncodeChar := by
  rw [utf8, String.toUTF8_eq_toByteArray, ← String.utf8Encode_toList]
  exact List.toList_data_toByteArray

variable {m n : Nat} {as bs : List UInt8}

/-- A smaller first byte comes first, and after the same one the rest decides. -/
theorem lex_ofNat_cons (hm : m < 256) (hn : n < 256) (hle : m ≤ n)
    (hrest : m = n → List.Lex (· < ·) as bs) :
    List.Lex (· < ·) (UInt8.ofNat m :: as) (UInt8.ofNat n :: bs) := by
  rcases Nat.eq_or_lt_of_le hle with rfl | hlt
  · exact .cons (hrest rfl)
  · refine .rel ?_
    rwa [UInt8.lt_iff_toNat_lt, UInt8.toNat_ofNat', UInt8.toNat_ofNat', Nat.mod_eq_of_lt hm,
      Nat.mod_eq_of_lt hn]

/-- The bytes of a character come before those of a greater one, whatever stands behind them. -/
theorem lex_utf8EncodeChar {c d : Char} (h : c < d) (as bs : List UInt8) :
    List.Lex (· < ·) (String.utf8EncodeChar c ++ as) (String.utf8EncodeChar d ++ bs) := by
  have hlt : c.val.toNat < d.val.toNat := h
  have hmax : d.val.toNat < 0x110000 := by
    have hvalid := d.valid
    simp only [UInt32.isValidChar, Nat.isValidChar] at hvalid
    omega
  simp only [String.utf8EncodeChar]
  -- The first byte tells how many there are, and all of them carry the digits of the code point,
  -- the first one first. Once a byte differs, what is behind it plays no part.
  split_ifs <;> simp only [List.cons_append, List.nil_append]
  all_goals
    repeat' refine lex_ofNat_cons (by omega) (by omega) (by omega) fun _ => ?_
    omega

/-- Texts that stand in the order of their code points have bytes in this order as well. -/
theorem lex_flatMap_utf8EncodeChar {cs ds : List Char} (h : List.Lex (· < ·) cs ds) :
    List.Lex (· < ·) (cs.flatMap String.utf8EncodeChar) (ds.flatMap String.utf8EncodeChar) := by
  induction h with
  | @nil d ds =>
      have hne : String.utf8EncodeChar d ≠ [] := String.utf8EncodeChar_ne_nil
      obtain ⟨b, bs, hbytes⟩ := List.exists_cons_of_ne_nil hne
      rw [List.flatMap_nil, List.flatMap_cons, hbytes]
      exact .nil
  | rel hlt => exact lex_utf8EncodeChar hlt _ _
  | cons _ ih => exact List.Lex.append_left _ ih _

/-- The order of the bytes is that of the texts. -/
theorem utf8_lt {s t : String} (h : s < t) : utf8 s < utf8 t := by
  rw [utf8_eq, utf8_eq]
  exact lex_flatMap_utf8EncodeChar (String.lt_iff_toList_lt.1 h)

/-- The order of code points is the order of bytes. -/
theorem utf8_le_iff {s t : String} : utf8 s ≤ utf8 t ↔ s ≤ t := by
  constructor
  · intro hle
    by_contra hlt
    exact hle (utf8_lt (not_le.1 hlt))
  · intro hle hlt
    rcases eq_or_lt_of_le hle with rfl | hlt'
    · exact List.lex_asymm UInt8.lt_asymm hlt hlt
    · exact List.lex_asymm UInt8.lt_asymm hlt (utf8_lt hlt')

end Polyglot.Text
