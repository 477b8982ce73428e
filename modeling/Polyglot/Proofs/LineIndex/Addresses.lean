import Mathlib.Order.Bounds.Basic
import Polyglot.Proofs.LineIndex.Decomposition

/-!
# Offsets and positions

An offset of a text lies on the last line that does not start after it (`LiesOn`); the search of the
index finds this line and gives it as a word (`exists_lineOf`). A position addresses the offset that
is its column behind the start of its line. The end of a line that has a break is the start of the
next line, and no other offset has two positions.

In a text of less than 4 GiB the words of lines and columns are the lines and columns themselves
(`positionOf_eq_ok_iff`).

The main statement, `positions_address_offsets`, is that offsets and positions are the same places
in the same order, but for these ends.
-/

set_option autoImplicit false

namespace Polyglot.LineIndex

variable {index : LineIndex} {k l o o' : Nat} {p p' : Position}

/-! ## Starts of lines -/

/-- A later line does not start before an earlier one. -/
theorem startOf_le (hkl : k ≤ l) (hl : l < index.height) :
    index.startOf k ≤ index.startOf l := by
  rcases Nat.eq_or_lt_of_le hkl with rfl | hlt
  · exact Nat.le_refl _
  · exact (index.startOf_lt hlt hl).le

/-- Each line above takes up a byte at least. -/
theorem le_startOf (hl : l < index.height) : l ≤ index.startOf l := by
  induction l with
  | zero => exact Nat.zero_le _
  | succ l ih =>
      have hstep := index.startOf_lt_succ hl
      have hbelow := ih (Nat.lt_of_succ_lt hl)
      omega

/-- Behind all lines is the end of the text. -/
theorem startOf_height : index.startOf index.height = index.length := by
  rw [startOf, height_eq_length, List.take_length, flatten_lineList, length]

/-- No line starts behind the text. -/
theorem startOf_le_length (l : Nat) : index.startOf l ≤ index.length := by
  have hsplit := congrArg List.flatten (List.take_append_drop l index.lineList)
  rw [List.flatten_append, flatten_lineList] at hsplit
  rw [startOf, length, ← hsplit, Text.byteSize_append]
  omega

/-- A line does not start behind the next one. -/
theorem startOf_le_succ (hl : l < index.height) :
    index.startOf l ≤ index.startOf (l + 1) := by
  obtain ⟨line, hline⟩ := index.exists_line hl
  rw [index.startOf_succ hline]
  omega

/-- Exactly the lines of the text have a start, and it is the size of all lines above. -/
theorem lineStart_eq_ok_iff {start : Nat} :
    index.lineStart l = .ok start ↔ l < index.height ∧ start = index.startOf l := by
  by_cases hl : l < index.height
  · simp [index.lineStart_eq hl, hl, eq_comm]
  · have hsize : ¬l < index.starts.size := hl
    simp [lineStart, hsize, hl]

/-- Exactly the lines of the text have a length, and it is the distance to the next one. -/
theorem lineLength_eq_ok_iff {n : Nat} :
    index.lineLength l = .ok n ↔
      l < index.height ∧ n = index.startOf (l + 1) - index.startOf l := by
  unfold lineLength lineEnd
  by_cases hl : l < index.height
  · have hsize : l < index.starts.size := hl
    simp only [if_pos hsize, index.lineStart_eq hl, endOf_eq]
    simp [bind, Except.bind, pure, Except.pure, hl, startOf, eq_comm]
  · have hsize : ¬l < index.starts.size := hl
    simp [bind, Except.bind, hsize, hl]

/-! ## The line of an offset -/

/-- The line starts at the offset or before it, and the next line, if any, behind it. -/
structure LiesOn (index : LineIndex) (o l : Nat) : Prop where
  lt_height : l < index.height
  startOf_le : index.startOf l ≤ o
  lt_startOf_succ : l + 1 < index.height → o < index.startOf (l + 1)

/-- The line of an offset is the last one that does not start behind it. -/
theorem LiesOn.le_of_startOf_le (h : index.LiesOn o l) (hk : k < index.height)
    (hstart : index.startOf k ≤ o) : k ≤ l := by
  by_contra hlt
  have hnext := h.lt_startOf_succ (by omega)
  have hle := index.startOf_le (k := l + 1) (by omega) hk
  omega

/-- An offset lies on one line only. -/
theorem LiesOn.unique (h : index.LiesOn o l) (h' : index.LiesOn o k) : k = l :=
  Nat.le_antisymm (h.le_of_startOf_le h'.lt_height h'.startOf_le)
    (h'.le_of_startOf_le h.lt_height h.startOf_le)

/-- The line of an offset does not end before it. -/
theorem LiesOn.le_startOf_succ (h : index.LiesOn o l) (ho : o ≤ index.length) :
    o ≤ index.startOf (l + 1) := by
  rcases Nat.eq_or_lt_of_le (Nat.succ_le_of_lt h.lt_height) with heq | hlt
  · rwa [← Nat.succ_eq_add_one, heq, startOf_height]
  · exact (h.lt_startOf_succ hlt).le

/-- The search compares the offset with the starts of lines, which ascend. -/
theorem exists_lineOf (ho : o ≤ index.length) :
    ∃ l, index.lineOf o = .ok (lowWord l) ∧ index.LiesOn o l := by
  have hprobe : ∀ i, i < index.starts.size →
      compare (index.starts[i]?.getD 0) o = compare (index.startOf i) o := by
    intro i hi
    rw [index.starts_getElem? hi]
    rfl
  have hpos : 0 < index.starts.size := index.height_pos
  unfold lineOf
  rw [if_pos ho]
  cases hsearch : Search.locate index.starts.size fun i => compare (index.starts[i]?.getD 0) o with
  | found l =>
      obtain ⟨hl, heq⟩ := Search.probe_of_locate_found hsearch
      rw [hprobe l hl, Nat.compare_eq_eq] at heq
      refine ⟨l, rfl, hl, heq.le, fun hnext => ?_⟩
      rw [← heq]
      exact index.startOf_lt_succ hnext
  | absent place =>
      have hlt : ∀ i j, i ≤ j → j < index.starts.size →
          compare (index.starts[j]?.getD 0) o = .lt →
            compare (index.starts[i]?.getD 0) o = .lt := by
        intro i j hij hj
        rw [hprobe j hj, hprobe i (by omega), Nat.compare_eq_lt, Nat.compare_eq_lt]
        have := index.startOf_le hij hj
        omega
      have hgt : ∀ i j, i ≤ j → j < index.starts.size →
          compare (index.starts[i]?.getD 0) o = .gt →
            compare (index.starts[j]?.getD 0) o = .gt := by
        intro i j hij hj
        rw [hprobe j hj, hprobe i (by omega), Nat.compare_eq_gt, Nat.compare_eq_gt]
        have := index.startOf_le hij hj
        omega
      obtain ⟨hplace, hbelow, habove⟩ := Search.locate_absent hlt hgt hsearch
      -- The first line starts at 0, so the place of an offset that is no start is behind it.
      have hne : place ≠ 0 := by
        rintro rfl
        have hfirst := habove 0 (Nat.le_refl 0) hpos
        rw [hprobe 0 hpos, Nat.compare_eq_gt, startOf_zero] at hfirst
        omega
      refine ⟨place - 1, rfl, ?_, ?_, ?_⟩
      · show place - 1 < index.starts.size
        omega
      · have hstart := hbelow (place - 1) (by omega)
        rw [hprobe _ (by omega), Nat.compare_eq_lt] at hstart
        exact hstart.le
      · intro hnext
        have hstart := habove (place - 1 + 1) (by omega) hnext
        rwa [hprobe _ hnext, Nat.compare_eq_gt] at hstart

/-- The index gives the line of an offset as a word. -/
theorem lineOf_eq (ho : o ≤ index.length) (h : index.LiesOn o l) :
    index.lineOf o = .ok (lowWord l) := by
  obtain ⟨k, hk, hlies⟩ := index.exists_lineOf ho
  rw [hk, h.unique hlies]

/-- The line of an offset is no more than the offset. -/
theorem LiesOn.line_le (h : index.LiesOn o l) : l ≤ o :=
  (index.le_startOf h.lt_height).trans h.startOf_le

/-! ## Positions -/

/-- A position has an offset exactly if it is on a line of the text, or at its end. -/
theorem offsetOf_eq_ok_iff :
    index.offsetOf p = .ok o ↔
      p.line < index.height ∧ index.startOf p.line + p.column ≤ index.startOf (p.line + 1) ∧
        o = index.startOf p.line + p.column := by
  unfold offsetOf
  by_cases hl : p.line < index.height
  · have hle := index.startOf_le_succ hl
    rw [lineLength_eq_ok_iff.2 ⟨hl, rfl⟩, index.lineStart_eq hl]
    by_cases hcolumn : p.column ≤ index.startOf (p.line + 1) - index.startOf p.line
    · have hfits : index.startOf p.line + p.column ≤ index.startOf (p.line + 1) := by omega
      simp [bind, Except.bind, pure, Except.pure, hcolumn, hl, hfits, eq_comm]
    · have hexceeds : ¬index.startOf p.line + p.column ≤ index.startOf (p.line + 1) := by omega
      simp [bind, Except.bind, hcolumn, hexceeds]
  · cases hlength : index.lineLength p.line with
    | error reason => simp [bind, Except.bind, hl]
    | ok n => exact absurd (lineLength_eq_ok_iff.1 hlength).1 hl

/-- If the line of an offset fits into a word, the position has this line, and its column is the
word of the place on the line. -/
theorem positionOf_eq (ho : o ≤ index.length) (h : index.LiesOn o l) (hl : l < UInt32.size) :
    index.positionOf o = .ok ⟨l, lowWord (o - index.startOf l)⟩ := by
  rw [positionOf, lineOf_eq ho h, lowWord_of_lt hl]
  simp only [bind, Except.bind, pure, Except.pure, index.lineStart_eq h.lt_height]

/-! ## Positions in a text of less than 4 GiB -/

section Fitting

variable (hsize : index.length < UInt32.size)
include hsize

/-- A position is the line of its offset and the place on this line. -/
theorem positionOf_eq_ok_iff :
    index.positionOf o = .ok p ↔
      o ≤ index.length ∧ index.LiesOn o p.line ∧ o = index.startOf p.line + p.column := by
  by_cases ho : o ≤ index.length
  · obtain ⟨l, _, hlies⟩ := index.exists_lineOf ho
    have hle := hlies.startOf_le
    have hline := hlies.line_le
    rw [positionOf_eq ho hlies (by omega), lowWord_of_lt (by omega), Except.ok.injEq]
    constructor
    · rintro rfl
      exact ⟨ho, hlies, by simp only; omega⟩
    · rintro ⟨_, hlies', heq⟩
      obtain rfl := hlies.unique hlies'
      obtain ⟨line, column⟩ := p
      simp only [Position.mk.injEq, true_and] at heq ⊢
      omega
  · simp [positionOf, lineOf, ho, bind, Except.bind]

/-- Each offset has a position, which leads back to it. -/
theorem exists_positionOf (ho : o ≤ index.length) :
    ∃ p, index.positionOf o = .ok p ∧ index.offsetOf p = .ok o := by
  obtain ⟨l, _, hlies⟩ := index.exists_lineOf ho
  have hle := hlies.startOf_le
  have hend := hlies.le_startOf_succ ho
  refine ⟨⟨l, o - index.startOf l⟩, (positionOf_eq_ok_iff hsize).2 ⟨ho, hlies, ?_⟩,
    offsetOf_eq_ok_iff.2 ⟨hlies.lt_height, ?_, ?_⟩⟩ <;> simp only <;> omega

/-- The end of a line with a break is the start of the next line. -/
theorem positionOf_of_offsetOf {n : Nat} (h : index.offsetOf p = .ok o)
    (hn : index.lineLength p.line = .ok n) :
    index.positionOf o =
      .ok (if p.column = n ∧ p.line + 1 < index.height then ⟨p.line + 1, 0⟩ else p) := by
  obtain ⟨hl, hfits, rfl⟩ := offsetOf_eq_ok_iff.1 h
  obtain ⟨_, rfl⟩ := lineLength_eq_ok_iff.1 hn
  have hlength := index.startOf_le_length (p.line + 1)
  have hle := index.startOf_le_succ hl
  rw [positionOf_eq_ok_iff hsize]
  refine ⟨by omega, ?_⟩
  split
  · rename_i hend
    obtain ⟨hcolumn, hnext⟩ := hend
    refine ⟨⟨hnext, by simp only; omega, fun hafter => ?_⟩, by simp only; omega⟩
    have hstep := index.startOf_lt_succ hafter
    simp only at hstep ⊢
    omega
  · rename_i hinside
    exact ⟨⟨hl, by omega, fun hnext => by omega⟩, rfl⟩

/-- Positions stand in the order of their offsets. -/
theorem positionOf_le_iff (h : index.positionOf o = .ok p) (h' : index.positionOf o' = .ok p') :
    o ≤ o' ↔ p ≤ p' := by
  obtain ⟨ho, hlies, heq⟩ := (positionOf_eq_ok_iff hsize).1 h
  obtain ⟨ho', hlies', heq'⟩ := (positionOf_eq_ok_iff hsize).1 h'
  rw [Position.le_iff]
  constructor
  · intro hoo
    have hline := hlies'.le_of_startOf_le hlies.lt_height (hlies.startOf_le.trans hoo)
    rcases Nat.eq_or_lt_of_le hline with hsame | hlt
    · rw [hsame] at heq
      omega
    · exact Or.inl hlt
  · rintro (hlt | ⟨hsame, hcolumn⟩)
    · have hend := hlies.lt_startOf_succ (by have := hlies'.lt_height; omega)
      have hle := index.startOf_le (k := p.line + 1) hlt hlies'.lt_height
      omega
    · rw [hsame] at heq
      omega

/-- The line and the column of an offset are no more than the offset. -/
theorem positionOf_bounds (h : index.positionOf o = .ok p) : p.line ≤ o ∧ p.column ≤ o := by
  obtain ⟨_, hlies, heq⟩ := (positionOf_eq_ok_iff hsize).1 h
  have hline := hlies.line_le
  omega

end Fitting

/-- Offsets stand in the order of their positions. -/
theorem offsetOf_le (h : index.offsetOf p = .ok o) (h' : index.offsetOf p' = .ok o')
    (hle : p ≤ p') : o ≤ o' := by
  obtain ⟨_, hfits, rfl⟩ := offsetOf_eq_ok_iff.1 h
  obtain ⟨hl', _, rfl⟩ := offsetOf_eq_ok_iff.1 h'
  rcases Position.le_iff.1 hle with hlt | ⟨hsame, hcolumn⟩
  · have hstart := index.startOf_le (k := p.line + 1) hlt hl'
    omega
  · rw [hsame]
    omega

/-- Each offset of a text has a position, which leads back to it; a position has an offset exactly
if its line is in the text and its column no more than the length of the line, and the offset leads
back to it or, at the end of a line with a break, to the start of the next line. Both ways keep the
order. In a text of less than 4 GiB lines and columns fit into 32 bits. -/
theorem positions_address_offsets (index : LineIndex) (hsize : index.length < UInt32.size) :
    (∀ o ≤ index.length, ∃ l, index.lineOf o = .ok l ∧
      IsGreatest {k | ∃ start, index.lineStart k = .ok start ∧ start ≤ o} l) ∧
    (∀ o ≤ index.length, ∃ p, index.positionOf o = .ok p ∧ index.offsetOf p = .ok o ∧
      p.line < UInt32.size ∧ p.column < UInt32.size) ∧
    (∀ p, (∃ o, index.offsetOf p = .ok o) ↔
      p.line < index.height ∧ ∃ n, index.lineLength p.line = .ok n ∧ p.column ≤ n) ∧
    (∀ p o n, index.offsetOf p = .ok o → index.lineLength p.line = .ok n →
      index.positionOf o =
        .ok (if p.column = n ∧ p.line + 1 < index.height then ⟨p.line + 1, 0⟩ else p)) ∧
    (∀ o o' p p', index.positionOf o = .ok p → index.positionOf o' = .ok p' →
      (o ≤ o' ↔ p ≤ p')) ∧
    ∀ p p' o o', index.offsetOf p = .ok o → index.offsetOf p' = .ok o' → p ≤ p' → o ≤ o' := by
  refine ⟨?_, ?_, ?_, fun _ _ _ => positionOf_of_offsetOf hsize,
    fun _ _ _ _ => positionOf_le_iff hsize, fun _ _ _ _ => offsetOf_le⟩
  · intro o ho
    obtain ⟨l, hl, hlies⟩ := index.exists_lineOf ho
    have hline := hlies.line_le
    rw [lowWord_of_lt (by omega)] at hl
    refine ⟨l, hl, ⟨_, index.lineStart_eq hlies.lt_height, hlies.startOf_le⟩, ?_⟩
    rintro k ⟨start, hstart, hle⟩
    obtain ⟨hk, rfl⟩ := lineStart_eq_ok_iff.1 hstart
    exact hlies.le_of_startOf_le hk hle
  · intro o ho
    obtain ⟨p, hp, hback⟩ := exists_positionOf hsize ho
    obtain ⟨hline, hcolumn⟩ := positionOf_bounds hsize hp
    exact ⟨p, hp, hback, by omega, by omega⟩
  · intro p
    simp only [offsetOf_eq_ok_iff, lineLength_eq_ok_iff]
    constructor
    · rintro ⟨o, hl, hfits, rfl⟩
      exact ⟨hl, _, ⟨hl, rfl⟩, by omega⟩
    · rintro ⟨hl, n, ⟨_, rfl⟩, hcolumn⟩
      have hle := index.startOf_le_succ hl
      exact ⟨_, hl, by omega, rfl⟩

/-- The end of the first line, behind its break, is the start of the second. -/
theorem positions_address_offsets_betweenLines :
    (ofText "é\r\nb").length < UInt32.size ∧ (ofText "é\r\nb").offsetOf ⟨0, 4⟩ = .ok 4 ∧
      (ofText "é\r\nb").lineLength 0 = .ok 4 ∧ (ofText "é\r\nb").height = 2 ∧
      (ofText "é\r\nb").positionOf 4 = .ok ⟨1, 0⟩ := by
  have hsize : (ofText "é\r\nb").length < UInt32.size := by decide
  have hoffset : (ofText "é\r\nb").offsetOf ⟨0, 4⟩ = .ok 4 := by decide
  have hlength : (ofText "é\r\nb").lineLength 0 = .ok 4 := by decide
  have hcount : (ofText "é\r\nb").height = 2 := by decide
  obtain ⟨_, _, _, hends, _⟩ := positions_address_offsets _ hsize
  have hposition := hends ⟨0, 4⟩ 4 4 hoffset hlength
  rw [hcount, if_pos (by decide)] at hposition
  exact ⟨hsize, hoffset, hlength, hcount, hposition⟩

end Polyglot.LineIndex
