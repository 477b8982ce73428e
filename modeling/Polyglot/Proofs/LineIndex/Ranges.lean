import Polyglot.Proofs.LineIndex.Units
import Polyglot.Proofs.Text.Boundaries

/-!
# Client ranges of intervals

An interval has a client range exactly if both its ends are in the text (`rangeOf_eq_ok_iff`). The
range runs from the start to the offset behind the character at the end. In a text of less than 4
GiB it is never reversed (`start_le_stop_of_rangeOf`), and it lies in the range of every interval
around it that ends on the first byte of a character (`encloses_rangeOf`).
-/

set_option autoImplicit false

namespace Polyglot

namespace Lsp.Range

/-- The second range is not reversed and lies in the first. -/
def Encloses (r q : Range) : Prop :=
  r.start ≤ q.start ∧ q.start ≤ q.stop ∧ q.stop ≤ r.stop

/-- A range in order encloses itself. -/
theorem encloses_self {r : Range} (h : r.start ≤ r.stop) : r.Encloses r :=
  ⟨Or.inr ⟨rfl, Nat.le_refl _⟩, h, Or.inr ⟨rfl, Nat.le_refl _⟩⟩

end Lsp.Range

namespace LineIndex

open Text

variable {index : LineIndex} {l o : Nat} {p : Position} {i j : Interval} {r q : Lsp.Range}

/-- A position is not behind the text. -/
theorem offsetOf_le_length (h : index.offsetOf p = .ok o) : o ≤ index.length := by
  obtain ⟨_, hfits, rfl⟩ := offsetOf_eq_ok_iff.1 h
  exact hfits.trans (index.startOf_le_length (p.line + 1))

/-- Lines start at boundaries. -/
theorem isBoundary_startOf (l : Nat) : isBoundary (index.startOf l) index.chars = true := by
  have h := isBoundary_byteSize_append (index.lineList.take l).flatten
    (index.lineList.drop l).flatten
  rwa [← List.flatten_append, List.take_append_drop, flatten_lineList] at h

/-- A client is told of every offset, whatever the words of its line and column are. -/
theorem exists_toLsp (ho : o ≤ index.length) : ∃ p, index.toLsp o = .ok p := by
  obtain ⟨l, hl, hlies⟩ := index.exists_lineOf ho
  have hcount := Nat.lt_of_le_of_lt (lowWord_le l) hlies.lt_height
  obtain ⟨line, hline⟩ := index.exists_line hcount
  rw [toLsp, hl]
  simp only [bind, Except.bind, index.lineStart_eq hcount, index.lineChars_self hline]
  exact ⟨_, rfl⟩

/-- An interval has a range if both its ends are in the text. -/
theorem rangeOf_eq_ok_iff : index.rangeOf i = .ok r ↔ ∃ a b, index.offsetOf i.start = .ok a ∧
    index.offsetOf i.stop = .ok b ∧ index.toLsp a = .ok r.start ∧
      index.toLsp (b + widthAt b index.chars) = .ok r.stop := by
  obtain ⟨first, last⟩ := r
  unfold rangeOf lspOfPosition exclusiveEnd
  constructor
  · intro h
    cases hstart : index.offsetOf i.start with
    | error e => simp [hstart, bind, Except.bind] at h
    | ok a =>
        cases hstop : index.offsetOf i.stop with
        | error e => cases hfirst : index.toLsp a <;>
            simp [hstart, hstop, hfirst, bind, Except.bind] at h
        | ok b =>
            obtain ⟨first', hfirst⟩ := index.exists_toLsp (offsetOf_le_length hstart)
            obtain ⟨last', hlast⟩ := index.exists_toLsp
              (add_widthAt_le_byteSize (offsetOf_le_length hstop))
            simp only [hstart, hstop, hfirst, hlast, bind, Except.bind, pure, Except.pure,
              Except.ok.injEq, Lsp.Range.mk.injEq] at h
            obtain ⟨rfl, rfl⟩ := h
            exact ⟨a, b, rfl, rfl, hfirst, hlast⟩
  · rintro ⟨a, b, hstart, hstop, hfirst, hlast⟩
    simp only at hfirst hlast
    simp [hstart, hstop, hfirst, hlast, bind, Except.bind, pure, Except.pure]

/-- An interval with both ends in the text has a range. -/
theorem exists_rangeOf {a b : Nat} (ha : index.offsetOf i.start = .ok a)
    (hb : index.offsetOf i.stop = .ok b) : ∃ r, index.rangeOf i = .ok r := by
  obtain ⟨first, hfirst⟩ := index.exists_toLsp (offsetOf_le_length ha)
  obtain ⟨last, hlast⟩ := index.exists_toLsp (add_widthAt_le_byteSize (offsetOf_le_length hb))
  exact ⟨⟨first, last⟩, rangeOf_eq_ok_iff.2 ⟨a, b, ha, hb, hfirst, hlast⟩⟩

/-- In a text of less than 4 GiB a range is not reversed. -/
theorem start_le_stop_of_rangeOf (hsize : index.length < UInt32.size)
    (h : index.rangeOf i = .ok r) : r.start ≤ r.stop := by
  obtain ⟨a, b, ha, hb, hfirst, hlast⟩ := rangeOf_eq_ok_iff.1 h
  have hle := offsetOf_le ha hb i.start_le_stop
  exact toLsp_le hsize hfirst hlast (by omega)

/-- The range of an interval lies in that of an interval around it. -/
theorem encloses_rangeOf {b : Nat} (hsize : index.length < UInt32.size)
    (hsubsumes : i.subsumes j = true)
    (hr : index.rangeOf i = .ok r) (hq : index.rangeOf j = .ok q)
    (hb : index.offsetOf i.stop = .ok b) (hboundary : isBoundary b index.chars = true) :
    r.Encloses q := by
  simp only [Interval.subsumes, Bool.and_eq_true, decide_eq_true_eq] at hsubsumes
  obtain ⟨a, b', ha, hb', hfirst, hlast⟩ := rangeOf_eq_ok_iff.1 hr
  obtain ⟨a', e, ha', he, hfirst', hlast'⟩ := rangeOf_eq_ok_iff.1 hq
  obtain rfl := Except.ok.inj (hb.symm.trans hb')
  have hstart := offsetOf_le ha ha' hsubsumes.1
  have hstop := offsetOf_le he hb hsubsumes.2
  exact ⟨toLsp_le hsize hfirst hfirst' hstart, start_le_stop_of_rangeOf hsize hq,
    toLsp_le hsize hlast' hlast (add_widthAt_mono hboundary hstop)⟩

end LineIndex

end Polyglot
