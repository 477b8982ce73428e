import Polyglot.Proofs.LineIndex.Ranges

/-!
# The text of an interval

An interval has a text if both its ends are in the text and neither is inside a character. The
refusals come in the order of the `Refuses` constructors, and each names its fault; a text that is
given is what stands between two boundaries, from the first character of the interval through the
whole last one (`intervalText_reads_or_refuses`).

The client range of such an interval, read back by the widths of prefixes of lines, encloses the
same text (`rangeOf_encloses_intervalText`).
-/

set_option autoImplicit false

namespace Polyglot

namespace LineIndex

open Text

variable {index : LineIndex} {i : Interval} {p : Position} {a b o stop : Nat} {e : Error}
  {s : String}

/-- The position is in the text, and `o` is its column behind the start of its line. -/
def Addresses (index : LineIndex) (p : Position) (o : Nat) : Prop :=
  ∃ start length, index.lineStart p.line = .ok start ∧ index.lineLength p.line = .ok length ∧
    p.column ≤ length ∧ o = start + p.column

/-- Why a position is not in the text: there is no such line, or the line is not that long. -/
inductive IsOutside (index : LineIndex) (p : Position) : Error → Prop where
  | line (h : index.height ≤ p.line) :
      IsOutside index p (.bounds .line p.line (.upTo (index.height - 1)))
  | column {length : Nat} (h : index.lineLength p.line = .ok length) (hlt : length < p.column) :
      IsOutside index p (.bounds .column p.column (.upTo length))

/-- Why an interval has no text. Of several reasons the one above all others counts. -/
inductive Refuses (index : LineIndex) (i : Interval) : Error → Prop where
  | startOutside {e : Error} (outside : index.IsOutside i.start e) : Refuses index i e
  | stopOutside {a : Nat} {e : Error} (start : index.Addresses i.start a)
      (outside : index.IsOutside i.stop e) : Refuses index i e
  | startInside {a b low high : Nat} (start : index.Addresses i.start a)
      (stop : index.Addresses i.stop b) (inside : LiesInside index.chars a low high) :
      Refuses index i (.bounds .intervalStart a (.oneOf low high))
  | stopInside {a b low high : Nat} (start : index.Addresses i.start a)
      (stop : index.Addresses i.stop b) (boundary : isBoundary a index.chars = true)
      (inside : LiesInside index.chars b low high) :
      Refuses index i (.bounds .intervalEnd b (.oneOf low high))

/-- The string is what stands in the text from byte `a` up to byte `b`. -/
def IsSlice (index : LineIndex) (a b : Nat) (s : String) : Prop :=
  ∃ before after, index.chars = before ++ s.toList ++ after ∧ byteSize before = a ∧
    byteSize (before ++ s.toList) = b

/-- The string is what stands in the text from the character at byte `a` through the whole
character at byte `b`, which ends at byte `stop`; at the end of the text there is no such one. -/
structure Reads (index : LineIndex) (a b stop : Nat) (s : String) : Prop where
  start_le_stop : a ≤ stop
  stop_le_length : stop ≤ index.length
  isBoundary_start : isBoundary a index.chars = true
  isBoundary_stop : isBoundary stop index.chars = true
  isSlice : index.IsSlice a stop s
  through : (b = index.length ∧ stop = b) ∨ ∃ before c after,
    index.chars = before ++ c :: after ∧ byteSize before = b ∧ stop = b + c.utf8Size

/-- A line of the text reaches to the start of the next one. -/
theorem lineLength_eq (hl : p.line < index.height) : index.lineLength p.line =
    .ok (index.startOf (p.line + 1) - index.startOf p.line) :=
  lineLength_eq_ok_iff.2 ⟨hl, rfl⟩

/-- A line below the text has no length. -/
theorem lineLength_eq_error (hl : index.height ≤ p.line) :
    index.lineLength p.line = .error (index.noSuchLine .line p.line) := by
  have hsize : ¬p.line < index.starts.size := Nat.not_lt.2 hl
  simp [lineLength, lineEnd, hsize, bind, Except.bind]

/-- A position has the offset that it addresses, and no other. -/
theorem offsetOf_eq_ok_iff_addresses : index.offsetOf p = .ok o ↔ index.Addresses p o := by
  rw [offsetOf_eq_ok_iff]
  unfold Addresses
  simp only [lineStart_eq_ok_iff, lineLength_eq_ok_iff]
  constructor
  · rintro ⟨hl, hfits, rfl⟩
    exact ⟨_, _, ⟨hl, rfl⟩, ⟨hl, rfl⟩, by omega, rfl⟩
  · rintro ⟨_, _, ⟨hl, rfl⟩, ⟨_, rfl⟩, hcolumn, rfl⟩
    have hle := index.startOf_le_succ hl
    exact ⟨hl, by omega, rfl⟩

/-- A position is refused with the error for where it is outside, and with no other. -/
theorem offsetOf_eq_error_iff : index.offsetOf p = .error e ↔ index.IsOutside p e := by
  unfold offsetOf
  rcases Nat.lt_or_ge p.line index.height with hl | hl
  · have hlength := lineLength_eq hl
    rw [hlength, index.lineStart_eq hl]
    constructor
    · intro h
      simp only [bind, Except.bind] at h
      split at h
      · cases h
      · rename_i hexceeds
        obtain rfl := Except.error.inj h
        exact .column hlength (Nat.not_le.1 hexceeds)
    · rintro (hline | ⟨hlength', hlt⟩)
      · omega
      · obtain rfl := Except.ok.inj (hlength.symm.trans hlength')
        simp only [bind, Except.bind, if_neg (Nat.not_le.2 hlt)]
        rfl
  · have hlength := lineLength_eq_error hl
    rw [hlength]
    constructor
    · intro h
      obtain rfl := Except.error.inj h
      exact .line hl
    · rintro (_ | ⟨hlength', _⟩)
      · rfl
      · rw [hlength] at hlength'
        cases hlength'

/-- An interval ends behind the character at its last position. -/
theorem exclusiveEnd_of_ok (hb : index.offsetOf i.stop = .ok b) :
    index.exclusiveEnd i = .ok (b + widthAt b index.chars) := by
  rw [exclusiveEnd, hb]
  rfl

/-- A boundary passes the check. -/
theorem checkBoundary_of_isBoundary (argument : Argument) (h : isBoundary o index.chars = true) :
    index.checkBoundary argument o = .ok () := by
  rw [checkBoundary, if_pos h]

/-- An offset inside a character is refused with the two ends of the character. -/
theorem checkBoundary_of_liesInside {low high : Nat} (argument : Argument)
    (h : LiesInside index.chars o low high) :
    index.checkBoundary argument o = .error (.bounds argument o (.oneOf low high)) := by
  obtain ⟨hno, _, hlow, hhigh⟩ := h.boundaries
  rw [checkBoundary, if_neg (by simp [hno]), hlow, hhigh]

/-- What is between two boundaries is a slice of the text. -/
theorem isSlice_slice (ha : isBoundary a index.chars = true) (hb : isBoundary b index.chars = true)
    (hab : a ≤ b) : index.IsSlice a b (String.ofList (slice a b index.chars)) := by
  obtain ⟨before, rest, hbefore, rfl⟩ := (isBoundary_iff a _).1 ha
  obtain ⟨n, rfl⟩ := Nat.exists_eq_add_of_le hab
  rw [hbefore, isBoundary_add_byteSize] at hb
  obtain ⟨middle, after, rfl, rfl⟩ := (isBoundary_iff n _).1 hb
  have hslice : slice (byteSize before) (byteSize before + byteSize middle) index.chars =
      middle := by
    rw [hbefore, ← List.append_assoc, ← byteSize_append, slice_of_append]
  refine ⟨before, after, ?_, rfl, ?_⟩ <;> rw [hslice, String.toList_ofList]
  · rw [hbefore, List.append_assoc]
  · rw [byteSize_append]

/-- An interval between two boundaries has a text. -/
theorem exists_reads (ha : index.offsetOf i.start = .ok a) (hb : index.offsetOf i.stop = .ok b)
    (hstart : isBoundary a index.chars = true) (hstop : isBoundary b index.chars = true) :
    ∃ s, index.intervalText i = .ok s ∧ index.Reads a b (b + widthAt b index.chars) s := by
  have hend := isBoundary_add_widthAt hstop
  have hle := offsetOf_le ha hb i.start_le_stop
  refine ⟨String.ofList (slice a (b + widthAt b index.chars) index.chars), ?_, by omega,
    add_widthAt_le_byteSize (offsetOf_le_length hb), hstart, hend,
    isSlice_slice hstart hend (by omega), ?_⟩
  · rw [intervalText, ha, exclusiveEnd_of_ok hb]
    simp only [bind, Except.bind, checkBoundary_of_isBoundary _ hstart,
      checkBoundary_of_isBoundary _ hend]
    rfl
  · rcases exists_widthAt hstop with ⟨hlast, hzero⟩ | ⟨before, c, after, hchars, hbefore, hwidth⟩
    · exact Or.inl ⟨hlast, by rw [hzero, Nat.add_zero]⟩
    · exact Or.inr ⟨before, c, after, hchars, hbefore, by rw [hwidth]⟩

/-- An interval is refused for the first reason there is. -/
theorem intervalText_of_refuses (h : index.Refuses i e) : index.intervalText i = .error e := by
  rw [intervalText]
  cases h with
  | startOutside outside =>
      rw [offsetOf_eq_error_iff.2 outside]
      rfl
  | stopOutside start outside =>
      rw [offsetOf_eq_ok_iff_addresses.2 start, exclusiveEnd, offsetOf_eq_error_iff.2 outside]
      rfl
  | startInside start stop inside =>
      rw [offsetOf_eq_ok_iff_addresses.2 start,
        exclusiveEnd_of_ok (offsetOf_eq_ok_iff_addresses.2 stop)]
      simp only [bind, Except.bind, checkBoundary_of_liesInside _ inside]
  | stopInside start stop boundary inside =>
      -- No character begins inside another one, so the end is checked where it is.
      obtain ⟨_, hzero, _⟩ := inside.boundaries
      rw [offsetOf_eq_ok_iff_addresses.2 start,
        exclusiveEnd_of_ok (offsetOf_eq_ok_iff_addresses.2 stop), hzero, Nat.add_zero]
      simp only [bind, Except.bind, checkBoundary_of_isBoundary _ boundary,
        checkBoundary_of_liesInside _ inside]

/-- An interval is refused or has a text, which is what it reads. -/
theorem refuses_or_reads (index : LineIndex) (i : Interval) :
    (∃ e, index.Refuses i e) ∨ ∃ a b s, index.offsetOf i.start = .ok a ∧
      index.offsetOf i.stop = .ok b ∧ index.intervalText i = .ok s ∧
        index.Reads a b (b + widthAt b index.chars) s := by
  cases ha : index.offsetOf i.start with
  | error e => exact Or.inl ⟨e, .startOutside (offsetOf_eq_error_iff.1 ha)⟩
  | ok a =>
      have hstart := offsetOf_eq_ok_iff_addresses.1 ha
      cases hb : index.offsetOf i.stop with
      | error e => exact Or.inl ⟨e, .stopOutside hstart (offsetOf_eq_error_iff.1 hb)⟩
      | ok b =>
          have hstop := offsetOf_eq_ok_iff_addresses.1 hb
          rcases isBoundary_or_liesInside (offsetOf_le_length ha) with hab | ⟨low, high, hinside⟩
          · rcases isBoundary_or_liesInside (offsetOf_le_length hb) with hbb | ⟨low, high, hinside⟩
            · obtain ⟨s, htext, hreads⟩ := exists_reads ha hb hab hbb
              exact Or.inr ⟨a, b, s, rfl, rfl, htext, hreads⟩
            · exact Or.inl ⟨_, .stopInside hstart hstop hab hinside⟩
          · exact Or.inl ⟨_, .startInside hstart hstop hinside⟩

/-- An interval is refused with the first error that applies, and with no other. -/
theorem intervalText_eq_error_iff : index.intervalText i = .error e ↔ index.Refuses i e := by
  refine ⟨fun h => ?_, intervalText_of_refuses⟩
  rcases index.refuses_or_reads i with ⟨e', hrefuses⟩ | ⟨_, _, s, _, _, htext, _⟩
  · obtain rfl := Except.error.inj (h.symm.trans (intervalText_of_refuses hrefuses))
    exact hrefuses
  · rw [htext] at h
    cases h

/-- An interval is refused exactly for the first of these reasons: its start is not in the text, its
end is not in the text, its start is inside a character, its end is inside a character. Every other
interval has a text, which reaches from the character at its start through the whole character at
its end. -/
theorem intervalText_reads_or_refuses (index : LineIndex) (i : Interval) :
    (∀ e, index.intervalText i = .error e ↔ index.Refuses i e) ∧
      ((∃ e, index.Refuses i e) ∨ ∃ a b stop s, index.Addresses i.start a ∧
        index.Addresses i.stop b ∧ index.exclusiveEnd i = .ok stop ∧
          index.intervalText i = .ok s ∧ index.Reads a b stop s) := by
  refine ⟨fun e => intervalText_eq_error_iff, ?_⟩
  refine (index.refuses_or_reads i).imp_right ?_
  rintro ⟨a, b, s, ha, hb, htext, hreads⟩
  exact ⟨a, b, _, s, offsetOf_eq_ok_iff_addresses.1 ha, offsetOf_eq_ok_iff_addresses.1 hb,
    exclusiveEnd_of_ok hb, htext, hreads⟩

example : (ofText "é").intervalText (.point ⟨0, 1⟩) =
    .error (.bounds .intervalStart 1 (.oneOf 0 2)) := by
  decide

/-! ## Reading a client range back -/

/-- The offset to which a client position leads: behind the prefix of its line, break included, that
is as wide as the position says. -/
def Decodes (index : LineIndex) (p : Lsp.Position) (o : Nat) : Prop :=
  ∃ start line initial, index.lineStart p.line = .ok start ∧
    index.lineChars p.line p.line = .ok line ∧ initial <+: line ∧ unitSize initial = p.character ∧
      o = start + byteSize initial

/-- No two prefixes of a line are of one width. -/
theorem Decodes.unique {p : Lsp.Position} (h : index.Decodes p a) (h' : index.Decodes p b) :
    a = b := by
  obtain ⟨start, line, initial, hstart, hline, hprefix, hunits, rfl⟩ := h
  obtain ⟨start', line', initial', hstart', hline', hprefix', hunits', rfl⟩ := h'
  obtain rfl := Except.ok.inj (hstart.symm.trans hstart')
  obtain rfl := Except.ok.inj (hline.symm.trans hline')
  have hinitial := covering_unitSize hprefix
  rw [hunits, ← hunits', covering_unitSize hprefix'] at hinitial
  rw [hinitial]

/-- The client position of a boundary leads back to it. -/
theorem decodes_iff_of_toLsp {p : Lsp.Position} (hsize : index.length < UInt32.size)
    (h : index.toLsp o = .ok p) (hboundary : isBoundary o index.chars = true) (o' : Nat) :
    index.Decodes p o' ↔ o' = o := by
  obtain ⟨ho, hlies, line, hline, hunits⟩ := exists_of_toLsp hsize h
  have hleast := isLeast_boundary ho hlies hline
  have heq := hleast.unique ⟨⟨hboundary, Nat.le_refl o⟩, fun b hb => hb.2⟩
  have hdecodes : index.Decodes p o :=
    ⟨_, line, _, index.lineStart_eq hlies.lt_height, index.lineChars_self hline,
      covering_isPrefix _ _ _, by rw [hunits, unitsBeforeByte_eq], heq.symm⟩
  constructor
  · intro h'
    exact h'.unique hdecodes
  · rintro rfl
    exact hdecodes

/-- In a text of less than 4 GiB the client range of an interval that has a text fits into 32 bits
and is not reversed, and its ends lead back to offsets between which this text stands. -/
theorem rangeOf_encloses_intervalText (index : LineIndex) (hsize : index.length < UInt32.size)
    (i : Interval) (s : String) (h : index.intervalText i = .ok s) :
    ∃ r, index.rangeOf i = .ok r ∧ r.start ≤ r.stop ∧
      (∀ p, p = r.start ∨ p = r.stop → p.line < UInt32.size ∧ p.character < UInt32.size) ∧
        ∃ a b, (∀ o, index.Decodes r.start o ↔ o = a) ∧ (∀ o, index.Decodes r.stop o ↔ o = b) ∧
          a ≤ b ∧ index.IsSlice a b s := by
  rcases index.refuses_or_reads i with ⟨e, hrefuses⟩ | ⟨a, b, s', ha, hb, htext, hreads⟩
  · rw [intervalText_of_refuses hrefuses] at h
    cases h
  · obtain rfl := Except.ok.inj (h.symm.trans htext)
    obtain ⟨r, hr⟩ := exists_rangeOf ha hb
    obtain ⟨a', b', ha', hb', hfirst, hlast⟩ := rangeOf_eq_ok_iff.1 hr
    obtain rfl := Except.ok.inj (ha.symm.trans ha')
    obtain rfl := Except.ok.inj (hb.symm.trans hb')
    refine ⟨r, hr, start_le_stop_of_rangeOf hsize hr, ?_, a, _,
      decodes_iff_of_toLsp hsize hfirst hreads.isBoundary_start,
      decodes_iff_of_toLsp hsize hlast hreads.isBoundary_stop, hreads.start_le_stop, hreads.isSlice⟩
    rintro p (rfl | rfl)
    · have hfits := character_le_length hsize hfirst
      omega
    · have hfits := character_le_length hsize hlast
      omega

/-- From a break through a character of two UTF-16 units on the next line. -/
def acrossLines : Interval :=
  ⟨⟨0, 2⟩, ⟨1, 0⟩, by decide⟩

/-- An interval that begins at a break and ends at a character of four bytes. -/
theorem rangeOf_encloses_intervalText_acrossLines :
    (ofText "é\r\n😀b").length < UInt32.size ∧
      (ofText "é\r\n😀b").intervalText acrossLines = .ok "\r\n😀" ∧
        (ofText "é\r\n😀b").rangeOf acrossLines = .ok ⟨⟨0, 1⟩, ⟨1, 2⟩⟩ ∧
          ∃ a b, (ofText "é\r\n😀b").Decodes ⟨0, 1⟩ a ∧ (ofText "é\r\n😀b").Decodes ⟨1, 2⟩ b ∧
            a ≤ b ∧ (ofText "é\r\n😀b").IsSlice a b "\r\n😀" := by
  have hsize : (ofText "é\r\n😀b").length < UInt32.size := by decide
  have htext : (ofText "é\r\n😀b").intervalText acrossLines = .ok "\r\n😀" := by decide
  have hrange : (ofText "é\r\n😀b").rangeOf acrossLines = .ok ⟨⟨0, 1⟩, ⟨1, 2⟩⟩ := by decide +kernel
  obtain ⟨r, hr, _, _, a, b, hfirst, hlast, hle, hslice⟩ :=
    rangeOf_encloses_intervalText _ hsize acrossLines _ htext
  obtain rfl := Except.ok.inj (hrange.symm.trans hr)
  exact ⟨hsize, htext, hrange, a, b, (hfirst a).2 rfl, (hlast b).2 rfl, hle, hslice⟩

end LineIndex

end Polyglot
