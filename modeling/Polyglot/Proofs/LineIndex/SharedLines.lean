import Polyglot.Proofs.LineIndex.Decomposition

/-!
# Texts that share their first lines

Two texts may share their first lines, or only the contents of these lines and not the breaks.
Shared lines make up the same runs (`SharesLines.lineChars_eq`).

What is put behind a text leaves the contents of all its lines but the last, and of these lines all
but the last are left with their breaks: a carriage return there may be joined with a line feed that
is put behind it (`sharesContents_append`, `sharesLines_append`).
-/

set_option autoImplicit false

namespace Polyglot

/-- Behind a carriage return, what is put behind the text begins a line of its own unless it begins
with a line feed. -/
theorem Canonical.head?_append {next : List Char} {rest : List (List Char)}
    (h : Canonical (next :: rest)) (more : List Char) (hnext : next.head? ≠ some '\n')
    (hfeed : ((next :: rest).flatten ++ more).head? = some '\n') :
    next = [] ∧ rest = [] ∧ more.head? = some '\n' := by
  cases hhead : next.head? with
  | some c =>
      have hflatten := h.head?_flatten.trans hhead
      rw [List.head?_append, hflatten] at hfeed
      exact absurd (hhead.trans hfeed) hnext
  | none =>
      obtain rfl : next = [] := List.head?_eq_none_iff.1 hhead
      generalize heq : [] :: rest = lines at h
      cases h with
      | last content =>
          obtain ⟨rfl, rfl⟩ := List.cons.inj heq
          exact ⟨rfl, rfl, by simpa using hfeed⟩
      | cons content ending after others _ isLineBreak =>
          have hempty := (List.append_eq_nil_iff.1 (List.cons.inj heq).1.symm).2
          exact absurd hempty isLineBreak.ne_nil

/-- What is put behind a text leaves the contents of the lines above its last one. Where another
line is between, it leaves the line. -/
theorem Canonical.getElem?_append {lines : List (List Char)} (h : Canonical lines)
    (more : List Char) {l : Nat} {line : List Char} (hline : lines[l]? = some line)
    (hl : l + 1 < lines.length) :
    ∃ line', (brokenLines (lines.flatten ++ more))[l]? = some line' ∧
      Text.trimEnd Text.isBreak line' = Text.trimEnd Text.isBreak line ∧
        (l + 2 < lines.length → line' = line) := by
  induction h generalizing l with
  | last content => simp at hl
  | cons content ending next rest unbroken isLineBreak apart tail ih =>
      rw [List.flatten_cons, List.append_assoc, List.append_assoc]
      by_cases hjoined : ending = ['\r'] ∧ ((next :: rest).flatten ++ more).head? = some '\n'
      · -- The break of the line grows by the line feed, and no other line is left to look at.
        obtain ⟨rfl, hfeed⟩ := hjoined
        obtain ⟨rfl, rfl, hmore⟩ := tail.head?_append more (apart rfl) hfeed
        obtain ⟨others, rfl⟩ := List.head?_eq_some_iff.1 hmore
        obtain rfl : l = 0 := Nat.lt_one_iff.1 (Nat.lt_of_succ_lt_succ hl)
        obtain rfl : content ++ ['\r'] = line := by simpa using hline
        have hlines := brokenLines_append unbroken
          (show brokenLines ('\r' :: '\n' :: others) = ['\r', '\n'] :: brokenLines others from rfl)
        refine ⟨content ++ ['\r', '\n'], ?_, ?_, fun hlt => by simp at hlt⟩
        · change (brokenLines (content ++ '\r' :: '\n' :: others))[0]? = _
          rw [hlines]
          rfl
        · rw [unbroken.trimEnd_append .both, unbroken.trimEnd_append .carriageReturn]
      · have hlines := brokenLines_append unbroken (brokenLines_break
          ((next :: rest).flatten ++ more) isLineBreak
            fun hreturn hfeed => hjoined ⟨hreturn, hfeed⟩)
        rw [hlines]
        cases l with
        | zero =>
            obtain rfl : content ++ ending = line := by simpa using hline
            exact ⟨content ++ ending, rfl, rfl, fun _ => rfl⟩
        | succ l =>
            rw [List.getElem?_cons_succ] at hline
            obtain ⟨line', hline', htrim, hinner⟩ := ih hline (Nat.lt_of_succ_lt_succ hl)
            exact ⟨line', hline', htrim, fun hlt => hinner (Nat.lt_of_succ_lt_succ hlt)⟩

namespace LineIndex

variable {index index' : LineIndex} {k l : Nat} {line : List Char}

/-- The texts have the same first `k` lines, breaks included. -/
def SharesLines (k : Nat) (index index' : LineIndex) : Prop :=
  ∀ l < k, index.line l = index'.line l

/-- The first `k` lines of the texts are the same but for their breaks. -/
def SharesContents (k : Nat) (index index' : LineIndex) : Prop :=
  ∀ l < k, index.contentChars l = index'.contentChars l

/-- A shared line reads the same in both texts. -/
theorem SharesLines.lineChars_self (h : SharesLines k index index') (hl : l < k) :
    index.lineChars l l = index'.lineChars l l := by
  have hline := h l hl
  unfold LineIndex.line lines at hline
  cases hfirst : index.lineChars l l <;> cases hsecond : index'.lineChars l l <;>
    rw [hfirst, hsecond] at hline
  · exact congrArg Except.error (Except.error.inj hline)
  · cases hline
  · cases hline
  · exact congrArg Except.ok (String.ofList_injective (Except.ok.inj hline))

/-- Texts with the same first lines have the same contents of these lines. -/
theorem SharesLines.sharesContents (h : SharesLines k index index') :
    SharesContents k index index' := by
  intro l hl
  rw [contentChars, h.lineChars_self hl, contentChars]

/-- A shared line is in both lists of lines. -/
theorem SharesLines.getElem? (h : SharesLines k index index') (hl : l < k)
    (hline : index.lineList[l]? = some line) : index'.lineList[l]? = some line := by
  have hchars := h.lineChars_self hl
  rw [index.lineChars_self hline] at hchars
  obtain ⟨line', hline'⟩ := index'.exists_line (index'.lt_height_of_lineChars hchars.symm)
  rw [index'.lineChars_self hline'] at hchars
  rw [hline', Except.ok.inj hchars]

/-- Shared lines make up the same runs. -/
theorem SharesLines.lineChars_eq (h : SharesLines k index index') {first last : Nat}
    (hle : first ≤ last) (hlast : last < k) (hcount : last < index.height) :
    index.lineChars first last = index'.lineChars first last := by
  have hlines : ∀ l ≤ last, index'.lineList[l]? = index.lineList[l]? := by
    intro l hl
    obtain ⟨line, hline⟩ := index.exists_line (Nat.lt_of_le_of_lt hl hcount)
    rw [hline, h.getElem? (by omega) hline]
  have htake : index'.lineList.take (last + 1) = index.lineList.take (last + 1) := by
    refine List.ext_getElem? fun l => ?_
    rw [List.getElem?_take, List.getElem?_take]
    split
    · exact hlines l (by omega)
    · rfl
  obtain ⟨line, hline⟩ := index.exists_line hcount
  have hcount' := index'.lt_height ((hlines last (Nat.le_refl last)).trans hline)
  rw [index.lineChars_eq hle hcount, index'.lineChars_eq hle hcount', htake]

variable {more : List Char}

/-- What is put behind a text leaves the contents of all lines above its last one. -/
theorem sharesContents_append (h : index'.chars = index.chars ++ more) :
    SharesContents index.lastLine index index' := by
  intro l hl
  obtain ⟨line, hline⟩ := index.exists_line (l := l) (by unfold lastLine at hl; omega)
  have hcount := index.height_eq_length
  obtain ⟨line', hline', htrim, _⟩ := index.canonical_lineList.getElem?_append more hline
    (by unfold lastLine at hl; omega)
  rw [flatten_lineList, ← h] at hline'
  rw [index.contentChars_eq hline, index'.contentChars_eq hline', htrim]

/-- It leaves these lines themselves, but for the last of them. -/
theorem sharesLines_append (h : index'.chars = index.chars ++ more) :
    SharesLines (index.lastLine - 1) index index' := by
  intro l hl
  obtain ⟨line, hline⟩ := index.exists_line (l := l) (by unfold lastLine at hl; omega)
  have hcount := index.height_eq_length
  obtain ⟨line', hline', _, hinner⟩ := index.canonical_lineList.getElem?_append more hline
    (by unfold lastLine at hl; omega)
  rw [flatten_lineList, ← h] at hline'
  rw [index.line_eq hline, index'.line_eq hline', hinner (by unfold lastLine at hl; omega)]

end LineIndex

end Polyglot
