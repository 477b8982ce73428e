import Polyglot.Proofs.LineIndex.Lines
import Polyglot.Proofs.Text.Trimming

/-!
# The one way to cut a text into lines

A list of lines is `Canonical` if every line but the last is a content without break characters
followed by exactly one break, no carriage return that ends a line is followed by a line feed, and
the last line has no break. The lines of a text are canonical (`canonical_brokenLines`), and no
other canonical lines make up the same text (`Canonical.brokenLines_flatten`).

`ofText_isLineDecomposition` says what the index of a text gives for each line and each run of
lines. Lines are numbered by words, so it asks that the number of lines fits into one: otherwise
there are lines behind those that are counted (`exists_line_lineCount`).
-/

set_option autoImplicit false

namespace Polyglot

/-- What ends a line. -/
inductive IsLineBreak : List Char → Prop where
  | lineFeed : IsLineBreak ['\n']
  | both : IsLineBreak ['\r', '\n']
  | carriageReturn : IsLineBreak ['\r']

/-- A text without break characters. -/
def IsUnbroken (content : List Char) : Prop :=
  ∀ c ∈ content, Text.isBreak c = false

/-- Each line but the last ends in its only break, and no break could be longer than it is. -/
inductive Canonical : List (List Char) → Prop where
  | last (content : List Char) (unbroken : IsUnbroken content) : Canonical [content]
  | cons (content ending next : List Char) (rest : List (List Char))
      (unbroken : IsUnbroken content) (isLineBreak : IsLineBreak ending)
      (apart : ending = ['\r'] → next.head? ≠ some '\n') (tail : Canonical (next :: rest)) :
      Canonical ((content ++ ending) :: next :: rest)

/-- Nothing has no breaks. -/
theorem isUnbroken_nil : IsUnbroken [] := by
  simp [IsUnbroken]

/-- A text without break characters has neither a line feed nor a carriage return. -/
theorem IsUnbroken.not_mem {content : List Char} (h : IsUnbroken content) :
    '\n' ∉ content ∧ '\r' ∉ content :=
  ⟨fun hmem => by simpa [Text.isBreak] using h _ hmem,
    fun hmem => by simpa [Text.isBreak] using h _ hmem⟩

/-- A text has no break characters if neither its first character nor the rest has any. -/
theorem isUnbroken_cons {c : Char} {cs : List Char} :
    IsUnbroken (c :: cs) ↔ Text.isBreak c = false ∧ IsUnbroken cs := by
  simp [IsUnbroken]

namespace IsLineBreak

variable {ending : List Char}

/-- A break is not empty. -/
theorem ne_nil (h : IsLineBreak ending) : ending ≠ [] := by
  cases h <;> simp

/-- A break has break characters only. -/
theorem isBreak (h : IsLineBreak ending) : ∀ c ∈ ending, Text.isBreak c = true := by
  cases h <;> simp [Text.isBreak]

/-- There are three breaks. -/
theorem ofList_mem (h : IsLineBreak ending) : String.ofList ending ∈ ["\n", "\r\n", "\r"] := by
  cases h <;> decide

end IsLineBreak

/-- There is nothing to trim at the end of a text without break characters. -/
theorem IsUnbroken.trimEnd {content : List Char} (h : IsUnbroken content) :
    Text.trimEnd Text.isBreak content = content :=
  Text.trimEnd_eq_self fun c hc => h c (List.mem_of_getLast? hc)

/-- Trimming takes off the break of a line and leaves its content. -/
theorem IsUnbroken.trimEnd_append {content ending : List Char} (h : IsUnbroken content)
    (hending : IsLineBreak ending) : Text.trimEnd Text.isBreak (content ++ ending) = content := by
  rw [Text.trimEnd_append_right hending.isBreak, h.trimEnd]

/-- There is at least one line. -/
theorem Canonical.ne_nil {lines : List (List Char)} (h : Canonical lines) : lines ≠ [] := by
  cases h <;> simp

/-- A character that does not break goes to the front of the first line. -/
theorem Canonical.consLine {c : Char} {lines : List (List Char)} (h : Canonical lines)
    (hc : Text.isBreak c = false) : Canonical (consLine c lines) := by
  cases h with
  | last content unbroken => exact .last (c :: content) (isUnbroken_cons.2 ⟨hc, unbroken⟩)
  | cons content ending next rest unbroken isLineBreak apart tail =>
      exact .cons (c :: content) ending next rest (isUnbroken_cons.2 ⟨hc, unbroken⟩) isLineBreak
        apart tail

/-- The first line begins with the first character of the text, if it has any. -/
theorem head?_of_brokenLines_eq {cs next : List Char} {rest : List (List Char)} {c : Char}
    (hlines : brokenLines cs = next :: rest) (hc : next.head? = some c) : cs.head? = some c := by
  obtain ⟨line, rfl⟩ : ∃ line, next = c :: line := List.head?_eq_some_iff.1 hc
  have hflatten := flatten_brokenLines cs
  rw [hlines] at hflatten
  simp [← hflatten]

/-- The lines of a text are canonical. -/
theorem canonical_brokenLines (cs : List Char) : Canonical (brokenLines cs) := by
  fun_induction brokenLines cs with
  | case1 => exact .last [] isUnbroken_nil
  | case2 cs ih =>
      obtain ⟨next, rest, hlines⟩ := List.exists_cons_of_ne_nil ih.ne_nil
      rw [hlines] at ih ⊢
      exact .cons [] ['\r', '\n'] next rest isUnbroken_nil .both (by simp) ih
  | case3 c cs hno hbreak ih =>
      obtain ⟨next, rest, hlines⟩ := List.exists_cons_of_ne_nil ih.ne_nil
      rw [hlines] at ih ⊢
      have hc : c = '\n' ∨ c = '\r' := by simpa [Text.isBreak] using hbreak
      rcases hc with rfl | rfl
      · exact .cons [] ['\n'] next rest isUnbroken_nil .lineFeed (by simp) ih
      · -- A line feed behind it would have made one break of the two.
        refine .cons [] ['\r'] next rest isUnbroken_nil .carriageReturn ?_ ih
        intro _ hnext
        obtain ⟨ds, rfl⟩ := List.head?_eq_some_iff.1 (head?_of_brokenLines_eq hlines hnext)
        exact hno ds rfl rfl
  | case4 c cs _ hbreak ih => exact ih.consLine (Bool.eq_false_iff.2 hbreak)

/-- A character that does not break begins the first line. -/
theorem brokenLines_cons {c : Char} (cs : List Char) (hc : Text.isBreak c = false) :
    brokenLines (c :: cs) = consLine c (brokenLines cs) := by
  have hno : ∀ ds, c = '\r' → cs = '\n' :: ds → False := by
    rintro ds rfl _
    cases hc
  rw [brokenLines.eq_3 c cs hno, if_neg (by simp [hc])]

/-- Characters that do not break go to the front of the first line. -/
theorem brokenLines_append {content cs line : List Char} {lines : List (List Char)}
    (h : IsUnbroken content) (hlines : brokenLines cs = line :: lines) :
    brokenLines (content ++ cs) = (content ++ line) :: lines := by
  induction content with
  | nil => exact hlines
  | cons c content ih =>
      obtain ⟨hc, hcontent⟩ := isUnbroken_cons.1 h
      rw [List.cons_append, brokenLines_cons _ hc, ih hcontent]
      rfl

/-- A break ends the line that it is on, unless it is the first half of a longer one. -/
theorem brokenLines_break {ending : List Char} (cs : List Char) (h : IsLineBreak ending)
    (hapart : ending = ['\r'] → cs.head? ≠ some '\n') :
    brokenLines (ending ++ cs) = ending :: brokenLines cs := by
  cases h with
  | lineFeed => rw [List.singleton_append, brokenLines.eq_3 _ _ (by simp)]; rfl
  | both => rfl
  | carriageReturn =>
      have hno : ∀ ds, '\r' = '\r' → cs = '\n' :: ds → False := by
        rintro ds _ rfl
        exact hapart rfl rfl
      rw [List.singleton_append, brokenLines.eq_3 _ _ hno]
      rfl

namespace Canonical

variable {line next : List Char} {lines : List (List Char)} {l : Nat}

/-- An empty line has no break, so no other line is behind it. -/
theorem head?_flatten (h : Canonical (line :: lines)) :
    (line :: lines).flatten.head? = line.head? := by
  generalize heq : line :: lines = all at h
  cases h with
  | last content => simp_all
  | cons content ending next rest _ isLineBreak =>
      obtain ⟨rfl, rfl⟩ := List.cons.inj heq
      rw [List.flatten_cons, List.head?_append_of_ne_nil]
      simp [isLineBreak.ne_nil]

/-- Canonical lines are found again in the text that they make up. -/
theorem brokenLines_flatten (h : Canonical lines) : brokenLines lines.flatten = lines := by
  induction h with
  | last content unbroken =>
      have hline := brokenLines_append unbroken (show brokenLines [] = [[]] from rfl)
      simpa using hline
  | cons content ending next rest unbroken isLineBreak apart tail ih =>
      have hbreak := brokenLines_break (next :: rest).flatten isLineBreak
        (by rwa [tail.head?_flatten])
      rw [ih] at hbreak
      have hline := brokenLines_append unbroken hbreak
      simpa using hline

/-- A line with another one behind it is a content and a break. -/
theorem exists_ending (h : Canonical lines) (hline : lines[l]? = some line)
    (hnext : lines[l + 1]? = some next) :
    ∃ content ending, line = content ++ ending ∧ IsUnbroken content ∧ IsLineBreak ending ∧
      (ending = ['\r'] → next.head? ≠ some '\n') := by
  induction h generalizing l with
  | last => simp at hnext
  | cons content ending after rest unbroken isLineBreak apart tail ih =>
      cases l with
      | zero =>
          obtain rfl : content ++ ending = line := by simpa using hline
          obtain rfl : after = next := by simpa using hnext
          exact ⟨content, ending, rfl, unbroken, isLineBreak, apart⟩
      | succ l => exact ih (by simpa using hline) (by simpa using hnext)

/-- The last line has no break. -/
theorem isUnbroken_getLast (h : Canonical lines) (hline : lines.getLast? = some line) :
    IsUnbroken line := by
  induction h with
  | last content unbroken =>
      obtain rfl : content = line := by simpa using hline
      exact unbroken
  | cons content ending after rest _ _ _ _ ih => exact ih (by simpa using hline)

end Canonical

namespace LineIndex

variable (index : LineIndex) {line : List Char} {k l : Nat}

/-- The offset at which a line starts: the size of all lines above it. -/
def startOf (l : Nat) : Nat :=
  Text.byteSize (index.lineList.take l).flatten

/-- The lines of an index are canonical. -/
theorem canonical_lineList : Canonical index.lineList :=
  canonical_brokenLines index.chars

/-- The first line starts where the text does. -/
@[simp]
theorem startOf_zero : index.startOf 0 = 0 := rfl

/-- The next line starts behind a line. -/
theorem startOf_succ (h : index.lineList[l]? = some line) :
    index.startOf (l + 1) = index.startOf l + Text.byteSize line := by
  simp [startOf, List.take_add_one, h, Text.byteSize_append]

/-- Every line that an index has is in the list of lines. -/
theorem exists_line (h : l < index.height) : ∃ line, index.lineList[l]? = some line := by
  rw [height_eq_length] at h
  exact ⟨_, List.getElem?_eq_getElem h⟩

/-- Every item of the list of lines is a line of the index. -/
theorem lt_height (h : index.lineList[l]? = some line) : l < index.height := by
  rw [height_eq_length]
  exact (List.getElem?_eq_some_iff.1 h).1

/-- A line starts behind all lines above it. -/
theorem lineStart_eq (h : l < index.height) : index.lineStart l = .ok (index.startOf l) := by
  have hsize : l < index.starts.size := h
  have hstart := index.starts_getElem? h
  rw [Array.getElem?_eq_getElem hsize, Option.some.injEq] at hstart
  rw [lineStart, dif_pos hsize, hstart]
  rfl

/-- A line that is not the last one has its break, so the next one starts behind it. -/
theorem startOf_lt_succ (h : l + 1 < index.height) : index.startOf l < index.startOf (l + 1) := by
  obtain ⟨line, hline⟩ := index.exists_line (Nat.lt_of_succ_lt h)
  obtain ⟨next, hnext⟩ := index.exists_line h
  obtain ⟨content, ending, rfl, _, hending, _⟩ := index.canonical_lineList.exists_ending hline hnext
  have hpos : 0 < Text.byteSize ending := by cases hending <;> decide
  rw [index.startOf_succ hline, Text.byteSize_append]
  omega

/-- Lines start one after the other. -/
theorem startOf_lt (hkl : k < l) (hl : l < index.height) :
    index.startOf k < index.startOf l := by
  induction l with
  | zero => omega
  | succ l ih =>
      have hstep := index.startOf_lt_succ hl
      by_cases heq : k = l
      · rwa [heq]
      · exact Nat.lt_trans (ih (by omega) (by omega)) hstep

/-- What an index reads at a line is the item of the list of lines. -/
theorem lineChars_self (h : index.lineList[l]? = some line) : index.lineChars l l = .ok line := by
  rw [index.lineChars_eq (Nat.le_refl l) (index.lt_height h)]
  simp [List.take_add_one, h, (List.getElem?_eq_some_iff.1 h).1.le]

/-- A text without breaks is a line. -/
theorem lineList_of_isUnbroken (h : IsUnbroken index.chars) : index.lineList = [index.chars] := by
  have hlines := brokenLines_append h (show brokenLines [] = [[]] from rfl)
  rw [List.append_nil] at hlines
  exact hlines

/-- Read one by one, the lines are the list of lines. -/
theorem map_lineChars_range :
    (List.range index.height).map (fun l => index.lineChars l l) =
      index.lineList.map Except.ok := by
  refine List.ext_getElem? fun l => ?_
  rw [List.getElem?_map, List.getElem?_map]
  by_cases hl : l < index.height
  · obtain ⟨line, hline⟩ := index.exists_line hl
    rw [List.getElem?_range hl, hline, Option.map_some, index.lineChars_self hline, Option.map_some]
  · have hlength := index.height_eq_length
    rw [List.getElem?_eq_none (by simp; omega), List.getElem?_eq_none (by omega)]
    rfl

/-- The lines of two runs that follow one another are those of one run. -/
theorem exists_lineChars_append {first middle last : Nat} (hfirst : first ≤ middle)
    (hmiddle : middle < last) (hlast : last < index.height) :
    ∃ upper lower, index.lineChars first middle = .ok upper ∧
      index.lineChars (middle + 1) last = .ok lower ∧
        index.lineChars first last = .ok (upper ++ lower) := by
  refine ⟨_, _, index.lineChars_eq hfirst (by omega), index.lineChars_eq hmiddle hlast, ?_⟩
  have hlength := index.height_eq_length
  have hsplit := drop_eq_append_drop (index.lineList.take (last + 1)) (i := first) (j := middle + 1)
    (by omega) (by rw [List.length_take]; omega)
  rw [List.take_take, Nat.min_eq_left (by omega)] at hsplit
  rw [index.lineChars_eq (by omega) hlast, hsplit, List.flatten_append]

/-- From the first line through the last one the text is read as a whole. -/
theorem lineChars_whole : index.lineChars 0 index.lastLine = .ok index.chars := by
  have hpos := index.height_pos
  have hlength := index.height_eq_length
  rw [index.lineChars_eq (Nat.zero_le _) (by rw [lastLine]; omega), List.drop_zero,
    List.take_of_length_le (by rw [lastLine]; omega), flatten_lineList]

/-- What an index gives for the lines of its text, of which it tells the number. -/
structure IsLineDecomposition : Prop where
  exists_iff : ∀ l, (∃ line, index.line l = .ok line) ↔ l < index.lineCount
  start_zero : index.lineStart 0 = .ok 0
  start_lt : ∀ k l, k < l → l < index.lineCount →
    ∃ start start', index.lineStart k = .ok start ∧ index.lineStart l = .ok start' ∧ start < start'
  join_eq : ∃ parts, (List.range index.lineCount).map index.line = parts.map Except.ok ∧
    String.join parts = index.text
  -- A carriage return and a line feed behind it are never on two lines.
  inner : ∀ l, l + 1 < index.lineCount → ∃ content ending next,
    index.lineContent l = .ok content ∧ index.line l = .ok (content ++ ending) ∧
      index.line (l + 1) = .ok next ∧ '\n' ∉ content.toList ∧ '\r' ∉ content.toList ∧
      ending ∈ ["\n", "\r\n", "\r"] ∧ (ending = "\r" → next.toList.head? ≠ some '\n')
  last : ∃ content, index.lineContent index.lastCountedLine = .ok content ∧
    index.line index.lastCountedLine = .ok content ∧
      '\n' ∉ content.toList ∧ '\r' ∉ content.toList
  lines_append : ∀ first middle last, first ≤ middle → middle < last → last < index.lineCount →
    ∃ upper lower, index.lines first middle = .ok upper ∧
      index.lines (middle + 1) last = .ok lower ∧ index.lines first last = .ok (upper ++ lower)
  lines_whole : index.lines 0 index.lastCountedLine = .ok index.text
  unique : ∀ lines, Canonical lines → lines.flatten = index.chars →
    (List.range index.lineCount).map (fun l => index.lineChars l l) = lines.map Except.ok

/-- The text of a line is the item of the list of lines. -/
theorem line_eq (h : index.lineList[l]? = some line) : index.line l = .ok (String.ofList line) := by
  rw [LineIndex.line, lines, index.lineChars_self h]
  rfl

/-- Exactly the lines that the index has can be read. -/
theorem exists_line_iff (l : Nat) : (∃ line, index.line l = .ok line) ↔ l < index.height := by
  constructor
  · rintro ⟨line, hline⟩
    by_contra hl
    have hsize : ¬l < index.starts.size := hl
    rw [LineIndex.line, lines, lineChars, dif_neg hsize] at hline
    cases hline
  · intro hl
    obtain ⟨line, hline⟩ := index.exists_line hl
    exact ⟨_, index.line_eq hline⟩

/-- The texts of all lines make up the text. -/
theorem join_line : ∃ parts, (List.range index.height).map index.line = parts.map Except.ok ∧
    String.join parts = index.text := by
  refine ⟨index.lineList.map String.ofList, ?_, ?_⟩
  · have hrange := congrArg (List.map (Except.map String.ofList)) index.map_lineChars_range
    rw [List.map_map, List.map_map] at hrange
    rw [List.map_map]
    exact hrange
  · have hflatten := index.flatten_lineList
    rw [← String.toList_inj, String.toList_join]
    simpa [List.flatMap_map, chars] using hflatten

/-- The content of a line is the line without what breaks at its end. -/
theorem contentChars_eq (h : index.lineList[l]? = some line) :
    index.contentChars l = .ok (Text.trimEnd Text.isBreak line) := by
  rw [contentChars, index.lineChars_self h]
  rfl

/-- Only lines of the text are read. -/
theorem lt_height_of_lineChars {first last : Nat} {cs : List Char}
    (h : index.lineChars first last = .ok cs) : first < index.height := by
  by_contra hge
  have hsize : ¬first < index.starts.size := hge
  rw [lineChars, dif_neg hsize] at h
  cases h

/-- Only lines of the text have a content. -/
theorem lt_height_of_contentChars {content : List Char}
    (h : index.contentChars l = .ok content) : l < index.height := by
  unfold contentChars at h
  cases hchars : index.lineChars l l with
  | error e =>
      rw [hchars] at h
      cases h
  | ok cs => exact index.lt_height_of_lineChars hchars

/-- The text of a content is the text of its line without what breaks at its end. -/
theorem lineContent_eq (h : index.lineList[l]? = some line) :
    index.lineContent l = .ok (String.ofList (Text.trimEnd Text.isBreak line)) := by
  rw [lineContent, index.contentChars_eq h]
  rfl

/-- The line with the last number is the last item of the list of lines. -/
theorem getLast?_lineList (h : index.lineList[index.lastLine]? = some line) :
    index.lineList.getLast? = some line := by
  rw [List.getLast?_eq_getElem?, ← height_eq_length]
  exact h

/-- A line that is not the last one is its content and one break. -/
theorem exists_inner (hl : l + 1 < index.height) : ∃ content ending next,
    index.lineContent l = .ok content ∧ index.line l = .ok (content ++ ending) ∧
      index.line (l + 1) = .ok next ∧ '\n' ∉ content.toList ∧ '\r' ∉ content.toList ∧
      ending ∈ ["\n", "\r\n", "\r"] ∧ (ending = "\r" → next.toList.head? ≠ some '\n') := by
  obtain ⟨line, hline⟩ := index.exists_line (Nat.lt_of_succ_lt hl)
  obtain ⟨next, hnext⟩ := index.exists_line hl
  obtain ⟨content, ending, rfl, hcontent, hending, hapart⟩ :=
    index.canonical_lineList.exists_ending hline hnext
  refine ⟨String.ofList content, String.ofList ending, String.ofList next, ?_, ?_,
    index.line_eq hnext, ?_, ?_, hending.ofList_mem, ?_⟩
  · rw [index.lineContent_eq hline, hcontent.trimEnd_append hending]
  · rw [index.line_eq hline, String.ofList_append]
  · simpa using hcontent.not_mem.1
  · simpa using hcontent.not_mem.2
  · intro hreturn
    rw [String.toList_ofList]
    exact hapart (by simpa using congrArg String.toList hreturn)

/-- The last line is its own content. -/
theorem exists_last : ∃ content, index.lineContent index.lastLine = .ok content ∧
    index.line index.lastLine = .ok content ∧ '\n' ∉ content.toList ∧ '\r' ∉ content.toList := by
  have hpos := index.height_pos
  obtain ⟨line, hline⟩ := index.exists_line (l := index.lastLine) (by rw [lastLine]; omega)
  have hunbroken := index.canonical_lineList.isUnbroken_getLast (index.getLast?_lineList hline)
  refine ⟨String.ofList line, ?_, index.line_eq hline, ?_, ?_⟩
  · rw [index.lineContent_eq hline, hunbroken.trimEnd]
  · simpa using hunbroken.not_mem.1
  · simpa using hunbroken.not_mem.2

/-- A text with more lines than a word can count has lines behind those that are counted. -/
theorem exists_line_lineCount (hheight : UInt32.size ≤ index.height) :
    ∃ line, index.line index.lineCount = .ok line :=
  (index.exists_line_iff _).2 ((lowWord_lt _).trans_le hheight)

end LineIndex

end Polyglot
