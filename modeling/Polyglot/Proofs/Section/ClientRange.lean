import Polyglot.Proofs.LineIndex.Denotable
import Polyglot.Proofs.Section.Interval

/-!
# Client ranges of sections

The client range of a section starts at the start of its first line, and it stops behind the content
of its last line if there is any. If the last line is empty, the interval of the section ends at its
break, and the range stops behind the first character of the break (`Section.exists_range_stop`).
That is on the next line, unless the break has two characters. So in a text of less than 4 GiB a
client can name both ends of the range of a section exactly if the last line of the section is not
an empty one with a break of two characters (`Segmenter.rangeOf_interval_isDenotable_iff`).
-/

set_option autoImplicit false

namespace Polyglot

open Text (byteSize unitSize widthAt isBoundary)

/-- Where the range of lines that end with line `l` stops for a client. -/
inductive LineIndex.StopsAt (index : LineIndex) (l : Nat) : Lsp.Position → Prop where
  | behindContent {content : List Char} (content_eq : index.contentChars l = .ok content)
      (ne_nil : content ≠ []) : StopsAt index l ⟨l, unitSize content⟩
  | nextLine (line_eq : index.line l = .ok "\n" ∨ index.line l = .ok "\r")
      (isLine : l + 1 < index.height) : StopsAt index l ⟨l + 1, 0⟩
  /-- Between the two characters of the break. -/
  | insideBreak (line_eq : index.line l = .ok "\r\n") : StopsAt index l ⟨l, 1⟩
  | endOfText (line_eq : index.line l = .ok "") : StopsAt index l ⟨l, 0⟩

namespace LineIndex

variable {index : LineIndex} {l o : Nat} {p : Lsp.Position} {content ending : List Char}

/-- On an empty line the last character of the content is the first one of the break. -/
theorem widthAt_startOf (hline : index.lineList[l]? = some ending) (hne : ending ≠ []) :
    widthAt (index.startOf l) index.chars = widthAt 0 ending := by
  obtain ⟨before, after, hchars, hbefore⟩ := exists_surrounding hline
  obtain ⟨c, cs, rfl⟩ := List.exists_cons_of_ne_nil hne
  rw [hchars, ← hbefore, Text.widthAt_byteSize_append]
  rfl

section Fitting

variable (hsize : index.length < UInt32.size)
include hsize

/-- Behind the character at the end of a section whose last line has content, this content ends. -/
theorem add_widthAt_lastChar (hl : l < index.height)
    (hcontent : index.contentChars l = .ok content) (hne : content ≠ [])
    (ho : index.offsetOf ⟨l, Section.lastCharColumn content⟩ = .ok o) :
    o + widthAt o index.chars = index.startOf l + byteSize content := by
  obtain ⟨content', ending, hline, hcontent', _⟩ := index.exists_content hl
  obtain rfl := Except.ok.inj (hcontent.symm.trans hcontent')
  obtain ⟨o', ho', _, hle, _⟩ := exists_lastChar hsize hl hcontent
  obtain rfl := Except.ok.inj (ho.symm.trans ho')
  obtain ⟨_, _, rfl⟩ := offsetOf_eq_ok_iff.1 ho
  obtain ⟨before, after, hchars, hbefore⟩ := exists_surrounding hline
  have hboundary : isBoundary (index.startOf l + byteSize content) index.chars = true := by
    rw [hchars, List.append_assoc, ← List.append_assoc before, ← hbefore, ← Text.byteSize_append]
    exact Text.isBoundary_byteSize_append _ _
  have hlt : Section.lastCharColumn content < byteSize content := by
    obtain ⟨cs, c, rfl⟩ := (List.eq_nil_or_concat content).resolve_left hne
    have hc := c.utf8Size_pos
    have hword := lowWord_le (byteSize cs)
    rw [List.concat_eq_append, Section.lastCharColumn, List.dropLast_concat, Text.byteSize_append,
      byteSize]
    omega
  exact Nat.le_antisymm (Text.add_widthAt_le hboundary (Nat.add_lt_add_left hlt _)) hle

/-- Behind the first character of an empty line the next line starts, or there is the second
character of the break. -/
theorem exists_stopsAt_of_break (hline : index.lineList[l]? = some ending)
    (hbreak : IsLineBreak ending) (hnext : l + 1 < index.height) :
    ∃ stop, index.toLsp (index.startOf l + widthAt 0 ending) = .ok stop ∧ index.StopsAt l stop := by
  have hsucc := index.startOf_succ hline
  have hstring := index.line_eq hline
  cases hbreak with
  | lineFeed =>
      refine ⟨_, ?_, .nextLine (Or.inl hstring) hnext⟩
      rw [← toLsp_startOf hsize hnext, hsucc]
      rfl
  | carriageReturn =>
      refine ⟨_, ?_, .nextLine (Or.inr hstring) hnext⟩
      rw [← toLsp_startOf hsize hnext, hsucc]
      rfl
  | both =>
      refine ⟨_, ?_, .insideBreak hstring⟩
      have hstart := index.startOf_le_length (l + 1)
      have hwidth : index.startOf (l + 1) = index.startOf l + 2 := hsucc
      have hlies : index.LiesOn (index.startOf l + 1) l :=
        ⟨Nat.lt_of_succ_lt hnext, by omega, fun _ => by omega⟩
      change index.toLsp (index.startOf l + 1) = _
      rw [toLsp_eq hsize (by omega) hlies hline, Nat.add_sub_cancel_left]
      rfl

/-- There is nothing behind an empty line without a break. -/
theorem exists_stopsAt_of_end (hline : index.lineList[l]? = some [])
    (hlast : l + 1 = index.height) :
    ∃ stop, index.toLsp (index.startOf l + widthAt (index.startOf l) index.chars) = .ok stop ∧
      index.StopsAt l stop := by
  have hend : index.startOf l = index.length := by
    have hwhole := index.startOf_height
    rw [← hlast, index.startOf_succ hline] at hwhole
    exact hwhole
  have hzero : widthAt (index.startOf l) index.chars = 0 := by
    rw [hend]
    exact Text.widthAt_byteSize index.chars
  rw [hzero, Nat.add_zero]
  exact ⟨_, toLsp_startOf hsize (by omega), .endOfText (index.line_eq hline)⟩

/-- Behind the character at the end of a section the range stops. -/
theorem exists_stopsAt (hl : l < index.height) (hcontent : index.contentChars l = .ok content)
    (ho : index.offsetOf ⟨l, Section.lastCharColumn content⟩ = .ok o) :
    ∃ stop, index.toLsp (o + widthAt o index.chars) = .ok stop ∧ index.StopsAt l stop := by
  obtain ⟨content', ending, hline, hcontent', _, hcases⟩ := index.exists_break hl
  obtain rfl := Except.ok.inj (hcontent.symm.trans hcontent')
  by_cases hne : content = []
  · subst hne
    rw [Section.lastCharColumn_nil, offsetOf_lineStart hl] at ho
    obtain rfl := Except.ok.inj ho
    rcases hcases with ⟨hnext, hbreak⟩ | ⟨hlast, rfl⟩
    · have hstop := exists_stopsAt_of_break hsize hline hbreak hnext
      rw [← widthAt_startOf hline hbreak.ne_nil] at hstop
      exact hstop
    · exact exists_stopsAt_of_end hsize hline hlast
  · have hending : l + 1 < index.height → ending ≠ [] := by
      rcases hcases with ⟨_, hbreak⟩ | ⟨hlast, _⟩
      · exact fun _ => hbreak.ne_nil
      · exact fun hnext => by omega
    rw [add_widthAt_lastChar hsize hl hcontent hne ho]
    exact ⟨_, toLsp_of_isPrefix hsize hl hline hending List.prefix_rfl,
      .behindContent hcontent hne⟩

end Fitting

/-- The content of a line is the line without its break. -/
theorem contentChars_of_line {text : String} (h : index.line l = .ok text) :
    index.contentChars l = .ok (Text.trimEnd Text.isBreak text.toList) := by
  obtain ⟨line, hline⟩ := index.exists_line ((index.exists_line_iff l).1 ⟨text, h⟩)
  obtain rfl := Except.ok.inj ((index.line_eq hline).symm.trans h)
  rw [index.contentChars_eq hline, String.toList_ofList]

/-- Where a range stops is a position that a client can name, unless it is inside a break. -/
theorem StopsAt.isDenotable_iff (hl : l < index.height) (h : index.StopsAt l p) :
    index.IsDenotable p ↔ index.line l ≠ .ok "\r\n" := by
  have hempty : index.line l = .ok "\r\n" → index.contentChars l = .ok [] := contentChars_of_line
  cases h with
  | behindContent content_eq ne_nil =>
      refine iff_of_true ⟨_, content_eq, Nat.le_refl _⟩ fun hbreak => ne_nil ?_
      exact Except.ok.inj (content_eq.symm.trans (hempty hbreak))
  | nextLine line_eq isLine =>
      refine iff_of_true (isDenotable_lineStart isLine) ?_
      rcases line_eq with heq | heq <;> rw [heq] <;> decide
  | insideBreak line_eq =>
      refine iff_of_false ?_ fun hno => hno line_eq
      rintro ⟨content, hcontent, hle⟩
      obtain rfl := Except.ok.inj ((hempty line_eq).symm.trans hcontent)
      cases hle
  | endOfText line_eq =>
      refine iff_of_true (isDenotable_lineStart hl) ?_
      rw [line_eq]
      decide

end LineIndex

/-- The range of a section starts where its first line does. -/
theorem Section.exists_range_stop {s : Section} {index : LineIndex}
    (hsize : index.length < UInt32.size) (hs : s.Fits index) :
    ∃ stop, index.rangeOf (s.interval index) = .ok ⟨⟨s.start, 0⟩, stop⟩ ∧
      index.LeadsBack ⟨s.start, 0⟩ ∧ index.StopsAt s.stop stop ∧
        (index.IsDenotable stop ↔ index.LeadsBack stop) := by
  have hl := Nat.lt_of_le_of_lt hs.start_le_stop hs.stop_lt_height
  obtain ⟨content, o, hcontent, _, hstop, hfirst, hlast, _⟩ := exists_interval hsize hs
  have hlsp := LineIndex.toLsp_startOf hsize hl
  rw [hstop] at hlast
  obtain ⟨stop, hto, hstops⟩ := LineIndex.exists_stopsAt hsize hs.stop_lt_height hcontent hlast
  exact ⟨stop, LineIndex.rangeOf_eq_ok_iff.2 ⟨_, o, hfirst, hstop ▸ hlast, hlsp, hto⟩,
    (LineIndex.isDenotable_iff_leadsBack hsize hlsp).1 (LineIndex.isDenotable_lineStart hl), hstops,
    LineIndex.isDenotable_iff_leadsBack hsize hto⟩

/-- In a text of less than 4 GiB the client range of a section starts at a position that a client
can name and that leads back to itself, and so it stops unless the last line of the section is empty
and has a break of two characters: then it stops between the two. -/
theorem Segmenter.rangeOf_interval_isDenotable_iff (segmenter : Segmenter) (index : LineIndex)
    (hsize : index.length < UInt32.size) (s : Section) (hs : s ∈ segmenter.segment index) :
    ∃ r, index.rangeOf (s.interval index) = .ok r ∧
      index.IsDenotable r.start ∧ index.LeadsBack r.start ∧
        (index.IsDenotable r.stop ↔ index.line s.stop ≠ .ok "\r\n") ∧
          (index.LeadsBack r.stop ↔ index.line s.stop ≠ .ok "\r\n") ∧
            index.StopsAt s.stop r.stop := by
  have hfits := segmenter.fits_segment index s hs
  have hl := Nat.lt_of_le_of_lt hfits.start_le_stop hfits.stop_lt_height
  obtain ⟨stop, hr, hback, hstops, hiff⟩ := Section.exists_range_stop hsize hfits
  have hdenotable := hstops.isDenotable_iff hfits.stop_lt_height
  exact ⟨_, hr, LineIndex.isDenotable_lineStart hl, hback, hdenotable, hiff.symm.trans hdenotable,
    hstops⟩

/-- The last line of the section is empty and ends in a line feed. -/
theorem Segmenter.rangeOf_interval_isDenotable_iff_lineFeed :
    (LineIndex.ofText "###Query\r\n\n").length < UInt32.size ∧
      ⟨"Query", 0, 1, some 0⟩ ∈ (default : Segmenter).segment (.ofText "###Query\r\n\n") ∧
      (LineIndex.ofText "###Query\r\n\n").line 1 = .ok "\n" ∧
        ∃ r, (LineIndex.ofText "###Query\r\n\n").rangeOf
            (Section.interval ⟨"Query", 0, 1, some 0⟩ (.ofText "###Query\r\n\n")) = .ok r ∧
          (LineIndex.ofText "###Query\r\n\n").IsDenotable r.stop ∧
            (LineIndex.ofText "###Query\r\n\n").LeadsBack r.stop := by
  have hsize : (LineIndex.ofText "###Query\r\n\n").length < UInt32.size := by decide +kernel
  have hs : ⟨"Query", 0, 1, some 0⟩ ∈
      (default : Segmenter).segment (.ofText "###Query\r\n\n") := by decide +kernel
  have hline : (LineIndex.ofText "###Query\r\n\n").line 1 = .ok "\n" := by decide +kernel
  obtain ⟨r, hr, _, _, hdenotable, hback, _⟩ :=
    rangeOf_interval_isDenotable_iff default _ hsize _ hs
  have hother : (LineIndex.ofText "###Query\r\n\n").line 1 ≠ .ok "\r\n" := by
    rw [hline]
    decide
  exact ⟨hsize, hs, hline, r, hr, hdenotable.2 hother, hback.2 hother⟩

/-- The only section of the text ends for a client between the two characters of the break. No
client can name this place, and going there it arrives at the start of the line. -/
theorem Segmenter.range_stops_inside_break :
    (default : Segmenter).segment (.ofText "\r\n") = [⟨"Pure", 0, 0, none⟩] ∧
      (LineIndex.ofText "\r\n").rangeOf (Section.interval ⟨"Pure", 0, 0, none⟩ (.ofText "\r\n")) =
        .ok ⟨⟨0, 0⟩, ⟨0, 1⟩⟩ ∧
      ¬(LineIndex.ofText "\r\n").IsDenotable ⟨0, 1⟩ ∧
      ¬(LineIndex.ofText "\r\n").LeadsBack ⟨0, 1⟩ := by
  have hcontent : (LineIndex.ofText "\r\n").contentChars 0 = .ok [] := by decide +kernel
  have hback : (LineIndex.ofText "\r\n").ofLsp? ⟨0, 1⟩ = some 0 := by decide +kernel
  refine ⟨by decide +kernel, by decide +kernel, ?_, ?_⟩
  · rintro ⟨content, hcontent', hle⟩
    obtain rfl := Except.ok.inj (hcontent.symm.trans hcontent')
    cases hle
  · rintro ⟨o, ho, hto⟩
    obtain rfl := Option.some.inj (hback.symm.trans ho)
    have hstart : (LineIndex.ofText "\r\n").toLsp 0 = .ok ⟨0, 0⟩ := by decide +kernel
    cases hstart.symm.trans hto

end Polyglot
