import Polyglot.Proofs.LineIndex.IntervalText
import Polyglot.Proofs.Section.ClientRange

/-!
# What the interval of a section holds

The interval of a section holds every position on its lines but those behind the last character of
its last line (`Section.contains_interval_iff`). In a text of less than 4 GiB it has a text. If the
last line has content, this is the text of the section up to the break at its end
(`Section.exists_intervalText`).
-/

set_option autoImplicit false

namespace Polyglot

open Text (byteSize widthAt isBoundary)

/-- The second text is the first one without the break at its end, if there is one. -/
def IsUpToBreak (text initial : String) : Prop :=
  ∃ ending : String, text = initial ++ ending ∧ (ending = "" ∨ IsLineBreak ending.toList) ∧
    ∀ c, initial.toList.getLast? = some c → Text.isBreak c = false

/-- A prefix of a content ends at its last character or before it, unless it is the whole. -/
theorem Section.byteSize_le_lastCharColumn_iff {q content : List Char}
    (hsize : byteSize content < UInt32.size) (hq : q <+: content) :
    byteSize q ≤ lastCharColumn content ↔ byteSize q < byteSize content ∨ content = [] := by
  rcases List.eq_nil_or_concat content with rfl | ⟨cs, c, rfl⟩
  · obtain rfl := List.prefix_nil.1 hq
    simp [byteSize]
  · have hc := c.utf8Size_pos
    rw [List.concat_eq_append] at hq hsize ⊢
    have hcontent : byteSize (cs ++ [c]) = byteSize cs + c.utf8Size := by
      rw [Text.byteSize_append, byteSize, byteSize, Nat.add_zero]
    rw [hcontent] at hsize ⊢
    rw [lastCharColumn, List.dropLast_concat, lowWord_of_lt (by omega)]
    rcases List.prefix_concat_iff.1 hq with rfl | hproper
    · rw [hcontent]
      simp
      omega
    · have := Text.byteSize_le_of_isPrefix hproper
      simp
      omega

namespace LineIndex

variable {index : LineIndex} {a b first last : Nat} {t : String}

/-- A slice is what is between its two offsets. -/
theorem IsSlice.toList_eq (h : index.IsSlice a b t) : t.toList = Text.slice a b index.chars := by
  obtain ⟨before, after, hchars, rfl, rfl⟩ := h
  rw [hchars, Text.slice_of_append]

/-- Lines of a text are their upper lines, the content of the last one and its break; the first two
of these three are a slice of the text. -/
theorem exists_lineChars_ending (hle : first ≤ last) (hlast : last < index.height) :
    ∃ upper content ending, index.lineChars first last = .ok (upper ++ content ++ ending) ∧
      index.contentChars last = .ok content ∧ IsUnbroken content ∧
      (ending = [] ∨ IsLineBreak ending) ∧
      Text.slice (index.startOf first) (index.startOf last + byteSize content) index.chars =
        upper ++ content := by
  obtain ⟨content, ending, hline, hcontent, hunbroken, hcases⟩ := index.exists_break hlast
  have hlength := index.height_eq_length
  have hrun : (index.lineList.take (last + 1)).drop first =
      (index.lineList.take last).drop first ++ [content ++ ending] := by
    rw [List.take_add_one, hline, Option.toList_some, List.drop_append_of_le_length]
    rw [List.length_take]
    omega
  have hupper : (index.lineList.take first).flatten ++
      ((index.lineList.take last).drop first).flatten = (index.lineList.take last).flatten := by
    have hsplit := List.take_append_drop first (index.lineList.take last)
    rw [List.take_take, Nat.min_eq_left hle] at hsplit
    rw [← List.flatten_append, hsplit]
  have hwhole : index.chars = (index.lineList.take first).flatten ++
      (((index.lineList.take last).drop first).flatten ++ content) ++
        (ending ++ (index.lineList.drop (last + 1)).flatten) := by
    have hsplit := congrArg List.flatten (List.take_append_drop (last + 1) index.lineList)
    rw [flatten_lineList, List.take_add_one, hline] at hsplit
    rw [← hsplit, List.flatten_append, List.flatten_append, ← hupper]
    simp
  have hstop : index.startOf last + byteSize content =
      byteSize ((index.lineList.take first).flatten ++
      (((index.lineList.take last).drop first).flatten ++ content)) := by
    rw [← List.append_assoc, hupper, Text.byteSize_append, startOf]
  refine ⟨((index.lineList.take last).drop first).flatten, content, ending, ?_, hcontent, hunbroken,
    hcases.symm.imp And.right And.right, ?_⟩
  · rw [index.lineChars_eq hle hlast, hrun]
    simp
  · rw [hstop, startOf, hwhole, Text.slice_of_append]

end LineIndex

namespace Section

variable {s : Section} {index : LineIndex} {p : Position} {content : List Char}

/-- The interval of a section holds the positions on its lines, up to where it stops on the last. -/
theorem contains_interval_iff (hs : s.Fits index)
    (hcontent : index.contentChars s.stop = .ok content) :
    (s.interval index).contains p = true ↔ s.start ≤ p.line ∧
      (p.line < s.stop ∨ p.line = s.stop ∧ p.column ≤ lastCharColumn content) := by
  obtain ⟨hstart, hstop⟩ := interval_ends hs hcontent
  rw [Interval.contains, Bool.and_eq_true, decide_eq_true_eq, decide_eq_true_eq, hstart, hstop,
    Position.le_iff, Position.le_iff]
  simp only
  omega

/-- The interval of a section has a text, which is that of the section up to the break at its end if
the last line has content. -/
theorem exists_intervalText (hsize : index.length < UInt32.size) (hs : s.Fits index) :
    ∃ t, index.intervalText (s.interval index) = .ok t ∧
    ∀ content, index.contentChars s.stop = .ok content → content ≠ [] →
      ∃ text, index.lines s.start s.stop = .ok text ∧ IsUpToBreak text t := by
  obtain ⟨content, o, hcontent, _, hstop, hfirst, hlast, hboundary, _⟩ := exists_interval hsize hs
  obtain ⟨t, htext, hreads⟩ :=
    LineIndex.exists_reads hfirst hlast (LineIndex.isBoundary_startOf s.start) hboundary
  refine ⟨t, htext, fun content' hcontent' hne => ?_⟩
  obtain rfl := Except.ok.inj (hcontent.symm.trans hcontent')
  obtain ⟨upper, content', ending, hchars, hcontent', hunbroken, hending, hslice⟩ :=
    index.exists_lineChars_ending hs.start_le_stop hs.stop_lt_height
  obtain rfl := Except.ok.inj (hcontent.symm.trans hcontent')
  rw [hstop] at hlast
  have ht := hreads.isSlice.toList_eq
  rw [LineIndex.add_widthAt_lastChar hsize hs.stop_lt_height hcontent hne hlast, hslice] at ht
  refine ⟨t ++ String.ofList ending, ?_, String.ofList ending, rfl, ?_, fun c hc => ?_⟩
  · rw [LineIndex.lines, hchars, ← ht, Except.map, String.ofList_append, String.ofList_toList]
  · rwa [String.toList_ofList, String.ofList_eq_empty_iff]
  · rw [ht, List.getLast?_append_of_ne_nil _ hne] at hc
    exact hunbroken c (List.mem_of_getLast? hc)

end Section

end Polyglot
