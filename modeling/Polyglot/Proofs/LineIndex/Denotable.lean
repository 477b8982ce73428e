import Polyglot.Proofs.LineIndex.Contents

/-!
# Positions that a client can name

A client counts the units of a line's content and goes on to the next line; it has no name for a
place inside a break (`IsDenotable`). In a text of less than 4 GiB what the index tells a client is
such a name exactly if it leads back to itself (`isDenotable_iff_leadsBack`).
-/

set_option autoImplicit false

namespace Polyglot

namespace LineIndex

open Text

variable {index : LineIndex} {l o : Nat} {p : Lsp.Position} {q line content ending : List Char}

/-- The line of the position is in the text, and its column is no more than the width of the line
without its break. -/
def IsDenotable (index : LineIndex) (p : Lsp.Position) : Prop :=
  ∃ content, index.contentChars p.line = .ok content ∧ p.character ≤ unitSize content

/-- The position goes to an offset that goes back to the position. -/
def LeadsBack (index : LineIndex) (p : Lsp.Position) : Prop :=
  ∃ o, index.ofLsp? p = some o ∧ index.toLsp o = .ok p

/-- A client can name the start of each line. -/
theorem isDenotable_lineStart (hl : l < index.height) : index.IsDenotable ⟨l, 0⟩ := by
  obtain ⟨content, _, _, hcontent, _⟩ := index.exists_content hl
  exact ⟨content, hcontent, Nat.zero_le _⟩

section Fitting

variable (hsize : index.length < UInt32.size)
include hsize

/-- The end of a prefix of the content is told in the units of the prefix. -/
theorem toLsp_of_isPrefix (hl : l < index.height)
    (hline : index.lineList[l]? = some (content ++ ending))
    (hending : l + 1 < index.height → ending ≠ []) (hq : q <+: content) :
    index.toLsp (index.startOf l + byteSize q) = .ok ⟨l, unitSize q⟩ := by
  have hn := byteSize_le_of_isPrefix hq
  rw [toLsp_eq hsize (startOf_add_le_length hline hn) (liesOn_of_le_content hl hline hending hn)
    hline, Nat.add_sub_cancel_left, unitsBeforeByte_eq,
    covering_byteSize (hq.trans (List.prefix_append content ending))]

/-- The start of a line is column zero for a client, too. -/
theorem toLsp_startOf (hl : l < index.height) :
    index.toLsp (index.startOf l) = .ok ⟨l, 0⟩ := by
  obtain ⟨content, ending, hline, _, hending⟩ := index.exists_content hl
  exact toLsp_of_isPrefix hsize hl hline hending List.nil_prefix

/-- The positions that lead back to themselves are the ends of prefixes of contents. -/
theorem leadsBack_iff : index.LeadsBack p ↔ ∃ content q, index.contentChars p.line = .ok content ∧
    q <+: content ∧ unitSize q = p.character := by
  constructor
  · rintro ⟨o, ho, hback⟩
    obtain ⟨hl, _⟩ := exists_of_ofLsp? hsize ho
    obtain ⟨content, ending, hline, hcontent, hending⟩ := index.exists_content hl
    obtain rfl := Option.some.inj ((ofLsp?_eq hsize hl hcontent p.character).symm.trans ho)
    have hunits := congrArg Lsp.Position.character
      (Except.ok.inj ((toLsp_of_ofLsp hsize hl hline hending p.character).symm.trans hback))
    exact ⟨content, _, hcontent, covering_isPrefix _ _ _, hunits⟩
  · rintro ⟨content, q, hcontent, hq, hunits⟩
    have hl := index.lt_height_of_contentChars hcontent
    obtain ⟨content', ending, hline, hcontent', hending⟩ := index.exists_content hl
    obtain rfl := Except.ok.inj (hcontent.symm.trans hcontent')
    refine ⟨_, ofLsp?_eq hsize hl hcontent p.character, ?_⟩
    rw [toLsp_of_ofLsp hsize hl hline hending, ← hunits, covering_unitSize hq, hunits]

/-- What a client is told of an offset leads back to itself unless it is inside a break. -/
theorem isDenotable_iff_leadsBack (h : index.toLsp o = .ok p) :
    index.IsDenotable p ↔ index.LeadsBack p := by
  obtain ⟨_, hlies, line, hline, hunits⟩ := exists_of_toLsp hsize h
  obtain ⟨content, ending, hline', hcontent, _⟩ := index.exists_content hlies.lt_height
  obtain rfl := Option.some.inj (hline.symm.trans hline')
  rw [unitsBeforeByte_eq] at hunits
  rw [leadsBack_iff hsize]
  constructor
  · rintro ⟨content', hcontent', hle⟩
    obtain rfl := Except.ok.inj (hcontent.symm.trans hcontent')
    rw [hunits, unitSize_eq_total, unitSize_eq_total] at hle
    exact ⟨content, _, hcontent,
      isPrefix_of_total_le unitWidth_pos (covering_isPrefix Char.utf8Size _ _) hle, hunits.symm⟩
  · rintro ⟨content', q, hcontent', hq, hunits'⟩
    exact ⟨content', hcontent', hunits' ▸ unitSize_le_of_isPrefix hq⟩

end Fitting

end LineIndex

end Polyglot
