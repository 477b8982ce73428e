import Polyglot.Lsp.Diagnostics
import Polyglot.Proofs.LineIndex.Ranges
import Polyglot.Proofs.Lsp.Nesting

/-!
# Diagnostics that fit a text

Handlers may answer about another source or from an earlier text. A diagnostic fits a document if it
is about its source and both ends of its interval are in the text, on or between characters. What a
client gets for a list of diagnostics are the ones that fit, in their order, and no range it gets is
reversed or leaves the text (`diagnosticItems_are_fitting`).
-/

set_option autoImplicit false

namespace Polyglot

namespace LineIndex

open Text

variable {index : LineIndex} {o : Nat} {p : Position} {i : Interval} {r : Lsp.Range}

/-- The position is in the text: its line is, and has as many bytes, those of its break included. -/
def HasPosition (index : LineIndex) (p : Position) : Prop :=
  p.line < index.height ∧
    ∃ line, index.lineChars p.line p.line = .ok line ∧ p.column ≤ byteSize line

instance (index : LineIndex) (p : Position) : Decidable (index.HasPosition p) :=
  match h : index.lineChars p.line p.line with
  | .ok line => decidable_of_iff (p.line < index.height ∧ p.column ≤ byteSize line)
      (by simp [HasPosition, h])
  | .error _ => isFalse (by simp [HasPosition, h])

/-- The client position is in the text: its line is, and has as many units, those of its break
included. -/
def HasClientPosition (index : LineIndex) (p : Lsp.Position) : Prop :=
  p.line < index.height ∧
    ∃ line, index.lineChars p.line p.line = .ok line ∧ p.character ≤ unitSize line

/-- A position is in the text exactly if it has an offset. -/
theorem hasPosition_iff : index.HasPosition p ↔ ∃ o, index.offsetOf p = .ok o := by
  simp only [HasPosition, offsetOf_eq_ok_iff]
  constructor
  · rintro ⟨hl, line, hline, hcolumn⟩
    obtain ⟨line', hline'⟩ := index.exists_line hl
    obtain rfl := Except.ok.inj (hline.symm.trans (index.lineChars_self hline'))
    exact ⟨_, hl, by rw [index.startOf_succ hline']; omega, rfl⟩
  · rintro ⟨_, hl, hfits, _⟩
    obtain ⟨line, hline⟩ := index.exists_line hl
    rw [index.startOf_succ hline] at hfits
    exact ⟨hl, line, index.lineChars_self hline, by omega⟩

/-- Both ends of an interval have to be in the text, but may be inside a character. -/
theorem exists_rangeOf_iff :
    (∃ r, index.rangeOf i = .ok r) ↔ index.HasPosition i.start ∧ index.HasPosition i.stop := by
  rw [hasPosition_iff, hasPosition_iff]
  constructor
  · rintro ⟨r, hr⟩
    obtain ⟨a, b, ha, hb, _⟩ := rangeOf_eq_ok_iff.1 hr
    exact ⟨⟨a, ha⟩, ⟨b, hb⟩⟩
  · rintro ⟨⟨a, ha⟩, ⟨b, hb⟩⟩
    exact exists_rangeOf ha hb

/-- What a client is told of an offset does not leave the text. -/
theorem hasClientPosition_of_toLsp {q : Lsp.Position} (hsize : index.length < UInt32.size)
    (h : index.toLsp o = .ok q) :
    index.HasClientPosition q := by
  obtain ⟨_, hlies, line, hline, hunits⟩ := exists_of_toLsp hsize h
  refine ⟨hlies.lt_height, line, index.lineChars_self hline, ?_⟩
  rw [hunits, unitsBeforeByte_eq]
  exact unitSize_le_of_isPrefix (covering_isPrefix _ _ line)

/-- A client can take the range: it is not reversed, it does not leave the text, and its numbers are
of 32 bits. -/
structure IsClientRange (index : LineIndex) (r : Lsp.Range) : Prop where
  start_le_stop : r.start ≤ r.stop
  hasStart : index.HasClientPosition r.start
  hasStop : index.HasClientPosition r.stop
  start_fits : r.start.line < UInt32.size ∧ r.start.character < UInt32.size
  stop_fits : r.stop.line < UInt32.size ∧ r.stop.character < UInt32.size

/-- A client can take the range of every interval that has one. -/
theorem isClientRange_of_rangeOf (hsize : index.length < UInt32.size)
    (h : index.rangeOf i = .ok r) : index.IsClientRange r := by
  obtain ⟨a, b, _, _, hfirst, hlast⟩ := rangeOf_eq_ok_iff.1 h
  have hstart := character_le_length hsize hfirst
  have hstop := character_le_length hsize hlast
  exact ⟨start_le_stop_of_rangeOf hsize h, hasClientPosition_of_toLsp hsize hfirst,
    hasClientPosition_of_toLsp hsize hlast, ⟨by omega, by omega⟩, ⟨by omega, by omega⟩⟩

end LineIndex

namespace Lsp

variable {index : LineIndex} {id : String} {d : Diagnostic} {item : DiagnosticItem}

/-- The diagnostic is about the source, and both ends of its interval are in the text. -/
def Fits (id : String) (index : LineIndex) (d : Diagnostic) : Prop :=
  d.location.source = id ∧ index.HasPosition d.location.interval.start ∧
    index.HasPosition d.location.interval.stop

instance (id : String) (index : LineIndex) (d : Diagnostic) : Decidable (Fits id index d) :=
  inferInstanceAs (Decidable (_ ∧ _ ∧ _))

/-- The item tells what the diagnostic does, at the range of its interval. -/
def Tells (index : LineIndex) (d : Diagnostic) (item : DiagnosticItem) : Prop :=
  index.rangeOf d.location.interval = .ok item.range ∧ item.severity = d.severity ∧
    item.stage = d.stage ∧ item.message = d.message

/-- A diagnostic that fits is kept. -/
theorem ofDiagnostic?_of_fits (h : Fits id index d) :
    ∃ item, DiagnosticItem.ofDiagnostic? id index d = some item ∧ Tells index d item := by
  obtain ⟨hsource, hstart, hstop⟩ := h
  obtain ⟨r, hr⟩ := LineIndex.exists_rangeOf_iff.2 ⟨hstart, hstop⟩
  refine ⟨⟨r, d.severity, d.stage, d.message⟩, ?_, hr, rfl, rfl, rfl⟩
  simp only [DiagnosticItem.ofDiagnostic?, if_pos hsource, hr]

/-- A diagnostic that does not fit is left out. -/
theorem ofDiagnostic?_of_not_fits (h : ¬Fits id index d) :
    DiagnosticItem.ofDiagnostic? id index d = none := by
  unfold DiagnosticItem.ofDiagnostic?
  split
  · rename_i hsource
    cases hr : index.rangeOf d.location.interval with
    | error e => rfl
    | ok r => exact absurd ⟨hsource, LineIndex.exists_rangeOf_iff.1 ⟨r, hr⟩⟩ h
  · rfl

/-- What is kept are the diagnostics that fit, in their order. -/
theorem forall₂_diagnosticItems (diagnostics : List Diagnostic) (id : String)
    (index : LineIndex) : List.Forall₂ (Tells index) (diagnostics.filter (Fits id index))
      (diagnosticItems diagnostics id index) := by
  have hkept : diagnosticItems diagnostics id index =
      (diagnostics.filter (Fits id index)).filterMap (DiagnosticItem.ofDiagnostic? id index) := by
    rw [diagnosticItems, List.filterMap_filter]
    refine List.filterMap_congr fun d _ => ?_
    by_cases h : Fits id index d
    · simp [h]
    · simp [h, ofDiagnostic?_of_not_fits h]
  rw [hkept]
  refine forall₂_filterMap fun d hd => ofDiagnostic?_of_fits ?_
  simpa using (List.mem_filter.1 hd).2

/-- Every range that a client gets is one it can take. -/
theorem isClientRange_of_mem {diagnostics : List Diagnostic} (hsize : index.length < UInt32.size)
    (hitem : item ∈ diagnosticItems diagnostics id index) : index.IsClientRange item.range := by
  obtain ⟨d, _, hd⟩ := List.mem_filterMap.1 hitem
  by_cases hfits : Fits id index d
  · obtain ⟨item', hitem', hrange, _⟩ := ofDiagnostic?_of_fits hfits
    obtain rfl := Option.some.inj (hd.symm.trans hitem')
    exact LineIndex.isClientRange_of_rangeOf hsize hrange
  · cases (ofDiagnostic?_of_not_fits hfits).symm.trans hd

/-- A client gets exactly the diagnostics that fit, in their order, and tells of each what the
handler does. The range of none is reversed, and each ends on lines of the text, no further than
their breaks. -/
theorem diagnosticItems_are_fitting (diagnostics : List Diagnostic) (id : String)
    (index : LineIndex) (hsize : index.length < UInt32.size) :
    List.Forall₂ (Tells index) (diagnostics.filter (Fits id index))
        (diagnosticItems diagnostics id index) ∧
      ∀ item ∈ diagnosticItems diagnostics id index, index.IsClientRange item.range :=
  ⟨forall₂_diagnosticItems diagnostics id index, fun _ => isClientRange_of_mem hsize⟩

/-- Diagnostics as a handler may give them: one about another source, one from an earlier text, and
one that ends inside a character. -/
def strays : List Diagnostic :=
  [⟨⟨"elsewhere", ⟨⟨0, 0⟩, ⟨0, 0⟩, by decide⟩⟩, .error, "far", .parser⟩,
    ⟨⟨"notes", ⟨⟨0, 0⟩, ⟨1, 2⟩, by decide⟩⟩, .warning, "stale", .parser⟩,
    ⟨⟨"notes", ⟨⟨0, 0⟩, ⟨0, 1⟩, by decide⟩⟩, .hint, "accent", .compiler⟩]

/-- Only the last one is kept, up to the end of the character. -/
theorem diagnosticItems_are_fitting_strays :
    (LineIndex.ofText "é\r\nb").length < UInt32.size ∧
      ∃ range, diagnosticItems strays "notes" (.ofText "é\r\nb") =
          [⟨range, .hint, .compiler, "accent"⟩] ∧
        (LineIndex.ofText "é\r\nb").IsClientRange range := by
  have hsize : (LineIndex.ofText "é\r\nb").length < UInt32.size := by decide
  obtain ⟨_, hranges⟩ := diagnosticItems_are_fitting strays "notes" _ hsize
  have hitems : diagnosticItems strays "notes" (.ofText "é\r\nb") =
      [⟨⟨⟨0, 0⟩, ⟨0, 1⟩⟩, .hint, .compiler, "accent"⟩] := by decide +kernel
  exact ⟨hsize, _, hitems, hranges _ (by rw [hitems]; exact List.mem_singleton_self _)⟩

end Lsp

end Polyglot
