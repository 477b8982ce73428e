import Polyglot.Lsp.Navigation
import Polyglot.Proofs.Lsp.Fitting
import Polyglot.Workspace.Edit

/-!
# Places of locations

A location whose source is a URI has a place for clients unless its document is open and the
interval is not in its text. In an open document with a text of less than 4 GiB the range is not
reversed, as the conversion keeps the order. In a document that is not open the range is the
interval as it is, up to the column behind its last one. There is no word of 32 bits for the column
behind the greatest one: a range that would stop there stops at column zero, and it is reversed
unless it ends on a later line than it starts or starts at column zero as well
(`locationOf?_isOrdered_iff`).
-/

set_option autoImplicit false

namespace Polyglot.Lsp

variable {w : Workspace} {l : Polyglot.Location} {i : Interval} {uri : Uri} {d : Document}

/-- The numbers of the interval are words of 32 bits. -/
structure HasWords (i : Interval) : Prop where
  start_fits : i.start.line < UInt32.size ∧ i.start.column < UInt32.size
  stop_fits : i.stop.line < UInt32.size ∧ i.stop.column < UInt32.size

/-- In an open document the place is the range of the interval in its text. -/
theorem locationOf?_of_open (huri : Uri.parse? l.source = some uri)
    (hopen : w.document? l.source = some d) :
    locationOf? w l = (d.index.rangeOf l.interval).toOption.map fun r => ⟨uri.text, r⟩ := by
  simp only [locationOf?, huri, hopen, Option.bind_eq_bind, Option.bind_some]
  cases (d.index.rangeOf l.interval).toOption <;> rfl

/-- In a document that is not open the place is the interval taken over. -/
theorem locationOf?_of_closed (huri : Uri.parse? l.source = some uri)
    (hclosed : w.document? l.source = none) :
    locationOf? w l = some ⟨uri.text, rawRange l.interval⟩ := by
  simp only [locationOf?, huri, hclosed]
  rfl

/-- A location has no place only if its document is open and the interval is not in the text. -/
theorem locationOf?_eq_none_iff (huri : Uri.parse? l.source = some uri) :
    locationOf? w l = none ↔ ∃ d, w.document? l.source = some d ∧
      ¬(d.index.HasPosition l.interval.start ∧ d.index.HasPosition l.interval.stop) := by
  cases hdocument : w.document? l.source with
  | none => simp [locationOf?_of_closed huri hdocument]
  | some d =>
      simp only [locationOf?_of_open huri hdocument, Option.some.injEq, exists_eq_left',
        ← LineIndex.exists_rangeOf_iff]
      cases d.index.rangeOf l.interval <;> simp [Except.toOption]

/-- Below the greatest column the range stops behind the last one. -/
theorem rawRange_of_lt (h : i.stop.column + 1 < UInt32.size) :
    rawRange i =
      ⟨⟨i.start.line, i.start.column⟩, ⟨i.stop.line, i.stop.column + 1⟩⟩ := by
  rw [rawRange, lowWord_of_lt h]

/-- There is no word for the column behind the greatest one. -/
theorem rawRange_of_eq (h : i.stop.column + 1 = UInt32.size) :
    rawRange i = ⟨⟨i.start.line, i.start.column⟩, ⟨i.stop.line, 0⟩⟩ := by
  rw [rawRange, h, lowWord_size]

/-- The range stops behind the last column unless there is no word for that. -/
theorem stop_rawRange_iff (hwords : HasWords i) :
    (rawRange i).stop = ⟨i.stop.line, i.stop.column + 1⟩ ↔ i.stop.column + 1 < UInt32.size := by
  rcases Nat.lt_or_eq_of_le (Nat.succ_le_of_lt hwords.stop_fits.2) with hlt | heq
  · rw [rawRange_of_lt hlt]
    exact iff_of_true rfl hlt
  · rw [rawRange_of_eq heq]
    refine iff_of_false (fun h => ?_) (Nat.not_lt.2 heq.ge)
    exact Nat.succ_ne_zero _ (congrArg Position.character h).symm

/-- A range that stops at column zero instead is reversed, but for two cases. -/
theorem start_le_stop_rawRange_iff (hwords : HasWords i) :
    (rawRange i).start ≤ (rawRange i).stop ↔ i.stop.column + 1 < UInt32.size ∨
      i.start.line < i.stop.line ∨ i.start.column = 0 := by
  have hordered := Polyglot.Position.le_iff.1 i.start_le_stop
  rw [Position.le_iff]
  rcases Nat.lt_or_eq_of_le (Nat.succ_le_of_lt hwords.stop_fits.2) with hlt | heq
  · rw [rawRange_of_lt hlt]
    refine iff_of_true ?_ (Or.inl hlt)
    simp only
    omega
  · rw [rawRange_of_eq heq]
    simp only
    omega

/-- In an open document a location is placed by its text. -/
theorem rangeOf_of_locationOf? {place : Location} (huri : Uri.parse? l.source = some uri)
    (hopen : w.document? l.source = some d) (hplace : locationOf? w l = some place) :
    place.uri = uri.text ∧ d.index.rangeOf l.interval = .ok place.range := by
  rw [locationOf?_of_open huri hopen] at hplace
  obtain ⟨r, hr, rfl⟩ := Option.map_eq_some_iff.1 hplace
  refine ⟨rfl, ?_⟩
  cases hrange : d.index.rangeOf l.interval with
  | ok r' =>
      rw [hrange] at hr
      rw [Option.some.inj hr]
  | error reason =>
      rw [hrange] at hr
      cases hr

/-- A location whose source is a URI has no place exactly if its document is open and the interval
is not in the text. In an open document it has the range of its interval. If the text is smaller
than 4 GiB, this is not reversed, and its numbers are words of 32 bits. In any other document it
starts where the interval does, and it stops behind the last column exactly if that is not the
greatest one. Otherwise it is reversed, unless the interval ends on a later line or starts at column
zero. -/
theorem locationOf?_isOrdered_iff (huri : Uri.parse? l.source = some uri)
    (hwords : HasWords l.interval) :
    (locationOf? w l = none ↔ ∃ d, w.document? l.source = some d ∧
      ¬(d.index.HasPosition l.interval.start ∧ d.index.HasPosition l.interval.stop)) ∧
    ∀ place, locationOf? w l = some place → place.uri = uri.text ∧
      (∀ d, w.document? l.source = some d → d.index.rangeOf l.interval = .ok place.range ∧
        (d.index.length < UInt32.size →
          place.range.start ≤ place.range.stop ∧ d.index.IsClientRange place.range)) ∧
      (w.document? l.source = none →
        place.range.start = ⟨l.interval.start.line, l.interval.start.column⟩ ∧
        (place.range.stop = ⟨l.interval.stop.line, l.interval.stop.column + 1⟩ ↔
          l.interval.stop.column + 1 < UInt32.size) ∧
        (place.range.start ≤ place.range.stop ↔ l.interval.stop.column + 1 < UInt32.size ∨
          l.interval.start.line < l.interval.stop.line ∨ l.interval.start.column = 0)) := by
  refine ⟨locationOf?_eq_none_iff huri, fun place hplace => ?_⟩
  cases hdocument : w.document? l.source with
  | some d =>
      obtain ⟨huri', hrange⟩ := rangeOf_of_locationOf? huri hdocument hplace
      refine ⟨huri', fun d' hd' => ?_, nofun⟩
      obtain rfl := Option.some.inj hd'
      exact ⟨hrange, fun hsize => ⟨LineIndex.start_le_stop_of_rangeOf hsize hrange,
        LineIndex.isClientRange_of_rangeOf hsize hrange⟩⟩
  | none =>
      rw [locationOf?_of_closed huri hdocument] at hplace
      obtain rfl := Option.some.inj hplace
      exact ⟨rfl, nofun, fun _ => ⟨rfl, stop_rawRange_iff hwords,
        start_le_stop_rawRange_iff hwords⟩⟩

/-- A workspace with one document. -/
def notes : Workspace :=
  (Workspace.empty .empty default).openText "file:///notes" "é😀\n"

/-- A location in the document that starts at its beginning. -/
def inNotes (stop : Polyglot.Position) (h : ⟨0, 0⟩ ≤ stop) : Polyglot.Location :=
  ⟨"file:///notes", ⟨⟨0, 0⟩, stop, h⟩⟩

/-- A location of one line in another document. -/
def elsewhere (column : Nat) (h : 5 ≤ column) : Polyglot.Location :=
  ⟨"file:///else", ⟨⟨0, 5⟩, ⟨0, column⟩, Or.inr ⟨rfl, h⟩⟩⟩

/-- A location ends on the first byte of a character, another one leaves the text, and one in
another document ends in the last column but one. -/
theorem locationOf?_isOrdered_iff_openAndClosed :
    (∃ place, locationOf? notes (inNotes ⟨0, 2⟩ (by decide)) = some place ∧
      place.range.start ≤ place.range.stop) ∧
    locationOf? notes (inNotes ⟨2, 0⟩ (by decide)) = none ∧
    ∃ place, locationOf? notes (elsewhere 4294967294 (by decide)) = some place ∧
      place.range.stop = ⟨0, 4294967295⟩ ∧ place.range.start ≤ place.range.stop := by
  have huri : (Uri.parse? "file:///notes").isSome = true := by decide +kernel
  have helse : (Uri.parse? "file:///else").isSome = true := by decide +kernel
  obtain ⟨uri, huri⟩ := Option.isSome_iff_exists.1 huri
  obtain ⟨otherUri, helse⟩ := Option.isSome_iff_exists.1 helse
  have hopen : (notes.document? "file:///notes").map Document.index = some (.ofText "é😀\n") := by
    decide +kernel
  obtain ⟨d, hd, hindex⟩ := Option.map_eq_some_iff.1 hopen
  have hclosed : notes.document? "file:///else" = none :=
    Option.isNone_iff_eq_none.1 (by decide +kernel)
  refine ⟨?_, ?_, ?_⟩
  · have hplace : locationOf? notes (inNotes ⟨0, 2⟩ (by decide)) =
        some ⟨"file:///notes", ⟨⟨0, 0⟩, ⟨0, 3⟩⟩⟩ := by decide +kernel
    have hplaces := (locationOf?_isOrdered_iff (w := notes) (l := inNotes ⟨0, 2⟩ (by decide)) huri
      ⟨⟨by decide, by decide⟩, by decide, by decide⟩).2
    have hsize : d.index.length < UInt32.size := hindex ▸ by decide +kernel
    exact ⟨_, hplace, (((hplaces _ hplace).2.1 d hd).2 hsize).1⟩
  · refine (locationOf?_isOrdered_iff (w := notes) (l := inNotes ⟨2, 0⟩ (by decide)) huri
      ⟨⟨by decide, by decide⟩, by decide, by decide⟩).1.2 ⟨d, hd, ?_⟩
    rw [hindex]
    decide +kernel
  · have hplace : locationOf? notes (elsewhere 4294967294 (by decide)) =
        some ⟨"file:///else", ⟨⟨0, 5⟩, ⟨0, 4294967295⟩⟩⟩ := by decide +kernel
    have hplaces := (locationOf?_isOrdered_iff (w := notes) (l := elsewhere 4294967294 (by decide))
      helse ⟨⟨by decide, by decide⟩, by decide, by decide⟩).2
    obtain ⟨_, hstop, hordered⟩ := (hplaces _ hplace).2.2 hclosed
    exact ⟨_, hplace, hstop.2 (by decide), hordered.2 (Or.inl (by decide))⟩

/-- The range of a location that ends in the greatest column stops before it starts. -/
theorem locationOf?_isReversed_atGreatestColumn : ∃ place,
    HasWords (elsewhere 4294967295 (by decide)).interval ∧
      (Uri.parse? (elsewhere 4294967295 (by decide)).source).isSome = true ∧
        locationOf? notes (elsewhere 4294967295 (by decide)) = some place ∧
          place.range = ⟨⟨0, 5⟩, ⟨0, 0⟩⟩ ∧ ¬place.range.start ≤ place.range.stop := by
  have hplace : locationOf? notes (elsewhere 4294967295 (by decide)) =
      some ⟨"file:///else", ⟨⟨0, 5⟩, ⟨0, 0⟩⟩⟩ := by decide +kernel
  exact ⟨_, ⟨⟨by decide, by decide⟩, by decide, by decide⟩, by decide +kernel, hplace, rfl,
    by decide⟩

end Polyglot.Lsp
