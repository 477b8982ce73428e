import Polyglot.Text.Numeral

/-!
# Positions and intervals

A position is a line and a column, both counted from zero; columns count bytes. Positions are
ordered by line and then by column. An interval is closed: it holds its first and its last
position, which may be the same one. Its type says that the last is not before the first.
-/

set_option autoImplicit false

namespace Polyglot

/-- A place in a text: a line, and a byte within it. -/
structure Position where
  line : Nat
  column : Nat
deriving DecidableEq, Repr

namespace Position

/-- A position is before every one on a later line, and on its own line by the column. -/
def Le (p q : Position) : Prop :=
  p.line < q.line ∨ p.line = q.line ∧ p.column ≤ q.column

instance : LE Position where
  le := Le

instance (p q : Position) : Decidable (p ≤ q) :=
  inferInstanceAs (Decidable (p.line < q.line ∨ p.line = q.line ∧ p.column ≤ q.column))

/-- Positions are in order by their lines, and on one line by their columns. -/
theorem le_iff {p q : Position} :
    p ≤ q ↔ p.line < q.line ∨ p.line = q.line ∧ p.column ≤ q.column :=
  Iff.rfl

/-- How two positions stand to each other: by line, and on one line by column. -/
def order (p q : Position) : Ordering :=
  (compare p.line q.line).then (compare p.column q.column)

/-- The position as `line:column`. -/
def text (p : Position) : String :=
  Text.decimal p.line ++ ":" ++ Text.decimal p.column

/-- A position is not behind itself. -/
theorem le_refl (p : Position) : p ≤ p :=
  Or.inr ⟨rfl, Nat.le_refl _⟩

/-- Positions are in order along a chain. -/
theorem le_trans {p q r : Position} (h : p ≤ q) (h' : q ≤ r) : p ≤ r := by
  rw [le_iff] at *
  omega

/-- Of two positions one is not behind the other. -/
theorem le_total (p q : Position) : p ≤ q ∨ q ≤ p := by
  simp only [le_iff]
  omega

/-- Positions that are not behind one another are the same. -/
theorem le_antisymm {p q : Position} (h : p ≤ q) (h' : q ≤ p) : p = q := by
  cases p
  cases q
  simp only [le_iff, Position.mk.injEq] at *
  omega

end Position

/-- A closed range of positions. -/
structure Interval where
  start : Position
  stop : Position
  start_le_stop : start ≤ stop
deriving DecidableEq, Repr

namespace Interval

/-- The interval between two positions, if they are in order. -/
def between? (start stop : Position) : Option Interval :=
  if h : start ≤ stop then some ⟨start, stop, h⟩ else none

/-- The interval of one position. -/
def point (p : Position) : Interval :=
  ⟨p, p, p.le_refl⟩

/-- Whether a position lies in the interval, both ends included. -/
def contains (i : Interval) (p : Position) : Bool :=
  decide (i.start ≤ p) && decide (p ≤ i.stop)

/-- Whether the first interval holds all of the second. -/
def subsumes (i j : Interval) : Bool :=
  decide (i.start ≤ j.start) && decide (j.stop ≤ i.stop)

/-- Whether the first interval holds all of the second and more. -/
def strictlySubsumes (i j : Interval) : Bool :=
  i.subsumes j && decide (i ≠ j)

/-- The interval as its two ends with a hyphen between them. -/
def text (i : Interval) : String :=
  i.start.text ++ "-" ++ i.stop.text

/-- One interval subsumes another exactly if it contains every position of the other. -/
theorem subsumes_iff {i j : Interval} :
    i.subsumes j = true ↔ ∀ p, j.contains p = true → i.contains p = true := by
  simp only [subsumes, contains, Bool.and_eq_true, decide_eq_true_eq]
  constructor
  · rintro ⟨h, h'⟩ p ⟨hp, hp'⟩
    exact ⟨Position.le_trans h hp, Position.le_trans hp' h'⟩
  · intro h
    exact ⟨(h j.start ⟨j.start.le_refl, j.start_le_stop⟩).1,
      (h j.stop ⟨j.start_le_stop, j.stop.le_refl⟩).2⟩

end Interval

/-- An interval of the text that an identifier names. -/
structure Location where
  source : String
  interval : Interval
deriving DecidableEq, Repr

namespace Location

/-- Whether a position of the named source lies in the location. -/
def contains (l : Location) (source : String) (p : Position) : Bool :=
  decide (l.source = source) && l.interval.contains p

/-- Whether the first location holds all of the second; both must be in one source. -/
def subsumes (l m : Location) : Bool :=
  decide (l.source = m.source) && l.interval.subsumes m.interval

/-- Whether the first location holds all of the second and more, in one source. -/
def strictlySubsumes (l m : Location) : Bool :=
  decide (l.source = m.source) && l.interval.strictlySubsumes m.interval

/-- The location as its source and its interval with an at sign between them. -/
def text (l : Location) : String :=
  l.source ++ "@" ++ l.interval.text

end Location

end Polyglot
