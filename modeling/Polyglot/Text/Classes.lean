import Polyglot.Text.Alphabetic
import Polyglot.Text.Marks
import Polyglot.Text.Numbers
import Polyglot.Text.Recent
import Polyglot.Text.Separators

/-!
# Classes of characters

The classes by which documents and settings are read: blank characters, the characters of a
grammar name in a declaration line, and the characters of a grammar name in the settings. The
last two differ: a combining mark belongs to the first only, a fraction to the second only, and so
do the letters that came with the last version of the character database.

Trimming takes the characters of a class off one end or both ends of a text.
-/

set_option autoImplicit false

namespace Polyglot.Text

/-- Blank characters are those with the property `White_Space`. -/
def isBlank (c : Char) : Bool :=
  whiteSpace.contains c

/-- Word characters are alphabetic characters, marks, digits, connecting punctuation and the two
join controls, without the recent ones. -/
def isWord (c : Char) : Bool :=
  (alphabetic.contains c || mark.contains c || decimalNumber.contains c || connector.contains c ||
    joinControl.contains c) && !recent.contains c

/-- Alphanumeric characters are alphabetic characters and numbers of all three categories. -/
def isAlphanumeric (c : Char) : Bool :=
  alphabetic.contains c || decimalNumber.contains c || letterNumber.contains c ||
    otherNumber.contains c

/-- A line breaks at a line feed or a carriage return. -/
def isBreak (c : Char) : Bool :=
  c == '\n' || c == '\r'

/-- The text without the longest run of characters of the class at its end. -/
def trimEnd (p : Char → Bool) (cs : List Char) : List Char :=
  (cs.reverse.dropWhile p).reverse

/-- The text without the longest runs of characters of the class at both ends. -/
def trim (p : Char → Bool) (cs : List Char) : List Char :=
  trimEnd p (cs.dropWhile p)

/-- Trimming the end removes a run of characters of the class and nothing else. -/
theorem exists_trimEnd_append (p : Char → Bool) (cs : List Char) :
    ∃ tail, trimEnd p cs ++ tail = cs ∧ ∀ c ∈ tail, p c = true := by
  refine ⟨(cs.reverse.takeWhile p).reverse, ?_, ?_⟩
  · rw [trimEnd, ← List.reverse_append, List.takeWhile_append_dropWhile, List.reverse_reverse]
  · intro c hc
    exact List.all_eq_true.1 List.all_takeWhile c (List.mem_reverse.1 hc)

end Polyglot.Text
