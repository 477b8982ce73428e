import Polyglot.Text.Marks
import Polyglot.Text.Numeral
import Polyglot.Text.Separators
import Polyglot.Text.Unprintable

/-!
# Quoted text

Debugging output shows a text between double quotes. A quote and a backslash are written behind a
backslash, so are the tab, the two line breaks and the null character by their letters, and every
character that would not be seen by itself is written as its code point in hexadecimal.
-/

set_option autoImplicit false

namespace Polyglot.Text

/-- A character by its code point: a backslash, the letter `u`, and the digits in braces. -/
def escapeCode (c : Char) : List Char :=
  '\\' :: 'u' :: '\x7b' :: (hexDigits c.toNat ++ ['\x7d'])

/-- Whether a character is one of the two sound marks that take up half a place of their own. -/
def isSoundMark (c : Char) : Bool :=
  c == '\uff9e' || c == '\uff9f'

/-- Whether a character would not be seen by itself: it extends the one in front of it, is not
printed at all, or shows nothing. A sound mark is seen though it extends a character. -/
def isUnseen (c : Char) : Bool :=
  (graphemeExtend.contains c && !isSoundMark c) || unprintable.contains c || filler.contains c

/-- One character inside double quotes. -/
def escapeChar (c : Char) : List Char :=
  if c = '\x00' then ['\\', '0']
  else if c = '\t' then ['\\', 't']
  else if c = '\r' then ['\\', 'r']
  else if c = '\n' then ['\\', 'n']
  else if c = '\\' ∨ c = '"' then ['\\', c]
  else if isUnseen c then escapeCode c
  else [c]

/-- The text between double quotes, with the characters escaped that need it. -/
def quoted (s : String) : String :=
  String.ofList ('"' :: (s.toList.flatMap escapeChar ++ ['"']))

end Polyglot.Text
