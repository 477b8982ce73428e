import Polyglot.Text.Numeral

/-!
# Percent-encoding

In a URI a character that may not stand for itself is written by the bytes of its UTF-8 form, each
as a percent sign and two hexadecimal digits in capital letters. Which characters have to be
written so depends on the part of the URI; those outside the seven-bit range always have to.
-/

set_option autoImplicit false

namespace Polyglot.Uri

/-- A byte as a percent sign and two digits. -/
def escapeByte (b : UInt8) : List Char :=
  '%' :: (Text.padZeros 2 (Text.hexDigits b.toNat)).map Char.toUpper

/-- Controls, and characters beyond the seven-bit range. -/
def isControl (c : Char) : Bool :=
  decide (c.toNat < 0x20) || decide (0x7F ≤ c.toNat)

/-- What is escaped in a query. -/
def escapedInQuery (c : Char) : Bool :=
  isControl c || [' ', '"', '#', '<', '>'].contains c

/-- What is escaped in the query of a special scheme: a single quote as well. -/
def escapedInSpecialQuery (c : Char) : Bool :=
  escapedInQuery c || c == '\''

/-- What is escaped in a fragment. -/
def escapedInFragment (c : Char) : Bool :=
  isControl c || [' ', '"', '<', '>', '\x60'].contains c

/-- What is escaped in a path. -/
def escapedInPath (c : Char) : Bool :=
  escapedInFragment c || ['#', '?', '\x7b', '\x7d'].contains c

/-- What is escaped in the name and the password of a user. -/
def escapedInUser (c : Char) : Bool :=
  escapedInPath c || ['/', ':', ';', '=', '@', '[', '\\', ']', '^', '|'].contains c

/-- The text with the characters of the class escaped. -/
def escape (escaped : Char → Bool) (cs : List Char) : List Char :=
  cs.flatMap fun c => if escaped c then (String.utf8EncodeChar c).flatMap escapeByte else [c]

/-- The bytes of a text with its escapes undone; a percent sign without two digits behind it
stands for itself. -/
def unescape : List Char → List UInt8
  | '%' :: a :: b :: cs =>
    match Text.hexValue? a, Text.hexValue? b with
    | some x, some y => UInt8.ofNat (16 * x + y) :: unescape cs
    | _, _ => String.utf8EncodeChar '%' ++ unescape (a :: b :: cs)
  | c :: cs => String.utf8EncodeChar c ++ unescape cs
  | [] => []

end Polyglot.Uri
