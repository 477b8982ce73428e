/-!
# Pieces of a text

A text cut at the first or the last character of a class, or at all of them. The characters at
which it is cut belong to no piece.
-/

set_option autoImplicit false

namespace Polyglot.Text

/-- The text in front of the first character of the class, and the text behind that character if
there is one. -/
def cutAt (p : Char → Bool) (cs : List Char) : List Char × Option (List Char) :=
  match cs.span fun c => !p c with
  | (front, []) => (front, none)
  | (front, _ :: back) => (front, some back)

/-- The text in front of the last character of the class and the text behind it, if there is such
a character. -/
def cutAtLast? (p : Char → Bool) (cs : List Char) : Option (List Char × List Char) :=
  match cutAt p cs.reverse with
  | (back, some front) => some (front.reverse, back.reverse)
  | (_, none) => none

/-- The pieces of a text between the characters of the class. -/
def splitAt (p : Char → Bool) : List Char → List (List Char)
  | [] => [[]]
  | c :: cs =>
    if p c then [] :: splitAt p cs
    else match splitAt p cs with
      | [] => [[c]]
      | piece :: pieces => (c :: piece) :: pieces

end Polyglot.Text
