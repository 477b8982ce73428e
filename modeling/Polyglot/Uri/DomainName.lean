import Polyglot.Text.Classes
import Polyglot.Text.Unprintable
import Polyglot.Uri.Escape
import Polyglot.Uri.Punycode

/-!
# Domain names

A domain name has labels between dots. It is read in small letters, with wide forms as the
characters they are forms of and without the characters that show nothing. A label that goes
beyond the seven-bit range is written in Punycode behind `xn--`, and a label that starts so has to
be such a written form.
-/

set_option autoImplicit false

namespace Polyglot.Uri

/-- Whether a character may not stand in a host. -/
def isForbidden (c : Char) : Bool :=
  ['\x00', '\t', '\n', '\r', ' ', '#', '/', ':', '<', '>', '?', '@', '[', '\\', ']', '^',
    '|'].contains c

/-- Whether a character may not stand in a domain name. -/
def isForbiddenInName (c : Char) : Bool :=
  isForbidden c || decide (c.toNat < 0x20) || c == '\x7f' || c == '%'

namespace DomainName

/-- Letters that have a form of another size: the first and the last code point of a run, the step
between its letters, and how far each is from its small form. -/
def capitals : List (Nat × Nat × Nat × Int) := [
  (0x41, 0x5A, 1, 32), (0xC0, 0xD6, 1, 32), (0xD8, 0xDE, 1, 32), (0x100, 0x12E, 2, 1),
  (0x134, 0x136, 2, 1), (0x139, 0x13D, 2, 1), (0x141, 0x147, 2, 1), (0x14A, 0x176, 2, 1),
  (0x178, 0x178, 1, -121), (0x179, 0x17D, 2, 1), (0x1CD, 0x1DB, 2, 1), (0x1DE, 0x1EE, 2, 1),
  (0x1F8, 0x21E, 2, 1), (0x222, 0x232, 2, 1), (0x370, 0x372, 2, 1), (0x376, 0x376, 1, 1),
  (0x386, 0x386, 1, 38), (0x388, 0x38A, 1, 37), (0x38C, 0x38C, 1, 64), (0x38E, 0x38F, 1, 63),
  (0x391, 0x3A1, 1, 32), (0x3A3, 0x3AB, 1, 32), (0x3CF, 0x3CF, 1, 8), (0x3D8, 0x3EE, 2, 1),
  (0x400, 0x40F, 1, 80), (0x410, 0x42F, 1, 32), (0x460, 0x480, 2, 1), (0x48A, 0x4BE, 2, 1),
  (0x4C0, 0x4C0, 1, 15), (0x4C1, 0x4CD, 2, 1), (0x4D0, 0x52E, 2, 1), (0x531, 0x556, 1, 48),
  (0x10A0, 0x10C5, 1, 7264), (0x1E00, 0x1E94, 2, 1), (0x1E9E, 0x1E9E, 1, -7615),
  (0x1EA0, 0x1EFE, 2, 1), (0x1F08, 0x1F0F, 1, -8), (0x1F18, 0x1F1D, 1, -8), (0x1F28, 0x1F2F, 1, -8),
  (0x1F38, 0x1F3F, 1, -8), (0x1F48, 0x1F4D, 1, -8), (0x1F59, 0x1F5F, 2, -8),
  (0x1F68, 0x1F6F, 1, -8), (0x212A, 0x212A, 1, -8383), (0x212B, 0x212B, 1, -8262),
  (0x2C00, 0x2C2F, 1, 48), (0xA640, 0xA66C, 2, 1), (0xA680, 0xA69A, 2, 1),
  (0x10400, 0x10427, 1, 40), (0x1E900, 0x1E921, 1, 34)]

/-- The small form of a letter. -/
def small (c : Char) : Char :=
  match capitals.find? fun (first, last, step, _) =>
      first ≤ c.toNat ∧ c.toNat ≤ last ∧ (c.toNat - first) % step = 0 with
  | some (_, _, _, shift) => Char.ofNat (c.toNat + shift).toNat
  | none => c

/-- Characters that are forms of others. -/
def forms : List (Char × Char) :=
  [('\u00a0', ' '), ('\u00aa', 'a'), ('\u00b2', '2'), ('\u00b3', '3'), ('\u00b5', 'μ'),
    ('\u00b9', '1'), ('\u00ba', 'o'), ('\u017f', 's'), ('\u3000', ' '), ('\u3002', '.'),
    ('\uff61', '.')]

/-- The character of which another is a form, as the wide forms are. -/
def narrow (c : Char) : Char :=
  if '\uff01' ≤ c ∧ c ≤ '\uff5e' then Char.ofNat (c.toNat - 0xFEE0)
  else (forms.lookup c).getD c

/-- Characters that show nothing and that names do without. -/
def omitted : Text.CharSet where
  ranges := [
    (0xAD, 0xAD), (0x34F, 0x34F), (0x180B, 0x180D), (0x180F, 0x180F), (0x200B, 0x200B),
    (0x2060, 0x2060), (0x2064, 0x2064), (0xFE00, 0xFE0F), (0xFEFF, 0xFEFF), (0xE0100, 0xE01EF)]

/-- The characters of a name as they are read. -/
def normal (cs : List Char) : List Char :=
  (cs.filter fun c => !omitted.contains c).map fun c => small (narrow c)

/-- Whether the characters of a label can stand in a name. -/
def isLabel (label : List Char) : Bool :=
  label.all (fun c => !isForbiddenInName c && !Text.unprintable.contains c) &&
    label.head?.all fun c => !Text.mark.contains c

/-- Whether a character is within the seven-bit range. -/
def isPlain (c : Char) : Bool :=
  decide (c.toNat < 0x80)

/-- The written form of a label, none if it is no label. -/
def writeLabel? (label : List Char) : Option (List Char) :=
  if label.take 4 = "xn--".toList then do
    let decoded ← Punycode.decode? (label.drop 4)
    if label.all isPlain && !decoded.all isPlain && decoded == normal decoded && isLabel decoded
      && Punycode.encode decoded == label.drop 4
    then return label else none
  else if !isLabel label then none
  else if label.all isPlain then some label
  else some ("xn--".toList ++ Punycode.encode label)

/-- The written form of a name, none if it is no domain name. -/
def write? (cs : List Char) : Option (List Char) := do
  let labels ← (Text.splitAt (· == '.') (normal cs)).mapM writeLabel?
  return ['.'].intercalate labels

end DomainName

end Polyglot.Uri
