import Polyglot.Text.CharSet

/-!
# White space, connectors and fillers

The property `White_Space`, the category of connecting punctuation, the property `Join_Control`,
and the letters that are there to show nothing, version 17.0.
-/

set_option autoImplicit false

namespace Polyglot.Text

/-- The characters with the property `White_Space`. -/
def whiteSpace : CharSet where
  ranges := [
    (0x9, 0xD), (0x20, 0x20), (0x85, 0x85), (0xA0, 0xA0), (0x1680, 0x1680), (0x2000, 0x200A),
    (0x2028, 0x2029), (0x202F, 0x202F), (0x205F, 0x205F), (0x3000, 0x3000)]

/-- The characters of category `Pc`: the low line and its relatives. -/
def connector : CharSet where
  ranges := [
    (0x5F, 0x5F), (0x203F, 0x2040), (0x2054, 0x2054), (0xFE33, 0xFE34), (0xFE4D, 0xFE4F),
    (0xFF3F, 0xFF3F)]

/-- The zero width non-joiner and the zero width joiner. -/
def joinControl : CharSet where
  ranges := [
    (0x200C, 0x200D)]

/-- The fillers of the Korean alphabet: letters with the property
`Default_Ignorable_Code_Point`. -/
def filler : CharSet where
  ranges := [
    (0x115F, 0x1160), (0x3164, 0x3164), (0xFFA0, 0xFFA0)]

end Polyglot.Text
