import RayShader.Text.Ranges

/-!
# Ignorable characters

A character is ignorable when it has the property Default_Ignorable_Code_Point of
Unicode 17: a text that cannot show it shows nothing in its place. Joiners, fillers and
selectors of variants are such. The property holds of 4174 code points, listed here as
ranges.
-/

namespace RayShader.Text

/-- The code points of the property, as closed ranges in ascending order. -/
def ignorableRanges : List (Nat × Nat) :=
  [(0xAD, 0xAD), (0x34F, 0x34F), (0x61C, 0x61C), (0x115F, 0x1160), (0x17B4, 0x17B5),
    (0x180B, 0x180F), (0x200B, 0x200F), (0x202A, 0x202E), (0x2060, 0x206F), (0x3164, 0x3164),
    (0xFE00, 0xFE0F), (0xFEFF, 0xFEFF), (0xFFA0, 0xFFA0), (0xFFF0, 0xFFF8), (0x1BCA0, 0x1BCA3),
    (0x1D173, 0x1D17A), (0xE0000, 0xE0FFF)]

/-- The character is ignorable. -/
def isIgnorable (c : Char) : Bool := inRanges ignorableRanges c

end RayShader.Text
