import RayShader.Text.Ranges

/-!
# Blank characters

A character is blank when it has the Unicode property White_Space. The property
holds of twenty-five characters, listed here as ranges of code points.
-/

namespace RayShader.Text

/-- The code points of the property, as closed ranges in ascending order. -/
def blankRanges : List (Nat × Nat) :=
  [(0x09, 0x0D), (0x20, 0x20), (0x85, 0x85), (0xA0, 0xA0), (0x1680, 0x1680), (0x2000, 0x200A),
    (0x2028, 0x2029), (0x202F, 0x202F), (0x205F, 0x205F), (0x3000, 0x3000)]

/-- The character is blank. -/
def isBlank (c : Char) : Bool := inRanges blankRanges c

/-- What is left without the blanks at the end. -/
def dropBlankEnd (cs : List Char) : List Char := (cs.reverse.dropWhile isBlank).reverse

/-- The text without the blanks at its end. -/
def trimEnd (s : String) : String := .ofList (dropBlankEnd s.toList)

/-- The text without the blanks at both ends. -/
def trim (s : String) : String := .ofList (dropBlankEnd (s.toList.dropWhile isBlank))

/-- The texts are the same up to the case of ASCII letters. -/
def eqIgnoringCase (s t : String) : Bool := s.toList.map Char.toLower == t.toList.map Char.toLower

end RayShader.Text
