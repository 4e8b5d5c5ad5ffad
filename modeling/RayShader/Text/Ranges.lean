/-!
# Ranges of characters

A property of characters is given by the ranges of code points that have it.
-/

namespace RayShader.Text

/-- The code point of the character is in one of the closed ranges. -/
def inRanges (ranges : List (Nat × Nat)) (c : Char) : Bool :=
  ranges.any fun (low, high) => low ≤ c.toNat && c.toNat ≤ high

end RayShader.Text
