import RayShader.Decimal.Shortest

/-!
# Numerals

A numeral is the written form of a number, taken apart: a sign, the digits before
the point, the digits behind it and an exponent of ten. Both the texts that are read
and the texts that are written go through it.
-/

namespace RayShader

/-- The parts of a written number. -/
structure Numeral where
  /-- A minus sign stands in front. -/
  negative : Bool
  /-- The digits before the point. -/
  whole : List Char
  /-- The digits behind the point; no digits, no point. -/
  fraction : List Char
  /-- The exponent of ten, where there is one. -/
  exponent : Option Int
  deriving DecidableEq

namespace Numeral

/-- The digits of a natural number in base ten. -/
def digits (n : Nat) : List Char := Nat.toDigits 10 n

/-- The value of a digit. -/
def digitValue (c : Char) : Nat := c.toNat - '0'.toNat

/-- A whole number, without a point. -/
def ofInt (n : Int) : Numeral := ⟨n < 0, digits n.natAbs, [], none⟩

/-- The text of the exponent; a plus sign is written on demand. -/
def exponentText (plusSign : Bool) (exponent : Int) : List Char :=
  'e' :: ((if exponent < 0 then ['-'] else if plusSign then ['+'] else []) ++ digits exponent.natAbs)

/-- The text of the numeral. -/
def text (plusSign : Bool) (n : Numeral) : List Char :=
  (if n.negative then ['-'] else []) ++ n.whole
    ++ (if n.fraction = [] then [] else '.' :: n.fraction)
    ++ n.exponent.elim [] (exponentText plusSign)

end Numeral

end RayShader
