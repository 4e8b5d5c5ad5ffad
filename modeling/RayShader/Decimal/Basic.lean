import RayShader.Binary.Rounding

/-!
# Decimals

A decimal is a natural number of digits and a power of ten. It denotes an exact
ratio; reading it as a binary number is rounding that ratio. Every finite binary
number also *is* a decimal, its exact expansion.
-/

namespace RayShader

/-- The number `digits · 10^exponent`. -/
structure Decimal where
  /-- The digits, as one number. -/
  digits : Nat
  /-- The power of ten. -/
  exponent : Int
  deriving DecidableEq

namespace Decimal

/-- The numerator of the ratio that the decimal denotes. -/
def num (d : Decimal) : Nat := d.digits * Nat.pow 10 d.exponent.toNat

/-- The denominator of the ratio that the decimal denotes. -/
def den (d : Decimal) : Nat := Nat.pow 10 (-d.exponent).toNat

/-- The binary number nearest to the decimal, of the given sign. -/
def toBinary (f : Binary.Format) (negative : Bool) (d : Decimal) : Binary f :=
  .ofRatio negative d.num d.den

/-- The exact value of a number of units: dividing by a power of two is multiplying
by that power of five and moving the point. -/
def ofUnits (f : Binary.Format) (units : Nat) : Decimal := ⟨units * Nat.pow 5 f.scale, -f.scale⟩

/-- How many digits a number has when it is written in base ten. -/
def digitCount (n : Nat) : Nat := (Nat.toDigits 10 n).length

/-- Moves up to `k` trailing zeros of the digits into the exponent. -/
def strip : Nat → Decimal → Decimal
  | 0, d => d
  | k + 1, d => if d.digits % 10 = 0 then strip k ⟨d.digits / 10, d.exponent + 1⟩ else d

end Decimal

end RayShader
