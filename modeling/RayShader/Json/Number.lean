import RayShader.Json.Basic
import RayShader.Binary.Arithmetic

/-!
# The number that a numeral stands for

A numeral without point and exponent that fits a 64-bit integer is that integer.
Every other numeral is a binary number, computed in three steps: the leading digits,
as many as fit 64 bits, are rounded; the remaining digits before the point only count
as powers of ten; and the result is multiplied or divided by the power of ten, rounded
once more. A numeral beyond the greatest number stands for none.
-/

namespace RayShader

/-- The number of a JSON text. -/
inductive Json.Number where
  /-- A whole number between `-2^63` and `2^64 - 1`. -/
  | integer (n : Int)
  /-- Any other number. -/
  | real (x : Double)
  deriving DecidableEq

namespace Numeral

/-- The greatest significand. -/
def maxSignificand : Nat := 0xFFFFFFFFFFFFFFFF

/-- Appends digits to a significand as long as it fits; gives the digits left over. -/
def accumulate (significand : Nat) : List Char → Nat × List Char
  | [] => (significand, [])
  | c :: rest =>
    let next := significand * 10 + digitValue c
    if next ≤ maxSignificand then accumulate next rest else (significand, c :: rest)

/-- The power of ten as a binary number. -/
def powerOfTen (k : Nat) : Double := Decimal.toBinary .double false ⟨1, k⟩

/-- Divides by `10^k`; powers beyond the greatest number are divided out in pieces, of
which there are at most `pieces`. -/
def divideOut : Nat → Nat → Double → Double
  | 0, k, x => x / powerOfTen k
  | pieces + 1, k, x =>
    if k ≤ 308 then x / powerOfTen k
    else if x.isZero then x
    else divideOut pieces (k - 308) (x / powerOfTen 308)

/-- The significand times a power of ten, or none beyond the greatest number. -/
def scale? (significand : Nat) (exponent : Int) : Option Double :=
  let x : Double := .ofInt significand
  if exponent < 0 then some (divideOut (exponent.natAbs / 308) exponent.natAbs x)
  else if x.isZero then some x
  else if 308 < exponent then none
  else
    let y := x * powerOfTen exponent.toNat
    if y.isFinite then some y else none

/-- The number with the sign of the numeral. -/
def withSign (n : Numeral) (x : Double) : Double := .ofMagnitude .double n.negative x.magnitude

/-- The binary number that the numeral stands for. -/
def real? (n : Numeral) : Option Double :=
  let (head, dropped) := accumulate 0 n.whole
  let (significand, rest) := accumulate head n.fraction
  let places : Int := dropped.length - (n.fraction.length - rest.length : Nat)
  (scale? significand (places + n.exponent.getD 0)).map n.withSign

/-- The integer that the numeral stands for, if it has neither point nor exponent and
fits. A negative zero is no integer. -/
def integer? (n : Numeral) : Option Int :=
  match n.fraction, n.exponent, accumulate 0 n.whole with
  | [], none, (significand, []) =>
    if !n.negative then some significand
    else if 0 < significand ∧ significand ≤ 0x8000000000000000 then some (-significand)
    else none
  | _, _, _ => none

/-- The number that the numeral stands for. -/
def value? (n : Numeral) : Option Json.Number :=
  match n.integer? with
  | some i => some (.integer i)
  | none => n.real?.map .real

end Numeral

end RayShader
