import RayShader.Binary.Arithmetic
import RayShader.Decimal.Layout

/-!
# Vectors of three numbers

Positions, directions and colors.
-/

namespace RayShader

/-- A vector of three numbers. -/
structure Vec3 where
  /-- The first number. -/
  x : Single
  /-- The second number. -/
  y : Single
  /-- The third number. -/
  z : Single
  deriving DecidableEq

namespace Vec3

/-- The same number three times. -/
def splat (x : Single) : Vec3 := ⟨x, x, x⟩

/-- The vector of zeros. -/
def zero : Vec3 := splat .zero

/-- The vector of ones. -/
def one : Vec3 := splat (.ofInt 1)

/-- The unit vector of the second axis. -/
def unitY : Vec3 := ⟨.zero, .ofInt 1, .zero⟩

/-- The unit vector against the second axis. -/
def negUnitY : Vec3 := ⟨.zero, .ofInt (-1), .zero⟩

/-- The unit vector of the third axis. -/
def unitZ : Vec3 := ⟨.zero, .zero, .ofInt 1⟩

instance : Inhabited Vec3 := ⟨zero⟩

/-- The vector whose numbers are multiplied by one number. -/
def scale (v : Vec3) (s : Single) : Vec3 := ⟨v.x * s, v.y * s, v.z * s⟩

/-- The reciprocal of the length. -/
def reciprocalLength (v : Vec3) : Single :=
  Binary.ofInt 1 / (v.x * v.x + v.y * v.y + v.z * v.z).sqrt

/-- The vector of length one in the same direction, or `fallback` where the length has
no reciprocal among the positive numbers. -/
def normalizeOr (v fallback : Vec3) : Vec3 :=
  let r := v.reciprocalLength
  if r.isFinite && r.isPositive then v.scale r else fallback

/-- The vector in a message. -/
def message (v : Vec3) : String :=
  let text (x : Single) : String := Decimal.messageStyle.format x
  s!"[{text v.x}, {text v.y}, {text v.z}]"

end Vec3

/-- An angle in radians from one in degrees: the product with the number nearest to
the ratio of the two, itself the quotient of the number nearest to half a turn in
radians by that in degrees. -/
def toRadians (degrees : Single) : Single :=
  degrees * ((Decimal.mk 314159265358979 (-14)).toBinary .single false / .ofInt 180)

end RayShader
