/-!
# Binary numbers of a fixed width

A binary number is a word of a format: a sign bit, an exponent field and a
fraction field. Its *magnitude* is the word without the sign. Every finite
magnitude denotes a whole number of *units*, the unit being the smallest
positive value of the format, so that comparing and rounding are arithmetic on
natural numbers:

    value = ± units · 2^(-scale)

The words above all finite magnitudes are the infinity and the words that are
not a number.
-/

namespace RayShader

/-- The widths of the two fields beside the sign. -/
structure Binary.Format where
  /-- Bits of the fraction. -/
  fractionBits : Nat
  /-- Bits of the exponent. -/
  exponentBits : Nat
  deriving DecidableEq

namespace Binary.Format

/-- Bits of a whole word: the sign, the exponent and the fraction. -/
def width (f : Format) : Nat := 1 + f.exponentBits + f.fractionBits

/-- The unit of the format is `2^(-scale)`. -/
def scale (f : Format) : Nat := Nat.pow 2 (f.exponentBits - 1) - 2 + f.fractionBits

/-- The magnitude of an infinity: the exponent field is full and the fraction empty. -/
def infinity (f : Format) : Nat := (Nat.pow 2 f.exponentBits - 1) * Nat.pow 2 f.fractionBits

/-- The weight of the sign bit. -/
def signBit (f : Format) : Nat := Nat.pow 2 (f.exponentBits + f.fractionBits)

/-- Thirty-two bits, eight of them for the exponent. -/
def single : Format := ⟨23, 8⟩

/-- Sixty-four bits, eleven of them for the exponent. -/
def double : Format := ⟨52, 11⟩

end Binary.Format

/-- A word of format `f`. -/
structure Binary (f : Binary.Format) where
  /-- The sign, the exponent and the fraction, from the top bit down. -/
  bits : BitVec f.width
  deriving DecidableEq

/-- The numbers of scene properties and of generated programs. -/
abbrev Single := Binary .single

/-- The numbers of a text before they are narrowed. -/
abbrev Double := Binary .double

namespace Binary

variable {f : Format}

/-- What a word denotes. -/
inductive Datum where
  /-- Not a number. -/
  | nan
  /-- Beyond every finite value, on the side of the sign. -/
  | infinite (negative : Bool)
  /-- A whole number of units; zero has a sign too. -/
  | finite (negative : Bool) (units : Nat)
  deriving DecidableEq

/-- The word with the given sign and magnitude. -/
def ofMagnitude (f : Format) (negative : Bool) (magnitude : Nat) : Binary f :=
  ⟨.ofNat _ ((if negative then f.signBit else 0) + magnitude)⟩

/-- The word without its sign. -/
def magnitude (x : Binary f) : Nat := x.bits.toNat % f.signBit

/-- The sign bit is set. -/
def isNegative (x : Binary f) : Bool := f.signBit ≤ x.bits.toNat

/-- The units that a finite magnitude denotes. The least exponent field has no
hidden bit and the spacing of the one above it. -/
def unitsOf (f : Format) (magnitude : Nat) : Nat :=
  let exponent := magnitude / Nat.pow 2 f.fractionBits
  let fraction := magnitude % Nat.pow 2 f.fractionBits
  if exponent = 0 then fraction else (Nat.pow 2 f.fractionBits + fraction) * Nat.pow 2 (exponent - 1)

/-- What the word denotes. -/
def datum (x : Binary f) : Datum :=
  if f.infinity < x.magnitude then .nan
  else if x.magnitude = f.infinity then .infinite x.isNegative
  else .finite x.isNegative (unitsOf f x.magnitude)

/-- The zero without a sign bit. -/
def zero : Binary f := ofMagnitude f false 0

/-- The infinity of the given sign. -/
def infinity (negative : Bool) : Binary f := ofMagnitude f negative f.infinity

/-- The word that stands for the result of an operation without one. -/
def nan : Binary f := ofMagnitude f false (f.infinity + Nat.pow 2 (f.fractionBits - 1))

/-- The greatest finite value. -/
def greatest : Binary f := ofMagnitude f false (f.infinity - 1)

instance : Inhabited (Binary f) := ⟨zero⟩

/-- The word is not a number. -/
def isNaN (x : Binary f) : Bool := x.datum == .nan

/-- The word denotes a number that is not infinite. -/
def isFinite (x : Binary f) : Bool := x.magnitude < f.infinity

/-- A finite word denotes zero, of either sign. -/
def isZero (x : Binary f) : Bool := x.magnitude = 0

/-- The word denotes something above zero. -/
def isPositive (x : Binary f) : Bool := !x.isNegative && !x.isZero && !x.isNaN

end Binary

end RayShader
