import RayShader.Decimal.Basic

/-!
# The shortest decimal that reads back

A binary number is written with the fewest digits that read back to it. For one
digit, two digits and so on, the two decimals next to the exact value that have so
many digits are tried; the first count with one that reads back wins, and of two the
nearer. With all the digits of the exact value the lower decimal *is* that value, so
the search ends.
-/

namespace RayShader.Decimal

/-- Which of two equally near decimals is written. -/
inductive Tie where
  /-- The greater one. -/
  | up
  /-- The one whose last digit is even. -/
  | even
  deriving DecidableEq

/-- The decimals below and above the exact value `d` when its lowest `drop` digits go,
of which those are kept that read back to `x`; the nearer of two. -/
def cut? {f : Binary.Format} (x : Binary f) (tie : Tie) (d : Decimal) (drop : Nat) : Option Decimal :=
  let low := d.digits / Nat.pow 10 drop
  let rest := d.digits % Nat.pow 10 drop
  let below : Decimal := ⟨low, d.exponent + drop⟩
  let above : Decimal := ⟨low + 1, d.exponent + drop⟩
  let reads (c : Decimal) : Bool := c.toBinary f x.isNegative == x
  if reads below then
    if reads above then
      if 2 * rest < Nat.pow 10 drop then some below
      else if Nat.pow 10 drop < 2 * rest then some above
      else match tie with
        | .up => some above
        | .even => some (if low % 2 = 0 then below else above)
    else some below
  else if reads above then some above
  else none

/-- Tries ever more digits: first `drop` digits of the exact value go, then fewer. -/
def search {f : Binary.Format} (x : Binary f) (tie : Tie) (d : Decimal) : Nat → Decimal
  | 0 => d
  | drop + 1 => (cut? x tie d (drop + 1)).getD (search x tie d drop)

/-- The shortest decimal that reads back to a finite number other than zero, given
the units of that number. -/
def shortest {f : Binary.Format} (x : Binary f) (tie : Tie) (units : Nat) : Decimal :=
  let exact := ofUnits f units
  let count := digitCount exact.digits
  let found := search x tie exact (count - 1)
  strip (digitCount found.digits) found

end RayShader.Decimal
