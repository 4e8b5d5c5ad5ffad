import RayShader.Binary.Basic

/-!
# Rounding a ratio to a binary number

`Binary.ofRatio` takes an exact non-negative ratio and gives the word nearest to
it, a tie going to the even neighbour. Every operation on binary numbers, and the
reading of decimals, is the exact result followed by this one step.

Neighbouring finite words have neighbouring magnitudes, so the rounded magnitude is
the rounded quotient plus the words of the binades below.
-/

namespace RayShader.Binary

variable {f : Format}

/-- The natural number nearest to `num / den`; a tie goes to the even one. -/
def roundQuotient (num den : Nat) : Nat :=
  let quotient := num / den
  let rest := num % den
  if 2 * rest < den then quotient
  else if den < 2 * rest then quotient + 1
  else quotient + quotient % 2

/-- The magnitude nearest to `num / den`, not above that of the infinity. -/
def roundMagnitude (f : Format) (num den : Nat) : Nat :=
  let units := num * Nat.pow 2 f.scale
  let steps := (units / den).log2 - f.fractionBits
  min (steps * Nat.pow 2 f.fractionBits + roundQuotient units (den * Nat.pow 2 steps)) f.infinity

/-- The word nearest to `num / den`, of the given sign. -/
def ofRatio (negative : Bool) (num den : Nat) : Binary f :=
  ofMagnitude f negative (roundMagnitude f num den)

/-- The word nearest to a whole number. -/
def ofInt (n : Int) : Binary f := ofRatio (n < 0) n.natAbs 1

/-- The word of another format nearest to the same value. -/
def convert {g : Format} (x : Binary f) : Binary g :=
  match x.datum with
  | .nan => nan
  | .infinite negative => infinity negative
  | .finite negative units => ofRatio negative units (Nat.pow 2 f.scale)

end RayShader.Binary
