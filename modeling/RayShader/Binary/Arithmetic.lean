import RayShader.Binary.Rounding

/-!
# Arithmetic on binary numbers

Each operation is the exact result, rounded once. A result that no number has,
such as the quotient of two zeros, is `nan`.
-/

namespace RayShader.Binary

variable {f : Format}

/-- The product, rounded. -/
def mul (x y : Binary f) : Binary f :=
  match x.datum, y.datum with
  | .nan, _ => nan
  | _, .nan => nan
  | .infinite s, .infinite t => infinity (s != t)
  | .infinite s, .finite t v => if v = 0 then nan else infinity (s != t)
  | .finite s u, .infinite t => if u = 0 then nan else infinity (s != t)
  | .finite s u, .finite t v => ofRatio (s != t) (u * v) (Nat.pow 2 (2 * f.scale))

/-- The quotient, rounded. -/
def div (x y : Binary f) : Binary f :=
  match x.datum, y.datum with
  | .nan, _ => nan
  | _, .nan => nan
  | .infinite _, .infinite _ => nan
  | .infinite s, .finite t _ => infinity (s != t)
  | .finite s _, .infinite t => ofMagnitude f (s != t) 0
  | .finite s u, .finite t v =>
    if v = 0 then if u = 0 then nan else infinity (s != t)
    else ofRatio (s != t) u v

/-- A whole number with its sign apart. -/
def signed (negative : Bool) (units : Nat) : Int := if negative then -units else units

/-- The sum, rounded. A sum that cancels is the zero without a sign, unless both
operands have one. -/
def add (x y : Binary f) : Binary f :=
  match x.datum, y.datum with
  | .nan, _ => nan
  | _, .nan => nan
  | .infinite s, .infinite t => if s = t then infinity s else nan
  | .infinite s, .finite _ _ => infinity s
  | .finite _ _, .infinite t => infinity t
  | .finite s u, .finite t v =>
    let sum := signed s u + signed t v
    if sum = 0 then ofMagnitude f (s && t) 0 else ofRatio (sum < 0) sum.natAbs (Nat.pow 2 f.scale)

/-- The greatest number whose square is at most `n` and which agrees with `root`
above the lowest `k` bits. -/
def sqrtBits (n : Nat) : Nat → Nat → Nat
  | 0, root => root
  | k + 1, root =>
    let next := root + Nat.pow 2 k
    sqrtBits n k (if next * next ≤ n then next else root)

/-- The greatest number whose square is at most `n`. -/
def sqrtFloor (n : Nat) : Nat := sqrtBits n (n.log2 / 2 + 1) 0

/-- The square root, rounded. The root of the scaled units is cut to a whole number
with one more bit that says whether anything was cut; the format is so much
coarser that rounding this number rounds the root. -/
def sqrt (x : Binary f) : Binary f :=
  match x.datum with
  | .nan => nan
  | .infinite negative => if negative then nan else infinity false
  | .finite negative units =>
    if units = 0 then x
    else if negative then nan
    else
      let square := units * Nat.pow 2 f.scale
      let root := sqrtFloor square
      ofRatio false (2 * root + if root * root = square then 0 else 1) (Nat.pow 2 (f.scale + 1))

instance : Mul (Binary f) := ⟨mul⟩

instance : Div (Binary f) := ⟨div⟩

instance : Add (Binary f) := ⟨add⟩

end RayShader.Binary
