import RayShader.Decimal.Numeral

/-!
# Laying out a decimal

The digits of a number say nothing yet about its numeral. A `Style` holds the
decisions: which numbers are written out and which with an exponent, and whether a
whole number shows a point. The *point* of a decimal is the number of digits before
the decimal point, negative or zero for numbers below one tenth.
-/

namespace RayShader.Decimal

/-- How decimals are written. -/
structure Style where
  /-- The points for which the number is written out, from the least to the
  greatest; without bounds every number is. -/
  writtenOut : Option (Int × Int)
  /-- Whole numbers that are written out end in `.0`. -/
  wholePoint : Bool
  /-- An exponent that is not negative has a plus sign. -/
  plusSign : Bool
  /-- Which of two equally near decimals is taken. -/
  tie : Tie
  deriving DecidableEq

namespace Style

/-- What stands behind the point of a whole number. -/
def wholeFraction (style : Style) : List Char := if style.wholePoint then ['0'] else []

/-- Every digit in its place. -/
def plain (style : Style) (negative : Bool) (digits : List Char) (point : Int) : Numeral :=
  if point ≤ 0 then ⟨negative, ['0'], List.replicate (-point).toNat '0' ++ digits, none⟩
  else if point < digits.length then ⟨negative, digits.take point.toNat, digits.drop point.toNat, none⟩
  else ⟨negative, digits ++ List.replicate (point.toNat - digits.length) '0', style.wholeFraction, none⟩

/-- One digit before the point, and an exponent. -/
def scientific (negative : Bool) (digits : List Char) (point : Int) : Numeral :=
  ⟨negative, digits.take 1, digits.drop 1, some (point - 1)⟩

/-- The digits with the given point. -/
def lay (style : Style) (negative : Bool) (digits : List Char) (point : Int) : Numeral :=
  match style.writtenOut with
  | none => style.plain negative digits point
  | some (least, greatest) =>
    if least ≤ point ∧ point ≤ greatest then style.plain negative digits point
    else scientific negative digits point

/-- The numeral of a decimal other than zero. -/
def ofDecimal (style : Style) (negative : Bool) (d : Decimal) : Numeral :=
  let digits := Numeral.digits d.digits
  style.lay negative digits (digits.length + d.exponent)

/-- The numeral of a finite number; a zero keeps its sign. -/
def numeral? {f : Binary.Format} (style : Style) (x : Binary f) : Option Numeral :=
  match x.datum with
  | .finite negative units =>
    some (if units = 0 then ⟨negative, ['0'], style.wholeFraction, none⟩
      else style.ofDecimal negative (shortest x style.tie units))
  | _ => none

/-- The text of a number. What is not finite is `NaN`, `inf` or `-inf`. -/
def format {f : Binary.Format} (style : Style) (x : Binary f) : String :=
  match style.numeral? x with
  | some n => .ofList (n.text style.plusSign)
  | none => if x.isNaN then "NaN" else if x.isNegative then "-inf" else "inf"

end Style

/-- Numbers in generated programs and diagnostics: written out from `0.0001` to below
`1e16`, and always with a point or an exponent. -/
def literalStyle : Style := ⟨some (-3, 16), true, false, .up⟩

/-- Numbers in serialised values: written out from `0.000001` to below `1e13`, with a
signed exponent elsewhere. -/
def serialStyle : Style := ⟨some (-5, 13), true, true, .even⟩

/-- Numbers in messages: always written out, whole numbers without a point. -/
def messageStyle : Style := ⟨none, false, false, .up⟩

/-- Numbers that a template prints: always written out, and always with a point. -/
def templateStyle : Style := ⟨none, true, false, .up⟩

end RayShader.Decimal
