import RayShader.Proofs.Marks
import RayShader.Proofs.NumberText
import RayShader.Proofs.Rounding
import Mathlib.Tactic.NormNum

/-!
# What literals denote

The literal of a number is a text of the grammar, and the exact ratio that it denotes is
rounded to the number itself. The shortest decimal is found by reading candidates back, and
the last candidate is the exact value; taking zeros from its end and laying its digits out
change the writing of the ratio and not the ratio (`ratio_lay`).

So a literal is told from every other: the grammar has one numeral for a text, and a ratio
is rounded to one word of its sign.
-/

namespace RayShader

open Binary (IsRounded signedRatio unitsOf)

/-! ### Digits -/

namespace Json

variable {xs ys : List Char}

theorem foldl_digits (ds : List Char) (n : Nat) :
    ds.foldl (fun n c => n * 10 + Numeral.digitValue c) n = n * 10 ^ ds.length + natOf ds := by
  induction ds generalizing n with
  | nil => simp [natOf]
  | cons d ds ih =>
    rw [natOf, List.foldl_cons, List.foldl_cons, ih, ih, List.length_cons, Nat.pow_succ]
    ring

theorem natOf_append (xs ys : List Char) :
    natOf (xs ++ ys) = natOf xs * 10 ^ ys.length + natOf ys := by
  rw [natOf, List.foldl_append, foldl_digits]
  rfl

theorem natOf_zeros (k : Nat) : natOf (List.replicate k '0') = 0 := by
  induction k with
  | zero => rfl
  | succ k ih =>
    rw [List.replicate_succ', natOf_append, ih]
    rfl

end Json

/-- The ratio that a numeral denotes, without its sign. -/
def Numeral.ratio (n : Numeral) : ℚ :=
  Json.natOf (n.whole ++ n.fraction) * 10 ^ (n.exponent.getD 0 - n.fraction.length)

/-- The number that a numeral denotes. -/
def Numeral.toRat (n : Numeral) : ℚ := signedRatio n.negative n.ratio

namespace Decimal

/-! ### Decimals that read back -/

/-- The ratio that a decimal denotes. -/
def toRat (d : Decimal) : ℚ := d.digits * 10 ^ d.exponent

theorem den_pos (d : Decimal) : 0 < d.den := Nat.pow_pos (by decide)

theorem num_div_den (d : Decimal) : (d.num / d.den : ℚ) = d.toRat := by
  have whole : d.exponent = (d.exponent.toNat : Int) - ((-d.exponent).toNat : Int) := by omega
  have ten : (10 : ℚ) ≠ 0 := by norm_num
  rw [toRat, whole, zpow_sub₀ ten, zpow_natCast, zpow_natCast, num, den]
  push_cast [Nat.pow_eq]
  rw [mul_div_assoc]

theorem toRat_strip (k : Nat) (d : Decimal) : (strip k d).toRat = d.toRat := by
  induction k generalizing d with
  | zero => rfl
  | succ k ih =>
    rw [strip]
    split
    · rename_i zero
      have whole : (d.digits : ℚ) = (d.digits / 10 : Nat) * 10 := by
        exact_mod_cast (Nat.div_mul_cancel (Nat.dvd_of_mod_eq_zero zero)).symm
      rw [ih, toRat, toRat, zpow_add_one₀ (by norm_num), whole]
      ring
    · rfl

variable {f : Binary.Format} {x : Binary f} {tie : Tie} {d c : Decimal} {drop : Nat}

/-- A decimal reads back to a word if and only if the word is what its ratio is rounded to. -/
theorem toBinary_eq_iff (hf : 0 < f.fractionBits) :
    d.toBinary f x.isNegative = x ↔ IsRounded (signedRatio x.isNegative d.toRat) x := by
  rw [← num_div_den, eq_comm, toBinary, ← Binary.isRounded_iff_eq_ofRatio hf d.den_pos]
  exact and_iff_right rfl

theorem cut?_reads (h : cut? x tie d drop = some c) : c.toBinary f x.isNegative = x := by
  unfold cut? at h
  grind

theorem search_reads (exact : d.toBinary f x.isNegative = x) (tie : Tie) (drop : Nat) :
    (search x tie d drop).toBinary f x.isNegative = x := by
  induction drop with
  | zero => exact exact
  | succ drop ih =>
    rw [search]
    cases cut : cut? x tie d (drop + 1) with
    | none => exact ih
    | some c => exact cut?_reads cut

theorem toRat_ofUnits (f : Binary.Format) (units : Nat) :
    (ofUnits f units).toRat = units / 2 ^ f.scale := by
  have ten : (10 : ℚ) ^ f.scale = 5 ^ f.scale * 2 ^ f.scale := by
    rw [← mul_pow]
    norm_num
  rw [toRat, ofUnits, zpow_neg, zpow_natCast, ten]
  push_cast [Nat.pow_eq]
  field_simp

/-- The shortest decimal of a number reads back to it. -/
theorem shortest_reads (hf : 0 < f.fractionBits) (number : x.isNaN = false) (tie : Tie) :
    (shortest x tie (unitsOf f x.magnitude)).toBinary f x.isNegative = x := by
  have exact : (ofUnits f (unitsOf f x.magnitude)).toBinary f x.isNegative = x := by
    rw [toBinary_eq_iff hf, toRat_ofUnits]
    exact Binary.isRounded_value number
  have found := search_reads exact tie
    (digitCount (ofUnits f (unitsOf f x.magnitude)).digits - 1)
  rw [toBinary_eq_iff hf] at found ⊢
  rwa [shortest, toRat_strip]

/-! ### Layouts -/

namespace Style

variable {style : Style} {negative : Bool} {ds : List Char} {point : Int}

theorem negative_lay : (style.lay negative ds point).negative = negative := by
  unfold lay plain scientific
  split
  · split
    · rfl
    · split <;> rfl
  · split
    · split
      · rfl
      · split <;> rfl
    · rfl

theorem wholeFraction_eq (style : Style) : ∃ k, style.wholeFraction = List.replicate k '0' := by
  unfold wholeFraction
  split
  · exact ⟨1, rfl⟩
  · exact ⟨0, rfl⟩

/-- Digits in their places denote what they denote with the point at its place. -/
theorem ratio_plain : (style.plain negative ds point).ratio
    = Json.natOf ds * 10 ^ (point - ds.length) := by
  unfold plain
  split
  · have same : Json.natOf (['0'] ++ (List.replicate (-point).toNat '0' ++ ds)) = Json.natOf ds := by
      have zero : Json.natOf ['0'] = 0 := rfl
      rw [Json.natOf_append, Json.natOf_append, Json.natOf_zeros, zero]
      omega
    rw [Numeral.ratio, same, Option.getD_none]
    congr 2
    rw [List.length_append, List.length_replicate]
    omega
  · split
    · rw [Numeral.ratio, List.take_append_drop, Option.getD_none]
      congr 2
      rw [List.length_drop]
      omega
    · obtain ⟨k, zeros⟩ := wholeFraction_eq style
      have digits : Json.natOf (ds ++ List.replicate (point.toNat - ds.length) '0'
          ++ List.replicate k '0') = Json.natOf ds * 10 ^ (point.toNat - ds.length + k) := by
        rw [Json.natOf_append, Json.natOf_append, Json.natOf_zeros, Json.natOf_zeros,
          List.length_replicate, List.length_replicate, Nat.pow_add]
        ring
      have places : point - ds.length = ((point.toNat - ds.length + k : Nat) : Int) + (0 - (k : Int)) := by
        omega
      rw [Numeral.ratio, zeros, digits, Option.getD_none, List.length_replicate, places,
        zpow_add₀ (by norm_num), zpow_natCast]
      push_cast
      ring

/-- However they are laid out, digits denote what they denote with the point at its place. -/
theorem ratio_lay (ne : ds ≠ []) : (style.lay negative ds point).ratio
    = Json.natOf ds * 10 ^ (point - ds.length) := by
  have scientific : (scientific negative ds point).ratio
      = Json.natOf ds * 10 ^ (point - ds.length) := by
    have some_digit : 0 < ds.length := List.length_pos_iff.mpr ne
    rw [Style.scientific, Numeral.ratio, List.take_append_drop, Option.getD_some]
    congr 2
    rw [List.length_drop]
    omega
  unfold lay
  split
  · exact ratio_plain
  · split
    · exact ratio_plain
    · exact scientific

theorem toRat_ofDecimal (d : Decimal) :
    (style.ofDecimal negative d).toRat = signedRatio negative d.toRat := by
  have places : ((Numeral.digits d.digits).length + d.exponent - (Numeral.digits d.digits).length : Int)
      = d.exponent := by omega
  rw [Numeral.toRat, ofDecimal, negative_lay, ratio_lay (Numeral.digits_ne_nil _), Json.natOf_digits,
    places, toRat]

/-- The numeral of a finite number denotes a number that is rounded to it. -/
theorem isRounded_numeral {f : Binary.Format} {x : Binary f} {n : Numeral}
    (hf : 0 < f.fractionBits) (h : style.numeral? x = some n) :
    n.negative = x.isNegative ∧ IsRounded n.toRat x := by
  unfold numeral? at h
  split at h
  · rename_i negative units found
    obtain ⟨finite, rfl, rfl⟩ := Binary.datum_eq_finite found
    have number : x.isNaN = false := Binary.isNaN_eq_false.mpr (Nat.le_of_lt finite)
    obtain rfl := Option.some.inj h
    split
    · rename_i zero
      refine ⟨rfl, ?_⟩
      obtain ⟨k, zeros⟩ := wholeFraction_eq style
      have nothing : Json.natOf (['0'] ++ List.replicate k '0') = 0 := Json.natOf_zeros (k + 1)
      have own : Numeral.toRat ⟨x.isNegative, ['0'], style.wholeFraction, none⟩ = x.value := by
        rw [Numeral.toRat, Numeral.ratio, zeros, nothing, Binary.value, zero, Nat.cast_zero,
          zero_mul, zero_div]
      rw [own]
      exact Binary.isRounded_value number
    · refine ⟨negative_lay, ?_⟩
      rw [toRat_ofDecimal, ← toBinary_eq_iff hf]
      exact shortest_reads hf number style.tie
  · cases h

end Style

end Decimal

/-! ### Literals -/

namespace Program

variable {x y : Single} {n : Numeral} {text : String}

/-- The text is a literal of the grammar, and of this numeral: an optional sign, digits, and
then digits behind a point or an exponent or both. -/
structure IsLiteral (text : String) (n : Numeral) : Prop where
  /-- The text is that of the numeral. -/
  toList_eq : text.toList = n.text false
  /-- The numeral is written as the grammar has it. -/
  wellFormed : n.WellFormed
  /-- It is not a whole number. -/
  not_whole : n.fraction ≠ [] ∨ n.exponent ≠ none

theorem ends_nil : Json.Ends [] := ⟨by simp [Json.NoDigit], by simp, by simp⟩

/-- A literal is read as its numeral. -/
theorem IsLiteral.read (h : IsLiteral text n) : Json.numeral? text.toList = some (n, []) := by
  rw [h.toList_eq, ← List.append_nil (n.text false)]
  exact Json.numeral?_text false h.wellFormed ends_nil

theorem IsLiteral.unique {m : Numeral} (hn : IsLiteral text n) (hm : IsLiteral text m) : m = n :=
  congrArg Prod.fst (Option.some.inj (hm.read.symm.trans hn.read))

theorem floatLiteral_of_nan (h : x.isNaN = true) : floatLiteral x = "flt_nan" := by
  have datum : x.datum = .nan := by simpa [Binary.isNaN] using h
  rw [floatLiteral, datum]

theorem floatLiteral_infinity (negative : Bool) :
    floatLiteral (.infinity negative) = if negative then "-flt_inf" else "flt_inf" := by
  have datum : (Binary.infinity negative : Single).datum = .infinite negative := by
    cases negative <;> decide +kernel
  rw [floatLiteral, datum]

theorem floatLiteral_of_finite (h : x.isFinite = true) :
    ∃ n, Decimal.literalStyle.numeral? x = some n ∧ IsLiteral (floatLiteral x) n := by
  obtain ⟨n, numeral, wellFormed, not_whole⟩ := Decimal.literalStyle.numeral?_finite rfl h
  refine ⟨n, numeral, ?_, wellFormed, not_whole⟩
  rw [floatLiteral, Binary.datum_of_isFinite h]
  show (Decimal.literalStyle.format x).toList = n.text false
  rw [Decimal.Style.format, numeral, String.toList_ofList]
  rfl

/-- A word is no number, an infinity or finite. -/
theorem classified (x : Single) :
    x.isNaN = true ∨ (∃ negative, x = .infinity negative) ∨ x.isFinite = true := by
  cases number : x.isNaN with
  | true => exact .inl rfl
  | false =>
    refine .inr ?_
    rcases Nat.lt_or_eq_of_le (Binary.isNaN_eq_false.mp number) with finite | infinite
    · exact .inr (decide_eq_true finite)
    · have lt := Binary.infinity_lt_signBit .single
      refine .inl ⟨x.isNegative, Binary.ext_magnitude ?_ ?_⟩
      · rw [Binary.infinity, Binary.isNegative_ofMagnitude lt]
      · rw [Binary.infinity, Binary.magnitude_ofMagnitude lt, infinite]

/-- The only number of the sign of a literal that the denoted ratio is rounded to is the one
that was written. -/
theorem floatLiteral_denotes (h : x.isFinite = true) : ∃ n, IsLiteral (floatLiteral x) n ∧
    ∀ y : Single, y.isNegative = n.negative ∧ IsRounded n.toRat y ↔ y = x := by
  obtain ⟨n, numeral, literal⟩ := floatLiteral_of_finite h
  have fraction : 0 < Binary.Format.single.fractionBits := by decide
  obtain ⟨sign, rounded⟩ := Decimal.Style.isRounded_numeral fraction numeral
  refine ⟨n, literal, fun y => ⟨?_, ?_⟩⟩
  · rintro ⟨side, also⟩
    exact also.unique side sign.symm rounded
  · rintro rfl
    exact ⟨sign.symm, rounded⟩

/-- What is not finite has no literal of the grammar. -/
theorem read_of_not_finite (h : x.isFinite = false) : Json.numeral? (floatLiteral x).toList = none := by
  rcases classified x with number | ⟨negative, rfl⟩ | finite
  · rw [floatLiteral_of_nan number]
    decide +kernel
  · rw [floatLiteral_infinity]
    cases negative <;> decide +kernel
  · rw [finite] at h
    cases h

theorem isFinite_of_floatLiteral (h : x.isFinite = true) (same : floatLiteral x = floatLiteral y) :
    y.isFinite = true := by
  by_contra infinite
  obtain ⟨n, -, literal⟩ := floatLiteral_of_finite h
  have read := literal.read
  rw [same, read_of_not_finite (eq_false_of_ne_true infinite)] at read
  cases read

/-- Literals tell numbers apart. -/
theorem floatLiteral_inj :
    floatLiteral x = floatLiteral y ↔ x = y ∨ x.isNaN = true ∧ y.isNaN = true := by
  constructor
  · intro same
    by_cases finite : x.isFinite = true
    · obtain ⟨n, literal, only⟩ := floatLiteral_denotes finite
      obtain ⟨m, literal', only'⟩ := floatLiteral_denotes (isFinite_of_floatLiteral finite same)
      rw [← same] at literal'
      obtain rfl := literal.unique literal'
      exact .inl ((only y).mp ((only' y).mpr rfl)).symm
    · have also : ¬ y.isFinite = true := fun finite' =>
        finite (isFinite_of_floatLiteral finite' same.symm)
      rcases classified x with nanx | ⟨negative, rfl⟩ | finite'
      · rcases classified y with nany | ⟨negative, rfl⟩ | finite'
        · exact .inr ⟨nanx, nany⟩
        · rw [floatLiteral_of_nan nanx, floatLiteral_infinity] at same
          cases negative <;> exact absurd same (by decide)
        · exact absurd finite' also
      · rcases classified y with nany | ⟨negative', rfl⟩ | finite'
        · rw [floatLiteral_of_nan nany, floatLiteral_infinity] at same
          cases negative <;> exact absurd same (by decide)
        · rw [floatLiteral_infinity, floatLiteral_infinity] at same
          obtain rfl : negative = negative' := by
            revert same
            cases negative <;> cases negative' <;> decide
          exact .inl rfl
        · exact absurd finite' also
      · exact absurd finite' finite
  · rintro (rfl | ⟨nanx, nany⟩)
    · rfl
    · rw [floatLiteral_of_nan nanx, floatLiteral_of_nan nany]

theorem eq_of_floatLiteral (hx : x.isNaN = false) (same : floatLiteral x = floatLiteral y) : x = y :=
  (floatLiteral_inj.mp same).resolve_right fun nan => Bool.false_ne_true (hx.symm.trans nan.1)

/-- Literals are told apart by what stands before the first character that no literal has. -/
theorem floatLiteral_append {c : Char} (free : isLiteralChar c = false) {tail tail' : String}
    (ht : tail.toList.head? = some c) (ht' : tail'.toList.head? = some c)
    (same : floatLiteral x ++ tail = floatLiteral y ++ tail') :
    floatLiteral x = floatLiteral y ∧ tail = tail' :=
  Text.eq_of_break (not_mem_floatLiteral free x) (not_mem_floatLiteral free y) ht ht' same

/-- No component of the vector is `flt_nan`. -/
def IsNaNFree (v : Vec3) : Prop := v.x.isNaN = false ∧ v.y.isNaN = false ∧ v.z.isNaN = false

/-- The text of a call with the components of a vector, up to what stands behind them. -/
def components (v : Vec3) (tail : String) : String :=
  floatLiteral v.x ++ (", " ++ (floatLiteral v.y ++ (", " ++ (floatLiteral v.z ++ tail))))

theorem components_inj {v w : Vec3} (hv : IsNaNFree v) {c : Char} (free : isLiteralChar c = false)
    {tail : String} (ht : tail.toList.head? = some c) (same : components v tail = components w tail) :
    v = w := by
  have comma : isLiteralChar ',' = false := by decide
  have starts (s : String) : (", " ++ s).toList.head? = some ',' := by simp
  obtain ⟨x, same⟩ := floatLiteral_append comma (starts _) (starts _) same
  obtain ⟨y, same⟩ := floatLiteral_append comma (starts _) (starts _) ((String.append_right_inj _).mp same)
  obtain ⟨z, -⟩ := floatLiteral_append free ht ht ((String.append_right_inj _).mp same)
  obtain ⟨vx, vy, vz⟩ := v
  obtain ⟨wx, wy, wz⟩ := w
  obtain rfl : vx = wx := eq_of_floatLiteral hv.1 x
  obtain rfl : vy = wy := eq_of_floatLiteral hv.2.1 y
  obtain rfl : vz = wz := eq_of_floatLiteral hv.2.2 z
  rfl

theorem vec3Literal_injOn : Set.InjOn vec3Literal {v | IsNaNFree v} := by
  have call (v : Vec3) : vec3Literal v = "make_vec3(" ++ components v ")" := by
    unfold vec3Literal components
    simp only [String.append_assoc]
    rfl
  intro v hv w _ same
  rw [call, call, String.append_right_inj] at same
  exact components_inj (c := ')') hv (by decide) rfl same

theorem colorLiteral_injOn : Set.InjOn colorLiteral {v | IsNaNFree v} := by
  have call (v : Vec3) : colorLiteral v = "make_color(" ++ components v ", 1.0)" := by
    unfold colorLiteral components
    simp only [String.append_assoc]
    rfl
  intro v hv w _ same
  rw [call, call, String.append_right_inj] at same
  exact components_inj (c := ',') hv (by decide) rfl same

/-- **Literals denote the numbers that they are written for.** Every word is no number, an
infinity or finite, and its literal is of that kind. The literal of a finite word is of the
grammar, with one numeral, and has a point or an exponent; and the number that it denotes
is rounded to the nearest word of its sign, ties to even, which is the word itself. So
literals tell words apart, and vectors and colors with them. -/
theorem literals_denote :
    (∀ x : Single, x.isNaN = true ∨ (∃ negative, x = .infinity negative) ∨ x.isFinite = true) ∧
    (∀ x : Single, x.isNaN = true → floatLiteral x = "flt_nan") ∧
    floatLiteral (.infinity false) = "flt_inf" ∧ floatLiteral (.infinity true) = "-flt_inf" ∧
    (∀ x : Single, x.isFinite = true → ∃ n, IsLiteral (floatLiteral x) n ∧
      (∀ m, IsLiteral (floatLiteral x) m → m = n) ∧
      ∀ y : Single, y.isNegative = n.negative ∧ IsRounded n.toRat y ↔ y = x) ∧
    (∀ x y : Single, floatLiteral x = floatLiteral y ↔ x = y ∨ x.isNaN = true ∧ y.isNaN = true) ∧
    Set.InjOn vec3Literal {v | IsNaNFree v} ∧ Set.InjOn colorLiteral {v | IsNaNFree v} := by
  refine ⟨classified, fun _ => floatLiteral_of_nan, floatLiteral_infinity false,
    floatLiteral_infinity true, fun x finite => ?_, fun x y => floatLiteral_inj,
    vec3Literal_injOn, colorLiteral_injOn⟩
  obtain ⟨n, literal, only⟩ := floatLiteral_denotes finite
  exact ⟨n, literal, fun m also => literal.unique also, only⟩

end Program

end RayShader
