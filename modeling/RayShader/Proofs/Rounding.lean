import RayShader.Binary.Rounding
import Mathlib.Algebra.Order.Field.Basic
import Mathlib.Algebra.Order.Field.Rat
import Mathlib.Data.Rat.Cast.Order
import Mathlib.Order.Monotone.Basic
import Mathlib.Tactic.FieldSimp
import Mathlib.Tactic.Linarith
import Mathlib.Tactic.Positivity
import Mathlib.Tactic.Ring

/-!
# Rounding to the nearest word

What rounding is does not depend on how it is computed: the rounded word is nearest to the
exact number among all words, and of two equally near values the one with the even magnitude
is taken. Here infinity counts as the value that would come behind the greatest one.

Magnitudes are in the order of their values (`unitsOf_strictMono`), so that the word nearest
to a number is one of the two between which the number lies. `Binary.ofRatio` finds the
lower one and takes the nearer of both (`nearest_roundMagnitude`), and there is no other
(`NearestMagnitude.unique`).
-/

namespace RayShader.Binary

variable {f : Format} {x y : Binary f}

/-! ### Words -/

theorem infinity_lt_signBit (f : Format) : f.infinity < f.signBit := by
  have fraction : 0 < 2 ^ f.fractionBits := Nat.two_pow_pos _
  have exponent : 0 < 2 ^ f.exponentBits := Nat.two_pow_pos _
  show (2 ^ f.exponentBits - 1) * 2 ^ f.fractionBits < 2 ^ (f.exponentBits + f.fractionBits)
  rw [Nat.pow_add]
  exact Nat.mul_lt_mul_of_pos_right (by omega) fraction

theorem width_eq (f : Format) : 2 ^ f.width = 2 * f.signBit := by
  show 2 ^ (1 + f.exponentBits + f.fractionBits) = 2 * 2 ^ (f.exponentBits + f.fractionBits)
  rw [Nat.add_assoc, Nat.pow_add, Nat.pow_one]

section OfMagnitude

variable {negative : Bool} {m : Nat}

theorem toNat_ofMagnitude (h : m < f.signBit) :
    (ofMagnitude f negative m).bits.toNat = (if negative then f.signBit else 0) + m := by
  rw [ofMagnitude, BitVec.toNat_ofNat, width_eq]
  apply Nat.mod_eq_of_lt
  split <;> omega

theorem magnitude_ofMagnitude (h : m < f.signBit) : (ofMagnitude f negative m).magnitude = m := by
  rw [magnitude, toNat_ofMagnitude h]
  cases negative with
  | true => simp [Nat.mod_eq_of_lt h]
  | false => simp [Nat.mod_eq_of_lt h]

theorem isNegative_ofMagnitude (h : m < f.signBit) :
    (ofMagnitude f negative m).isNegative = negative := by
  rw [isNegative, toNat_ofMagnitude h]
  cases negative with
  | true => simp
  | false => simpa using h

end OfMagnitude

theorem toNat_bits (x : Binary f) :
    x.bits.toNat = (if x.isNegative then f.signBit else 0) + x.magnitude := by
  have bound := x.bits.isLt
  rw [width_eq] at bound
  rw [isNegative, magnitude]
  by_cases sign : f.signBit ≤ x.bits.toNat
  · rw [decide_eq_true sign, if_pos rfl, Nat.mod_eq_sub_mod sign, Nat.mod_eq_of_lt (by omega)]
    omega
  · rw [decide_eq_false sign, if_neg (by decide), Nat.mod_eq_of_lt (by omega), Nat.zero_add]

/-- A word is its sign and its magnitude. -/
theorem ext_magnitude (sign : x.isNegative = y.isNegative) (same : x.magnitude = y.magnitude) :
    x = y := by
  have bits : x.bits.toNat = y.bits.toNat := by rw [toNat_bits, toNat_bits, sign, same]
  cases x
  cases y
  exact congrArg Binary.mk (BitVec.eq_of_toNat_eq bits)

theorem isNaN_eq_false : x.isNaN = false ↔ x.magnitude ≤ f.infinity := by
  unfold isNaN datum
  split
  · simpa using by assumption
  · split
    · simp_all
    · simp
      omega

theorem datum_eq_finite {negative : Bool} {units : Nat} (h : x.datum = .finite negative units) :
    x.magnitude < f.infinity ∧ x.isNegative = negative ∧ unitsOf f x.magnitude = units := by
  unfold datum at h
  split at h
  · cases h
  · split at h
    · cases h
    · cases h
      exact ⟨by omega, rfl, rfl⟩

/-! ### Values -/

theorem unitsOf_mul_add (f : Format) (exponent : Nat) {fraction : Nat}
    (h : fraction < 2 ^ f.fractionBits) :
    unitsOf f (exponent * 2 ^ f.fractionBits + fraction)
      = if exponent = 0 then fraction else (2 ^ f.fractionBits + fraction) * 2 ^ (exponent - 1) := by
  have pos : 0 < 2 ^ f.fractionBits := Nat.two_pow_pos _
  have high : (exponent * 2 ^ f.fractionBits + fraction) / 2 ^ f.fractionBits = exponent := by
    rw [Nat.add_comm, Nat.add_mul_div_right _ _ pos, Nat.div_eq_of_lt h, Nat.zero_add]
  have low : (exponent * 2 ^ f.fractionBits + fraction) % 2 ^ f.fractionBits = fraction := by
    rw [Nat.add_comm, Nat.add_mul_mod_self_right, Nat.mod_eq_of_lt h]
  simp only [unitsOf, Nat.pow_eq, high, low]

/-- From the first magnitude of a binade to the first of the next one, all steps are the
same. The binade of the least magnitudes has the steps of the one above it. -/
theorem unitsOf_steps {steps a : Nat} (normal : steps = 0 ∨ 2 ^ f.fractionBits ≤ a)
    (le : a ≤ 2 * 2 ^ f.fractionBits) :
    unitsOf f (steps * 2 ^ f.fractionBits + a) = a * 2 ^ steps := by
  have pos : 0 < 2 ^ f.fractionBits := Nat.two_pow_pos _
  rcases Nat.lt_or_ge a (2 ^ f.fractionBits) with small | large
  · obtain rfl : steps = 0 := normal.resolve_right (by omega)
    rw [unitsOf_mul_add f 0 small, if_pos rfl, Nat.pow_zero, Nat.mul_one]
  · rcases Nat.lt_or_eq_of_le le with inside | rfl
    · have split : steps * 2 ^ f.fractionBits + a
          = (steps + 1) * 2 ^ f.fractionBits + (a - 2 ^ f.fractionBits) := by
        rw [Nat.add_mul, Nat.one_mul]
        omega
      rw [split, unitsOf_mul_add f _ (by omega), if_neg (Nat.succ_ne_zero _), Nat.add_sub_cancel,
        Nat.add_sub_cancel' large]
    · have split : steps * 2 ^ f.fractionBits + 2 * 2 ^ f.fractionBits
          = (steps + 2) * 2 ^ f.fractionBits + 0 := by
        rw [Nat.add_mul, Nat.add_zero]
      rw [split, unitsOf_mul_add f _ pos, if_neg (by omega), Nat.add_zero,
        show steps + 2 - 1 = steps + 1 from rfl, Nat.pow_succ]
      ring

/-- Every magnitude is in a binade, or among the least magnitudes. -/
theorem exists_steps (f : Format) (m : Nat) : ∃ steps a, m = steps * 2 ^ f.fractionBits + a ∧
    (steps = 0 ∨ 2 ^ f.fractionBits ≤ a) ∧ a < 2 * 2 ^ f.fractionBits := by
  have rest := Nat.mod_lt m (Nat.two_pow_pos f.fractionBits)
  have whole := Nat.div_add_mod' m (2 ^ f.fractionBits)
  cases exponent : m / 2 ^ f.fractionBits with
  | zero =>
    rw [exponent] at whole
    exact ⟨0, m, by omega, .inl rfl, by omega⟩
  | succ steps =>
    rw [exponent, Nat.add_mul, Nat.one_mul] at whole
    exact ⟨steps, 2 ^ f.fractionBits + m % 2 ^ f.fractionBits, by omega, .inr (by omega), by omega⟩

theorem unitsOf_strictMono (f : Format) : StrictMono (unitsOf f) :=
  strictMono_nat_of_lt_succ fun m => by
    obtain ⟨steps, a, rfl, normal, lt⟩ := exists_steps f m
    rw [Nat.add_assoc, unitsOf_steps normal (Nat.le_of_lt lt),
      unitsOf_steps (normal.imp_right fun le => by omega) (by omega), Nat.add_mul, Nat.one_mul]
    exact Nat.lt_add_of_pos_right (Nat.two_pow_pos _)

/-! ### The nearest magnitude -/

/-- The magnitude is the one that a positive number of units is rounded to. -/
structure NearestMagnitude (f : Format) (units : ℚ) (m : Nat) : Prop where
  /-- The magnitude is finite, or that of infinity. -/
  le : m ≤ f.infinity
  /-- No other is nearer. -/
  nearest : ∀ k ≤ f.infinity, |units - unitsOf f m| ≤ |units - unitsOf f k|
  /-- If another one is as near, the magnitude is even. -/
  even : ∀ k ≤ f.infinity, k ≠ m → |units - unitsOf f k| = |units - unitsOf f m| → m % 2 = 0

namespace NearestMagnitude

variable {units : ℚ} {m k : Nat}

theorem unitsOf_le (h : k ≤ m) : (unitsOf f k : ℚ) ≤ unitsOf f m :=
  Nat.cast_le.mpr ((unitsOf_strictMono f).monotone h)

theorem unitsOf_lt (h : k < m) : (unitsOf f k : ℚ) < unitsOf f m :=
  Nat.cast_lt.mpr (unitsOf_strictMono f h)

/-- The lower one of two neighbours is nearest. -/
theorem lower (le : m ≤ f.infinity) (above : (unitsOf f m : ℚ) ≤ units)
    (near : units - unitsOf f m < unitsOf f (m + 1) - units ∨
      units - unitsOf f m = unitsOf f (m + 1) - units ∧ m % 2 = 0) :
    NearestMagnitude f units m := by
  have distance : |units - unitsOf f m| = units - unitsOf f m := abs_of_nonneg (by linarith)
  have behind {k : Nat} (lt : m < k) : unitsOf f (m + 1) - units ≤ |units - unitsOf f k| := by
    have next : (unitsOf f (m + 1) : ℚ) ≤ unitsOf f k := unitsOf_le lt
    have := neg_abs_le (units - unitsOf f k)
    linarith
  refine ⟨le, fun k _ => ?_, fun k _ ne same => ?_⟩
  · rw [distance]
    rcases Nat.lt_or_ge m k with lt | before
    · have := behind lt
      rcases near with near | ⟨near, -⟩ <;> linarith
    · have := le_abs_self (units - unitsOf f k)
      have := unitsOf_le (f := f) before
      linarith
  · rcases near with near | ⟨-, even⟩
    · rw [distance] at same
      rcases Nat.lt_or_gt_of_ne ne with before | lt
      · have := le_abs_self (units - unitsOf f k)
        have := unitsOf_lt (f := f) before
        linarith
      · have := behind lt
        linarith
    · exact even

/-- The upper one of two neighbours is nearest. -/
theorem upper (le : m + 1 ≤ f.infinity) (below : units ≤ unitsOf f (m + 1))
    (near : unitsOf f (m + 1) - units < units - unitsOf f m ∨
      unitsOf f (m + 1) - units = units - unitsOf f m ∧ (m + 1) % 2 = 0) :
    NearestMagnitude f units (m + 1) := by
  have distance : |units - unitsOf f (m + 1)| = unitsOf f (m + 1) - units := by
    rw [abs_sub_comm]
    exact abs_of_nonneg (by linarith)
  have before {k : Nat} (lt : k < m + 1) : units - unitsOf f m ≤ |units - unitsOf f k| := by
    have last : (unitsOf f k : ℚ) ≤ unitsOf f m := unitsOf_le (Nat.le_of_lt_succ lt)
    have := le_abs_self (units - unitsOf f k)
    linarith
  refine ⟨le, fun k _ => ?_, fun k _ ne same => ?_⟩
  · rw [distance]
    rcases Nat.lt_or_ge k (m + 1) with lt | behind
    · have := before lt
      rcases near with near | ⟨near, -⟩ <;> linarith
    · have := neg_abs_le (units - unitsOf f k)
      have := unitsOf_le (f := f) behind
      linarith
  · rcases near with near | ⟨-, even⟩
    · rw [distance] at same
      rcases Nat.lt_or_gt_of_ne ne with lt | behind
      · have := before lt
        linarith
      · have := neg_abs_le (units - unitsOf f k)
        have := unitsOf_lt (f := f) behind
        linarith
    · exact even

/-- From its value on, infinity is nearest. -/
theorem beyond (above : (unitsOf f f.infinity : ℚ) ≤ units) : NearestMagnitude f units f.infinity := by
  have distance {k : Nat} (le : k ≤ f.infinity) : |units - unitsOf f k| = units - unitsOf f k := by
    have := unitsOf_le (f := f) le
    exact abs_of_nonneg (by linarith)
  refine ⟨Nat.le_refl _, fun k le => ?_, fun k le ne same => ?_⟩
  · rw [distance le, distance (Nat.le_refl _)]
    have := unitsOf_le (f := f) le
    linarith
  · rw [distance le, distance (Nat.le_refl _)] at same
    have := unitsOf_lt (f := f) (Nat.lt_of_le_of_ne le ne)
    linarith

/-- Of two neighbours, the one whose distance is less is nearest, and the even one if
neither is. -/
theorem between {left right : ℚ} (inside : m < f.infinity) (above : units - unitsOf f m = left)
    (below : unitsOf f (m + 1) - units = right) (hl : 0 ≤ left) (hr : 0 ≤ right) :
    (left < right → NearestMagnitude f units m) ∧
    (right < left → NearestMagnitude f units (m + 1)) ∧
    (left = right → NearestMagnitude f units (m + m % 2)) := by
  have low : (unitsOf f m : ℚ) ≤ units := by linarith
  have high : units ≤ unitsOf f (m + 1) := by linarith
  subst above below
  refine ⟨fun near => ?_, fun near => ?_, fun tie => ?_⟩
  · exact .lower (Nat.le_of_lt inside) low (.inl near)
  · exact .upper inside high (.inl near)
  · rcases Nat.mod_two_eq_zero_or_one m with even | odd
    · rw [even]
      exact .lower (Nat.le_of_lt inside) low (.inr ⟨tie, even⟩)
    · rw [odd]
      exact .upper inside high (.inr ⟨tie.symm, by omega⟩)

theorem not_lt (hm : NearestMagnitude f units m) (hk : NearestMagnitude f units k) : ¬ m < k := by
  intro lt
  have same : |units - unitsOf f k| = |units - unitsOf f m| :=
    le_antisymm (hk.nearest m hm.le) (hm.nearest k hk.le)
  have evenm := hm.even k hk.le (Nat.ne_of_gt lt) same
  have evenk := hk.even m hm.le (Nat.ne_of_lt lt) same.symm
  -- both are even, so there is one between them, and it is nearer than both
  have first := unitsOf_lt (f := f) (Nat.lt_succ_self m)
  have second := unitsOf_lt (f := f) (show m + 1 < k by omega)
  have between := hm.nearest (m + 1) (by have := hk.le; omega)
  rcases abs_cases (units - unitsOf f m) with ⟨eqm, _⟩ | ⟨eqm, _⟩ <;>
    rcases abs_cases (units - unitsOf f k) with ⟨eqk, _⟩ | ⟨eqk, _⟩ <;>
    rcases abs_cases (units - unitsOf f (m + 1)) with ⟨eqn, _⟩ | ⟨eqn, _⟩ <;>
    linarith

/-- There is one nearest magnitude. -/
theorem unique (hm : NearestMagnitude f units m) (hk : NearestMagnitude f units k) : m = k :=
  Nat.le_antisymm (Nat.not_lt.mp (hk.not_lt hm)) (Nat.not_lt.mp (hm.not_lt hk))

end NearestMagnitude

/-! ### The quotient -/

section Quotient

variable {den : Nat}

/-- Cut to one bit more than a fraction has, a number is in a binade, or among the least
magnitudes. -/
theorem shiftRight_bounds (n p : Nat) : n / 2 ^ (n.log2 - p) < 2 * 2 ^ p ∧
    (n.log2 - p = 0 ∨ 2 ^ p ≤ n / 2 ^ (n.log2 - p)) := by
  rcases Nat.eq_zero_or_pos n with rfl | pos
  · exact ⟨by simp, .inl (by simp)⟩
  · have ne : n ≠ 0 := Nat.ne_of_gt pos
    have below : n < 2 ^ (n.log2 + 1) := (Nat.log2_lt ne).mp (Nat.lt_succ_self _)
    have above : 2 ^ n.log2 ≤ n := (Nat.le_log2 ne).mp (Nat.le_refl _)
    constructor
    · apply Nat.div_lt_of_lt_mul
      have enough : 2 ^ (n.log2 + 1) ≤ 2 ^ (n.log2 - p + (p + 1)) :=
        Nat.pow_le_pow_right (by decide) (by omega)
      calc n < 2 ^ (n.log2 + 1) := below
        _ ≤ 2 ^ (n.log2 - p + (p + 1)) := enough
        _ = 2 ^ (n.log2 - p) * (2 * 2 ^ p) := by rw [Nat.pow_add, Nat.pow_succ, Nat.mul_comm (2 ^ p)]
    · rcases Nat.eq_zero_or_pos (n.log2 - p) with none | some
      · exact .inl none
      · refine .inr ((Nat.le_div_iff_mul_le (Nat.two_pow_pos _)).mpr ?_)
        rwa [← Nat.pow_add, Nat.add_sub_cancel' (by omega)]

/-- The exact ratio lies between two neighbouring magnitudes, and what is left of the
quotient says how far it is from both. -/
theorem quotient_between (num : Nat) (hd : 0 < den) :
    ∃ steps, roundMagnitude f num den = min (steps * 2 ^ f.fractionBits
        + roundQuotient (num * 2 ^ f.scale) (den * 2 ^ steps)) f.infinity ∧
      let low := steps * 2 ^ f.fractionBits + num * 2 ^ f.scale / (den * 2 ^ steps)
      let rest := num * 2 ^ f.scale % (den * 2 ^ steps)
      (num * 2 ^ f.scale / den : ℚ) - unitsOf f low = rest / den ∧
        unitsOf f (low + 1) - (num * 2 ^ f.scale / den : ℚ) = (den * 2 ^ steps - rest) / den := by
  obtain ⟨lt, normal⟩ := shiftRight_bounds (num * 2 ^ f.scale / den) f.fractionBits
  refine ⟨(num * 2 ^ f.scale / den).log2 - f.fractionBits, rfl, ?_⟩
  rw [Nat.div_div_eq_div_mul] at lt normal
  generalize (num * 2 ^ f.scale / den).log2 - f.fractionBits = steps at lt normal ⊢
  have whole := Nat.div_add_mod (num * 2 ^ f.scale) (den * 2 ^ steps)
  generalize num * 2 ^ f.scale / (den * 2 ^ steps) = a at lt normal whole ⊢
  generalize num * 2 ^ f.scale % (den * 2 ^ steps) = rest at whole ⊢
  have exact : (den * 2 ^ steps * a + rest : ℚ) = num * 2 ^ f.scale := by exact_mod_cast whole
  have pos : (den : ℚ) ≠ 0 := Nat.cast_ne_zero.mpr (Nat.ne_of_gt hd)
  have low : unitsOf f (steps * 2 ^ f.fractionBits + a) = a * 2 ^ steps :=
    unitsOf_steps normal (Nat.le_of_lt lt)
  have high : unitsOf f (steps * 2 ^ f.fractionBits + a + 1) = (a + 1) * 2 ^ steps := by
    rw [Nat.add_assoc]
    exact unitsOf_steps (normal.imp_right fun le => by omega) (by omega)
  refine ⟨?_, ?_⟩
  · rw [low, ← exact]
    push_cast
    field_simp
    ring
  · rw [high, ← exact]
    push_cast
    field_simp
    ring

theorem roundQuotient_cases (n d : Nat) :
    2 * (n % d) < d ∧ roundQuotient n d = n / d ∨
    d < 2 * (n % d) ∧ roundQuotient n d = n / d + 1 ∨
    2 * (n % d) = d ∧ roundQuotient n d = n / d + n / d % 2 := by
  rw [roundQuotient]
  rcases Nat.lt_trichotomy (2 * (n % d)) d with lt | eq | gt
  · exact .inl ⟨lt, if_pos lt⟩
  · exact .inr (.inr ⟨eq, by rw [if_neg (by omega), if_neg (by omega)]⟩)
  · exact .inr (.inl ⟨gt, by rw [if_neg (by omega), if_pos gt]⟩)

/-- The rounded magnitude is nearest to the ratio. -/
theorem nearest_roundMagnitude (hf : 0 < f.fractionBits) (num : Nat) (hd : 0 < den) :
    NearestMagnitude f (num * 2 ^ f.scale / den) (roundMagnitude f num den) := by
  obtain ⟨steps, rounded, above, below⟩ := quotient_between (f := f) num hd
  have rest_lt := Nat.mod_lt (num * 2 ^ f.scale) (Nat.mul_pos hd (Nat.two_pow_pos steps))
  have rounding := roundQuotient_cases (num * 2 ^ f.scale) (den * 2 ^ steps)
  have parity : steps * 2 ^ f.fractionBits % 2 = 0 :=
    Nat.mod_eq_zero_of_dvd (Dvd.dvd.mul_left (dvd_pow_self 2 (Nat.ne_of_gt hf)) steps)
  rw [rounded]
  generalize num * 2 ^ f.scale / (den * 2 ^ steps) = a at above below rounding
  generalize num * 2 ^ f.scale % (den * 2 ^ steps) = rest at above below rounding rest_lt
  generalize roundQuotient (num * 2 ^ f.scale) (den * 2 ^ steps) = result at rounding ⊢
  generalize steps * 2 ^ f.fractionBits = start at above below parity ⊢
  have dpos : (0 : ℚ) < den := Nat.cast_pos.mpr hd
  have left : (0 : ℚ) ≤ rest / den := by positivity
  have rest_le : (rest : ℚ) ≤ den * 2 ^ steps := by exact_mod_cast Nat.le_of_lt rest_lt
  have right : (0 : ℚ) ≤ (den * 2 ^ steps - rest) / den := div_nonneg (by linarith) dpos.le
  rcases Nat.lt_or_ge (start + a) f.infinity with inside | outside
  · obtain ⟨lower, upper, tie⟩ := NearestMagnitude.between inside above below left right
    rw [div_lt_div_iff_of_pos_right dpos] at lower upper
    rw [div_left_inj' dpos.ne'] at tie
    rcases rounding with ⟨near, rfl⟩ | ⟨near, rfl⟩ | ⟨near, rfl⟩
    · have near : (2 * rest : ℚ) < den * 2 ^ steps := by exact_mod_cast near
      rw [Nat.min_eq_left (Nat.le_of_lt inside)]
      exact lower (by linarith)
    · have near : (den * 2 ^ steps : ℚ) < 2 * rest := by exact_mod_cast near
      rw [← Nat.add_assoc, Nat.min_eq_left inside]
      exact upper (by linarith)
    · have near : (2 * rest : ℚ) = den * 2 ^ steps := by exact_mod_cast near
      have even : (start + a) % 2 = a % 2 := by omega
      rw [← Nat.add_assoc, ← even, Nat.min_eq_left (by omega)]
      exact tie (by linarith)
  · have least : a ≤ result := by
      rcases rounding with ⟨_, rfl⟩ | ⟨_, rfl⟩ | ⟨_, rfl⟩ <;> omega
    rw [Nat.min_eq_right (by omega)]
    have := NearestMagnitude.unitsOf_le (f := f) outside
    exact .beyond (by linarith)

end Quotient

/-! ### Words nearest to a number -/

/-- The number with a sign put to it. -/
def signedRatio (negative : Bool) (r : ℚ) : ℚ := if negative then -r else r

/-- The value of a word. Infinity counts as the value that comes behind the greatest one. -/
def value (x : Binary f) : ℚ := signedRatio x.isNegative (unitsOf f x.magnitude / 2 ^ f.scale)

/-- The word is what the number is rounded to: it is nearest to the number, and it is even if
another value is as near. -/
structure IsRounded (q : ℚ) (x : Binary f) : Prop where
  /-- The word is a number. -/
  number : x.isNaN = false
  /-- No other word is nearer. -/
  nearest : ∀ y : Binary f, y.isNaN = false → |q - x.value| ≤ |q - y.value|
  /-- If another value is as near, the word is even. -/
  even : ∀ y : Binary f, y.isNaN = false → y.value ≠ x.value → |q - y.value| = |q - x.value| →
    x.magnitude % 2 = 0

/-- A number is rounded to from its own value. -/
theorem isRounded_value (number : x.isNaN = false) : IsRounded x.value x where
  number := number
  nearest y _ := by
    rw [sub_self, abs_zero]
    exact abs_nonneg _
  even y _ ne same := by
    rw [sub_self, abs_zero, abs_eq_zero, sub_eq_zero] at same
    exact absurd same.symm ne

section Signed

variable {negative : Bool} {r : ℚ}

theorem abs_signedRatio_sub (negative : Bool) (a b : ℚ) :
    |signedRatio negative a - signedRatio negative b| = |a - b| := by
  cases negative with
  | true =>
    show |-a - -b| = |a - b|
    rw [← abs_neg, neg_sub_neg, neg_sub]
  | false => rfl

theorem unitsOf_zero (f : Format) : unitsOf f 0 = 0 := by
  simpa using unitsOf_mul_add f 0 (Nat.two_pow_pos f.fractionBits)

theorem scale_pos (f : Format) : (0 : ℚ) < 2 ^ f.scale := by positivity

/-- On the side of the sign, distances are those of magnitudes. -/
theorem abs_sub_value (sign : x.isNegative = negative) : |signedRatio negative r - x.value|
    = |r * 2 ^ f.scale - unitsOf f x.magnitude| / 2 ^ f.scale := by
  have apart : r - unitsOf f x.magnitude / 2 ^ f.scale
      = (r * 2 ^ f.scale - unitsOf f x.magnitude) / 2 ^ f.scale := by
    have := (scale_pos f).ne'
    field_simp
  rw [value, sign, abs_signedRatio_sub, apart, abs_div, abs_of_pos (scale_pos f)]

/-- On the other side of zero nothing is nearer than zero. -/
theorem abs_sub_value_of_ne (hr : 0 ≤ r) (sign : x.isNegative ≠ negative) :
    |signedRatio negative r - x.value| = r + unitsOf f x.magnitude / 2 ^ f.scale := by
  have nonneg : 0 ≤ r + unitsOf f x.magnitude / 2 ^ f.scale := by
    have := scale_pos f
    positivity
  have other : x.isNegative = !negative := Bool.eq_not.mpr sign
  rw [value, other]
  cases negative with
  | true =>
    show |-r - unitsOf f x.magnitude / 2 ^ f.scale| = _
    rw [← abs_of_nonneg nonneg, ← abs_neg]
    congr 1
    ring
  | false =>
    show |r - -(unitsOf f x.magnitude / 2 ^ f.scale)| = _
    rw [sub_neg_eq_add, abs_of_nonneg nonneg]

theorem magnitude_eq_of_value (sign : x.isNegative = y.isNegative) (h : x.value = y.value) :
    x.magnitude = y.magnitude := by
  have zero := abs_signedRatio_sub y.isNegative (unitsOf f x.magnitude / 2 ^ f.scale)
    (unitsOf f y.magnitude / 2 ^ f.scale)
  rw [value, value, sign] at h
  rw [h, sub_self, abs_zero, eq_comm, abs_eq_zero, sub_eq_zero,
    div_left_inj' (scale_pos f).ne', Nat.cast_inj] at zero
  exact (unitsOf_strictMono f).injective zero

/-- Each magnitude is that of a word on the same side of zero. -/
theorem exists_of_magnitude (negative : Bool) {k : Nat} (le : k ≤ f.infinity) :
    ∃ y : Binary f, y.isNegative = negative ∧ y.magnitude = k ∧ y.isNaN = false := by
  have lt : k < f.signBit := Nat.lt_of_le_of_lt le (infinity_lt_signBit f)
  exact ⟨ofMagnitude f negative k, isNegative_ofMagnitude lt, magnitude_ofMagnitude lt,
    isNaN_eq_false.mpr (by rwa [magnitude_ofMagnitude lt])⟩

theorem IsRounded.nearestMagnitude (sign : x.isNegative = negative)
    (h : IsRounded (signedRatio negative r) x) :
    NearestMagnitude f (r * 2 ^ f.scale) x.magnitude := by
  refine ⟨isNaN_eq_false.mp h.number, fun k le => ?_, fun k le ne same => ?_⟩
  · obtain ⟨y, side, rfl, number⟩ := exists_of_magnitude negative le
    have near := h.nearest y number
    rwa [abs_sub_value sign, abs_sub_value side, div_le_div_iff_of_pos_right (scale_pos f)] at near
  · obtain ⟨y, side, rfl, number⟩ := exists_of_magnitude negative le
    refine h.even y number (fun eq => ne (magnitude_eq_of_value (side.trans sign.symm) eq)) ?_
    rw [abs_sub_value sign, abs_sub_value side, same]

/-- The nearest word is not farther than zero. -/
theorem NearestMagnitude.abs_sub_value_le (hr : 0 ≤ r) (sign : x.isNegative = negative)
    (h : NearestMagnitude f (r * 2 ^ f.scale) x.magnitude) :
    |signedRatio negative r - x.value| ≤ r := by
  have near := h.nearest 0 (Nat.zero_le _)
  rw [unitsOf_zero, Nat.cast_zero, sub_zero, abs_of_nonneg (mul_nonneg hr (scale_pos f).le)] at near
  rw [abs_sub_value sign]
  exact (div_le_iff₀ (scale_pos f)).mpr near

theorem NearestMagnitude.isRounded (hr : 0 ≤ r) (sign : x.isNegative = negative)
    (h : NearestMagnitude f (r * 2 ^ f.scale) x.magnitude) :
    IsRounded (signedRatio negative r) x := by
  have zero := h.abs_sub_value_le hr sign
  have other (y : Binary f) : (0 : ℚ) ≤ unitsOf f y.magnitude / 2 ^ f.scale :=
    div_nonneg (Nat.cast_nonneg _) (scale_pos f).le
  refine ⟨isNaN_eq_false.mpr h.le, fun y number => ?_, fun y number ne same => ?_⟩
  · by_cases side : y.isNegative = negative
    · rw [abs_sub_value sign, abs_sub_value side]
      exact div_le_div_of_nonneg_right (h.nearest _ (isNaN_eq_false.mp number)) (scale_pos f).le
    · rw [abs_sub_value_of_ne hr side]
      have := other y
      linarith
  · by_cases side : y.isNegative = negative
    · rw [abs_sub_value sign, abs_sub_value side, div_left_inj' (scale_pos f).ne'] at same
      refine h.even _ (isNaN_eq_false.mp number) (fun eq => ne ?_) same
      rw [value, value, eq, side, sign]
    · -- a value on the other side is as near only if it is zero
      rw [abs_sub_value_of_ne hr side] at same
      have none : (unitsOf f y.magnitude / 2 ^ f.scale : ℚ) = 0 :=
        le_antisymm (by linarith) (other y)
      refine h.even 0 (Nat.zero_le _) (fun eq => ne ?_) ?_
      · rw [value, value, none, ← eq, unitsOf_zero, Nat.cast_zero, zero_div]
        simp [signedRatio]
      · rw [none, add_zero, abs_sub_value sign, eq_div_iff (scale_pos f).ne'] at same
        rw [unitsOf_zero, Nat.cast_zero, sub_zero, ← same]
        exact abs_of_nonneg (mul_nonneg hr (scale_pos f).le)

/-- A number is rounded to one word of its sign. -/
theorem IsRounded.unique (hx : x.isNegative = negative) (hy : y.isNegative = negative)
    (h : IsRounded (signedRatio negative r) x) (h' : IsRounded (signedRatio negative r) y) : x = y :=
  ext_magnitude (hx.trans hy.symm) ((h.nearestMagnitude hx).unique (h'.nearestMagnitude hy))

/-- **A ratio is rounded to the nearest word, ties to even.** There is one word of a sign
that a ratio of this sign is rounded to. -/
theorem isRounded_iff_eq_ofRatio (hf : 0 < f.fractionBits) {num den : Nat} (hd : 0 < den) :
    x.isNegative = negative ∧ IsRounded (signedRatio negative (num / den)) x
      ↔ x = ofRatio negative num den := by
  have nonneg : (0 : ℚ) ≤ num / den := div_nonneg (Nat.cast_nonneg _) (Nat.cast_nonneg _)
  have rounded := nearest_roundMagnitude hf num hd
  have lt : roundMagnitude f num den < f.signBit :=
    Nat.lt_of_le_of_lt rounded.le (infinity_lt_signBit f)
  rw [← div_mul_eq_mul_div] at rounded
  have sign : (ofRatio negative num den : Binary f).isNegative = negative :=
    isNegative_ofMagnitude lt
  have itself : IsRounded (signedRatio negative (num / den)) (ofRatio negative num den : Binary f) := by
    refine NearestMagnitude.isRounded nonneg sign ?_
    rwa [ofRatio, magnitude_ofMagnitude lt]
  constructor
  · rintro ⟨side, h⟩
    exact h.unique side sign itself
  · rintro rfl
    exact ⟨sign, itself⟩

end Signed

end RayShader.Binary
