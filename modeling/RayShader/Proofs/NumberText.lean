import RayShader.Proofs.JsonText

/-!
# Numerals of numbers

The numeral of a finite number is one that JSON can hold, and in a serialised value it is
never the numeral of a whole number: it has a point or an exponent. What decides this is
that the shortest decimal of a number other than zero has digits other than zero, so the
first digit of its numeral is none.
-/

namespace RayShader

theorem Binary.datum_of_isFinite {f : Format} {x : Binary f} (h : x.isFinite = true) :
    x.datum = .finite x.isNegative (unitsOf f x.magnitude) := by
  have small : x.magnitude < f.infinity := of_decide_eq_true h
  rw [datum, if_neg (by omega), if_neg (by omega)]

namespace Decimal

variable {f : Binary.Format} {x : Binary f} {tie : Tie}

/-! ### Shortest decimals -/

theorem pow_le_of_lt_digitCount {n k : Nat} (h : k + 1 < digitCount n) : Nat.pow 10 (k + 1) ≤ n := by
  apply Nat.le_of_not_lt
  intro small
  have short := (Nat.length_toDigits_le_iff (by decide) (Nat.succ_pos k)).mpr small
  exact absurd h (Nat.not_lt.mpr short)

/-- What is kept of a decimal has the digits before those that go, or one more. -/
theorem cut?_digits {d c : Decimal} {drop : Nat} (h : cut? x tie d drop = some c) :
    d.digits / Nat.pow 10 drop ≤ c.digits := by
  have kept : c.digits = d.digits / Nat.pow 10 drop ∨ c.digits = d.digits / Nat.pow 10 drop + 1 := by
    unfold cut? at h
    grind
  omega

theorem search_digits_pos {d : Decimal} (hd : 0 < d.digits) {drop : Nat}
    (h : drop < digitCount d.digits) : 0 < (search x tie d drop).digits := by
  induction drop with
  | zero => exact hd
  | succ drop ih =>
    rw [search]
    cases cut : cut? x tie d (drop + 1) with
    | none => exact ih (Nat.lt_of_succ_lt h)
    | some c =>
      have kept := cut?_digits cut
      have some_left : 0 < d.digits / Nat.pow 10 (drop + 1) :=
        Nat.div_pos (pow_le_of_lt_digitCount h) (Nat.pow_pos (by decide))
      exact Nat.lt_of_lt_of_le some_left kept

theorem strip_digits_pos (k : Nat) {d : Decimal} (h : 0 < d.digits) : 0 < (strip k d).digits := by
  induction k generalizing d with
  | zero => exact h
  | succ k ih =>
    rw [strip]
    split
    · apply ih
      show 0 < d.digits / 10
      omega
    · exact h

/-- The shortest decimal of a number other than zero is not zero. -/
theorem shortest_digits_pos (x : Binary f) (tie : Tie) {units : Nat} (h : units ≠ 0) :
    0 < (shortest x tie units).digits := by
  have exact_pos : 0 < (ofUnits f units).digits :=
    Nat.mul_pos (Nat.pos_of_ne_zero h) (Nat.pow_pos (by decide))
  have count : 0 < digitCount (ofUnits f units).digits := Nat.length_toDigits_pos
  exact strip_digits_pos _ (search_digits_pos exact_pos (by omega))

/-! ### Layouts -/

namespace Style

variable {style : Style} {ds : List Char}

/-- Digits of which the first one is not zero. -/
structure Leads (ds : List Char) : Prop where
  /-- They are digits. -/
  digits : ∀ c ∈ ds, c.isDigit = true
  /-- The first one is not zero. -/
  head : ∃ c cs, ds = c :: cs ∧ c ≠ '0'

theorem leads_digits {n : Nat} (h : 0 < n) : Leads (Numeral.digits n) := by
  obtain ⟨c, cs, start⟩ := List.exists_cons_of_ne_nil (Numeral.digits_ne_nil n)
  refine ⟨fun _ => isDigit_of_mem_digits, c, cs, start, fun zero => ?_⟩
  have first := Numeral.head?_digits h
  rw [start, zero] at first
  exact first rfl

/-- Whatever the point, the numeral is well formed. -/
theorem wellFormed_lay (h : Leads ds) (negative : Bool) (point : Int) :
    (style.lay negative ds point).WellFormed := by
  have laid (d : Char) (hd : d ∈ (style.lay negative ds point).whole
      ++ (style.lay negative ds point).fraction) : d.isDigit = true :=
    isDigit_of_mem_lay h.digits negative point hd
  obtain ⟨c, cs, rfl, lead⟩ := h.head
  have plain : (style.plain negative (c :: cs) point).whole = ['0'] ∨
      ∃ more, (style.plain negative (c :: cs) point).whole = c :: more := by
    unfold Style.plain
    split
    · exact .inl rfl
    · split
      · rename_i above _
        obtain ⟨k, hk⟩ : ∃ k, point.toNat = k + 1 := Nat.exists_eq_add_one_of_ne_zero (by omega)
        exact .inr ⟨cs.take k, by simp [hk]⟩
      · exact .inr ⟨_, rfl⟩
  have whole : (style.lay negative (c :: cs) point).whole = ['0'] ∨
      ∃ more, (style.lay negative (c :: cs) point).whole = c :: more := by
    unfold Style.lay
    split
    · exact plain
    · split
      · exact plain
      · exact .inr ⟨[], rfl⟩
  refine ⟨?_, fun d hd => laid d (List.mem_append_left _ hd), fun zero => ?_,
    fun d hd => laid d (List.mem_append_right _ hd)⟩
  · rcases whole with whole | ⟨more, whole⟩ <;> simp [whole]
  · rcases whole with whole | ⟨more, whole⟩
    · exact whole
    · rw [whole, List.head?_cons] at zero
      exact absurd (Option.some.inj zero) lead

/-- Where whole numbers show a point, every numeral has a point or an exponent. -/
theorem lay_ne_whole (hs : style.wholePoint = true) (negative : Bool) (point : Int) (ne : ds ≠ []) :
    (style.lay negative ds point).fraction ≠ [] ∨ (style.lay negative ds point).exponent ≠ none := by
  have plain : (style.plain negative ds point).fraction ≠ [] := by
    unfold Style.plain
    split
    · simp [ne]
    · split
      · simp only [ne_eq, List.drop_eq_nil_iff]
        omega
      · simp [wholeFraction, hs]
  unfold Style.lay
  split
  · exact .inl plain
  · split
    · exact .inl plain
    · exact .inr (by simp [scientific])

/-- The numeral of a finite number, in a style that shows the point of whole numbers. -/
theorem numeral?_finite (style : Style) (hs : style.wholePoint = true) {f : Binary.Format} {x : Binary f}
    (h : x.isFinite = true) :
    ∃ n, style.numeral? x = some n ∧ n.WellFormed ∧ (n.fraction ≠ [] ∨ n.exponent ≠ none) := by
  unfold numeral?
  rw [Binary.datum_of_isFinite h]
  by_cases zero : Binary.unitsOf f x.magnitude = 0
  · refine ⟨_, rfl, ?_⟩
    rw [if_pos zero]
    have fraction : style.wholeFraction = ['0'] := by rw [wholeFraction, if_pos hs]
    rw [fraction]
    exact ⟨⟨by simp, by simp, by simp, by simp⟩, .inl (by simp)⟩
  · refine ⟨_, rfl, ?_⟩
    rw [if_neg zero, ofDecimal]
    have lead := leads_digits (shortest_digits_pos x style.tie zero)
    exact ⟨wellFormed_lay lead _ _, lay_ne_whole hs _ _ (Numeral.digits_ne_nil _)⟩

end Style

end Decimal

namespace Json

/-- A number of a scene can be written, whatever it is. -/
theorem writable_single (x : Single) : (single x).Writable := by
  by_cases finite : x.isFinite = true
  · obtain ⟨n, written, wellFormed, -⟩ := Decimal.serialStyle.numeral?_finite rfl finite
    rw [single, written]
    exact .number wellFormed
  · have datum (negative : Bool) (units : Nat) : x.datum ≠ .finite negative units := by
      have large : ¬ x.magnitude < Binary.Format.single.infinity := by simpa [Binary.isFinite] using finite
      unfold Binary.datum
      split
      · simp
      · rw [if_pos (by omega)]
        simp
    have null : single x = .null := by
      unfold single Decimal.Style.numeral?
      split
      · rename_i found
        exact absurd found (datum _ _)
      · rfl
    rw [null]
    exact .null

/-- A numeral with a point or an exponent is not that of a whole number. -/
theorem integer?_eq_none {n : Numeral} (h : n.fraction ≠ [] ∨ n.exponent ≠ none) : n.integer? = none := by
  unfold Numeral.integer?
  split
  · simp_all
  · rfl

/-- A finite number that is read back from its text is not taken for a whole number. -/
theorem single_isReal {x : Single} (finite : x.isFinite = true)
    (back : parse single? (single x).write = .ok x) :
    ∃ n r, single x = .number n ∧ n.value? = some (.real r) ∧ r.convert = x := by
  obtain ⟨n, written, -, notWhole⟩ := Decimal.serialStyle.numeral?_finite rfl finite
  have number : single x = .number n := by
    rw [single, written]
    rfl
  have real : n.value? = n.real?.map .real := by
    rw [Numeral.value?, integer?_eq_none notWhole]
  have decoded : (n.real?.map .real).map Number.toSingle = some x := by
    obtain ⟨j, read, decoded⟩ := parse_eq_ok.mp back
    obtain rfl := Option.some.inj ((read?_write (writable_single x)).symm.trans read)
    rw [number, single?, number?, real] at decoded
    exact decoded
  cases hr : n.real? with
  | none =>
    rw [hr] at decoded
    cases decoded
  | some r =>
    rw [hr] at decoded
    exact ⟨n, r, number, by rw [real, hr]; rfl, Option.some.inj decoded⟩

end Json

end RayShader
