import RayShader.Json.Parse
import RayShader.Json.Writer
import RayShader.Proofs.Words

/-!
# Written JSON is read back

A value whose strings name texts and whose numerals are well formed is read back from
what is written of it (`Json.read?_write`). Each reader is followed over the characters
that the writer has put there, with arbitrary characters behind them; for numerals these
must not continue the numeral.

The reader runs on fuel. Every value and every separator takes up a character at least, so
twice the number of characters is fuel enough.
-/

namespace RayShader

/-! ### Digits -/

namespace Numeral

theorem digits_ne_nil (n : Nat) : digits n ≠ [] := Nat.toDigits_ne_nil

/-- Only zero starts with the digit zero. -/
theorem head?_digits {n : Nat} (h : 0 < n) : (digits n).head? ≠ some '0' := by
  induction n using Nat.strongRecOn with
  | ind n ih =>
    rw [digits, Nat.toDigits_eq_if (by decide)]
    split
    · rename_i lt
      have nonzero : ∀ k, k < 10 → 0 < k → Nat.digitChar k ≠ '0' := by decide
      simpa using nonzero n lt h
    · have first := ih (n / 10) (by omega) (by omega)
      rw [List.head?_append]
      cases head : (digits (n / 10)).head? with
      | none => exact absurd (List.head?_eq_none_iff.mp head) (digits_ne_nil _)
      | some c =>
        rw [head] at first
        rw [digits] at head
        simpa [head] using first

end Numeral

namespace Json

variable {ds cs rest : List Char}

theorem natOf_digits (n : Nat) : natOf (Numeral.digits n) = n := by
  have same : natOf (Numeral.digits n) = Nat.ofDigitChars 10 (Numeral.digits n) 0 := by
    simp only [natOf, Nat.ofDigitChars, Numeral.digitValue, Nat.mul_comm]
  rw [same, Numeral.digits, Nat.ofDigitChars_toDigits (by decide) (by decide)]

/-- No digit is at the front. -/
def NoDigit (cs : List Char) : Prop := ∀ c ∈ cs.head?, c.isDigit = false

theorem leadingDigits_append (hd : ∀ c ∈ ds, c.isDigit = true) (hr : NoDigit rest) :
    leadingDigits (ds ++ rest) = ds := by
  rw [leadingDigits, List.takeWhile_append_of_pos hd]
  cases rest with
  | nil => simp
  | cons c cs => simp [hr c rfl]

theorem afterDigits_append (hd : ∀ c ∈ ds, c.isDigit = true) (hr : NoDigit rest) :
    afterDigits (ds ++ rest) = rest := by
  rw [afterDigits, List.dropWhile_append_of_pos hd]
  cases rest with
  | nil => rfl
  | cons c cs => simp [hr c rfl]

end Json

/-! ### Numerals -/

/-- The numeral is written as the grammar has it. -/
structure Numeral.WellFormed (n : Numeral) : Prop where
  /-- There are digits before the point. -/
  whole_ne : n.whole ≠ []
  /-- They are digits. -/
  whole_digits : ∀ c ∈ n.whole, c.isDigit = true
  /-- Of several digits the first one is not zero. -/
  whole_head : n.whole.head? = some '0' → n.whole = ['0']
  /-- Behind the point are digits. -/
  fraction_digits : ∀ c ∈ n.fraction, c.isDigit = true

theorem Numeral.wellFormed_digits {n : Nat} (negative : Bool) :
    WellFormed ⟨negative, digits n, [], none⟩ where
  whole_ne := digits_ne_nil n
  whole_digits _ := Decimal.isDigit_of_mem_digits
  whole_head h := by
    rcases Nat.eq_zero_or_pos n with rfl | pos
    · rfl
    · exact absurd h (head?_digits pos)
  fraction_digits := by simp

namespace Json

variable {n : Numeral} {rest : List Char}

/-- The characters do not continue a numeral. -/
structure Ends (rest : List Char) : Prop where
  /-- They do not start with a digit. -/
  noDigit : NoDigit rest
  /-- They do not start with a point. -/
  noPoint : rest.head? ≠ some '.'
  /-- They do not start with an exponent. -/
  noExponent : rest.head? ≠ some 'e' ∧ rest.head? ≠ some 'E'

theorem whole?_append (hn : n.WellFormed) (hr : NoDigit rest) :
    whole? (n.whole ++ rest) = some (n.whole, rest) := by
  unfold whole?
  rw [leadingDigits_append hn.whole_digits hr, afterDigits_append hn.whole_digits hr]
  split
  · rename_i none
    exact absurd none hn.whole_ne
  · rename_i zero
    rw [zero]
  · rename_i others zero
    have single := hn.whole_head (by rw [zero]; rfl)
    simp_all
  · rfl

theorem fraction?_append (hn : n.WellFormed) (digit : NoDigit rest) (point : rest.head? ≠ some '.') :
    fraction? ((if n.fraction = [] then [] else '.' :: n.fraction) ++ rest)
      = some (n.fraction, rest) := by
  by_cases empty : n.fraction = []
  · rw [if_pos empty, empty, List.nil_append]
    unfold fraction?
    split
    · simp at point
    · rfl
  · rw [if_neg empty, List.cons_append, fraction?, leadingDigits_append hn.fraction_digits digit,
      afterDigits_append hn.fraction_digits digit, if_neg empty]

theorem exponentDigits?_append (negative : Bool) (k : Nat) (hr : NoDigit rest) :
    exponentDigits? negative (Numeral.digits k ++ rest)
      = some (some (if negative then -(k : Int) else k), rest) := by
  have digits : ∀ c ∈ Numeral.digits k, c.isDigit = true := fun _ => Decimal.isDigit_of_mem_digits
  rw [exponentDigits?, leadingDigits_append digits hr, afterDigits_append digits hr,
    if_neg (Numeral.digits_ne_nil k), natOf_digits]

theorem signedExponent?_digits (k : Nat) (rest : List Char) :
    signedExponent? (Numeral.digits k ++ rest) = exponentDigits? false (Numeral.digits k ++ rest) := by
  obtain ⟨c, cs, start⟩ := List.exists_cons_of_ne_nil (Numeral.digits_ne_nil k)
  have digit : c.isDigit = true :=
    Decimal.isDigit_of_mem_digits (n := k) (by rw [start]; exact List.mem_cons_self)
  rw [start, List.cons_append]
  unfold signedExponent?
  split
  · rename_i minus
    obtain ⟨rfl, -⟩ := List.cons.inj minus
    exact absurd digit (by decide)
  · rename_i plus
    obtain ⟨rfl, -⟩ := List.cons.inj plus
    exact absurd digit (by decide)
  · rfl

/-- An exponent is read whether a plus sign is written or not. -/
theorem exponent?_append (plusSign : Bool) (e : Option Int) (hr : Ends rest) :
    exponent? (e.elim [] (Numeral.exponentText plusSign) ++ rest) = some (e, rest) := by
  cases e with
  | none =>
    rw [Option.elim_none, List.nil_append]
    unfold exponent?
    split
    · exact absurd rfl hr.noExponent.1
    · exact absurd rfl hr.noExponent.2
    · rfl
  | some e =>
    rw [Option.elim_some, Numeral.exponentText, List.cons_append, exponent?]
    by_cases negative : e < 0
    · rw [if_pos negative, List.singleton_append, List.cons_append, signedExponent?,
        exponentDigits?_append true _ hr.noDigit]
      have value : -(e.natAbs : Int) = e := by omega
      rw [if_pos rfl, value]
    · have value : (e.natAbs : Int) = e := by omega
      rw [if_neg negative]
      cases plusSign with
      | true =>
        rw [if_pos rfl, List.singleton_append, List.cons_append, signedExponent?,
          exponentDigits?_append false _ hr.noDigit, if_neg Bool.false_ne_true, value]
      | false =>
        rw [if_neg Bool.false_ne_true, List.nil_append, signedExponent?_digits,
          exponentDigits?_append false _ hr.noDigit, if_neg Bool.false_ne_true, value]

/-- A numeral is read back. -/
theorem numeral?_text (plusSign : Bool) (hn : n.WellFormed) (hr : Ends rest) :
    numeral? (n.text plusSign ++ rest) = some (n, rest) := by
  -- what stands behind the digits before the point, and behind those after it
  let tail := n.exponent.elim [] (Numeral.exponentText plusSign) ++ rest
  let back := (if n.fraction = [] then [] else '.' :: n.fraction) ++ tail
  have tail_digit : NoDigit tail := by
    cases he : n.exponent with
    | none => simpa [tail, he] using hr.noDigit
    | some e => simp [tail, he, Numeral.exponentText, NoDigit]
  have tail_point : tail.head? ≠ some '.' := by
    cases he : n.exponent with
    | none => simpa [tail, he] using hr.noPoint
    | some e => simp [tail, he, Numeral.exponentText]
  have back_digit : NoDigit back := by
    by_cases empty : n.fraction = []
    · simpa [back, empty] using tail_digit
    · simp [back, empty, NoDigit]
  have unsigned (negative : Bool) : unsigned? negative (n.whole ++ back)
      = some (⟨negative, n.whole, n.fraction, n.exponent⟩, rest) := by
    simp only [unsigned?, whole?_append hn back_digit, Option.bind_eq_bind, Option.bind_some,
      back, fraction?_append hn tail_digit tail_point, tail, exponent?_append plusSign n.exponent hr]
    rfl
  have text : n.text plusSign ++ rest = (if n.negative then ['-'] else []) ++ (n.whole ++ back) := by
    simp [Numeral.text, back, tail]
  rw [text]
  cases sign : n.negative with
  | true =>
    rw [if_pos rfl, List.singleton_append, numeral?, unsigned, ← sign]
  | false =>
    obtain ⟨c, cs, whole⟩ := List.exists_cons_of_ne_nil hn.whole_ne
    have digit : c.isDigit = true := hn.whole_digits c (by simp [whole])
    have start : c ≠ '-' := by
      rintro rfl
      exact absurd digit (by decide)
    rw [if_neg (by decide), List.nil_append]
    unfold numeral?
    split
    · rename_i other
      rw [whole, List.cons_append] at other
      exact absurd (List.cons.inj other).1 start
    · rw [unsigned, ← sign]

/-! ### Strings -/

theorem unit?_hexDigit : ∀ k < 32, unit? '0' '0' (hexDigit (k / 16)) (hexDigit (k % 16)) = some k := by
  decide

/-- The characters are read as one piece of a string, which makes the character. -/
def Spells (cs : List Char) (c : Char) : Prop :=
  ∃ p, (∀ more, pieces? (cs ++ more) = (pieces? more).map fun (ps, rest) => (p :: ps, rest)) ∧
    ∀ ps, assemble? none (p :: ps) = (assemble? none ps).map (c :: ·)

theorem spells_letter {letter c : Char} (h : escape? letter = some c) (hu : letter ≠ 'u') :
    Spells ['\\', letter] c := by
  refine ⟨.char c, fun more => ?_, fun ps => rfl⟩
  rw [List.cons_append, List.singleton_append, pieces?, h]
  · cases pieces? more <;> rfl
  · exact fun _ _ _ _ _ unicode _ => hu unicode

theorem spells_escaped (c : Char) : Spells (escaped c) c := by
  unfold escaped
  split
  any_goals exact spells_letter rfl (by decide)
  rename_i quote backslash _ _ _ _ _
  by_cases control : c.toNat < 0x20
  · -- a control character without a letter is written by its number
    refine ⟨.unit c.toNat, fun more => ?_, fun ps => ?_⟩
    · rw [if_pos control]
      cases h : pieces? more <;> simp [pieces?, unit?_hexDigit _ control, h]
    · have first : isFirstHalf c.toNat = false := by simp [isFirstHalf]; omega
      have second : isSecondHalf c.toNat = false := by simp [isSecondHalf]; omega
      simp [assemble?, first, second]
  · refine ⟨.char c, fun more => ?_, fun ps => rfl⟩
    rw [if_neg control, List.singleton_append, pieces?, if_neg (not_or.mpr ⟨backslash, control⟩)]
    · cases pieces? more <;> rfl
    · exact quote
    · exact fun _ _ _ _ _ same _ => backslash same
    · exact fun _ _ same _ => backslash same

theorem pieces?_flatMap (text rest : List Char) :
    ∃ ps, pieces? (text.flatMap escaped ++ '"' :: rest) = some (ps, rest) ∧
      assemble? none ps = some text := by
  induction text with
  | nil => exact ⟨[], by simp [pieces?], rfl⟩
  | cons c text ih =>
    obtain ⟨ps, read, made⟩ := ih
    obtain ⟨p, piece, makes⟩ := spells_escaped c
    refine ⟨p :: ps, ?_, by rw [makes, made]; rfl⟩
    rw [List.flatMap_cons, List.append_assoc, piece, read]
    rfl

/-- A string is read back. -/
theorem string?_write (s : String) (rest : List Char) :
    string? (s.toList.flatMap escaped ++ '"' :: rest) = some (some s, rest) := by
  obtain ⟨ps, read, made⟩ := pieces?_flatMap s.toList rest
  simp [string?, read, made]

/-! ### Values -/

/-- The strings and names of the value name texts, and its numerals are well formed. -/
inductive Writable : Json → Prop where
  /-- The value `null`. -/
  | null : Writable .null
  /-- A truth value. -/
  | bool (b : Bool) : Writable (.bool b)
  /-- A well formed number. -/
  | number {n : Numeral} (h : n.WellFormed) : Writable (.number n)
  /-- A text. -/
  | text (s : String) : Writable (.text s)
  /-- A list of such values. -/
  | array {xs : List Json} (h : ∀ x ∈ xs, Writable x) : Writable (.array xs)
  /-- An object of such values. -/
  | record {es : List (String × Json)} (h : ∀ e ∈ es, Writable e.2) : Writable (.record es)

/-- The characters start a value: with no space and with no closing bracket. -/
def Starts (cs : List Char) : Prop :=
  ∃ c more, cs = c :: more ∧ isSpace c = false ∧ c ≠ ']' ∧ c ≠ '\x7d'

theorem Starts.append {cs : List Char} (h : Starts cs) (rest : List Char) : Starts (cs ++ rest) := by
  obtain ⟨c, more, rfl, plain⟩ := h
  exact ⟨c, more ++ rest, rfl, plain⟩

theorem Starts.skipSpace {cs : List Char} (h : Starts cs) : skipSpace cs = cs := by
  obtain ⟨c, more, rfl, space, -⟩ := h
  simp [Json.skipSpace, space]

theorem starts_quoted (name : Option String) : Starts (quoted name) := by
  cases name with
  | some s => exact ⟨'"', _, rfl, by decide⟩
  | none => exact ⟨'"', _, rfl, by decide⟩

theorem ne_of_isDigit {c d : Char} (h : c.isDigit = true) (hd : d.isDigit = false) : c ≠ d := by
  rintro rfl
  rw [h] at hd
  cases hd

/-- A numeral starts with its sign or with a digit. -/
theorem starts_numeral {n : Numeral} (hn : n.WellFormed) :
    ∃ c more, n.text true = c :: more ∧ (c = '-' ∨ c.isDigit = true) := by
  obtain ⟨c, cs, whole⟩ := List.exists_cons_of_ne_nil hn.whole_ne
  simp only [Numeral.text, whole, List.append_assoc, List.cons_append]
  cases n.negative with
  | true => exact ⟨'-', _, rfl, .inl rfl⟩
  | false => exact ⟨c, _, rfl, .inr (hn.whole_digits c (by simp [whole]))⟩

theorem Writable.starts {j : Json} (h : j.Writable) : Starts j.chars := by
  cases h with
  | null => exact ⟨'n', _, rfl, by decide⟩
  | bool b => cases b <;> exact ⟨_, _, rfl, by decide⟩
  | number hn =>
    obtain ⟨c, more, text, start⟩ := starts_numeral hn
    refine ⟨c, more, text, ?_⟩
    rcases start with rfl | digit
    · decide
    · refine ⟨?_, ne_of_isDigit digit (by decide), ne_of_isDigit digit (by decide)⟩
      simp [isSpace, ne_of_isDigit digit]
  | text s => exact starts_quoted (some s)
  | @array xs _ => cases xs <;> exact ⟨_, _, rfl, by decide⟩
  | @record es _ => cases es <;> exact ⟨_, _, rfl, by decide⟩

/-! The reader, one form of value at a time. -/

variable {fuel : Nat} {cs : List Char}

theorem value?_quote (fuel : Nat) (cs : List Char) :
    value? (fuel + 1) ('"' :: cs) = (string? cs).map fun (s, cs) => (.string s, cs) := by
  rw [value?]
  rfl

theorem value?_bracket (h : Starts cs) :
    value? (fuel + 1) ('[' :: cs) = (items? fuel cs).map fun (xs, cs) => (.array xs, cs) := by
  have skip : skipSpace ('[' :: cs) = '[' :: cs := rfl
  rw [value?, skip]
  simp only [h.skipSpace]
  obtain ⟨c, more, rfl, -, bracket, -⟩ := h
  split
  · rename_i same
    exact absurd (List.cons.inj same).1 bracket
  · rfl

theorem value?_brace (h : Starts cs) :
    value? (fuel + 1) ('\x7b' :: cs) = (entries? fuel cs).map fun (es, cs) => (.object es, cs) := by
  have skip : skipSpace ('\x7b' :: cs) = '\x7b' :: cs := rfl
  rw [value?, skip]
  simp only [h.skipSpace]
  obtain ⟨c, more, rfl, -, -, brace⟩ := h
  split
  · rename_i same
    exact absurd (List.cons.inj same).1 brace
  · rfl

theorem value?_number {n : Numeral} (hn : n.WellFormed) {rest : List Char} :
    value? (fuel + 1) (n.text true ++ rest)
      = (numeral? (n.text true ++ rest)).map fun (n, cs) => (.number n, cs) := by
  have starts : Starts (n.text true ++ rest) := (Writable.number hn).starts.append rest
  obtain ⟨c, more, text, first⟩ := starts_numeral hn
  have ne {d : Char} (sign : d ≠ '-') (digit : d.isDigit = false) : c ≠ d := by
    rcases first with rfl | first
    · exact sign.symm
    · exact ne_of_isDigit first digit
  rw [value?, starts.skipSpace]
  simp only [text, List.cons_append]
  split
  iterate 6
    · rename_i same
      exact absurd (List.cons.inj same).1 (ne (by decide) (by decide))
  · rfl

/-- The value is read back from its characters, whatever ends it. -/
def ReadsBack (j : Json) : Prop := ∀ fuel rest, 2 * j.chars.length ≤ fuel → Ends rest →
  value? (fuel + 1) (j.chars ++ rest) = some (j, rest)

theorem ends_moreItems (xs : List Json) (rest : List Char) : Ends (moreItems xs ++ rest) := by
  cases xs <;> exact ⟨by simp [NoDigit, moreItems], by simp [moreItems], by simp [moreItems]⟩

theorem ends_moreEntries (es : List (Option String × Json)) (rest : List Char) :
    Ends (moreEntries es ++ rest) := by
  cases es <;> exact ⟨by simp [NoDigit, moreEntries], by simp [moreEntries], by simp [moreEntries]⟩

/-- A list is read back, one item and one separator after the other. -/
theorem items?_write {x : Json} {xs : List Json} (h : ∀ y ∈ x :: xs, ReadsBack y)
    (fuel : Nat) (rest : List Char)
    (enough : 2 * (x.chars.length + (moreItems xs).length) ≤ fuel) :
    items? fuel (x.chars ++ (moreItems xs ++ rest)) = some (x :: xs, rest) := by
  induction xs generalizing x fuel with
  | nil =>
    obtain ⟨fuel, rfl⟩ : ∃ k, fuel = k + 2 := Nat.exists_eq_add_of_le' (by
      simp only [moreItems, List.length_singleton] at enough
      omega)
    have value := h x (by simp) fuel (moreItems [] ++ rest) (by
      simp only [moreItems, List.length_singleton] at enough
      omega) (ends_moreItems ..)
    have last : skipSpace (moreItems [] ++ rest) = ']' :: rest := rfl
    rw [items?, value]
    simp only [last]
  | cons y ys ih =>
    have length : (moreItems (y :: ys)).length = 1 + (y.chars.length + (moreItems ys).length) := by
      simp [moreItems]
      omega
    obtain ⟨fuel, rfl⟩ : ∃ k, fuel = k + 2 := Nat.exists_eq_add_of_le' (by omega)
    have value := h x (by simp) fuel (moreItems (y :: ys) ++ rest) (by omega) (ends_moreItems ..)
    have others := ih (x := y) (fun z hz => h z (List.mem_cons_of_mem _ hz)) (fuel + 1) (by omega)
    have next : skipSpace (moreItems (y :: ys) ++ rest)
        = ',' :: (y.chars ++ (moreItems ys ++ rest)) := by
      simp [moreItems, skipSpace, isSpace]
    rw [items?, value]
    simp only [next, others]
    rfl

/-- An entry is read back; what stands behind it decides how to go on. -/
theorem entries?_entry {k : String} {x : Json} {cs rest : List Char}
    (value : value? fuel cs = some (x, rest)) :
    entries? (fuel + 1) (quoted (some k) ++ ':' :: cs) =
      match skipSpace rest with
      | '\x7d' :: cs => some ([(some k, x)], cs)
      | ',' :: cs => (entries? fuel cs).map fun (es, cs) => ((some k, x) :: es, cs)
      | _ => none := by
  have name : skipSpace (quoted (some k) ++ ':' :: cs)
      = '"' :: (k.toList.flatMap escaped ++ '"' :: ':' :: cs) := by
    simp [quoted, skipSpace, isSpace]
  have colon : skipSpace (':' :: cs) = ':' :: cs := rfl
  rw [entries?, name]
  simp only [string?_write, colon]
  exact value ▸ rfl

/-- The entries of a record. -/
def fieldsOf (es : List (String × Json)) : List (Option String × Json) :=
  es.map fun (k, x) => (some k, x)

/-- A record is read back, one entry and one separator after the other. -/
theorem entries?_write {k : String} {x : Json} {es : List (String × Json)}
    (h : ∀ e ∈ (k, x) :: es, ReadsBack e.2) (fuel : Nat) (rest : List Char)
    (enough : 2 * (x.chars.length + (moreEntries (fieldsOf es)).length) ≤ fuel) :
    entries? fuel (quoted (some k) ++ ':' :: (x.chars ++ (moreEntries (fieldsOf es) ++ rest)))
      = some (fieldsOf ((k, x) :: es), rest) := by
  have back : ReadsBack x := h (k, x) (by simp)
  -- an entry takes two of the fuel, and what stands behind it is shorter by at least one
  induction es generalizing k x fuel with
  | nil =>
    have length : (moreEntries (fieldsOf [])).length = 1 := rfl
    obtain ⟨fuel, rfl⟩ : ∃ k, fuel = k + 2 := Nat.exists_eq_add_of_le' (by omega)
    rw [entries?_entry (back fuel _ (by omega) (ends_moreEntries ..))]
    rfl
  | cons e es ih =>
    have length : e.2.chars.length + (moreEntries (fieldsOf es)).length
        < (moreEntries (fieldsOf (e :: es))).length := by
      simp [fieldsOf, moreEntries]
      omega
    obtain ⟨fuel, rfl⟩ : ∃ k, fuel = k + 2 := Nat.exists_eq_add_of_le' (by omega)
    have others := ih (k := e.1) (x := e.2) (fun f hf => h f (List.mem_cons_of_mem _ hf)) (fuel + 1)
      (by omega) (h e (by simp))
    have next : skipSpace (moreEntries (fieldsOf (e :: es)) ++ rest) = ',' :: (quoted (some e.1)
        ++ ':' :: (e.2.chars ++ (moreEntries (fieldsOf es) ++ rest))) := by
      simp [fieldsOf, moreEntries, skipSpace, isSpace]
    rw [entries?_entry (back fuel _ (by omega) (ends_moreEntries ..))]
    simp only [next, others]
    rfl

/-- What is written of a value is read back as that value. -/
theorem Writable.readsBack {j : Json} (h : j.Writable) : ReadsBack j := by
  induction h with
  | null => exact fun _ _ _ _ => rfl
  | bool b => cases b <;> exact fun _ _ _ _ => rfl
  | number hn =>
    intro fuel rest enough ends
    rw [chars, value?_number hn, numeral?_text true hn ends]
    rfl
  | text s =>
    intro fuel rest enough ends
    have written : (Json.text s).chars ++ rest = '"' :: (s.toList.flatMap escaped ++ '"' :: rest) := by
      simp [Json.text, chars, quoted]
    rw [written, value?_quote, string?_write]
    rfl
  | @array xs h ih =>
    intro fuel rest enough ends
    cases xs with
    | nil => rfl
    | cons x xs =>
      have first : Starts (x.chars ++ (moreItems xs ++ rest)) := (h x (by simp)).starts.append _
      have items := items?_write ih fuel rest (by
        simp only [chars, List.length_cons, List.length_append] at enough
        omega)
      rw [chars, List.cons_append, List.append_assoc, value?_bracket first, items]
      rfl
  | @record es h ih =>
    intro fuel rest enough ends
    cases es with
    | nil => rfl
    | cons e es =>
      have written : (Json.record (e :: es)).chars ++ rest = '\x7b' :: (quoted (some e.1)
          ++ ':' :: (e.2.chars ++ (moreEntries (fieldsOf es) ++ rest))) := by
        simp [Json.record, chars, fieldsOf]
      have entries := entries?_write ih fuel rest (by
        simp only [Json.record, List.map_cons, chars, List.length_cons, List.length_append] at enough
        simp only [fieldsOf]
        omega)
      rw [written, value?_brace ((starts_quoted _).append _), entries]
      rfl

/-- The text of a value is read back as that value. -/
theorem read?_write {j : Json} (h : j.Writable) : read? j.write = some j := by
  have ends : Ends [] := ⟨by simp [NoDigit], by simp, by simp⟩
  have back := h.readsBack (2 * j.chars.length + 1) [] (by omega) ends
  rw [List.append_nil] at back
  simp only [read?, write, String.toList_ofList, String.length_ofList, back]
  rfl

theorem parse_eq_ok {α : Type} {decode? : Json → Option α} {s : String} {a : α} :
    parse decode? s = .ok a ↔ ∃ j, read? s = some j ∧ decode? j = some a := by
  rw [← Option.bind_eq_some_iff, parse]
  cases (read? s).bind decode? <;> simp

theorem parse_write {α : Type} {decode? : Json → Option α} {j : Json} (h : j.Writable) {a : α}
    (decoded : decode? j = some a) : parse decode? j.write = .ok a :=
  parse_eq_ok.mpr ⟨j, read?_write h, decoded⟩

end Json

/-! ### Whole numbers -/

namespace Numeral

theorem le_foldl_digits (ds : List Char) (s : Nat) :
    s ≤ ds.foldl (fun n c => n * 10 + digitValue c) s := by
  induction ds generalizing s with
  | nil => exact Nat.le_refl s
  | cons c ds ih =>
    have next := ih (s * 10 + digitValue c)
    rw [List.foldl_cons]
    omega

/-- Digits whose number fits are all taken up. -/
theorem accumulate_eq {ds : List Char} {s : Nat}
    (h : ds.foldl (fun n c => n * 10 + digitValue c) s ≤ maxSignificand) :
    accumulate s ds = (ds.foldl (fun n c => n * 10 + digitValue c) s, []) := by
  induction ds generalizing s with
  | nil => rfl
  | cons c ds ih =>
    have fits : s * 10 + digitValue c ≤ maxSignificand :=
      Nat.le_trans (le_foldl_digits ds _) h
    rw [accumulate, if_pos fits, ih h]
    rfl

theorem accumulate_digits {n : Nat} (h : n ≤ maxSignificand) : accumulate 0 (digits n) = (n, []) := by
  have value : (digits n).foldl (fun n c => n * 10 + digitValue c) 0 = n := Json.natOf_digits n
  rw [accumulate_eq (value.symm ▸ h), value]

/-- A whole number that fits is the integer it stands for. -/
theorem integer?_ofInt {n : Int} (least : -0x8000000000000000 ≤ n) (greatest : n ≤ maxSignificand) :
    (ofInt n).integer? = some n := by
  have fits : n.natAbs ≤ maxSignificand := by
    simp only [maxSignificand] at *
    omega
  simp only [integer?, ofInt, accumulate_digits fits]
  by_cases negative : n < 0
  · have small : 0 < n.natAbs ∧ n.natAbs ≤ 0x8000000000000000 := by omega
    have value : -(n.natAbs : Int) = n := by omega
    simp only [negative, decide_true, Bool.not_true, Bool.false_eq_true, if_false, small, and_self,
      if_true, value]
  · have value : (n.natAbs : Int) = n := by omega
    simp only [negative, decide_false, Bool.not_false, if_true, value]

theorem value?_ofInt {n : Int} (least : -0x8000000000000000 ≤ n) (greatest : n ≤ maxSignificand) :
    (ofInt n).value? = some (.integer n) := by
  rw [value?, integer?_ofInt least greatest]

end Numeral

namespace Json

theorem writable_int (n : Int) : (int n).Writable := .number (Numeral.wellFormed_digits _)

theorem writable_count (n : UInt64) : (count n).Writable := writable_int _

theorem writable_optional (s : Option String) : (optional s).Writable := by
  cases s with
  | none => exact .null
  | some s => exact .text s

/-- A count is taken apart again. -/
theorem count?_count (n : UInt64) : (count n).count? = some n := by
  have small := n.toNat_lt
  have value : (Numeral.ofInt n.toNat).value? = some (.integer n.toNat) :=
    Numeral.value?_ofInt (by omega) (by simp only [Numeral.maxSignificand]; omega)
  simp only [count, int, count?, number?, value]
  simp

theorem optional?_optional (s : Option String) : (optional s).optional? = some s := by
  cases s <;> rfl

/-! ### Records -/

/-- The entries of a record with distinct known names are its fields. -/
theorem known?_fieldsOf {es : List (String × Json)} {names : List String}
    (distinct : (es.map (·.1)).Nodup) (known : ∀ e ∈ es, e.1 ∈ names) :
    known? names (fieldsOf es) = some es := by
  induction es with
  | nil => rfl
  | cons e es ih =>
    obtain ⟨first, others⟩ := List.forall_mem_cons.mp known
    obtain ⟨new, distinct⟩ := List.nodup_cons.mp distinct
    have fresh : es.any (·.1 = e.1) = false := by
      rw [List.any_eq_false]
      intro f hf same
      exact new (List.mem_map.mpr ⟨f, hf, of_decide_eq_true same⟩)
    have rest := ih distinct others
    rw [fieldsOf] at rest
    simp [fieldsOf, known?, rest, first, fresh]

theorem fields?_record {es : List (String × Json)} {names : List String}
    (known : es.map (·.1) = names) (distinct : names.Nodup) :
    (record es).fields? names = some es := by
  apply known?_fieldsOf
  · rw [known]
    exact distinct
  · intro e he
    rw [← known]
    exact List.mem_map_of_mem he

end Json

end RayShader
