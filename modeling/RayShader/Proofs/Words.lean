import RayShader.Program.Literal
import RayShader.Shading.Tree
import Mathlib.Data.List.Basic

/-!
# Words of expressions

An expression uses a name if the name is one of its words: the longest stretches of
letters, digits and underscores. So `tex_12` does not use `tex_1`. The words of a text
are those of its parts wherever no two parts meet inside a word, which is how the words
of a call are those of its arguments and of what stands before them.

The literals of numbers have few different characters, and no word of a literal has
another one.
-/

namespace RayShader

/-! ### Words -/

namespace Text

/-- The character is part of a word. -/
def isWordChar (c : Char) : Bool := c.isAlphanum || c == '_'

/-- The words of a list of characters. -/
def wordsOf (cs : List Char) : List (List Char) :=
  (cs.splitOnP fun c => !isWordChar c).filter (· ≠ [])

/-- The words of a text. -/
def words (s : String) : List (List Char) := wordsOf s.toList

/-- The name is a word of the text. -/
def Mentions (s name : String) : Prop := name.toList ∈ words s

instance (s name : String) : Decidable (Mentions s name) :=
  inferInstanceAs (Decidable (name.toList ∈ words s))

/-- The text does not end inside a word. -/
def endsApart (s : String) : Bool := s.toList.getLast?.all fun c => !isWordChar c

/-- The text does not begin inside a word. -/
def startsApart (s : String) : Bool := s.toList.head?.all fun c => !isWordChar c

variable {s t name : String}

theorem wordsOf_append_cons {c : Char} (h : isWordChar c = false) (cs ds : List Char) :
    wordsOf (cs ++ c :: ds) = wordsOf cs ++ wordsOf ds := by
  unfold wordsOf
  rw [List.splitOnP_append_cons cs ds (by simp [h]), List.filter_append]

@[simp] theorem wordsOf_nil : wordsOf [] = [] := by decide

theorem words_append_of_endsApart (h : endsApart s = true) (t : String) :
    words (s ++ t) = words s ++ words t := by
  rw [words, words, words, String.toList_append]
  -- the last character is a break, and splitting at it drops nothing but itself
  rcases List.eq_nil_or_concat s.toList with empty | ⟨cs, c, ending⟩
  · rw [empty, List.nil_append, wordsOf_nil, List.nil_append]
  · have apart : isWordChar c = false := by simpa [endsApart, ending] using h
    rw [ending, List.concat_eq_append, List.append_assoc, List.singleton_append,
      wordsOf_append_cons apart, wordsOf_append_cons apart, wordsOf_nil, List.append_nil]

theorem words_append_of_startsApart (s : String) (h : startsApart t = true) :
    words (s ++ t) = words s ++ words t := by
  rw [words, words, words, String.toList_append]
  rcases beginning : t.toList with _ | ⟨c, cs⟩
  · rw [List.append_nil, wordsOf_nil, List.append_nil]
  · have apart : isWordChar c = false := by simpa [startsApart, beginning] using h
    have alone := wordsOf_append_cons apart [] cs
    rw [List.nil_append, wordsOf_nil, List.nil_append] at alone
    rw [wordsOf_append_cons apart, alone]

theorem endsApart_append (s : String) (h : endsApart t = true) (ht : t ≠ "") :
    endsApart (s ++ t) = true := by
  have nonempty : t.toList ≠ [] := by simpa using ht
  rw [endsApart, String.toList_append, List.getLast?_append_of_ne_nil _ nonempty]
  exact h

/-- A text without a break is one word. -/
theorem words_of_forall (hs : s ≠ "") (h : ∀ c ∈ s.toList, isWordChar c = true) :
    words s = [s.toList] := by
  have nonempty : s.toList ≠ [] := by simpa using hs
  rw [words, wordsOf, List.splitOnP_eq_singleton fun c hc => by simp [h c hc]]
  simp [nonempty]

theorem mem_of_mem_splitOnP {p : Char → Bool} {w cs : List Char} (hw : w ∈ cs.splitOnP p) {c : Char}
    (hc : c ∈ w) : c ∈ cs := by
  induction cs generalizing w with
  | nil =>
    rw [List.splitOnP_nil, List.mem_singleton] at hw
    rwa [hw] at hc
  | cons d cs ih =>
    rw [List.splitOnP_cons_eq_if_modifyHead] at hw
    split at hw
    · rcases List.mem_cons.mp hw with rfl | hw
      · cases hc
      · exact List.mem_cons_of_mem _ (ih hw hc)
    · obtain ⟨v, vs, split⟩ := List.exists_cons_of_ne_nil (List.splitOnP_ne_nil p cs)
      rw [split] at hw ih
      rcases List.mem_cons.mp hw with rfl | hw
      · rcases List.mem_cons.mp hc with rfl | hc
        · exact List.mem_cons_self ..
        · exact List.mem_cons_of_mem _ (ih (List.mem_cons_self ..) hc)
      · exact List.mem_cons_of_mem _ (ih (List.mem_cons_of_mem _ hw) hc)

/-- A text does not use a name that has another character. -/
theorem not_mentions_of_not_mem {c : Char} (hn : c ∈ name.toList) (hs : c ∉ s.toList) :
    ¬ Mentions s name := fun mentioned =>
  hs (mem_of_mem_splitOnP (List.mem_of_mem_filter mentioned) hn)

end Text

/-! ### Numbers -/

namespace Text

theorem toList_toString_nat (n : Nat) : (toString n).toList = Nat.toDigits 10 n := by
  rw [Nat.toString_eq_ofList_toDigits, String.toList_ofList]

theorem isDigit_of_mem_toString_nat {c : Char} {n : Nat} (h : c ∈ (toString n).toList) :
    c.isDigit = true := by
  rw [toList_toString_nat] at h
  exact Nat.isDigit_of_mem_toDigits (by decide) (by decide) h

theorem not_mem_toString_nat {c : Char} (h : c.isDigit = false) (n : Nat) :
    c ∉ (toString n).toList := by
  intro mem
  rw [isDigit_of_mem_toString_nat mem] at h
  cases h

theorem toString_nat_inj {m n : Nat} (h : toString m = toString n) : m = n := by
  rw [← String.toList_inj, toList_toString_nat, toList_toString_nat] at h
  rw [← Nat.ofDigitChars_ten_toDigits (n := m), h, Nat.ofDigitChars_ten_toDigits]

theorem toList_toString_negSucc (n : Nat) :
    (toString (Int.negSucc n)).toList = '-' :: (toString (n + 1)).toList := by
  show ("-" ++ toString (n + 1)).toList = _
  rw [String.toList_append]
  rfl

theorem not_mem_toString_int {c : Char} (h : c.isDigit = false) (sign : c ≠ '-') (n : Int) :
    c ∉ (toString n).toList := by
  cases n with
  | ofNat n => exact not_mem_toString_nat h n
  | negSucc n =>
    rw [toList_toString_negSucc, List.mem_cons, not_or]
    exact ⟨sign, not_mem_toString_nat h (n + 1)⟩

/-- A number begins with a digit or its sign, and goes on with digits. -/
theorem toList_toString_int (n : Int) : ∃ c cs, (toString n).toList = c :: cs ∧
    (c.isDigit = true ∨ c = '-') ∧ ∀ d ∈ cs, d.isDigit = true := by
  cases n with
  | ofNat n =>
    obtain ⟨c, cs, digits⟩ := List.exists_cons_of_ne_nil (Nat.toDigits_ne_nil (b := 10) (n := n))
    rw [← toList_toString_nat] at digits
    have digit : ∀ d ∈ c :: cs, d.isDigit = true := by
      intro d mem
      exact isDigit_of_mem_toString_nat (digits ▸ mem)
    exact ⟨c, cs, digits, .inl (digit c List.mem_cons_self),
      fun d mem => digit d (List.mem_cons_of_mem c mem)⟩
  | negSucc n =>
    exact ⟨'-', _, toList_toString_negSucc n, .inr rfl,
      fun d mem => isDigit_of_mem_toString_nat mem⟩

theorem toString_int_inj {m n : Int} (h : toString m = toString n) : m = n := by
  -- only negative numbers have the sign
  have apart (j k : Nat) : toString (Int.ofNat j) ≠ toString (Int.negSucc k) := by
    intro same
    have sign : '-' ∈ (toString (Int.ofNat j)).toList := by
      rw [same, toList_toString_negSucc]
      exact List.mem_cons_self
    exact not_mem_toString_nat (by decide) j sign
  cases m with
  | ofNat j =>
    cases n with
    | ofNat k => exact congrArg Int.ofNat (toString_nat_inj h)
    | negSucc k => exact absurd h (apart j k)
  | negSucc j =>
    cases n with
    | ofNat k => exact absurd h.symm (apart k j)
    | negSucc k =>
      rw [← String.toList_inj, toList_toString_negSucc, toList_toString_negSucc] at h
      have same : j + 1 = k + 1 := toString_nat_inj (String.toList_inj.mp (List.cons.inj h).2)
      rw [Nat.succ.inj same]

end Text

/-! ### Calls -/

namespace Program

/-- A call, given what stands before its arguments, with the parenthesis. -/
def callText (head : String) : List String → String
  | [] => head ++ ")"
  | arg :: args => args.foldl (fun s arg => s ++ ", " ++ arg) (head ++ arg) ++ ")"

open Text

variable {head : String} {args : List String}

theorem words_callText (h : endsApart head = true) :
    words (callText head args) = words head ++ args.flatMap words := by
  have comma : words ", " = [] := by decide
  have close : words ")" = [] := by decide
  have more (s : String) (args : List String) :
      words (args.foldl (fun s arg => s ++ ", " ++ arg) s) = words s ++ args.flatMap words := by
    induction args generalizing s with
    | nil => simp
    | cons arg args ih =>
      have apart : endsApart (s ++ ", ") = true := endsApart_append s (by decide) (by decide)
      rw [List.foldl_cons, ih, words_append_of_endsApart apart,
        words_append_of_startsApart s (by decide), comma]
      simp
  cases args with
  | nil => rw [callText, words_append_of_startsApart head (by decide), close]; rfl
  | cons arg args =>
    rw [callText, words_append_of_startsApart _ (by decide), more, words_append_of_endsApart h,
      close]
    simp

theorem mentions_callText (h : endsApart head = true) {name : String} :
    Mentions (callText head args) name ↔ Mentions head name ∨ ∃ arg ∈ args, Mentions arg name := by
  simp [Mentions, words_callText h]

/-- What two texts have together if both have it, and the commas and the bracket have, a call has
if its parts do. -/
theorem callText_of {P : String → Prop} (append : ∀ s t, P s → P t → P (s ++ t)) (comma : P ", ")
    (close : P ")") (h : P head) (ha : ∀ arg ∈ args, P arg) : P (callText head args) := by
  have more (args : List String) (ha : ∀ arg ∈ args, P arg) (s : String) (h : P s) :
      P (args.foldl (fun s arg => s ++ ", " ++ arg) s) := by
    induction args generalizing s with
    | nil => exact h
    | cons arg args ih =>
      obtain ⟨first, others⟩ := List.forall_mem_cons.mp ha
      exact ih others _ (append _ _ (append _ _ h comma) first)
  cases args with
  | nil => exact append _ _ h close
  | cons arg args =>
    obtain ⟨first, others⟩ := List.forall_mem_cons.mp ha
    exact append _ _ (more args others _ (append _ _ h first)) close

theorem not_mem_callText {c : Char} (hs : c ∉ [',', ' ', ')']) (h : c ∉ head.toList)
    (ha : ∀ arg ∈ args, c ∉ arg.toList) : c ∉ (callText head args).toList := by
  have append (s t : String) (hs : c ∉ s.toList) (ht : c ∉ t.toList) : c ∉ (s ++ t).toList := by
    simp [hs, ht]
  exact callText_of append (by simp_all) (by simp_all) h ha

end Program

/-! ### Literals -/

namespace Decimal

theorem isDigit_of_mem_digits {n : Nat} {c : Char} (h : c ∈ Numeral.digits n) : c.isDigit = true :=
  Nat.isDigit_of_mem_toDigits (by decide) (by decide) h

namespace Style

variable {style : Style} {digits : List Char} {c : Char}

theorem isDigit_of_mem_wholeFraction (h : c ∈ style.wholeFraction) : c.isDigit = true := by
  unfold wholeFraction at h
  split at h
  · obtain rfl := List.mem_singleton.mp h
    decide
  · cases h

theorem isDigit_of_mem_replicate {n : Nat} (h : c ∈ List.replicate n '0') : c.isDigit = true := by
  obtain rfl := List.eq_of_mem_replicate h
  decide

/-- Laying out digits gives digits before and behind the point. -/
theorem isDigit_of_mem_lay (hd : ∀ c ∈ digits, c.isDigit = true) (negative : Bool) (point : Int)
    (h : c ∈ (style.lay negative digits point).whole
      ++ (style.lay negative digits point).fraction) : c.isDigit = true := by
  have plain (h : c ∈ (style.plain negative digits point).whole
      ++ (style.plain negative digits point).fraction) : c.isDigit = true := by
    unfold Style.plain at h
    split at h
    · simp only [List.mem_append, List.mem_singleton] at h
      rcases h with rfl | zero | digit
      · decide
      · exact isDigit_of_mem_replicate zero
      · exact hd c digit
    · split at h
      · rw [List.take_append_drop] at h
        exact hd c h
      · simp only [List.mem_append] at h
        rcases h with (digit | zero) | fraction
        · exact hd c digit
        · exact isDigit_of_mem_replicate zero
        · exact isDigit_of_mem_wholeFraction fraction
  unfold Style.lay at h
  split at h
  · exact plain h
  · split at h
    · exact plain h
    · simp only [scientific, List.take_append_drop] at h
      exact hd c h

end Style

end Decimal

namespace Program

/-- The character may stand in the literal of a number. -/
def isLiteralChar (c : Char) : Bool := c.isDigit || "-._aefilnt".toList.contains c

theorem isLiteralChar_of_mem_numeral {n : Numeral}
    (hn : ∀ c ∈ n.whole ++ n.fraction, c.isDigit = true) {plusSign : Bool}
    (hp : plusSign = false) {c : Char} (h : c ∈ n.text plusSign) :
    isLiteralChar c = true := by
  have digit {c : Char} (h : c.isDigit = true) : isLiteralChar c = true := by
    rw [isLiteralChar, h, Bool.true_or]
  simp only [Numeral.text, List.mem_append] at h
  rcases h with ((sign | whole) | fraction) | exponent
  · split at sign
    · obtain rfl := List.mem_singleton.mp sign
      decide
    · cases sign
  · exact digit (hn c (List.mem_append_left _ whole))
  · split at fraction
    · cases fraction
    · rcases List.mem_cons.mp fraction with rfl | fraction
      · decide
      · exact digit (hn c (List.mem_append_right _ fraction))
  · cases he : n.exponent with
    | none => simp [he] at exponent
    | some e =>
      simp only [he, Option.elim_some, Numeral.exponentText, hp, List.mem_cons,
        List.mem_append] at exponent
      rcases exponent with rfl | sign | exponent
      · decide
      · split at sign
        · obtain rfl := List.mem_singleton.mp sign
          decide
        · cases sign
      · exact digit (Decimal.isDigit_of_mem_digits exponent)

theorem isLiteralChar_of_mem {x : Single} {c : Char} (h : c ∈ (floatLiteral x).toList) :
    isLiteralChar c = true := by
  unfold floatLiteral at h
  split at h
  · have known : "flt_nan".toList.all isLiteralChar = true := by decide
    exact List.all_eq_true.mp known c h
  · rename_i negative _
    have known : (if negative then "-flt_inf" else "flt_inf").toList.all isLiteralChar = true := by
      cases negative <;> decide
    exact List.all_eq_true.mp known c h
  · rename_i negative units found
    unfold Decimal.Style.format Decimal.Style.numeral? at h
    rw [found] at h
    simp only [String.toList_ofList] at h
    refine isLiteralChar_of_mem_numeral ?_ rfl h
    split
    · intro c hc
      rcases List.mem_append.mp hc with whole | fraction
      · obtain rfl := List.mem_singleton.mp whole
        decide
      · have fraction : c ∈ Decimal.literalStyle.wholeFraction := fraction
        exact Decimal.Style.isDigit_of_mem_wholeFraction fraction
    · exact fun c hc => Decimal.Style.isDigit_of_mem_lay
        (fun c hc => Decimal.isDigit_of_mem_digits hc) _ _ hc

/-! A character that is in no literal of a number and not in the name of the function is
in no literal of a vector or a color. -/

theorem not_mem_floatLiteral {c : Char} (h : isLiteralChar c = false) (x : Single) :
    c ∉ (floatLiteral x).toList := by
  intro mem
  rw [isLiteralChar_of_mem mem] at h
  cases h

theorem not_mem_vec3Literal {c : Char} (h : isLiteralChar c = false)
    (hs : c ∉ "make_vec3(, )".toList) (v : Vec3) : c ∉ (vec3Literal v).toList := by
  have call : vec3Literal v
      = callText "make_vec3(" [floatLiteral v.x, floatLiteral v.y, floatLiteral v.z] := rfl
  rw [call]
  refine not_mem_callText (by simp_all) (by simp_all) ?_
  simp [not_mem_floatLiteral h]

theorem not_mem_colorLiteral {c : Char} (h : isLiteralChar c = false)
    (hs : c ∉ "make_color(, 1.0)".toList) (v : Vec3) : c ∉ (colorLiteral v).toList := by
  have call : colorLiteral v
      = "make_color(" ++ floatLiteral v.x ++ ", " ++ floatLiteral v.y ++ ", " ++ floatLiteral v.z
        ++ ", 1.0)" := rfl
  rw [call]
  simp only [String.toList_append, List.mem_append, not_or]
  simp_all [not_mem_floatLiteral h]

end Program

end RayShader
