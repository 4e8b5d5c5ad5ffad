import RayShader.Proofs.Lines
import Mathlib.Data.Set.Function

/-!
# Expressions in texts

The text of an expression begins with a word: a number, a truth value or a name. Behind the word
of a call there is a bracket or a dot, and otherwise the expression ends (`Expr.text_eq`). So
wherever it is closed by a character that goes on neither with a word nor with a call, a text
has one expression with identifiers for names, and the expression is known with its end
(`Expr.IsLexical.readsBack`). By induction the arguments of a call are, and with expressions
the lines of calls and bindings.
-/

namespace RayShader

/-! ### Identifiers -/

namespace Text

/-- The character may begin an identifier: it is a letter or an underscore. All characters
beyond ASCII count as letters. -/
def isNameStart (c : Char) : Bool := c.isAlpha || c == '_' || 0x80 ≤ c.toNat

/-- The character may stand in an identifier. -/
def isNameChar (c : Char) : Bool := isNameStart c || c.isDigit

/-- The text is an identifier: a letter or an underscore, and then letters, digits and
underscores. -/
def isIdentifier (s : String) : Bool := s.toList.head?.any isNameStart && s.toList.all isNameChar

/-- The character may stand in the word that an expression begins with. -/
def isTokenChar (c : Char) : Bool := isNameChar c || c == '-'

/-- The text does not go on with a word that stands in front of it. -/
def endsWord (r : List Char) : Bool := r.head?.all fun c => !isTokenChar c

variable {s t : String} {c : Char} {r r' : List Char}

/-- No digit begins an identifier. -/
theorem isNameStart_of_isDigit (h : c.isDigit = true) : isNameStart c = false := by
  have digit : 48 ≤ c.toNat ∧ c.toNat ≤ 57 := by
    simpa [Char.isDigit, UInt32.le_iff_toNat_le] using h
  have upper : ¬ 'A'.val ≤ c.val := fun le => by
    have bound : 65 ≤ c.toNat := UInt32.le_iff_toNat_le.mp le
    omega
  have lower : ¬ 'a'.val ≤ c.val := fun le => by
    have bound : 97 ≤ c.toNat := UInt32.le_iff_toNat_le.mp le
    omega
  have letter : c.isAlpha = false := Bool.or_eq_false_iff.mpr
    ⟨decide_eq_false fun bounds => upper bounds.1,
      Bool.and_eq_false_iff.mpr (.inl (decide_eq_false lower))⟩
  have under : c ≠ '_' := by
    rintro rfl
    exact absurd h (by decide)
  simp [isNameStart, letter, under]
  omega

/-- No number is written as an identifier. -/
theorem isIdentifier_toString_int (n : Int) : isIdentifier (toString n) = false := by
  obtain ⟨c, cs, chars, first, -⟩ := toList_toString_int n
  have start : isNameStart c = false := by
    rcases first with digit | rfl
    · exact isNameStart_of_isDigit digit
    · decide
  rw [isIdentifier, chars]
  simp [start]

/-! Words that expressions may begin with. -/

/-- The text is such a word. -/
def IsToken (s : String) : Prop := s ≠ "" ∧ ∀ c ∈ s.toList, isTokenChar c = true

theorem IsToken.takeWhile_append (hs : IsToken s) (hr : endsWord r = true) :
    (s.toList ++ r).takeWhile isTokenChar = s.toList := by
  rw [List.takeWhile_append_of_pos hs.2]
  cases r with
  | nil => simp
  | cons c r =>
    have stop : isTokenChar c = false := by simpa [endsWord] using hr
    simp [stop]

/-- Texts that begin with words are equal if the words are, and what is behind them. -/
theorem IsToken.append_inj (hs : IsToken s) (ht : IsToken t) (hr : endsWord r = true)
    (hr' : endsWord r' = true) (h : s.toList ++ r = t.toList ++ r') : s = t ∧ r = r' := by
  have same : s = t := by
    rw [← String.toList_inj, ← hs.takeWhile_append hr, h, ht.takeWhile_append hr']
  subst same
  exact ⟨rfl, List.append_cancel_left h⟩

theorem isToken_of_isIdentifier (h : isIdentifier s = true) : IsToken s := by
  rw [isIdentifier, Bool.and_eq_true] at h
  refine ⟨?_, fun c mem => ?_⟩
  · rintro rfl
    exact absurd h.1 (by decide)
  · rw [isTokenChar, List.all_eq_true.mp h.2 c mem, Bool.true_or]

theorem isToken_toString_int (n : Int) : IsToken (toString n) := by
  obtain ⟨c, cs, chars, first, others⟩ := toList_toString_int n
  have digit {d : Char} (h : d.isDigit = true) : isTokenChar d = true := by
    simp [isTokenChar, isNameChar, h]
  refine ⟨fun empty => ?_, fun d mem => ?_⟩
  · simp [empty] at chars
  · rw [chars] at mem
    rcases List.mem_cons.mp mem with rfl | mem
    · rcases first with first | rfl
      · exact digit first
      · decide
    · exact digit (others d mem)

end Text

/-! ### Words of expressions -/

namespace Program

open Text (isIdentifier isTokenChar endsWord IsToken)

/-- The names in the expression are identifiers, and names for values are no truth values. -/
inductive Expr.IsLexical : Expr → Prop where
  /-- A number. -/
  | int (n : Int) : IsLexical (.int n)
  /-- A truth value. -/
  | bool (b : Bool) : IsLexical (.bool b)
  /-- A name. -/
  | ident {name : String} (identifier : isIdentifier name = true) (not_true : name ≠ "true")
    (not_false : name ≠ "false") : IsLexical (.ident name)
  /-- A call. -/
  | call {receiver : Option String} {function : String} {args : List Expr}
    (receivers : ∀ name ∈ receiver, isIdentifier name = true)
    (functions : isIdentifier function = true) (args_lexical : ∀ arg ∈ args, IsLexical arg) :
    IsLexical (.call receiver function args)

namespace Expr

/-- The text goes on neither with a word nor with a call that stands in front of it. -/
def closes (r : List Char) : Bool := endsWord r && r.head?.all fun c => c != '.' && c != '('

/-- The word that an expression begins with. -/
def word : Expr → String
  | int n => toString n
  | bool b => if b then "true" else "false"
  | ident name => name
  | call receiver function _ => receiver.getD function

/-- The arguments of a call and its end. -/
def argsText : List Expr → String
  | [] => ")"
  | arg :: args => arg.text ++ moreText args

/-- What stands behind the word. -/
def tail : Expr → String
  | call receiver function args => receiver.elim "" (fun _ => "." ++ function) ++ "(" ++ argsText args
  | _ => ""

variable {e e' : Expr} {args args' : List Expr} {r r' : List Char}

theorem text_eq (e : Expr) : e.text = e.word ++ e.tail := by
  cases e with
  | call receiver function args =>
    cases receiver <;> cases args <;>
      simp [text, word, tail, argsText, calleeText, String.append_assoc]
  | _ => simp [text, word, tail]

theorem IsLexical.isToken_word (h : e.IsLexical) : IsToken e.word := by
  cases h with
  | int n => exact Text.isToken_toString_int n
  | bool b => cases b <;> exact Text.isToken_of_isIdentifier (by decide)
  | ident identifier _ _ => exact Text.isToken_of_isIdentifier identifier
  | @call receiver _ _ receivers functions _ =>
    cases receiver with
    | none => exact Text.isToken_of_isIdentifier functions
    | some name => exact Text.isToken_of_isIdentifier (receivers name rfl)

/-- Behind the word there is nothing, a bracket or a dot. -/
theorem tail_cases (e : Expr) : e.tail = "" ∨ e.tail.toList.head? = some '(' ∨
    e.tail.toList.head? = some '.' := by
  cases e with
  | call receiver function args => cases receiver <;> simp [tail]
  | _ => exact .inl rfl

/-- The word ends where the rest of the expression begins. -/
theorem endsWord_tail_append (hr : closes r = true) : endsWord (e.tail.toList ++ r) = true := by
  rcases tail_cases e with none | bracket | dot
  · rw [none, String.toList_empty, List.nil_append]
    exact (Bool.and_eq_true_iff.mp hr).1
  · rw [endsWord, List.head?_append, bracket]
    rfl
  · rw [endsWord, List.head?_append, dot]
    rfl

/-- An expression that goes on behind its word is not closed there. -/
theorem closes_tail_append (h : e.tail ≠ "") : closes (e.tail.toList ++ r) = false := by
  rcases tail_cases e with none | bracket | dot
  · exact absurd none h
  · rw [closes, List.head?_append, bracket]
    exact Bool.and_false _
  · rw [closes, List.head?_append, dot]
    exact Bool.and_false _

/-- Where expressions are closed, equal texts have equal words, and the rest is equal. -/
theorem word_eq_of_append (he : e.IsLexical) (he' : e'.IsLexical) (hr : closes r = true)
    (hr' : closes r' = true) (h : e.text.toList ++ r = e'.text.toList ++ r') :
    e.word = e'.word ∧ e.tail.toList ++ r = e'.tail.toList ++ r' := by
  rw [text_eq, text_eq e', String.toList_append, String.toList_append, List.append_assoc,
    List.append_assoc] at h
  exact he.isToken_word.append_inj he'.isToken_word (endsWord_tail_append hr)
    (endsWord_tail_append hr') h

/-- The expression is known from its text, with its end, wherever it is closed. -/
def ReadsBack (e : Expr) : Prop :=
  ∀ e' r r', e'.IsLexical → closes r = true → closes r' = true →
    e.text.toList ++ r = e'.text.toList ++ r' → e = e' ∧ r = r'

/-! ### Numbers, truth values and names -/

theorem tail_call_ne (receiver : Option String) (function : String) (args : List Expr) :
    (call receiver function args).tail ≠ "" := by
  cases receiver <;> simp [tail]

theorem isIdentifier_word_bool (b : Bool) : isIdentifier (bool b).word = true := by
  cases b <;> decide

theorem toString_int_ne {s : String} (h : isIdentifier s = true) (n : Int) : toString n ≠ s := by
  rintro rfl
  exact Bool.false_ne_true ((Text.isIdentifier_toString_int n).symm.trans h)

/-- Expressions that are words are equal if the words are. -/
theorem IsLexical.eq_of_word (he : e.IsLexical) (he' : e'.IsLexical) (ht : e.tail = "")
    (ht' : e'.tail = "") (h : e.word = e'.word) : e = e' := by
  have apart {name : String} (not_true : name ≠ "true") (not_false : name ≠ "false") (b : Bool) :
      name ≠ (Expr.bool b).word := by
    cases b
    · exact not_false
    · exact not_true
  cases he with
  | int n =>
    cases he' with
    | int m => rw [Text.toString_int_inj h]
    | bool b => exact absurd h (toString_int_ne (isIdentifier_word_bool b) n)
    | ident identifier _ _ => exact absurd h (toString_int_ne identifier n)
    | call => exact absurd ht' (tail_call_ne _ _ _)
  | bool b =>
    cases he' with
    | int m => exact absurd h.symm (toString_int_ne (isIdentifier_word_bool b) m)
    | bool b' =>
      obtain rfl : b = b' := by
        revert h
        cases b <;> cases b' <;> decide
      rfl
    | ident _ not_true not_false => exact absurd h.symm (apart not_true not_false b)
    | call => exact absurd ht' (tail_call_ne _ _ _)
  | @ident name identifier not_true not_false =>
    cases he' with
    | int m => exact absurd h.symm (toString_int_ne identifier m)
    | bool b => exact absurd h (apart not_true not_false b)
    | ident => exact congrArg Expr.ident h
    | call => exact absurd ht' (tail_call_ne _ _ _)
  | call => exact absurd ht (tail_call_ne _ _ _)

theorem IsLexical.readsBack_of_word (he : e.IsLexical) (ht : e.tail = "") : e.ReadsBack := by
  intro e' r r' he' hr hr' h
  obtain ⟨words, rest⟩ := word_eq_of_append he he' hr hr' h
  have ht' : e'.tail = "" := by
    by_contra more
    have unclosed : closes (e'.tail.toList ++ r') = false := closes_tail_append more
    rw [← rest, ht, String.toList_empty, List.nil_append, hr] at unclosed
    cases unclosed
  rw [ht, ht'] at rest
  exact ⟨he.eq_of_word he' ht ht' words, rest⟩

/-! ### Calls -/

theorem closes_moreText (args : List Expr) (r : List Char) :
    closes ((moreText args).toList ++ r) = true := by
  cases args with
  | nil => rfl
  | cons arg args =>
    rw [moreText, String.append_assoc, String.toList_append, List.append_assoc]
    rfl

/-- Arguments behind the first one are known, with the end of the call. -/
theorem moreText_append_inj (each : ∀ arg ∈ args, arg.ReadsBack) (h' : ∀ arg ∈ args', arg.IsLexical)
    (h : (moreText args).toList ++ r = (moreText args').toList ++ r') : args = args' ∧ r = r' := by
  induction args generalizing args' with
  | nil =>
    cases args' with
    | nil => exact ⟨rfl, by simpa [moreText] using h⟩
    | cons arg' args' => simp [moreText] at h
  | cons arg args ih =>
    obtain ⟨first, others⟩ := List.forall_mem_cons.mp each
    cases args' with
    | nil => simp [moreText] at h
    | cons arg' args' =>
      obtain ⟨lexical, lexicals⟩ := List.forall_mem_cons.mp h'
      have behind : arg.text.toList ++ ((moreText args).toList ++ r)
          = arg'.text.toList ++ ((moreText args').toList ++ r') := by
        simpa [moreText, List.append_assoc] using h
      obtain ⟨rfl, rest⟩ := first _ _ _ lexical (closes_moreText ..) (closes_moreText ..) behind
      obtain ⟨rfl, rfl⟩ := ih others lexicals rest
      exact ⟨rfl, rfl⟩

/-- A call with arguments does not end in front of the first one. -/
theorem argsText_cons_ne {arg : Expr} (h : arg.IsLexical) :
    (argsText (arg :: args)).toList ++ r ≠ ')' :: r' := by
  obtain ⟨nonempty, tokens⟩ := h.isToken_word
  obtain ⟨c, cs, chars⟩ := List.exists_cons_of_ne_nil (mt String.toList_eq_nil_iff.mp nonempty)
  have token : isTokenChar c = true := tokens c (chars ▸ List.mem_cons_self)
  intro same
  rw [argsText, text_eq, String.toList_append, String.toList_append, chars] at same
  obtain ⟨rfl, -⟩ := List.cons.inj same
  exact absurd token (by decide)

/-- The arguments of a call are known, with its end. -/
theorem argsText_append_inj (each : ∀ arg ∈ args, arg.ReadsBack) (ha : ∀ arg ∈ args, arg.IsLexical)
    (h' : ∀ arg ∈ args', arg.IsLexical)
    (h : (argsText args).toList ++ r = (argsText args').toList ++ r') : args = args' ∧ r = r' := by
  cases args with
  | nil =>
    cases args' with
    | nil => exact ⟨rfl, by simpa [argsText] using h⟩
    | cons arg' args' => exact absurd h.symm (argsText_cons_ne (h' arg' List.mem_cons_self))
  | cons arg args =>
    cases args' with
    | nil => exact absurd h (argsText_cons_ne (ha arg List.mem_cons_self))
    | cons arg' args' =>
      -- arguments that are there go on like arguments behind a first one
      refine moreText_append_inj each h' ?_
      simpa [moreText, argsText, List.append_assoc] using h

/-- Calls with equal words are equal if the rest is, and it is known where they end. -/
theorem call_append_inj {receiver receiver' : Option String} {function function' : String}
    (he : (call receiver function args).IsLexical) (he' : (call receiver' function' args').IsLexical)
    (each : ∀ arg ∈ args, arg.ReadsBack)
    (words : (call receiver function args).word = (call receiver' function' args').word)
    (rest : (call receiver function args).tail.toList ++ r
      = (call receiver' function' args').tail.toList ++ r') :
    call receiver function args = call receiver' function' args' ∧ r = r' := by
  obtain _ | _ | _ | ⟨-, functions, lexical⟩ := he
  obtain _ | _ | _ | ⟨-, functions', lexical'⟩ := he'
  cases receiver with
  | none =>
    cases receiver' with
    | none =>
      obtain rfl : function = function' := words
      have behind : (argsText args).toList ++ r = (argsText args').toList ++ r' := by
        simpa [tail] using rest
      obtain ⟨rfl, rfl⟩ := argsText_append_inj each lexical lexical' behind
      exact ⟨rfl, rfl⟩
    | some name' => simp [tail] at rest
  | some name =>
    cases receiver' with
    | none => simp [tail] at rest
    | some name' =>
      obtain rfl : name = name' := words
      have method : function.toList ++ '(' :: ((argsText args).toList ++ r)
          = function'.toList ++ '(' :: ((argsText args').toList ++ r') := by
        simpa [tail] using rest
      -- the bracket ends the name of the method
      obtain ⟨rfl, behind⟩ := (Text.isToken_of_isIdentifier functions).append_inj
        (Text.isToken_of_isIdentifier functions') rfl rfl method
      obtain ⟨rfl, rfl⟩ := argsText_append_inj each lexical lexical' (List.cons.inj behind).2
      exact ⟨rfl, rfl⟩

/-- Expressions are known from their texts, with their ends. -/
theorem IsLexical.readsBack (h : e.IsLexical) : e.ReadsBack := by
  induction h with
  | int n => exact (IsLexical.int n).readsBack_of_word rfl
  | bool b => exact (IsLexical.bool b).readsBack_of_word rfl
  | ident identifier not_true not_false =>
    exact (IsLexical.ident identifier not_true not_false).readsBack_of_word rfl
  | call receivers functions lexical ih =>
    have he := IsLexical.call receivers functions lexical
    intro e' r r' he' hr hr' same
    by_cases none : e'.tail = ""
    · obtain ⟨rfl, rfl⟩ := he'.readsBack_of_word none _ _ _ he hr' hr same.symm
      exact ⟨rfl, rfl⟩
    · obtain ⟨words, rest⟩ := word_eq_of_append he he' hr hr' same
      cases he' with
      | call receivers' functions' lexical' =>
        exact call_append_inj he (.call receivers' functions' lexical') ih words rest
      | int | bool | ident => exact absurd rfl none

theorem text_injOn : Set.InjOn text {e | e.IsLexical} := by
  intro e he e' he' same
  have chars : e.text.toList ++ [] = e'.text.toList ++ [] := by rw [same]
  exact (IsLexical.readsBack he e' [] [] he' rfl rfl chars).1

end Expr

/-! ### Lines -/

namespace Fragment

/-- The fragment is a call or a binding whose names are identifiers. The type of a binding may
be any text. -/
def IsLexical : Fragment → Prop
  | statement call => call.toExpr.IsLexical
  | binding name value _ => isIdentifier name = true ∧ value.IsLexical
  | source _ | inline _ | blank => False

/-- What stands behind the value of a binding. -/
def typeText (type : Option String) : String := type.elim "" (" : " ++ ·) ++ ";"

variable {f f' : Fragment} {call call' : Call} {name name' : String} {value value' : Expr}
  {type type' : Option String}

theorem toList_content_statement (call : Call) :
    (statement call).content.toList = indent.toList ++ (call.toExpr.text.toList ++ [';']) := by
  simp [content, Call.text]

theorem toList_content_binding (name : String) (value : Expr) (type : Option String) :
    (binding name value type).content.toList = indent.toList ++ ("let".toList ++ (' ' ::
      (name.toList ++ (' ' :: ("= ".toList ++ (value.text.toList ++ (typeText type).toList)))))) := by
  simp [content, typeText]

theorem closes_typeText (type : Option String) : Expr.closes (typeText type).toList = true := by
  cases type with
  | none => rfl
  | some t =>
    rw [typeText, Option.elim_some, String.append_assoc, String.toList_append]
    rfl

theorem typeText_inj (h : typeText type = typeText type') : type = type' := by
  rw [typeText, typeText, String.append_left_inj] at h
  cases type with
  | none =>
    cases type' with
    | none => rfl
    | some t' => simp at h
  | some t =>
    cases type' with
    | none => simp at h
    | some t' => simpa using h

/-- A call is no binding: no call goes on with a blank behind its first word. -/
theorem statement_ne_binding (hc : call.toExpr.IsLexical) :
    (statement call).content ≠ (binding name value type).content := by
  intro same
  have chars := congrArg String.toList same
  rw [toList_content_statement, toList_content_binding, List.append_cancel_left_eq, Expr.text_eq,
    String.toList_append, List.append_assoc] at chars
  have word : IsToken "let" := Text.isToken_of_isIdentifier rfl
  obtain ⟨-, rest⟩ := hc.isToken_word.append_inj word (Expr.endsWord_tail_append rfl) rfl chars
  have goes : Expr.closes (call.toExpr.tail.toList ++ [';']) = false :=
    Expr.closes_tail_append (Expr.tail_call_ne _ _ _)
  rw [rest] at goes
  exact Bool.false_ne_true goes.symm

theorem statement_inj (hc : call.toExpr.IsLexical) (hc' : call'.toExpr.IsLexical)
    (h : (statement call).content = (statement call').content) : call = call' := by
  have chars := congrArg String.toList h
  rw [toList_content_statement, toList_content_statement, List.append_cancel_left_eq] at chars
  obtain ⟨same, -⟩ := hc.readsBack _ _ _ hc' (by decide) (by decide) chars
  obtain ⟨receiver, function, args⟩ := call
  obtain ⟨receiver', function', args'⟩ := call'
  cases same
  rfl

theorem binding_inj (hn : isIdentifier name = true) (hn' : isIdentifier name' = true)
    (hv : value.IsLexical) (hv' : value'.IsLexical)
    (h : (binding name value type).content = (binding name' value' type').content) :
    binding name value type = binding name' value' type' := by
  have chars := congrArg String.toList h
  rw [toList_content_binding, toList_content_binding, List.append_cancel_left_eq,
    List.append_cancel_left_eq] at chars
  obtain ⟨rfl, behind⟩ := (Text.isToken_of_isIdentifier hn).append_inj
    (Text.isToken_of_isIdentifier hn') rfl rfl (List.cons.inj chars).2
  have values := List.append_cancel_left (List.cons.inj behind).2
  obtain ⟨rfl, types⟩ := hv.readsBack _ _ _ hv' (closes_typeText type) (closes_typeText type') values
  rw [typeText_inj (String.toList_inj.mp types)]

theorem text_injOn : Set.InjOn text {f | f.IsLexical} := by
  intro f hf f' hf' same
  have same : f.text = f'.text := same
  rw [text_eq, text_eq, String.append_left_inj] at same
  cases f with
  | statement call =>
    cases f' with
    | statement call' => rw [statement_inj hf hf' same]
    | binding name value type => exact absurd same (statement_ne_binding hf)
    | source _ | inline _ | blank => exact hf'.elim
  | binding name value type =>
    cases f' with
    | statement call' => exact absurd same.symm (statement_ne_binding hf')
    | binding name' value' type' => exact binding_inj hf.1 hf'.1 hf.2 hf'.2 same
    | source _ | inline _ | blank => exact hf'.elim
  | source _ | inline _ | blank => exact hf.elim

end Fragment

/-- **Expressions and lines are known from their texts.** Expressions whose names are identifiers,
and where no name for a value is a truth value, are equal if their texts are. So are lines with
calls and bindings of such expressions. -/
theorem texts_unambiguous :
    Set.InjOn Expr.text {e | e.IsLexical} ∧ Set.InjOn Fragment.text {f | f.IsLexical} :=
  ⟨Expr.text_injOn, Fragment.text_injOn⟩

/-- A call with a call and a negative number among its arguments. -/
def nestedCall : Expr :=
  .call none "make_list_emitter" [.call (some "device") "load_rays" [], .int (-3), .ident "iter"]

theorem isLexical_nestedCall : nestedCall.IsLexical := by
  have rays : (Expr.call (some "device") "load_rays" []).IsLexical :=
    .call (by decide) (by decide) (by simp)
  have iter : (Expr.ident "iter").IsLexical := .ident (by decide) (by decide) (by decide)
  exact .call (by simp) (by decide) (by simp [rays, iter, Expr.IsLexical.int])

theorem nestedCall_alone :
    {e | e.IsLexical ∧ e.text = "make_list_emitter(device.load_rays(), -3, iter)"}
      = {nestedCall} := by
  have text : nestedCall.text = "make_list_emitter(device.load_rays(), -3, iter)" := by decide
  ext e
  constructor
  · rintro ⟨lexical, same⟩
    exact texts_unambiguous.1 lexical isLexical_nestedCall (same.trans text.symm)
  · rintro rfl
    exact ⟨isLexical_nestedCall, text⟩

/-- Names for truth values would be read as these. -/
example : (Expr.ident "true").text = (Expr.bool true).text := rfl

end Program

end RayShader
