import RayShader.Json.Basic
import RayShader.Text.Hex

/-!
# Reading JSON

A text is read by recursive descent over its characters. Each reader takes the
characters that are left and gives what it found together with those behind it, or
nothing where the text is malformed. The nesting is bounded by the length of the
text, which is what the recursion runs on.
-/

namespace RayShader.Json

/-- The characters that may stand between the parts of a text. -/
def isSpace (c : Char) : Bool := c = ' ' || c = '\n' || c = '\t' || c = '\r'

/-- The characters from the first that is no space. -/
def skipSpace (cs : List Char) : List Char := cs.dropWhile isSpace

/-! ### Strings -/

/-- A part of a string: a character, or a 16-bit unit given by its number. -/
inductive Piece where
  /-- A character that stands for itself or is named by a letter. -/
  | char (c : Char)
  /-- A unit written in base sixteen. -/
  | unit (n : Nat)
  deriving DecidableEq

/-- The unit of four digits in base sixteen. -/
def unit? (a b c d : Char) : Option Nat := Text.hexNumber? 0 [a, b, c, d]

/-- The character that a letter behind a backslash names. -/
def escape? : Char → Option Char
  | '"' => some '"'
  | '\\' => some '\\'
  | '/' => some '/'
  | 'b' => some '\x08'
  | 'f' => some '\x0c'
  | 'n' => some '\n'
  | 'r' => some '\r'
  | 't' => some '\t'
  | _ => none

/-- The pieces of a string up to the closing quote. Control characters do not stand
in a string. -/
def pieces? : List Char → Option (List Piece × List Char)
  | [] => none
  | '"' :: rest => some ([], rest)
  | '\\' :: 'u' :: a :: b :: c :: d :: rest => do
    let n ← unit? a b c d
    let (ps, rest) ← pieces? rest
    pure (.unit n :: ps, rest)
  | '\\' :: c :: rest => do
    let c ← escape? c
    let (ps, rest) ← pieces? rest
    pure (.char c :: ps, rest)
  | c :: rest =>
    if c = '\\' ∨ c.toNat < 0x20 then none
    else do
      let (ps, rest) ← pieces? rest
      pure (.char c :: ps, rest)

/-- The unit is the first half of a character. -/
def isFirstHalf (n : Nat) : Bool := 0xD800 ≤ n && n < 0xDC00

/-- The unit is the second half of a character. -/
def isSecondHalf (n : Nat) : Bool := 0xDC00 ≤ n && n < 0xE000

/-- Puts the halves of characters together; `half` is a first half that waits for its
second. A half without its other half makes no text. -/
def assemble? : Option Nat → List Piece → Option (List Char)
  | none, [] => some []
  | some _, [] => none
  | none, .char c :: rest => (assemble? none rest).map (c :: ·)
  | some _, .char _ :: _ => none
  | none, .unit n :: rest =>
    if isFirstHalf n then assemble? (some n) rest
    else if isSecondHalf n then none
    else (assemble? none rest).map (.ofNat n :: ·)
  | some half, .unit n :: rest =>
    if isSecondHalf n then
      (assemble? none rest).map (.ofNat (0x10000 + (half - 0xD800) * 0x400 + (n - 0xDC00)) :: ·)
    else none

/-- A string behind its opening quote. -/
def string? (cs : List Char) : Option (Option String × List Char) := do
  let (ps, rest) ← pieces? cs
  pure ((assemble? none ps).map .ofList, rest)

/-! ### Numbers -/

/-- The digits at the front. -/
def leadingDigits (cs : List Char) : List Char := cs.takeWhile Char.isDigit

/-- The characters behind the digits at the front. -/
def afterDigits (cs : List Char) : List Char := cs.dropWhile Char.isDigit

/-- The value of a text of digits. -/
def natOf (digits : List Char) : Nat := digits.foldl (fun n c => n * 10 + Numeral.digitValue c) 0

/-- The digits before the point: a lone zero, or digits that do not start with one. -/
def whole? (cs : List Char) : Option (List Char × List Char) :=
  match leadingDigits cs with
  | [] => none
  | ['0'] => some (['0'], afterDigits cs)
  | '0' :: _ => none
  | digits => some (digits, afterDigits cs)

/-- The digits behind a point, where there is one. -/
def fraction? : List Char → Option (List Char × List Char)
  | '.' :: cs => if leadingDigits cs = [] then none else some (leadingDigits cs, afterDigits cs)
  | cs => some ([], cs)

/-- The digits of an exponent behind its sign. -/
def exponentDigits? (negative : Bool) (cs : List Char) : Option (Option Int × List Char) :=
  if leadingDigits cs = [] then none
  else
    let n : Int := natOf (leadingDigits cs)
    some (some (if negative then -n else n), afterDigits cs)

/-- The sign of an exponent and its digits. -/
def signedExponent? : List Char → Option (Option Int × List Char)
  | '-' :: cs => exponentDigits? true cs
  | '+' :: cs => exponentDigits? false cs
  | cs => exponentDigits? false cs

/-- The exponent, where there is one. -/
def exponent? : List Char → Option (Option Int × List Char)
  | 'e' :: cs => signedExponent? cs
  | 'E' :: cs => signedExponent? cs
  | cs => some (none, cs)

/-- A numeral behind its sign. -/
def unsigned? (negative : Bool) (cs : List Char) : Option (Numeral × List Char) := do
  let (whole, cs) ← whole? cs
  let (fraction, cs) ← fraction? cs
  let (exponent, cs) ← exponent? cs
  pure (⟨negative, whole, fraction, exponent⟩, cs)

/-- A numeral. -/
def numeral? : List Char → Option (Numeral × List Char)
  | '-' :: cs => unsigned? true cs
  | cs => unsigned? false cs

/-! ### Values -/

mutual

/-- A value, with spaces in front of it. -/
def value? : Nat → List Char → Option (Json × List Char)
  | 0, _ => none
  | fuel + 1, cs =>
    match skipSpace cs with
    | '"' :: cs => (string? cs).map fun (s, cs) => (.string s, cs)
    | '[' :: cs =>
      match skipSpace cs with
      | ']' :: cs => some (.array [], cs)
      | cs => (items? fuel cs).map fun (xs, cs) => (.array xs, cs)
    | '\x7b' :: cs =>
      match skipSpace cs with
      | '\x7d' :: cs => some (.object [], cs)
      | cs => (entries? fuel cs).map fun (es, cs) => (.object es, cs)
    | 'n' :: 'u' :: 'l' :: 'l' :: cs => some (.null, cs)
    | 't' :: 'r' :: 'u' :: 'e' :: cs => some (.bool true, cs)
    | 'f' :: 'a' :: 'l' :: 's' :: 'e' :: cs => some (.bool false, cs)
    | cs => (numeral? cs).map fun (n, cs) => (.number n, cs)

/-- The values of a list up to its closing bracket, one at least. -/
def items? : Nat → List Char → Option (List Json × List Char)
  | 0, _ => none
  | fuel + 1, cs =>
    match value? fuel cs with
    | none => none
    | some (x, cs) =>
      match skipSpace cs with
      | ']' :: cs => some ([x], cs)
      | ',' :: cs => (items? fuel cs).map fun (xs, cs) => (x :: xs, cs)
      | _ => none

/-- The entries of an object up to its closing brace, one at least. -/
def entries? : Nat → List Char → Option (List (Option String × Json) × List Char)
  | 0, _ => none
  | fuel + 1, cs =>
    match skipSpace cs with
    | '"' :: cs =>
      match string? cs with
      | none => none
      | some (name, cs) =>
        match skipSpace cs with
        | ':' :: cs =>
          match value? fuel cs with
          | none => none
          | some (x, cs) =>
            match skipSpace cs with
            | '\x7d' :: cs => some ([(name, x)], cs)
            | ',' :: cs => (entries? fuel cs).map fun (es, cs) => ((name, x) :: es, cs)
            | _ => none
        | _ => none
    | _ => none

end

/-- The value that a whole text holds. -/
def read? (s : String) : Option Json :=
  match value? (2 * s.length + 2) s.toList with
  | some (j, rest) => if skipSpace rest = [] then some j else none
  | none => none

end RayShader.Json
