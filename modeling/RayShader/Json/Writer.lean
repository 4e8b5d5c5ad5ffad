import RayShader.Json.Basic

/-!
# Writing JSON

Values are written without spaces. In strings, the quote, the backslash and the
control characters are escaped; every other character stands for itself.
-/

namespace RayShader.Json

/-- The digit in base sixteen. -/
def hexDigit (n : Nat) : Char := Nat.digitChar n

/-- A character inside a string. -/
def escaped (c : Char) : List Char :=
  match c with
  | '"' => ['\\', '"']
  | '\\' => ['\\', '\\']
  | '\x08' => ['\\', 'b']
  | '\x0c' => ['\\', 'f']
  | '\n' => ['\\', 'n']
  | '\r' => ['\\', 'r']
  | '\t' => ['\\', 't']
  | c =>
    if c.toNat < 0x20 then ['\\', 'u', '0', '0', hexDigit (c.toNat / 16), hexDigit (c.toNat % 16)]
    else [c]

/-- A string in quotes. A string that names no text is written as half a character. -/
def quoted : Option String → List Char
  | some s => '"' :: (s.toList.flatMap escaped ++ ['"'])
  | none => ['"', '\\', 'u', 'd', '8', '0', '0', '"']

mutual

/-- The characters of a value. -/
def chars : Json → List Char
  | .null => ['n', 'u', 'l', 'l']
  | .bool true => ['t', 'r', 'u', 'e']
  | .bool false => ['f', 'a', 'l', 's', 'e']
  | .number n => n.text true
  | .string s => quoted s
  | .array [] => ['[', ']']
  | .array (x :: xs) => '[' :: (chars x ++ moreItems xs)
  | .object [] => ['\x7b', '\x7d']
  | .object ((k, x) :: es) => '\x7b' :: (quoted k ++ ':' :: (chars x ++ moreEntries es))

/-- The values of a list behind the first, and its end. -/
def moreItems : List Json → List Char
  | [] => [']']
  | x :: xs => ',' :: (chars x ++ moreItems xs)

/-- The entries of an object behind the first, and its end. -/
def moreEntries : List (Option String × Json) → List Char
  | [] => ['\x7d']
  | (k, x) :: es => ',' :: (quoted k ++ ':' :: (chars x ++ moreEntries es))

end

/-- The text of a value. -/
def write (j : Json) : String := .ofList j.chars

end RayShader.Json
