import RayShader.Decimal.Layout

/-!
# JSON values

A value keeps what its text says, not what a program makes of it: a number is its
numeral, and the entries of an object stand in the order of the text, repeated names
included. A string or name whose escapes leave half of a character pair over has no
text; such a string may stand where nobody reads it.
-/

namespace RayShader

/-- A JSON value. -/
inductive Json where
  /-- The value `null`. -/
  | null
  /-- A truth value. -/
  | bool (b : Bool)
  /-- A number, as it is written. -/
  | number (n : Numeral)
  /-- A string, or none where its escapes name no text. -/
  | string (s : Option String)
  /-- A list of values. -/
  | array (items : List Json)
  /-- A list of named values. -/
  | object (entries : List (Option String × Json))

namespace Json

instance : Inhabited Json := ⟨null⟩

/-- A string. -/
def text (s : String) : Json := .string (some s)

/-- A whole number. -/
def int (n : Int) : Json := .number (.ofInt n)

/-- A count. -/
def count (n : UInt64) : Json := int n.toNat

/-- A number of a scene; what is not finite is `null`. -/
def single (x : Single) : Json := (Decimal.serialStyle.numeral? x).elim .null .number

/-- An object with the given names. -/
def record (entries : List (String × Json)) : Json :=
  .object (entries.map fun (k, v) => (some k, v))

/-- A text, or `null` for none. -/
def optional (s : Option String) : Json := s.elim .null .text

end Json

end RayShader
