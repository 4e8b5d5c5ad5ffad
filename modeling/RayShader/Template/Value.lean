import RayShader.Decimal.Layout
import RayShader.Error
import RayShader.Text.GraphemeExtender
import RayShader.Text.Ignorable
import RayShader.Text.Printable

/-!
# Values of templates

What a template is filled with. The language of templates is dynamic: any value may
stand anywhere, and what it does there depends on its kind.
-/

namespace RayShader.Template

/-- A value. -/
inductive Value where
  /-- No value has the name. -/
  | undefined
  /-- The empty value. -/
  | none
  /-- A truth value. -/
  | bool (b : Bool)
  /-- A whole number. -/
  | int (n : Int)
  /-- A number. -/
  | real (x : Double)
  /-- A text. -/
  | string (s : String)
  /-- A list of values. -/
  | list (items : List Value)
  /-- Values by name. -/
  | record (fields : List (String × Value))

namespace Value

/-- A count. -/
def nat (n : Nat) : Value := int n

/-- The value in a condition: empty values and zeros do not hold. -/
def isTrue : Value → Bool
  | undefined | none => false
  | bool b => b
  | int n => n ≠ 0
  | real x => !x.isZero
  | string s => s ≠ ""
  | list items => !items.isEmpty
  | record fields => !fields.isEmpty

/-- The number is equal to a whole number. -/
def realIsInt (n : Int) (x : Double) : Bool :=
  match x.datum, (Binary.ofInt n : Double).datum with
  | .finite s u, .finite t v => u = v && (s = t || u = 0)
  | _, _ => false

/-- The value is equal to a whole number. Truth values count as one and zero, and an
undefined value cannot be compared. -/
def isInt (n : Int) : Value → Except Error Bool
  | undefined => .error .undefined
  | bool b => .ok ((if b then 1 else 0) = n)
  | int m => .ok (m = n)
  | real x => .ok (realIsInt n x)
  | _ => .ok false

/-- The character has a shape of its own: it is printable, no mark on another one and
not ignorable. -/
def hasShape (c : Char) : Bool :=
  Text.isPrintable c && !Text.isExtendingMark c && !Text.isIgnorable c

/-- A character of a quoted text. One without a shape of its own is named by a letter,
or else by its number in base sixteen. -/
def quotedChar : Char → List Char
  | '"' => ['\\', '"']
  | '\\' => ['\\', '\\']
  | '\n' => ['\\', 'n']
  | '\r' => ['\\', 'r']
  | '\t' => ['\\', 't']
  | '\x00' => ['\\', '0']
  | c => if hasShape c then [c] else '\\' :: 'u' :: '\x7b' :: (Nat.toDigits 16 c.toNat ++ ['\x7d'])

/-- A text in quotes. -/
def quoted (s : String) : String := "\"" ++ .ofList (s.toList.flatMap quotedChar) ++ "\""

mutual

/-- The value as a part of another one. -/
def repr : Value → String
  | undefined => "undefined"
  | none => "None"
  | bool b => if b then "True" else "False"
  | int n => toString n
  | real x => Decimal.literalStyle.format x
  | string s => quoted s
  | list [] => "[]"
  | list (v :: rest) => "[" ++ repr v ++ reprItems rest
  | record [] => "\x7b\x7d"
  | record ((k, v) :: rest) => "\x7b" ++ quoted k ++ ": " ++ repr v ++ reprFields rest

/-- The items of a list behind the first, and its end. -/
def reprItems : List Value → String
  | [] => "]"
  | v :: rest => ", " ++ repr v ++ reprItems rest

/-- The fields of a record behind the first, and its end. -/
def reprFields : List (String × Value) → String
  | [] => "\x7d"
  | (k, v) :: rest => ", " ++ quoted k ++ ": " ++ repr v ++ reprFields rest

end

/-- The value in the text of a template. A text comes as it is, and a number with every
digit in its place. Undefined values have no text. -/
def text : Value → Except Error String
  | undefined => .error .undefined
  | string s => .ok s
  | real x => .ok (Decimal.templateStyle.format x)
  | v => .ok v.repr

/-- The field of a value. -/
def field (name : String) : Value → Except Error Value
  | undefined => .error .undefined
  | record fields => .ok ((fields.lookup name).getD undefined)
  | _ => .ok undefined

/-- The number of characters, items or fields. -/
def length : Value → Except Error Value
  | undefined => .error .undefined
  | string s => .ok (nat s.length)
  | list items => .ok (nat items.length)
  | record fields => .ok (nat fields.length)
  | _ => .error .noLength

/-- What an iteration goes over: the items of a list, the characters of a text, the
names of the fields. -/
def items : Value → Except Error (List Value)
  | undefined => .error .undefined
  | none => .ok []
  | string s => .ok (s.toList.map fun c => string c.toString)
  | list items => .ok items
  | record fields => .ok (fields.map fun (k, _) => string k)
  | _ => .error .notIterable

end Value

end RayShader.Template
