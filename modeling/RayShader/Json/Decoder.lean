import RayShader.Json.Number

/-!
# Taking values apart

Decoders look into a JSON value for what a program expects there. A record is an
object, whose unknown entries are skipped and whose known entries stand there once,
or a list with the fields in order, of which the last ones may be missing.
-/

namespace RayShader.Json

/-- A truth value. -/
def bool? : Json → Option Bool
  | .bool b => some b
  | _ => none

/-- A text. -/
def text? : Json → Option String
  | .string s => s
  | _ => none

/-- A text, or `null` for none. -/
def optional? : Json → Option (Option String)
  | .null => some none
  | .string (some s) => some (some s)
  | _ => none

/-- The number that is written. -/
def number? : Json → Option Number
  | .number n => n.value?
  | _ => none

/-- A count, which is a whole number from 0 to `2^64 - 1`. -/
def count? (j : Json) : Option UInt64 :=
  match j.number? with
  | some (.integer n) => if n < 0 then none else some (.ofNat n.toNat)
  | _ => none

/-- The number as one of a scene. -/
def Number.toSingle : Number → Single
  | .integer n => .ofInt n
  | .real x => x.convert

/-- A number of a scene. -/
def single? (j : Json) : Option Single := j.number?.map Number.toSingle

/-- The name of a choice: the name alone, or an object with the name and `null`. -/
def choice? : Json → Option String
  | .string s => s
  | .object [(k, .null)] => k
  | _ => none

/-- A list of what `item?` takes apart. -/
def list? {α : Type} (item? : Json → Option α) : Json → Option (List α)
  | .array xs => xs.mapM item?
  | _ => none

/-- The entries of an object that are among `names`. -/
def known? (names : List String) : List (Option String × Json) → Option (List (String × Json))
  | [] => some []
  | (none, _) :: _ => none
  | (some k, x) :: es => do
    let fields ← known? names es
    if k ∉ names then some fields
    else if fields.any (·.1 = k) then none
    else some ((k, x) :: fields)

/-- The fields of a record with the given names. -/
def fields? (names : List String) : Json → Option (List (String × Json))
  | .object es => known? names es
  | .array xs => if names.length < xs.length then none else some (names.zip xs)
  | _ => none

/-- A field of a record, or its default where it is missing. -/
def field? {α : Type} (fields : List (String × Json)) (name : String) (decode? : Json → Option α)
    (default : α) : Option α :=
  match fields.lookup name with
  | none => some default
  | some j => decode? j

end RayShader.Json
