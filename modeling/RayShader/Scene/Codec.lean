import RayShader.Scene.Basic
import RayShader.Json.Parse
import RayShader.Json.Writer

/-!
# Serialised scenes

An object is written with its kind under `type`, its directory under `base_dir` where
it has one, and its properties beside them. Its name is not written: it is the key
under which the object stands.

A number that is written without point and exponent is a whole number where it fits;
three numbers are a vector, and any other count of them an array.
-/

namespace RayShader

namespace Property

/-- The value of a property as JSON. -/
def toJson : Property → Json
  | bool b => .bool b
  | integer n => .int n.toInt
  | number x => .single x
  | vector3 v => .array [.single v.x, .single v.y, .single v.z]
  | array xs => .array (xs.map .single)
  | string s => .text s

/-- A whole number of a text, if it fits 64 bits with a sign. -/
def int64? (n : Int) : Option Int64 := 
  if Int64.minValue.toInt ≤ n ∧ n ≤ Int64.maxValue.toInt then some (.ofInt n) else none

/-- The property of a number. -/
def ofNumber : Json.Number → Property
  | .integer n => match int64? n with
    | some i => integer i
    | none => number (.ofInt n)
  | .real x => number x.convert

/-- The property of a list of numbers. -/
def ofNumbers : List Single → Property
  | [x, y, z] => vector3 ⟨x, y, z⟩
  | xs => array xs

/-- The value of a property that JSON holds. -/
def ofJson? : Json → Option Property
  | .bool b => some (bool b)
  | .number n => n.value?.map ofNumber
  | .array xs => (xs.mapM Json.single?).map ofNumbers
  | .string (some s) => some (string s)
  | _ => none

end Property

namespace Object

/-- The entries of an object in a text. -/
def entries (o : Object) : List (String × Json) :=
  ("type", .text o.kind) :: (o.baseDir.elim [] fun dir => [("base_dir", .text dir)])
    ++ o.properties.entries.map fun (k, v) => (k, v.toJson)

/-- The object as JSON. -/
def toJson (o : Object) : Json := .record o.entries

/-- The text of an object. -/
def serialise (o : Object) : String := o.toJson.write

/-- What has been read of an object: its kind, its directory and its properties. -/
structure Draft where
  /-- The kind, once it has been read. -/
  kind : Option String
  /-- The directory, once it has been read. -/
  baseDir : Option (Option String)
  /-- The properties read so far. -/
  properties : NameMap Property

/-- Reads one entry of an object. Kind and directory stand there once; of several
properties of one name the last one counts. -/
def Draft.entry? (d : Draft) (name : String) (j : Json) : Option Draft :=
  if name = "type" then
    if d.kind.isSome then none else j.text?.map fun kind => { d with kind := some kind }
  else if name = "base_dir" then
    if d.baseDir.isSome then none else j.optional?.map fun dir => { d with baseDir := some dir }
  else (Property.ofJson? j).map fun v => { d with properties := d.properties.insert name v }

/-- Reads the entries of an object in order. -/
def Draft.entries? (d : Draft) : List (Option String × Json) → Option Draft
  | [] => some d
  | (none, _) :: _ => none
  | (some name, j) :: rest => (d.entry? name j).bind fun d => d.entries? rest

/-- The object without a name that JSON holds; it has a kind. -/
def ofJson? : Json → Option Object
  | .object es => do
    let d ← Draft.entries? ⟨none, none, .empty⟩ es
    let kind ← d.kind
    pure ⟨"", kind, d.baseDir.join, d.properties⟩
  | _ => none

/-- The object without a name that a text holds. -/
def parse (s : String) : Except Error Object := Json.parse ofJson? s

end Object

namespace Scene

/-- A category of objects as JSON. -/
def categoryToJson (m : NameMap Object) : Json :=
  .record (m.entries.map fun (k, o) => (k, o.toJson))

/-- The entries of a category, in the order of the text. -/
def categoryEntries? : List (Option String × Json) → Option (List (String × Object))
  | [] => some []
  | (none, _) :: _ => none
  | (some k, j) :: rest => do
    let o ← Object.ofJson? j
    let more ← categoryEntries? rest
    pure ((k, o) :: more)

/-- The category that JSON holds; of several objects of one name the last one counts. -/
def category? : Json → Option (NameMap Object)
  | .object es => (categoryEntries? es).map .ofList
  | _ => none

/-- An object, or `null` for none. -/
def optional? : Json → Option (Option Object)
  | .null => some none
  | j => (Object.ofJson? j).map some

/-- The names of the fields, in order. -/
def fieldNames : List String :=
  ["camera", "technique", "textures", "bsdfs", "lights", "shapes", "entities"]

/-- The scene as a record. -/
def toJson (s : Scene) : Json :=
  .record [("camera", s.camera.elim .null Object.toJson),
    ("technique", s.technique.elim .null Object.toJson),
    ("textures", categoryToJson s.textures), ("bsdfs", categoryToJson s.bsdfs),
    ("lights", categoryToJson s.lights), ("shapes", categoryToJson s.shapes),
    ("entities", categoryToJson s.entities)]

/-- The scene that a record holds, with its objects named. -/
def ofJson? (j : Json) : Option Scene := do
  let fields ← j.fields? fieldNames
  let scene : Scene := {
    camera := ← Json.field? fields "camera" optional? none
    technique := ← Json.field? fields "technique" optional? none
    textures := ← Json.field? fields "textures" category? .empty
    bsdfs := ← Json.field? fields "bsdfs" category? .empty
    lights := ← Json.field? fields "lights" category? .empty
    shapes := ← Json.field? fields "shapes" category? .empty
    entities := ← Json.field? fields "entities" category? .empty }
  pure scene.named

/-- The text of a scene. -/
def serialise (s : Scene) : String := s.toJson.write

/-- The scene that a text holds. -/
def parse (s : String) : Except Error Scene := Json.parse ofJson? s

end Scene

end RayShader
