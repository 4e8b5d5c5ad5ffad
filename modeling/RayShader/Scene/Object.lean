import RayShader.Scene.Property
import RayShader.NameMap
import RayShader.Error

/-!
# Scene objects

An object is a light, a material, a texture or another part of a scene: its kind, and
properties by name. A property that is absent has a default where it is read; one that
is present and holds another kind of value than expected is an error.
-/

namespace RayShader

/-- An object of a scene. -/
structure Object where
  /-- The name of the object in its scene. -/
  name : String
  /-- The kind of light, material, texture and so on. -/
  kind : String
  /-- The directory of the file that declares the object, where it is not that of the
  scene. -/
  baseDir : Option String
  /-- The properties. -/
  properties : NameMap Property
  deriving DecidableEq

namespace Object

/-- An object of the given kind without properties. -/
def ofKind (kind : String) : Object := ⟨"", kind, none, .empty⟩

/-- The object with another name. -/
def named (o : Object) (name : String) : Object := { o with name }

/-- The object with the value in a property. -/
def withProperty (o : Object) (property : String) (value : Property) : Object :=
  { o with properties := o.properties.insert property value }

/-- The object declared in a directory. -/
def withBaseDir (o : Object) (dir : String) : Object := { o with baseDir := some dir }

/-- The value of a property. -/
def property? (o : Object) (property : String) : Option Property := o.properties.get? property

/-- The property is present. -/
def hasProperty (o : Object) (property : String) : Bool := o.properties.contains property

/-- The error of a property whose value is not of the expected kind. -/
def mismatch (o : Object) (property expected : String) : Error :=
  .propertyMismatch o.name property expected

/-- Reads a number; a whole number is one. -/
def number (o : Object) (property : String) (default : Single) : Except Error Single :=
  match o.property? property with
  | none => .ok default
  | some (.number x) => .ok x
  | some (.integer n) => .ok (.ofInt n.toInt)
  | some _ => .error (o.mismatch property "number")

/-- Reads a whole number. -/
def integer (o : Object) (property : String) (default : Int64) : Except Error Int64 :=
  match o.property? property with
  | none => .ok default
  | some (.integer n) => .ok n
  | some _ => .error (o.mismatch property "integer")

/-- Reads a truth value. -/
def bool (o : Object) (property : String) (default : Bool) : Except Error Bool :=
  match o.property? property with
  | none => .ok default
  | some (.bool b) => .ok b
  | some _ => .error (o.mismatch property "bool")

/-- Reads a text, which has no default. -/
def string? (o : Object) (property : String) : Except Error (Option String) :=
  match o.property? property with
  | none => .ok none
  | some (.string s) => .ok (some s)
  | some _ => .error (o.mismatch property "string")

/-- Reads a vector; a number stands for three of it. -/
def vector3 (o : Object) (property : String) (default : Vec3) : Except Error Vec3 :=
  match o.property? property with
  | none => .ok default
  | some (.vector3 v) => .ok v
  | some (.number x) => .ok (.splat x)
  | some (.integer n) => .ok (.splat (.ofInt n.toInt))
  | some _ => .error (o.mismatch property "vector3 or number")

end Object

end RayShader
