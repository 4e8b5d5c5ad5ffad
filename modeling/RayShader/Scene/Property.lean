import RayShader.Vec3

/-!
# Properties of scene objects
-/

namespace RayShader

/-- The value of a property. -/
inductive Property where
  /-- A truth value. -/
  | bool (b : Bool)
  /-- A whole number of 64 bits. -/
  | integer (n : Int64)
  /-- A number. -/
  | number (x : Single)
  /-- Three numbers. -/
  | vector3 (v : Vec3)
  /-- Any other count of numbers. -/
  | array (xs : List Single)
  /-- A text. -/
  | string (s : String)
  deriving DecidableEq

/-- The name of the kind of value. -/
def Property.kind : Property → String
  | bool _ => "bool"
  | integer _ => "integer"
  | number _ => "number"
  | vector3 _ => "vector3"
  | array _ => "array"
  | string _ => "string"

end RayShader
