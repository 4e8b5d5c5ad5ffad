import RayShader.Context.Assets
import RayShader.Program.Literal
import RayShader.Stock.Fill

/-!
# The stock cameras

The parameters of the camera come from the camera object of the scene, unless the
options chose another kind of camera; then every parameter has its default.
-/

namespace RayShader.Stock

/-- The stock cameras. -/
inductive Camera where
  /-- A camera with a vanishing point. -/
  | perspective
  /-- A camera with parallel rays. -/
  | orthogonal
  /-- A camera with a very wide view. -/
  | fishlens
  deriving DecidableEq

namespace Camera

/-- Every stock camera. -/
def all : List Camera := [perspective, orthogonal, fishlens]

/-- The kind of the camera object. -/
def kind : Camera → String
  | perspective => "perspective"
  | orthogonal => "orthogonal"
  | fishlens => "fishlens"

/-- The stock camera of a kind. -/
def ofKind? (kind : String) : Option Camera := all.find? (·.kind = kind)

/-- How the wide view is cut, in the order of the numbers of the runtime. -/
def modes : List String := ["circular", "cropped", "full"]

/-- The object with the parameters of the camera. -/
def object (c : Context) : Object :=
  (c.scene.cameraOfKind? c.cameraKind).getD (.ofKind c.cameraKind)

/-- The values that every camera has. -/
def baseScope (c : Context) (o : Object) : Except Error Template.Scope := do
  let origin ← o.vector3 "origin" .zero
  let direction ← o.vector3 "direction" .unitZ
  let up ← o.vector3 "up" .unitY
  let near ← o.number "near_clip" (decimal 1 (-2))
  let far ← o.number "far_clip" .greatest
  pure [("origin", .string (Program.vec3Literal origin)),
    ("direction", .string (Program.vec3Literal (direction.normalizeOr .unitZ))),
    ("up", .string (Program.vec3Literal (up.normalizeOr .unitY))),
    ("near", .string (Program.floatLiteral near)), ("far", .string (Program.floatLiteral far)),
    ("aspect", .string (Program.floatLiteral c.filmAspect))]

/-- The mode of a wide view and its number. -/
def mode (o : Object) : Except Error (String × Nat) := do
  let mode := (← o.string? "mode").getD "circular"
  match modeIndex? modes mode with
  | some index => pure (mode, index)
  | none => .error (.unsupportedKind "fishlens mode" mode o.name)

/-- The lines of a camera. -/
def lines (c : Context) (o : Object) (base : Template.Scope) : Camera → Except Error String
  | perspective => do
    let fov ← o.number "fov" (.ofInt 60)
    fill Template.Stock.perspective (("fov", .string (Program.floatLiteral (toRadians fov))) :: base)
  | orthogonal => do
    let scale ← o.number "scale" (.ofInt 1)
    fill Template.Stock.orthogonal (("scale", .string (Program.floatLiteral scale)) :: base)
  | fishlens => do
    let (mode, index) ← mode o
    fill Template.Stock.fishlens
      (("mode", .string mode) :: ("mode_id", .nat index)
        :: ("width", .string (Program.floatLiteral (.ofInt c.filmWidth.toNat)))
        :: ("height", .string (Program.floatLiteral (.ofInt c.filmHeight.toNat))) :: base)

end Camera

/-- The lines that bind `camera`. -/
def camera (c : Context) : Except Error String := do
  let o := Camera.object c
  let base ← Camera.baseScope c o
  match Camera.ofKind? c.cameraKind with
  | some kind => kind.lines c o base
  | none => .error (.unsupportedKind "camera" c.cameraKind o.name)

end RayShader.Stock
