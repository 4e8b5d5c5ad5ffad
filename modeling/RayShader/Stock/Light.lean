import RayShader.Shading.Tree
import RayShader.Stock.Fill

/-!
# The stock lights

Lights are numbered in the order of their names. Area lights read the scene database; in
a restricted table a light without effect takes the place of each, so that all numbers
stay as they are.
-/

namespace RayShader.Stock

/-- The stock lights. -/
inductive Light where
  /-- Light from a point. -/
  | point
  /-- Light from a point into a cone. -/
  | spot
  /-- Light of one direction. -/
  | directional
  /-- Light from an entity. -/
  | area
  /-- Light from everywhere around the scene. -/
  | env
  /-- The same light from everywhere around the scene. -/
  | constant
  deriving DecidableEq

namespace Light

/-- Every stock light. -/
def all : List Light := [point, spot, directional, area, env, constant]

/-- The kind of the light object. -/
def kind : Light → String
  | point => "point"
  | spot => "spot"
  | directional => "directional"
  | area => "area"
  | env => "env"
  | constant => "constant"

/-- The stock light of a kind. -/
def ofKind? (kind : String) : Option Light := all.find? (·.kind = kind)

/-- The light without effect. -/
def nullExpr : String := "make_null_light()"

/-- The number of the entity that an area light is on. -/
def entity (scene : Scene) (o : Object) : Except Error Nat := do
  match ← o.string? "entity" with
  | none => .error (.missingProperty o.name "entity")
  | some name =>
    match scene.entityIndex? name with
    | some index => pure index
    | none => .error (.unknownEntity o.name name)

/-- The expression of a light, in a restricted table or not. -/
def expr (c : Context) (o : Object) (restricted : Bool) : Light → Stage ShadingTree String
  | point => do
    let position ← ShadingTree.vector o "position" .zero
    let intensity ← ShadingTree.color c o "intensity" .one
    pure s!"make_point_light({position}, {intensity})"
  | spot => do
    let cutoff ← Stage.read (o.number "cutoff" (.ofInt 30))
    let falloff ← Stage.read (o.number "falloff" (.ofInt 20))
    let position ← ShadingTree.vector o "position" .zero
    let direction ← ShadingTree.vector o "direction" .negUnitY
    let cutoff := Program.floatLiteral (toRadians cutoff)
    let falloff := Program.floatLiteral (toRadians falloff)
    let intensity ← ShadingTree.color c o "intensity" .one
    pure s!"make_spot_light({position}, {direction}, {cutoff}, {falloff}, {intensity})"
  | directional => do
    let direction ← ShadingTree.vector o "direction" .negUnitY
    let irradiance ← ShadingTree.color c o "irradiance" .one
    pure s!"make_directional_light({direction}, {irradiance})"
  | area =>
    if restricted then pure nullExpr
    else do
      let index ← Stage.read (entity c.scene o)
      let radiance ← ShadingTree.color c o "radiance" .one
      pure s!"make_area_light(dtb, {index}, {radiance})"
  | env => do
    let scale ← ShadingTree.number o "scale" (.ofInt 1)
    match ← Stage.read (c.textureColor o "radiance" .one) with
    | .texture buffer =>
      let name ← ShadingTree.texture buffer
      pure s!"make_environment_light_textured({name}, {scale})"
    | .color v => pure s!"make_environment_light({Program.colorLiteral v}, {scale})"
  | constant => do
    let radiance ← Stage.read (o.vector3 "radiance" .one)
    pure s!"make_environment_light({Program.colorLiteral radiance}, 1.0)"

/-- The expression of a light object. -/
def ofObject (c : Context) (o : Object) (restricted : Bool) : Stage ShadingTree String :=
  match ofKind? o.kind with
  | some light => light.expr c o restricted
  | none => Stage.error (.unsupportedKind "light" o.kind o.name)

/-- The expressions of light objects, with their names. -/
def entries (c : Context) (restricted : Bool) :
    List (String × Object) → Stage ShadingTree (List (String × String))
  | [] => pure []
  | (name, o) :: rest => do
    let e ← ofObject c o restricted
    let more ← entries c restricted rest
    pure ((name, e) :: more)

/-- A light in the template. -/
def value (entry : String × String) : Template.Value :=
  .record [("name", .string entry.1), ("expr", .string entry.2)]

end Light

/-- The table of lights, behind the declarations of the images that they sample. -/
def lights (c : Context) (restricted : Bool) : Stage ShadingTree String := do
  let entries ← Light.entries c restricted c.scene.lights.entries
  let textures ← ShadingTree.declarations
  Stage.read (fill Template.Stock.lights
    [("lights", .list (entries.map Light.value)), ("textures", .string (Text.trimEnd textures))])

end RayShader.Stock
