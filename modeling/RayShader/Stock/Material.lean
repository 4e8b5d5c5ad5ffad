import RayShader.Shading.Tree
import RayShader.Stock.Fill

/-!
# The stock materials

Materials are numbered in the order of their names; the number is the hit group.
-/

namespace RayShader.Stock

/-- The stock materials. -/
inductive Material where
  /-- A matt surface. -/
  | diffuse
  /-- Glass. -/
  | dielectric
  /-- Metal. -/
  | conductor
  deriving DecidableEq

namespace Material

/-- Every stock material. -/
def all : List Material := [diffuse, dielectric, conductor]

/-- The kind of the material object. -/
def kind : Material → String
  | diffuse => "diffuse"
  | dielectric => "dielectric"
  | conductor => "conductor"

/-- The stock material of a kind. -/
def ofKind? (kind : String) : Option Material := all.find? (·.kind = kind)

/-- The index of refraction outside of glass: that of air. -/
def outerIndex : Single := decimal 1000277 (-6)

/-- The refraction of a metal that says nothing of it, which looks like gold. -/
def conductorEta : Vec3 := ⟨decimal 2004 (-4), decimal 9240 (-4), decimal 11022 (-4)⟩

/-- The absorption of a metal that says nothing of it, which looks like gold. -/
def conductorK : Vec3 := ⟨decimal 39129 (-4), decimal 24528 (-4), decimal 21421 (-4)⟩

/-- The expression of a material. -/
def expr (c : Context) (o : Object) : Material → Stage ShadingTree String
  | diffuse => do
    let reflectance ← ShadingTree.color c o "reflectance" (.splat (decimal 5 (-1)))
    pure s!"make_diffuse_bsdf(ctx.surf, {reflectance})"
  | dielectric => do
    let outer ← ShadingTree.ior o "ext_ior" outerIndex
    let inner ← ShadingTree.ior o "int_ior" Dielectric.defaultIndex
    let reflectance ← ShadingTree.color c o "specular_reflectance" .one
    let transmittance ← ShadingTree.color c o "specular_transmittance" .one
    pure s!"make_glass_bsdf(ctx.surf, {outer}, {inner}, {reflectance}, {transmittance})"
  | conductor => do
    let eta ← Stage.read (o.vector3 "eta" conductorEta)
    let k ← Stage.read (o.vector3 "k" conductorK)
    let eta := Program.colorLiteral eta
    let k := Program.colorLiteral k
    let reflectance ← ShadingTree.color c o "specular_reflectance" .one
    pure s!"make_conductor_bsdf(ctx.surf, {eta}, {k}, {reflectance})"

/-- The expression of a material object. -/
def ofObject (c : Context) (o : Object) : Stage ShadingTree String :=
  match ofKind? o.kind with
  | some material => material.expr c o
  | none => Stage.error (.unsupportedKind "bsdf" o.kind o.name)

end Material

/-- The lines that bind `shader` for a hit group, behind the declarations of the images
that the material samples. -/
def material (c : Context) (group : Nat) : Stage ShadingTree String := do
  match c.scene.bsdfs.entries[group]? with
  | none => Stage.error (.unknownHitGroup group c.hitGroups)
  | some (name, o) =>
    let bsdf ← Material.ofObject c o
    let textures ← ShadingTree.declarations
    Stage.read (fill Template.Stock.material
      [("name", .string name), ("hit_group", .nat group), ("bsdf", .string bsdf),
        ("textures", .string (Text.trimEnd textures))])

end RayShader.Stock
