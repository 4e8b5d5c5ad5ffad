import RayShader.Context.Assets
import RayShader.Program.Literal

/-!
# Shading trees

A shading tree turns the properties of lights and materials into expressions of one
program. It keeps the buffers of the images that the expressions sample and of those
that are declared already, so that each image of a program is declared once.
-/

namespace RayShader

/-- The images of one program. -/
structure ShadingTree where
  /-- The buffers of the images that expressions sample, ascending. -/
  used : List Nat
  /-- The buffers of the images that are declared, ascending. -/
  declared : List Nat
  deriving DecidableEq

namespace ShadingTree

/-- The tree of a new program. -/
def empty : ShadingTree := ⟨[], []⟩

/-- Puts a number in its place among ascending ones, unless it is there. -/
def insertBuffer (buffer : Nat) : List Nat → List Nat
  | [] => [buffer]
  | b :: rest =>
    if buffer < b then buffer :: b :: rest
    else if buffer = b then b :: rest
    else b :: insertBuffer buffer rest

/-- The name of the function that samples an image. -/
def imageName (buffer : Nat) : String := s!"tex_{buffer}"

/-- The name of the function that samples an image, which is used from now on. -/
def texture (buffer : Nat) : Stage ShadingTree String := do
  Stage.modify fun t => { t with used := insertBuffer buffer t.used }
  pure (imageName buffer)

/-- The expression of a color: the texture at the surface, or a literal. -/
def color (c : Context) (o : Object) (property : String) (default : Vec3) :
    Stage ShadingTree String := do
  match ← Stage.read (c.textureColor o property default) with
  | .texture buffer =>
    let name ← texture buffer
    pure s!"{name}(ctx.uvw)"
  | .color v => pure (Program.colorLiteral v)

/-- The literal of a number. -/
def number (o : Object) (property : String) (default : Single) : Stage ShadingTree String :=
  Stage.read ((o.number property default).map Program.floatLiteral)

/-- The literal of a vector. -/
def vector (o : Object) (property : String) (default : Vec3) : Stage ShadingTree String :=
  Stage.read ((o.vector3 property default).map Program.vec3Literal)

/-- The literal of an index of refraction. -/
def ior (o : Object) (property : String) (default : Single) : Stage ShadingTree String :=
  Stage.read ((Context.ior o property default).map Program.floatLiteral)

/-- The declaration of an image. -/
def declaration (buffer : Nat) : String :=
  s!"  let {imageName buffer} = make_image_texture(make_repeat_border(), make_bilinear_filter(), "
    ++ s!"device.load_image_by_id({buffer}, 4), false);\n"

/-- The buffers that are used and not declared. -/
def pending (t : ShadingTree) : List Nat := t.used.filter (· ∉ t.declared)

/-- The declarations of the images that are used and not declared yet, which are
declared from now on. -/
def declarations : Stage ShadingTree String := do
  let t ← Stage.get
  Stage.modify fun t =>
    { t with declared := t.pending.foldl (fun ds b => insertBuffer b ds) t.declared }
  pure (String.join (t.pending.map declaration))

end ShadingTree

end RayShader
