import RayShader.Context.Basic
import RayShader.Shading.Dielectric
import RayShader.Shading.TextureColor
import RayShader.Text.AssetPath

/-!
# Reading objects in a context

Colors, textures and indices of refraction of objects, the paths of asset files, and
the registration of the image textures of a scene.
-/

namespace RayShader.Context

/-- The color of a property that names none and has no better default. -/
def defaultColor : Vec3 := .one

/-- The path of an asset that an object names. It is relative to the directory of the
object, or else to that of the scene file. -/
def assetPath (c : Context) (path : String) (o : Object) : String :=
  if AssetPath.isAbsolute path then path
  else match o.baseDir with
    | some dir => AssetPath.join dir path
    | none => (AssetPath.parent? c.filePath).elim path fun dir => AssetPath.join dir path

/-- Reads a color; a number stands for a gray. -/
def color (o : Object) (property : String) (default : Vec3) : Except Error Vec3 :=
  o.vector3 property default

/-- Reads an index of refraction, which is a number or the name of a dielectric. -/
def ior (o : Object) (property : String) (default : Single) : Except Error Single :=
  match o.property? property with
  | none => .ok default
  | some (.number x) => .ok x
  | some (.integer n) => .ok (.ofInt n.toInt)
  | some (.string name) =>
    match Dielectric.index? name with
    | some x => .ok x
    | none => .error (.unknownIor o.name name)
  | some _ => .error (o.mismatch property "number or material name")

/-- Reads the name of a registered texture, or a color. -/
def textureColor (c : Context) (o : Object) (property : String) (default : Vec3) :
    Except Error TextureColor :=
  match o.property? property with
  | none => .ok (.color default)
  | some (.string texture) =>
    match c.registry.textureBuffer? texture with
    | some buffer => .ok (.texture buffer)
    | none => .error (.unknownTexture o.name property texture)
  | some (.vector3 v) => .ok (.color v)
  | some (.number x) => .ok (.color (.splat x))
  | some (.integer n) => .ok (.color (.splat (.ofInt n.toInt)))
  | some _ => .error (o.mismatch property "texture name, vector3 or number")

/-! ### Registering textures -/

/-- The path and the average color of an image texture. -/
def imageTexture (c : Context) (name : String) (o : Object) : Except Error (String × Vec3) := do
  match ← o.string? "filename" with
  | none => .error (.missingProperty name "filename")
  | some file =>
    let average ← color o "average" defaultColor
    pure (c.assetPath file o, average)

/-- Registers a texture, if it is an image. The path identifies the image. -/
def registerTexture (name : String) (o : Object) : Stage Context Unit := do
  if o.kind ≠ "image" then
    Stage.log .debug s!"Texture '{name}' of type '{o.kind}' is not image backed"
  else
    let c ← Stage.get
    let (path, average) ← Stage.read (c.imageTexture name o)
    let (registry, buffer) := c.registry.registerImage path
    let (registry, slot) := registry.registerTexture name buffer average
    Stage.modify ({ · with registry := registry })
    Stage.log .debug s!"Texture '{name}' -> slot {slot}, image buffer {buffer} ({path})"

/-- Registers the textures of a list in order, up to the first defective one. -/
def registerAll : List (String × Object) → Stage Context Unit
  | [] => pure ()
  | (name, o) :: rest => do
    registerTexture name o
    registerAll rest

/-- Registers the image textures of the scene in the order of their names. -/
def registerTextures : Stage Context Unit := fun c => registerAll c.scene.textures.entries c

/-- Loads a scene: asks for the description of its technique, makes the context, and
registers the textures. -/
def load (describe : String → Scene → Run Technique.Info) (scene : Scene) (options : Options) :
    Run Context := do
  let kind := resolveTechnique scene options
  Run.ask (.info kind)
  let technique ← describe kind scene
  let context ← ofScene scene technique options
  let (context, registered) := registerTextures context
  registered
  let images := context.registry.imageCount
  Run.log .info (s!"Loaded scene with {context.entityCount} entities, {images} images, "
    ++ s!"technique '{context.techniqueKind}' ({technique.count} variants)")
  pure context

end RayShader.Context
