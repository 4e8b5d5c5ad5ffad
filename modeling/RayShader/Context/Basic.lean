import RayShader.Options.Basic
import RayShader.Registry
import RayShader.Run
import RayShader.Scene.Basic

/-!
# The context of generation

A context is a loaded scene: the scene itself, the description of its technique, the
numbers of its images and textures, the selected variant, and what the options say.
-/

namespace RayShader

/-- A loaded scene. -/
structure Context where
  /-- The scene. -/
  scene : Scene
  /-- The path of the scene file. -/
  filePath : String
  /-- The processor to generate for. -/
  target : Target
  /-- Scene buffers are padded. -/
  padding : Bool
  /-- The samples of one iteration. -/
  samples : Nat
  /-- The numbers of images and textures. -/
  registry : Registry
  /-- The kind of camera. -/
  cameraKind : String
  /-- The kind of technique. -/
  techniqueKind : String
  /-- The description of the technique. -/
  technique : Technique.Info
  /-- Primary rays come from a list. -/
  isTracer : Bool
  /-- The selected variant. -/
  selected : Nat
  /-- The scene database, once it is there. -/
  database : Option Scene.Database
  /-- The number of entities of the scene. -/
  entityCount : Nat
  /-- The width of the film while loading. -/
  filmWidth : UInt64
  /-- The height of the film while loading. -/
  filmHeight : UInt64
  deriving DecidableEq

namespace Context

/-- The kind of camera where neither the options nor the scene have one. -/
def defaultCameraKind : String := "perspective"

/-- The kind of technique where neither the options nor the scene have one. -/
def defaultTechniqueKind : String := "path"

/-- The kind of camera: that of the options, or of the scene, or the default. -/
def resolveCamera (scene : Scene) (options : Options) : String :=
  options.cameraKind.getD (scene.camera.elim defaultCameraKind (·.kind))

/-- The kind of technique: that of the options, or of the scene, or the default. -/
def resolveTechnique (scene : Scene) (options : Options) : String :=
  options.techniqueKind.getD (scene.technique.elim defaultTechniqueKind (·.kind))

/-- The greatest count of samples, since programs hold it as a 32-bit integer. -/
def maxSamples : Nat := 0x7FFFFFFF

/-- The context of a scene with a given description of its technique. Nothing is
registered, the first variant is selected, and there is no database. -/
def ofScene (scene : Scene) (technique : Technique.Info) (options : Options) : Run Context := do
  let samples := options.samples.toNat
  if samples = 0 ∨ maxSamples < samples then Run.error (.invalidSamples samples)
  let kind := resolveTechnique scene options
  if technique.variants.isEmpty then Run.log .warn s!"Technique '{kind}' declares no variants"
  pure {
    scene := scene
    filePath := options.filePath
    target := options.target
    padding := options.padding
    samples := samples
    registry := .empty
    cameraKind := resolveCamera scene options
    techniqueKind := kind
    technique := technique
    isTracer := options.isTracer
    selected := 0
    database := none
    entityCount := scene.entities.size
    filmWidth := options.filmWidth
    filmHeight := options.filmHeight }

/-! ### Variants and the database -/

/-- Selects a variant of the technique. -/
def select (c : Context) (index : Nat) : Except Failure Context :=
  if index < c.technique.count then .ok { c with selected := index }
  else .error (.fault (.variantOutOfRange index c.technique.count))

/-- The description of the selected variant. -/
def variant (c : Context) : Except Failure Technique.VariantInfo :=
  match c.technique.variants[c.selected]? with
  | some v => .ok v
  | none => .error (.fault .noVariant)

/-- The database, without which no program is generated. -/
def requireDatabase (c : Context) : Except Failure Scene.Database :=
  match c.database with
  | some d => .ok d
  | none => .error (.error .databaseMissing)

/-- The number of hit groups, one for each material. -/
def hitGroups (c : Context) : Nat := c.scene.bsdfs.size

/-- The ratio of width to height of the film, or one for a film without height. -/
def filmAspect (c : Context) : Single :=
  if c.filmHeight = 0 then .ofInt 1
  else Binary.ofInt c.filmWidth.toNat / .ofInt c.filmHeight.toNat

end Context

end RayShader
