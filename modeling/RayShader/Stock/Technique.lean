import RayShader.Context.Basic
import RayShader.Program.Literal
import RayShader.Stock.Fill

/-!
# The stock techniques

The parameters of the technique come from the technique object of the scene, unless the
options chose another kind of technique; then every parameter has its default.
-/

namespace RayShader.Stock

open RayShader.Technique (Feature Info Moment VariantInfo)

/-- The stock techniques. -/
inductive Technique where
  /-- Traced paths. -/
  | path
  /-- Ambient occlusion. -/
  | ambientOcclusion
  /-- One quantity of the surface. -/
  | debug
  /-- Where lights are visible. -/
  | lightVisibility
  /-- Photon maps. -/
  | photons
  deriving DecidableEq

namespace Technique

/-- Every stock technique. -/
def all : List Technique := [path, ambientOcclusion, debug, lightVisibility, photons]

/-- The kind of the technique object. -/
def kind : Technique → String
  | path => "path"
  | ambientOcclusion => "ao"
  | debug => "debug"
  | lightVisibility => "lightvisibility"
  | photons => "ppm"

/-- The stock technique of a kind. -/
def ofKind? (kind : String) : Option Technique := all.find? (·.kind = kind)

/-! ### Descriptions -/

/-- The variant of traced paths. -/
def pathVariant : VariantInfo :=
  { VariantInfo.ofFeatures [.usesLights] with
    primaryPayload := 6
    payloadInitializer := some "init_pt_raypayload()" }

/-- The variant of visible lights. -/
def lightVisibilityVariant : VariantInfo :=
  { VariantInfo.ofFeatures [.usesLights] with
    shadowMode := .advanced
    primaryPayload := 1 }

/-- The variant of photon maps that traces photons, and writes no pixels. -/
def photonVariant : VariantInfo :=
  { VariantInfo.ofFeatures [.usesLights, .lockFramebuffer, .beforeIterationCallback] with
    primaryPayload := 7
    payloadInitializer := some "init_ppm_photon_payload()" }

/-- The variant of photon maps that gathers photons. -/
def gatherVariant : VariantInfo :=
  { VariantInfo.ofFeatures [.usesLights, .usesAllLightsInMiss, .afterIterationCallback] with
    primaryPayload := 6
    payloadInitializer := some "init_ppm_raypayload()" }

/-- The technique object of a kind asks for an image of the normals. -/
def wantsNormals (scene : Scene) (kind : String) : Except Error Bool :=
  match scene.techniqueOfKind? kind with
  | some o => o.bool "aov_normals" false
  | none => .ok false

/-- The description of a technique. -/
def info (scene : Scene) : Technique → Except Error Info
  | path => do
    let normals ← wantsNormals scene path.kind
    pure ⟨[pathVariant], if normals then ["Normals"] else []⟩
  | ambientOcclusion | debug => .ok (.single (.ofFeatures []))
  | lightVisibility => .ok (.single lightVisibilityVariant)
  | photons => .ok ⟨[photonVariant, gatherVariant], []⟩

/-! ### Parameters -/

/-- The object with the parameters of the technique. -/
def object (c : Context) : Object :=
  (c.scene.techniqueOfKind? c.techniqueKind).getD (.ofKind c.techniqueKind)

/-- The quantities that can be shown, in the order of the numbers of the runtime. -/
def modes : List String :=
  ["normal", "tangent", "bitangent", "geometric_normal", "tex_coords", "uvw", "point", "hit_distance",
    "entity_id", "primitive_id"]

/-- The parameters of all techniques. Each technique reads its own and leaves the
others as they are here. -/
structure Parameters where
  /-- The greatest length of a path. -/
  maxDepth : Int := 0
  /-- The greatest contribution of a path. -/
  clamp : String := ""
  /-- An image of the normals is written. -/
  normals : Bool := false
  /-- The quantity that is shown. -/
  mode : String := ""
  /-- The number of the quantity. -/
  modeIndex : Nat := 0
  /-- The radius within which photons are gathered. -/
  radius : String := ""
  /-- The number of photons. -/
  photons : Int := 0

/-- The values of the parameters in a template. -/
def Parameters.scope (p : Parameters) : Template.Scope :=
  [("max_depth", .int p.maxDepth), ("clamp", .string p.clamp), ("aov_normals", .bool p.normals),
    ("mode", .string p.mode), ("mode_id", .nat p.modeIndex), ("radius", .string p.radius),
    ("photons", .int p.photons)]

/-- The quantity that is shown and its number. -/
def mode (o : Object) : Except Error (String × Nat) := do
  let mode := (← o.string? "mode").getD "normal"
  match modeIndex? modes mode with
  | some index => pure (mode, index)
  | none => .error (.unsupportedKind "debug mode" mode o.name)

/-- The parameters of a technique. -/
def parameters (o : Object) : Technique → Except Error Parameters
  | path => do
    let depth ← o.integer "max_depth" 64
    let clamp ← o.number "clamp" .zero
    let normals ← o.bool "aov_normals" false
    pure { maxDepth := depth.toInt, clamp := Program.floatLiteral clamp, normals := normals }
  | ambientOcclusion => .ok {}
  | debug => do
    let (mode, index) ← mode o
    pure { mode := mode, modeIndex := index }
  | lightVisibility => do
    let depth ← o.integer "max_depth" 1
    pure { maxDepth := depth.toInt }
  | photons => do
    let depth ← o.integer "max_depth" 8
    let radius ← o.number "radius" (decimal 1 (-2))
    let photons ← o.integer "photons" 1000000
    pure { maxDepth := depth.toInt, radius := Program.floatLiteral radius, photons := photons.toInt }

/-- The template of a technique. -/
def template : Technique → List Template.Node
  | path => Template.Stock.path
  | ambientOcclusion => Template.Stock.ambientOcclusion
  | debug => Template.Stock.debug
  | lightVisibility => Template.Stock.lightVisibility
  | photons => Template.Stock.photons

/-- The values of the selected variant and of the parameters. -/
def scope (c : Context) (isBefore : Bool) (p : Parameters) : Template.Scope :=
  ("variant", .nat c.selected) :: ("is_before", .bool isBefore) :: p.scope

/-- The stock technique of the context and its parameters. -/
def ofContext (c : Context) : Except Error (Technique × Parameters) :=
  match ofKind? c.techniqueKind with
  | some t => do
    let p ← t.parameters (object c)
    pure (t, p)
  | none => .error (.unknownTechnique c.techniqueKind)

/-- The expression that makes the data of a new ray where the variant has none. -/
def emptyPayload : String := "make_empty_payload()"

end Technique

/-- The description of a kind of technique. -/
def describe (kind : String) (scene : Scene) : Run Info := do
  match Technique.ofKind? kind with
  | none => Run.error (.unknownTechnique kind)
  | some t =>
    let info ← Run.ofExcept (orFault (t.info scene))
    Run.log .debug s!"Technique '{kind}' has {info.count} variant(s)"
    pure info

/-- The preamble of a program. -/
def header (c : Context) (rayGeneration : Bool) : Except Failure String := do
  let v ← c.variant
  orFault (fill Template.Stock.header
    [("technique", .string c.techniqueKind), ("variant", .nat c.selected),
      ("primary_payload", .nat v.primaryPayload.toNat), ("secondary_payload", .nat v.secondaryPayload.toNat),
      ("initializer", .string (v.payloadInitializer.getD Technique.emptyPayload)),
      ("is_ray_generation", .bool rayGeneration)])

/-- The lines that bind `technique`. -/
def technique (c : Context) : Except Error String := do
  let (t, p) ← Technique.ofContext c
  fill t.template (Technique.scope c false p)

/-- The lines that bind `callback`; only photon maps have callbacks. -/
def callback (c : Context) (m : Moment) : Except Error String := do
  if c.techniqueKind ≠ Technique.photons.kind then
    .error (.unsupportedKind "callback" c.techniqueKind "technique")
  else
    let (_, p) ← Technique.ofContext c
    fill Template.Stock.photonsCallback (Technique.scope c (m = .before) p)

end RayShader.Stock
