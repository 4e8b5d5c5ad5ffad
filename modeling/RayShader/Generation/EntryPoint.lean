import RayShader.Emitters
import RayShader.Program.Basic
import RayShader.Shader

/-!
# The programs of shaders

Each kind of shader has a program of its own. All of them construct the device first
and end with one call of it; between the two stands what the kind needs. A program is
built on a shading tree of its own.
-/

namespace RayShader

open Program
open Technique (Moment)

namespace Generation

/-- The first lines of every body. -/
def prologue (e : Emitters) (c : Context) : Stage ShadingTree (List Fragment) := do
  let device ← e.askDevice c.target
  pure [.statement (.free "maybe_unused" [.ident "settings"]), .inline device, .blank]

/-- The line that binds the count of samples. -/
def samplesBinding (c : Context) : Fragment := .binding "spp" (.int c.samples) (some "i32")

/-- The line that binds the number of a hit group; a greater number than 64 bits with a
sign hold counts as the greatest. -/
def materialBinding (group : Nat) : Fragment :=
  .binding "material_id" (.int (min group 0x7FFFFFFFFFFFFFFF)) (some "i32")

/-- The line that says whether pixels are written. -/
def framebufferBinding (v : Technique.VariantInfo) : Fragment :=
  .binding "use_framebuffer" (.bool !v.locksFramebuffer) none

/-- The technique and an empty line. -/
def techniqueLines (e : Emitters) (c : Context) : Stage ShadingTree (List Fragment) := do
  let technique ← e.askTechnique c
  pure [.source technique, .blank]

/-- The table of lights, for variants that read it. With the scene database it is whole,
without it is restricted. -/
def lightLines (e : Emitters) (c : Context) (v : Technique.VariantInfo) (withDatabase : Bool) :
    Stage ShadingTree (List Fragment) := do
  if v.usesLights then
    let database ← if withDatabase then do pure [Fragment.source (← e.askDatabase)] else pure []
    let lights ← e.askLights c !withDatabase
    pure (database ++ [.source lights])
  else pure []

/-- The parameter that every shader has. -/
def settingsParam : String × String := ("settings", "&Settings")

/-- A parameter of the given name that is a whole number. -/
def intParam (name : String) : String × String := (name, "i32")

/-! ### Signatures -/

/-- The signature of the shader that makes rays; it returns the number of rays. -/
def rayGenerationEntry : EntryPoint :=
  ⟨ShaderKind.rayGeneration.entryPoint,
    [settingsParam, intParam "iter", ("id", "&mut i32"), intParam "size", intParam "xmin", intParam "ymin",
      intParam "xmax", intParam "ymax"], "i32"⟩

/-- The signature of shaders that handle a range of rays. -/
def rangeEntry (kind : ShaderKind) : EntryPoint :=
  ⟨kind.entryPoint, [settingsParam, intParam "first", intParam "last"], "()"⟩

/-- The signature of the shader of a hit group. -/
def hitEntry (group : Nat) : EntryPoint :=
  ⟨(ShaderKind.hit group).entryPoint,
    [settingsParam, intParam "entity_id", intParam "first", intParam "last"], "()"⟩

/-- The signature of a callback. -/
def callbackEntry (m : Moment) : EntryPoint :=
  ⟨(ShaderKind.callback m).entryPoint, [settingsParam, intParam "iter"], "()"⟩

/-! ### Programs -/

/-- The source of primary rays: a list that the device holds, or a camera. -/
def emitterLines (e : Emitters) (c : Context) : Stage ShadingTree (List Fragment) := do
  if c.isTracer then
    let rays := Call.method "device" "load_rays" []
    pure [.binding "emitter"
      (Call.free "make_list_emitter" [rays.toExpr, .ident "iter", .ident "init_raypayload"]).toExpr none]
  else
    let camera ← e.askCamera c
    let sampler := Call.free "make_uniform_pixel_sampler" []
    pure [.source camera, .binding "emitter"
      (Call.free "make_camera_emitter"
        [.ident "camera", .ident "iter", .ident "spp", sampler.toExpr, .ident "init_raypayload"]).toExpr none]

/-- The program that makes rays. -/
def rayGeneration (e : Emitters) (c : Context) : Stage ShadingTree Program := do
  let _ ← Stage.ofExcept c.requireDatabase
  let preamble ← e.askHeader c true
  let opening ← prologue e c
  let emitter ← emitterLines e c
  let technique ← techniqueLines e c
  pure {
    preamble := preamble
    entry := rayGenerationEntry
    body := opening ++ [samplesBinding c] ++ emitter ++ technique
    result := .forward "device" "generate_rays"
      ["emitter", "id", "size", "xmin", "ymin", "xmax", "ymax", "spp"] }

/-- The program for rays that left the scene. It has the scene database only if it
reaches every light. -/
def miss (e : Emitters) (c : Context) : Stage ShadingTree Program := do
  let _ ← Stage.ofExcept c.requireDatabase
  let v ← Stage.ofExcept c.variant
  let preamble ← e.askHeader c false
  let opening ← prologue e c
  let lights ← lightLines e c v v.usesAllLightsInMiss
  let technique ← techniqueLines e c
  pure {
    preamble := preamble
    entry := rangeEntry .miss
    body := opening ++ lights ++ [samplesBinding c] ++ technique ++ [framebufferBinding v]
    result := .forward "device" "handle_miss_shader"
      ["technique", "first", "last", "spp", "use_framebuffer"] }

/-- The program of a hit group. It has the scene database and every light; lights and
material share one tree. -/
def hit (e : Emitters) (c : Context) (group : Nat) : Stage ShadingTree Program := do
  let _ ← Stage.ofExcept c.requireDatabase
  let preamble ← e.askHeader c false
  let opening ← prologue e c
  let database ← e.askDatabase
  let v ← Stage.ofExcept c.variant
  let lights ←
    if v.usesLights then do pure [Fragment.source (← e.askLights c false)] else pure []
  let material ← e.askMaterial c group
  let technique ← techniqueLines e c
  pure {
    preamble := preamble
    entry := hitEntry group
    body := opening ++ [.source database] ++ lights
      ++ [samplesBinding c, materialBinding group, .source material]
      ++ technique ++ [framebufferBinding v]
    result := .forward "device" "handle_hit_shader"
      ["entity_id", "material_id", "shader", "technique", "first", "last", "spp", "use_framebuffer"] }

/-- The program for shadow rays that hit something, or for those that did not. A hit
may be a light, which needs the scene database. -/
def shadow (e : Emitters) (c : Context) (isHit : Bool) : Stage ShadingTree Program := do
  let _ ← Stage.ofExcept c.requireDatabase
  let v ← Stage.ofExcept c.variant
  let preamble ← e.askHeader c false
  let opening ← prologue e c
  let lights ← lightLines e c v (isHit || v.usesAllLightsInMiss)
  let technique ← techniqueLines e c
  pure {
    preamble := preamble
    entry := rangeEntry (.shadow isHit)
    body := opening ++ lights ++ [samplesBinding c] ++ technique
      ++ [.binding "is_hit" (.bool isHit) none, framebufferBinding v]
    result := .forward "device" "handle_advanced_shadow_shader"
      ["technique", "first", "last", "spp", "use_framebuffer", "is_hit"] }

/-- The program of a callback. -/
def callback (e : Emitters) (c : Context) (m : Moment) : Stage ShadingTree Program := do
  let _ ← Stage.ofExcept c.requireDatabase
  let preamble ← e.askHeader c false
  let opening ← prologue e c
  let lines ← e.askCallback c m
  pure {
    preamble := preamble
    entry := callbackEntry m
    body := opening ++ [samplesBinding c, .source lines, .blank]
    result := .forward "device" "handle_callback" ["callback", "iter", "spp"] }

/-- The program of a shader. -/
def build (e : Emitters) (c : Context) : ShaderKind → Stage ShadingTree Program
  | .rayGeneration => rayGeneration e c
  | .miss => miss e c
  | .hit group => hit e c group
  | .shadowHit => shadow e c true
  | .shadowMiss => shadow e c false
  | .callback m => callback e c m

/-- The text of the program of a shader. -/
def source (e : Emitters) (c : Context) (kind : ShaderKind) : Run String := do
  let program ← (build e c kind).runOn .empty
  let text := program.text
  Run.log .debug (s!"Generated {kind.title} for variant {c.selected} "
    ++ s!"({text.utf8ByteSize} bytes, {Event.fingerprint})")
  pure text

end Generation

end RayShader
