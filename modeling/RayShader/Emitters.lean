import RayShader.Shading.Tree

/-!
# Emitters

The parts of programs that depend on the technique, the camera, the lights, the
materials and the device come from collaborators, called emitters. Each contributes
indented lines without an end of line, which go into programs as they are. Some bind a
name that the program uses: `technique`, `callback`, `camera` and `shader`.

Every question to an emitter is an event.
-/

namespace RayShader

/-- The collaborators of generation. -/
structure Emitters where
  /-- The description of a kind of technique for a scene. -/
  describe : String → Scene → Run Technique.Info
  /-- The preamble of a program, for ray generation or not. -/
  header : Context → Bool → Except Failure String
  /-- The lines that bind `technique` for the selected variant. -/
  technique : Context → Except Failure String
  /-- The lines that bind `callback`. -/
  callback : Context → Technique.Moment → Except Failure String
  /-- The lines that bind `camera`. -/
  camera : Context → Except Failure String
  /-- The table of lights, on the shading tree of the program. In a restricted table
  lights that need the scene database give nothing, and keep their place. -/
  lights : Context → Bool → ShadingTree → ShadingTree × Except Failure String
  /-- The lines that bind `shader` for the material of a hit group, on the shading tree
  of the program. -/
  material : Context → Nat → ShadingTree → ShadingTree × Except Failure String
  /-- The statement that binds `device`. -/
  device : Target → String
  /-- The lines that bind the scene database. -/
  database : String

namespace Emitters

/-- Asks for a preamble. -/
def askHeader (e : Emitters) (c : Context) (rayGeneration : Bool) : Stage ShadingTree String := do
  Stage.ask (.header rayGeneration)
  Stage.ofExcept (e.header c rayGeneration)

/-- Asks for the technique. -/
def askTechnique (e : Emitters) (c : Context) : Stage ShadingTree String := do
  Stage.ask .technique
  Stage.ofExcept (e.technique c)

/-- Asks for a callback. -/
def askCallback (e : Emitters) (c : Context) (m : Technique.Moment) : Stage ShadingTree String := do
  Stage.ask (.callback m)
  Stage.ofExcept (e.callback c m)

/-- Asks for the camera. -/
def askCamera (e : Emitters) (c : Context) : Stage ShadingTree String := do
  Stage.ask .camera
  Stage.ofExcept (e.camera c)

/-- Asks for the table of lights. -/
def askLights (e : Emitters) (c : Context) (restricted : Bool) : Stage ShadingTree String := do
  Stage.ask (.lights restricted)
  Stage.ofStep (e.lights c restricted)

/-- Asks for a material. -/
def askMaterial (e : Emitters) (c : Context) (group : Nat) : Stage ShadingTree String := do
  Stage.ask (.material group)
  Stage.ofStep (e.material c group)

/-- Asks for the device. -/
def askDevice (e : Emitters) (t : Target) : Stage ShadingTree String := do
  Stage.ask .device
  pure (e.device t)

/-- Asks for the scene database. -/
def askDatabase (e : Emitters) : Stage ShadingTree String := do
  Stage.ask .database
  pure e.database

end Emitters

end RayShader
