import RayShader.Target

/-!
# Loading options

What a caller decides before a scene is loaded.
-/

namespace RayShader

/-- The options of loading a scene. -/
structure Options where
  /-- The path of the scene file; asset paths are relative to its directory. -/
  filePath : String
  /-- The processor to generate for. -/
  target : Target
  /-- Scene buffers are padded to the stride of the device. -/
  padding : Bool
  /-- The samples of one iteration. -/
  samples : UInt64
  /-- Primary rays come from a list in place of a camera. -/
  isTracer : Bool
  /-- The kind of camera, in place of that of the scene. -/
  cameraKind : Option String
  /-- The kind of technique, in place of that of the scene. -/
  techniqueKind : Option String
  /-- The width of the film while loading. -/
  filmWidth : UInt64
  /-- The height of the film while loading. -/
  filmHeight : UInt64
  deriving DecidableEq

/-- Four samples, and a film of 800 by 600. -/
def Options.standard : Options where
  filePath := ""
  target := default
  padding := false
  samples := 4
  isTracer := false
  cameraKind := none
  techniqueKind := none
  filmWidth := 800
  filmHeight := 600

instance : Inhabited Options := ⟨.standard⟩

end RayShader
