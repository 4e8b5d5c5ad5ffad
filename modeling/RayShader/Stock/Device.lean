import RayShader.Target

/-!
# The stock device
-/

namespace RayShader.Stock

/-- The call that constructs a device. -/
def deviceCall (t : Target) : String :=
  match t.architecture with
  | .generic => "make_cpu_default_device()"
  | .sse42 => s!"make_sse42_device({t.threadCount})"
  | .avx => s!"make_avx_device({t.threadCount})"
  | .avx2 => s!"make_avx2_device({t.threadCount})"
  | .avx512 => s!"make_avx512_device({t.threadCount})"
  | .asimd => s!"make_asimd_device({t.threadCount})"
  | .nvidia => s!"make_nvvm_device({t.device}, true)"
  | .amd => s!"make_amdgpu_device({t.device}, true)"

/-- The statement that binds `device`. -/
def device (t : Target) : String := s!"let device = {deviceCall t};"

/-- The lines that bind the scene database. -/
def database : String :=
  "  let dtb = device.load_scene_database();\n  let scene_info = device.load_scene_info();"

end RayShader.Stock
