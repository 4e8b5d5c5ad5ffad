import RayShader.Emitters
import RayShader.Stock.Camera
import RayShader.Stock.Device
import RayShader.Stock.Light
import RayShader.Stock.Material
import RayShader.Stock.Technique

/-!
# The stock emitters
-/

namespace RayShader.Emitters

/-- Emitters for the stock techniques, cameras, lights and materials. -/
def stock : Emitters where
  describe := Stock.describe
  header := Stock.header
  technique := fun c => Stock.orFault (Stock.technique c)
  callback := fun c m => Stock.orFault (Stock.callback c m)
  camera := fun c => Stock.orFault (Stock.camera c)
  lights := fun c restricted => (Stock.lights c restricted).step
  material := fun c group => (Stock.material c group).step
  device := Stock.device
  database := Stock.database

end RayShader.Emitters
