import RayShader.Binary.Basic

/-!
# Images

An image has a size and channels. A channel has a name and holds one sample for each
pixel, row after row.
-/

namespace RayShader

/-- A named plane of samples. -/
structure Image.Channel where
  /-- What the samples are. -/
  name : String
  /-- The samples. -/
  samples : List (Binary .single)
  deriving DecidableEq

/-- The stored form of an image; its channels stand in the order of their names. -/
structure Image where
  /-- Pixels in a row. -/
  width : Nat
  /-- Rows. -/
  height : Nat
  /-- The planes. -/
  channels : List Image.Channel
  deriving DecidableEq

end RayShader
