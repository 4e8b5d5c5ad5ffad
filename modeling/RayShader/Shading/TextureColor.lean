import RayShader.Error

/-!
# Textures and colors

Many properties of lights and materials are either a texture or a color everywhere the
same.
-/

namespace RayShader

/-- A texture, or a color. -/
inductive TextureColor where
  /-- The buffer of a registered texture. -/
  | texture (buffer : Nat)
  /-- A color. -/
  | color (c : Vec3)
  deriving DecidableEq

namespace TextureColor

/-- It is a texture. -/
def isTexture : TextureColor → Bool
  | texture _ => true
  | color _ => false

/-- It is a color. -/
def isColor : TextureColor → Bool
  | texture _ => false
  | color _ => true

/-- The buffer of the texture that the caller takes it for. -/
def asTexture : TextureColor → Except Fault Nat
  | texture buffer => .ok buffer
  | color c => .error (.notATexture c)

/-- The color that the caller takes it for. -/
def asColor : TextureColor → Except Fault Vec3
  | color c => .ok c
  | texture buffer => .error (.notAColor buffer)

end TextureColor

end RayShader
