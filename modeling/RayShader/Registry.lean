import RayShader.NameMap
import RayShader.Vec3

/-!
# Numbering images and textures

Images get buffers and textures get slots, both numbered from zero in the order of
first registration. Registering again gives the number once given and changes nothing.

Numbers are looked up in maps. The lists beside the maps are for the other direction: the
images in the order of their buffers, and the averages in the order of the slots. Buffers
are numbers of 32 bits, and a registry with more images than that counts on from zero.
-/

namespace RayShader

/-- What is looked up of a texture. -/
structure Registry.Texture where
  /-- Its slot. -/
  slot : Nat
  /-- The buffer of its image. -/
  buffer : UInt32
  deriving DecidableEq

/-- The images and textures that have numbers. -/
structure Registry where
  /-- The buffers of the images. -/
  buffers : NameMap UInt32
  /-- The images, in the order of their registration. -/
  images : List String
  /-- The slots of the textures and the buffers of their images. -/
  textures : NameMap Registry.Texture
  /-- The average colors of the textures, by slot. -/
  averages : List Vec3
  deriving DecidableEq

namespace Registry

/-- Nothing is registered. -/
def empty : Registry := ⟨.empty, [], .empty, []⟩

instance : Inhabited Registry := ⟨empty⟩

/-- The buffer of an image. -/
def imageIndex? (r : Registry) (id : String) : Option Nat := (r.buffers.get? id).map (·.toNat)

/-- Registers an image and gives its buffer. -/
def registerImage (r : Registry) (id : String) : Registry × Nat :=
  match r.buffers.get? id with
  | some index => (r, index.toNat)
  | none =>
    let index := UInt32.ofNat r.images.length
    ({ r with buffers := r.buffers.insert id index, images := r.images ++ [id] }, index.toNat)

/-- The images with their buffers, in order. -/
def numberedImages (r : Registry) : List (String × Nat) :=
  r.images.zipIdx.map fun (id, index) => (id, (UInt32.ofNat index).toNat)

/-- The number of images. -/
def imageCount (r : Registry) : Nat := r.images.length

/-- The slot of a texture. -/
def textureSlot? (r : Registry) (name : String) : Option Nat := (r.textures.get? name).map (·.slot)

/-- The buffer of a texture. -/
def textureBuffer? (r : Registry) (name : String) : Option Nat :=
  (r.textures.get? name).map (·.buffer.toNat)

/-- Registers a texture with the buffer of its image and gives its slot. -/
def registerTexture (r : Registry) (name : String) (buffer : Nat) (average : Vec3) :
    Registry × Nat :=
  match r.textures.get? name with
  | some texture => (r, texture.slot)
  | none =>
    let slot := r.averages.length
    ({ r with
      textures := r.textures.insert name ⟨slot, .ofNat buffer⟩
      averages := r.averages ++ [average] }, slot)

/-- The average color of the texture in a slot. -/
def average? (r : Registry) (slot : Nat) : Option Vec3 := r.averages[slot]?

/-- The number of textures. -/
def textureCount (r : Registry) : Nat := r.textures.size

end Registry

end RayShader
