import RayShader.Registry
import RayShader.Proofs.NameMaps

/-!
# What a registry stands for

A registry has two maps and two lists that must agree with each other. What they have in common is
a listing: the images and the textures in the order of their first registration. A registry
represents a listing (`Registry.Represents`) if its maps lead from each image and each texture to
the place where the listing has it, and its lists are those of the listing. Buffers are places
counted in numbers of 32 bits. With at most `UInt32.size` images they are the places themselves
(`Represents.imageIndex?_eq_some_iff`).

Both registrations keep this, and what they add to the listing depends on the listing alone
(`Represents.registerImage`, `Represents.registerTexture`). Whatever a registry represents,
registering only ever adds to it (`Registry.Extends`).
-/

namespace RayShader

/-! ### Listings -/

/-- A texture with what it was registered with. -/
structure Listing.Texture where
  /-- The name of the texture. -/
  name : String
  /-- The buffer of its image. -/
  buffer : UInt32
  /-- The average of its colors. -/
  average : Vec3

/-- Images and textures in the order of their first registration. -/
structure Listing where
  /-- The images. -/
  images : List String
  /-- The textures. -/
  textures : List Listing.Texture

namespace Listing

/-- Nothing is listed. -/
def empty : Listing := ⟨[], []⟩

/-- Lists an image that is not listed yet. -/
def addImage (l : Listing) (path : String) : Listing :=
  if path ∈ l.images then l else { l with images := l.images ++ [path] }

/-- Lists a texture if none of its name is listed yet. -/
def addTexture (l : Listing) (t : Listing.Texture) : Listing :=
  if t.name ∈ l.textures.map (·.name) then l else { l with textures := l.textures ++ [t] }

end Listing

namespace Registry

variable {r s t : Registry} {l : Listing} {name path : String} {slot i : Nat}

/-! ### Representation -/

/-- The maps and the lists of a registry are those of the listing. -/
structure Represents (r : Registry) (l : Listing) : Prop where
  /-- The images are in their order, -/
  images : r.images = l.images
  /-- each once. -/
  nodup : l.images.Nodup
  /-- An image has the place where it stands as its buffer, in 32 bits. -/
  buffer : ∀ i path, l.images[i]? = some path → r.buffers.get? path = some (.ofNat i)
  /-- No other image has a buffer. -/
  no_buffer : ∀ path, path ∉ l.images → r.buffers.get? path = none
  /-- A texture has the place where it stands as its slot, and its buffer. -/
  texture : ∀ slot t, l.textures[slot]? = some t →
    r.textures.get? t.name = some ⟨slot, t.buffer⟩
  /-- No other texture has a slot. -/
  no_texture : ∀ name, name ∉ l.textures.map (·.name) → r.textures.get? name = none
  /-- There are as many slots as textures. -/
  size : r.textures.size = l.textures.length
  /-- The averages are those of the textures, in their order. -/
  averages : r.averages = l.textures.map (·.average)

theorem represents_empty : empty.Represents .empty where
  images := rfl
  nodup := .nil
  buffer := by simp [Listing.empty]
  no_buffer _ _ := rfl
  texture := by simp [Listing.empty]
  no_texture _ _ := rfl
  size := rfl
  averages := rfl

namespace Represents

/-- An image has a buffer if it is listed. -/
theorem buffers_eq_none_iff (h : r.Represents l) : r.buffers.get? path = none ↔ path ∉ l.images := by
  refine ⟨fun unknown mem => ?_, h.no_buffer path⟩
  obtain ⟨i, stands⟩ := List.getElem?_of_mem mem
  rw [h.buffer i path stands] at unknown
  cases unknown

/-- A texture has a slot if one of its name is listed. -/
theorem textures_eq_none_iff (h : r.Represents l) :
    r.textures.get? name = none ↔ name ∉ l.textures.map (·.name) := by
  refine ⟨fun unknown mem => ?_, h.no_texture name⟩
  obtain ⟨t, listed, rfl⟩ := List.mem_map.mp mem
  obtain ⟨slot, stands⟩ := List.getElem?_of_mem listed
  rw [h.texture slot t stands] at unknown
  cases unknown

/-- Registering an image lists it, and gives the buffer of its place. -/
theorem registerImage (h : r.Represents l) (path : String) :
    (r.registerImage path).1.Represents (l.addImage path) := by
  unfold Registry.registerImage Listing.addImage
  cases found : r.buffers.get? path with
  | some index =>
    have mem : path ∈ l.images := by
      by_contra absent
      rw [h.no_buffer path absent] at found
      cases found
    rw [if_pos mem]
    exact h
  | none =>
    have absent := h.buffers_eq_none_iff.mp found
    rw [if_neg absent]
    refine { h with
      images := by rw [h.images]
      nodup := List.nodup_append.mpr ⟨h.nodup, List.nodup_singleton _, ?_⟩
      buffer := fun i other stands => ?_
      no_buffer := fun other out => ?_ }
    · rintro _ mem _ last same
      rw [List.mem_singleton] at last
      exact absent (last ▸ same ▸ mem)
    · rw [NameMap.get?_insert]
      -- the new image stands at the end, and no other place has it
      rcases Nat.lt_or_ge i l.images.length with old | new
      · rw [List.getElem?_append_left old] at stands
        have ne : other ≠ path := fun same => absent (same ▸ List.mem_of_getElem? stands)
        rw [if_neg ne]
        exact h.buffer i other stands
      · rw [List.getElem?_append_right new, List.getElem?_singleton] at stands
        split at stands
        · rename_i last
          obtain rfl := Option.some.inj stands
          obtain rfl : i = l.images.length := by omega
          rw [if_pos rfl, h.images]
        · cases stands
    · obtain ⟨old, ne⟩ : other ∉ l.images ∧ other ≠ path := by simpa using out
      rw [NameMap.get?_insert, if_neg ne]
      exact h.no_buffer other old

/-- Registering a texture lists it, and gives the slot of its place. -/
theorem registerTexture (h : r.Represents l) (t : Listing.Texture) :
    (r.registerTexture t.name t.buffer.toNat t.average).1.Represents (l.addTexture t) := by
  unfold Registry.registerTexture Listing.addTexture
  cases found : r.textures.get? t.name with
  | some texture =>
    have mem : t.name ∈ l.textures.map (·.name) := by
      by_contra absent
      rw [h.no_texture _ absent] at found
      cases found
    rw [if_pos mem]
    exact h
  | none =>
    have absent := h.textures_eq_none_iff.mp found
    rw [if_neg absent]
    refine { h with
      texture := fun slot other stands => ?_
      no_texture := fun name out => ?_
      size := by rw [NameMap.size_insert found, h.size, List.length_append, List.length_singleton]
      averages := by rw [h.averages, List.map_append, List.map_singleton] }
    · rw [NameMap.get?_insert]
      rcases Nat.lt_or_ge slot l.textures.length with old | new
      · rw [List.getElem?_append_left old] at stands
        have ne : other.name ≠ t.name := fun same =>
          absent (same ▸ List.mem_map_of_mem (List.mem_of_getElem? stands))
        rw [if_neg ne]
        exact h.texture slot other stands
      · rw [List.getElem?_append_right new, List.getElem?_singleton] at stands
        split at stands
        · obtain rfl := Option.some.inj stands
          obtain rfl : slot = l.textures.length := by omega
          rw [if_pos rfl, h.averages, List.length_map, UInt32.ofNat_toNat]
        · cases stands
    · obtain ⟨old, ne⟩ : name ∉ l.textures.map (·.name) ∧ name ≠ t.name := by simpa using out
      rw [NameMap.get?_insert, if_neg ne]
      exact h.no_texture name old

/-! ### Look-ups -/

/-- The buffer of an image is the place where it is listed, counted in 32 bits. -/
theorem imageIndex?_eq (h : r.Represents l) (path : String) :
    r.imageIndex? path = (l.images.findIdx? (· = path)).map (· % UInt32.size) := by
  rw [imageIndex?]
  cases place : l.images.findIdx? (· = path) with
  | none =>
    have absent : path ∉ l.images := fun mem => by
      simpa using List.findIdx?_eq_none_iff.mp place path mem
    rw [h.no_buffer path absent]
    rfl
  | some i =>
    obtain ⟨lt, same, -⟩ := List.findIdx?_eq_some_iff_getElem.mp place
    have stands : l.images[i]? = some path := by
      rw [List.getElem?_eq_getElem lt, of_decide_eq_true same]
    rw [h.buffer i path stands, Option.map_some, UInt32.toNat_ofNat']
    rfl

/-- In a listing that is not too long the buffer of an image is the place where it is listed. -/
theorem imageIndex?_eq_some_iff (h : r.Represents l) (few : l.images.length ≤ UInt32.size) :
    r.imageIndex? path = some i ↔ l.images[i]? = some path := by
  have place {j : Nat} (stands : l.images[j]? = some path) : r.imageIndex? path = some j := by
    have lt : j < UInt32.size := Nat.lt_of_lt_of_le (List.getElem?_eq_some_iff.mp stands).1 few
    rw [imageIndex?, h.buffer j path stands, Option.map_some, UInt32.toNat_ofNat_of_lt' lt]
  refine ⟨fun found => ?_, place⟩
  have mem : path ∈ l.images := by
    by_contra absent
    rw [imageIndex?, h.no_buffer path absent] at found
    cases found
  obtain ⟨j, stands⟩ := List.getElem?_of_mem mem
  obtain rfl := Option.some.inj ((place stands).symm.trans found)
  exact stands

theorem imageIndex?_eq_findIdx? (h : r.Represents l) (few : l.images.length ≤ UInt32.size)
    (path : String) : r.imageIndex? path = l.images.findIdx? (· = path) := by
  rw [h.imageIndex?_eq]
  cases place : l.images.findIdx? (· = path) with
  | none => rfl
  | some i =>
    have lt : i < UInt32.size :=
      Nat.lt_of_lt_of_le (List.findIdx?_eq_some_iff_getElem.mp place).1 few
    rw [Option.map_some, Nat.mod_eq_of_lt lt]

/-- The images are listed with their places, counted in 32 bits. -/
theorem numberedImages_eq (h : r.Represents l) :
    r.numberedImages = l.images.zipIdx.map fun (path, i) => (path, i % UInt32.size) := by
  rw [numberedImages, h.images]
  exact List.map_congr_left fun e _ => Prod.ext rfl UInt32.toNat_ofNat'

theorem numberedImages_eq_zipIdx (h : r.Represents l) (few : l.images.length ≤ UInt32.size) :
    r.numberedImages = l.images.zipIdx := by
  rw [h.numberedImages_eq]
  refine (List.map_congr_left fun e mem => ?_).trans (List.map_id _)
  have lt : e.2 < UInt32.size :=
    Nat.lt_of_lt_of_le (List.snd_lt_of_mem_zipIdx mem) (by simpa using few)
  exact Prod.ext rfl (Nat.mod_eq_of_lt lt)

/-- The slot of a texture is the place where it is listed. -/
theorem textureSlot?_eq (h : r.Represents l) (name : String) :
    r.textureSlot? name = l.textures.findIdx? (·.name = name) := by
  rw [textureSlot?]
  cases place : l.textures.findIdx? (·.name = name) with
  | none =>
    have absent : name ∉ l.textures.map (·.name) := by simpa using place
    rw [h.no_texture name absent]
    rfl
  | some slot =>
    obtain ⟨lt, same, -⟩ := List.findIdx?_eq_some_iff_getElem.mp place
    obtain rfl := of_decide_eq_true same
    rw [h.texture slot _ (List.getElem?_eq_getElem lt)]
    rfl

/-- The buffer of a texture is that of the first one of its name that is listed. -/
theorem textureBuffer?_eq (h : r.Represents l) (name : String) :
    r.textureBuffer? name = (l.textures.find? (·.name = name)).map (·.buffer.toNat) := by
  rw [textureBuffer?]
  cases found : l.textures.find? (·.name = name) with
  | none =>
    have absent : name ∉ l.textures.map (·.name) := by simpa using found
    rw [h.no_texture name absent]
    rfl
  | some t =>
    obtain rfl : t.name = name := by simpa using List.find?_some found
    obtain ⟨slot, stands⟩ := List.getElem?_of_mem (List.mem_of_find?_eq_some found)
    rw [h.texture slot t stands]
    rfl

theorem average?_eq (h : r.Represents l) (slot : Nat) :
    r.average? slot = l.textures[slot]?.map (·.average) := by
  rw [average?, h.averages, List.getElem?_map]

end Represents

/-! ### Growth -/

/-- The second registry has everything that the first one has, under the same numbers. -/
structure Extends (r s : Registry) : Prop where
  /-- The images come first. -/
  images : r.images <+: s.images
  /-- Images keep their buffers. -/
  buffer : ∀ path b, r.buffers.get? path = some b → s.buffers.get? path = some b
  /-- Textures keep their slots and their buffers. -/
  texture : ∀ name t, r.textures.get? name = some t → s.textures.get? name = some t
  /-- The averages come first. -/
  averages : r.averages <+: s.averages

/-- The texture has the buffer of the image of the path. -/
def Provides (r : Registry) (name path : String) : Prop :=
  ∃ buffer, r.textureBuffer? name = some buffer ∧ r.imageIndex? path = some buffer

namespace Extends

theorem refl (r : Registry) : r.Extends r :=
  ⟨List.prefix_rfl, fun _ _ => id, fun _ _ => id, List.prefix_rfl⟩

theorem trans (h : r.Extends s) (h' : s.Extends t) : r.Extends t where
  images := h.images.trans h'.images
  buffer _ _ found := h'.buffer _ _ (h.buffer _ _ found)
  texture _ _ found := h'.texture _ _ (h.texture _ _ found)
  averages := h.averages.trans h'.averages

theorem imageIndex? (h : r.Extends s) (found : r.imageIndex? path = some i) :
    s.imageIndex? path = some i := by
  obtain ⟨b, known, rfl⟩ := Option.map_eq_some_iff.mp found
  rw [Registry.imageIndex?, h.buffer _ _ known]
  rfl

theorem textureSlot? (h : r.Extends s) (found : r.textureSlot? name = some slot) :
    s.textureSlot? name = some slot := by
  obtain ⟨texture, known, rfl⟩ := Option.map_eq_some_iff.mp found
  rw [Registry.textureSlot?, h.texture _ _ known]
  rfl

theorem textureBuffer? (h : r.Extends s) (found : r.textureBuffer? name = some i) :
    s.textureBuffer? name = some i := by
  obtain ⟨texture, known, rfl⟩ := Option.map_eq_some_iff.mp found
  rw [Registry.textureBuffer?, h.texture _ _ known]
  rfl

theorem average? {v : Vec3} (h : r.Extends s) (found : r.average? slot = some v) :
    s.average? slot = some v := by
  obtain ⟨more, averages⟩ := h.averages
  rw [Registry.average?] at found
  rw [Registry.average?, ← averages,
    List.getElem?_append_left (List.getElem?_eq_some_iff.mp found).1, found]

theorem provides (h : r.Extends s) (hp : r.Provides name path) : s.Provides name path := by
  obtain ⟨buffer, texture, image⟩ := hp
  exact ⟨buffer, h.textureBuffer? texture, h.imageIndex? image⟩

end Extends

theorem extends_registerImage (r : Registry) (path : String) :
    r.Extends (r.registerImage path).1 := by
  unfold registerImage
  split
  · exact .refl r
  · rename_i new
    exact ⟨List.prefix_append _ _, fun _ _ => NameMap.get?_insert_of_new new _, fun _ _ => id,
      List.prefix_rfl⟩

theorem extends_registerTexture (r : Registry) (name : String) (buffer : Nat) (average : Vec3) :
    r.Extends (r.registerTexture name buffer average).1 := by
  unfold registerTexture
  split
  · exact .refl r
  · rename_i new
    exact ⟨List.prefix_rfl, fun _ _ => id, fun _ _ => NameMap.get?_insert_of_new new _,
      List.prefix_append _ _⟩

/-! ### What a registration gives -/

/-- Registering an image gives the buffer that it has afterwards. -/
theorem imageIndex?_registerImage (r : Registry) (path : String) :
    (r.registerImage path).1.imageIndex? path = some (r.registerImage path).2 := by
  rw [registerImage, imageIndex?]
  split
  · rename_i index known
    rw [known]
    rfl
  · rw [NameMap.get?_insert, if_pos rfl]
    rfl

/-- Registering a texture gives the slot that it has afterwards. -/
theorem textureSlot?_registerTexture (r : Registry) (name : String) (buffer : Nat)
    (average : Vec3) : (r.registerTexture name buffer average).1.textureSlot? name
      = some (r.registerTexture name buffer average).2 := by
  rw [registerTexture, textureSlot?]
  split
  · rename_i texture known
    rw [known]
    rfl
  · rw [NameMap.get?_insert, if_pos rfl]
    rfl

/-- A buffer is a number of 32 bits. -/
theorem registerImage_lt (r : Registry) (path : String) :
    (r.registerImage path).2 < UInt32.size := by
  unfold registerImage
  split <;> exact UInt32.toNat_lt_size _

theorem textureBuffer?_registerImage (r : Registry) (path name : String) :
    (r.registerImage path).1.textureBuffer? name = r.textureBuffer? name := by
  unfold registerImage
  split <;> rfl

/-- A new texture has the buffer that it is registered with. -/
theorem textureBuffer?_registerTexture (h : r.textureBuffer? name = none) {buffer : Nat}
    (lt : buffer < UInt32.size) (average : Vec3) :
    (r.registerTexture name buffer average).1.textureBuffer? name = some buffer := by
  have new : r.textures.get? name = none := Option.map_eq_none_iff.mp h
  rw [registerTexture, new, textureBuffer?, NameMap.get?_insert, if_pos rfl, Option.map_some,
    UInt32.toNat_ofNat_of_lt' lt]

theorem textureBuffer?_registerTexture_of_ne {other : String} (h : other ≠ name) (r : Registry)
    (buffer : Nat) (average : Vec3) :
    (r.registerTexture name buffer average).1.textureBuffer? other = r.textureBuffer? other := by
  unfold registerTexture
  split
  · rfl
  · rw [textureBuffer?, NameMap.get?_insert, if_neg h]
    rfl

end Registry

end RayShader
