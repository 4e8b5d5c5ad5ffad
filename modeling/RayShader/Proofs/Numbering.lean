import RayShader.Proofs.Registration
import Mathlib.Data.Finset.Card
import Mathlib.Data.Set.Function

/-!
# Numbers by first registration

Images and textures are numbered alike: a name that is called for the first time gets the
next number, and has it from then on. What calls come to is therefore the list of the calls
that are the first ones for their names (`firsts`), where the number of a name is its place.
In terms of the calls alone, it is how many other names were called for before
(`Numbers`).

A registry keeps such a list of images and one of textures. A call for an image only touches
the one, and a call for a texture the other.
-/

namespace RayShader

/-! ### First calls -/

section Firsts

variable {α : Type} {key : α → String} {as bs : List α} {a : α} {k : String}

/-- The items of a list that are the first ones with their keys, in order. -/
def firsts (key : α → String) : List α → List α
  | [] => []
  | a :: rest => a :: (firsts key rest).filter (key · ≠ key a)

theorem find?_firsts : (firsts key as).find? (key · = k) = as.find? (key · = k) := by
  induction as with
  | nil => rfl
  | cons a rest ih =>
    rw [firsts, List.find?_cons, List.find?_cons]
    by_cases same : key a = k
    · simp [same]
    · have kept : (fun b => decide (decide (key b ≠ key a) = true ∧ decide (key b = k) = true))
          = fun b => decide (key b = k) := by
        funext b
        by_cases h : key b = k <;> simp [h, Ne.symm same]
      simp only [same, decide_false, List.find?_filter, kept, ih]

theorem mem_map_firsts : k ∈ (firsts key as).map key ↔ k ∈ as.map key := by
  have found (bs : List α) : k ∈ bs.map key ↔ (bs.find? (key · = k)).isSome := by simp
  rw [found, found, find?_firsts]

theorem nodup_map_firsts (key : α → String) (as : List α) : ((firsts key as).map key).Nodup := by
  induction as with
  | nil => exact List.nodup_nil
  | cons a rest ih =>
    rw [firsts, List.map_cons, List.nodup_cons]
    exact ⟨by simp, ih.sublist (List.filter_sublist.map key)⟩

/-- Items with different keys are all first ones. -/
theorem firsts_of_nodup (h : (as.map key).Nodup) : firsts key as = as := by
  induction as with
  | nil => rfl
  | cons a rest ih =>
    obtain ⟨fresh, distinct⟩ := List.nodup_cons.mp h
    rw [firsts, ih distinct]
    congr 1
    refine List.filter_eq_self.mpr fun b mem => decide_eq_true fun same => ?_
    exact fresh (List.mem_map.mpr ⟨b, mem, same⟩)

theorem firsts_append (as bs : List α) :
    firsts key (as ++ bs) = firsts key as ++ (firsts key bs).filter (key · ∉ as.map key) := by
  induction as with
  | nil => simp [firsts]
  | cons a as ih =>
    rw [List.cons_append, firsts, ih, firsts, List.filter_append, List.filter_filter]
    simp

theorem findIdx?_firsts_eq_none :
    (firsts key as).findIdx? (key · = k) = none ↔ k ∉ as.map key := by
  rw [← mem_map_firsts]
  simp

/-- One more item is a first one if none has its key. -/
theorem firsts_concat (key : α → String) (as : List α) (a : α) : firsts key (as ++ [a])
    = if key a ∈ (firsts key as).map key then firsts key as else firsts key as ++ [a] := by
  have more : (firsts key [a]).filter (key · ∉ as.map key)
      = if key a ∈ as.map key then [] else [a] := by
    rw [firsts, firsts, List.filter_nil, List.filter_cons, List.filter_nil]
    by_cases mem : key a ∈ as.map key
    · rw [if_pos mem, if_neg (by simpa using mem)]
    · rw [if_neg mem, if_pos (decide_eq_true mem)]
  rw [firsts_append, more]
  by_cases known : key a ∈ as.map key
  · rw [if_pos known, if_pos (mem_map_firsts.mpr known), List.append_nil]
  · rw [if_neg known, if_neg (mt mem_map_firsts.mp known)]

theorem length_firsts : (firsts key as).length = (as.map key).toFinset.card := by
  have same : ((firsts key as).map key).toFinset = (as.map key).toFinset := by
    ext k
    simp only [List.mem_toFinset, mem_map_firsts]
  rw [← same, List.toFinset_card_of_nodup (nodup_map_firsts key as), List.length_map]

/-- In a list of different keys, the place of a key is where it stands. -/
theorem findIdx?_eq_some_iff (h : (as.map key).Nodup) {i : Nat} :
    as.findIdx? (key · = k) = some i ↔ (as.map key)[i]? = some k := by
  rw [List.findIdx?_eq_some_iff_getElem, List.getElem?_eq_some_iff]
  constructor
  · rintro ⟨lt, same, -⟩
    exact ⟨by simpa using lt, by simpa using same⟩
  · rintro ⟨lt, same⟩
    have lt' : i < as.length := by simpa using lt
    refine ⟨lt', by simpa using same, fun j before => ?_⟩
    have other : (as.map key)[j] ≠ (as.map key)[i] := fun eq =>
      Nat.ne_of_lt before ((List.Nodup.getElem_inj_iff h).mp eq)
    rw [same] at other
    simpa using other

end Firsts

/-! ### Numbers of names -/

/-- Names have numbers in the order in which calls were first made for them. -/
structure Numbers (number? : String → Option Nat) (calls : List String) (count : Nat) : Prop where
  /-- The names of calls have the numbers below the count, each its own. -/
  bijective : Set.BijOn number? {name | name ∈ calls} (some '' Set.Iio count)
  /-- No other name has a number. -/
  none_of_not_mem : ∀ name, name ∉ calls → number? name = none
  /-- The number of a name is how many other names had calls before its first one. -/
  first : ∀ before name later, calls = before ++ name :: later → name ∉ before →
    number? name = some before.toFinset.card
  /-- The count is that of different names. -/
  count_eq : count = calls.toFinset.card

/-- Numbers are below the count. -/
theorem Numbers.lt {number? : String → Option Nat} {calls : List String} {count : Nat}
    (h : Numbers number? calls count) {name : String} {i : Nat} (found : number? name = some i) :
    i < count := by
  have mem : name ∈ calls := by
    by_contra absent
    rw [h.none_of_not_mem name absent] at found
    cases found
  obtain ⟨j, lt, same⟩ := h.bijective.mapsTo mem
  obtain rfl := Option.some.inj (same.trans found)
  exact lt

theorem numbers_firsts {α : Type} (key : α → String) (as : List α) :
    Numbers (fun name => (firsts key as).findIdx? (key · = name)) (as.map key)
      (firsts key as).length := by
  have distinct := nodup_map_firsts key as
  have place {name : String} {i : Nat} : (firsts key as).findIdx? (key · = name) = some i
      ↔ ((firsts key as).map key)[i]? = some name := findIdx?_eq_some_iff distinct
  have placed {name : String} (mem : name ∈ as.map key) :
      ∃ i < (firsts key as).length, (firsts key as).findIdx? (key · = name) = some i := by
    obtain ⟨i, lt, rfl⟩ := List.getElem_of_mem (mem_map_firsts.mpr mem)
    exact ⟨i, by simpa using lt, place.mpr (List.getElem?_eq_getElem lt)⟩
  refine ⟨⟨fun name mem => ?_, fun name mem name' _ same => ?_, ?_⟩, fun name absent => ?_,
    fun before name later split fresh => ?_, length_firsts⟩
  · obtain ⟨i, lt, found⟩ := placed mem
    exact ⟨i, lt, found.symm⟩
  · obtain ⟨i, -, found⟩ := placed mem
    have found' := (same : _ = (firsts key as).findIdx? (key · = name')).symm.trans found
    exact Option.some.inj ((place.mp found).symm.trans (place.mp found'))
  · rintro _ ⟨i, lt, rfl⟩
    have lt' : i < ((firsts key as).map key).length := by simpa using lt
    exact ⟨_, mem_map_firsts.mp (List.getElem_mem lt'), place.mpr (List.getElem?_eq_getElem lt')⟩
  · exact findIdx?_firsts_eq_none.mpr absent
  · obtain ⟨bs, cs, rfl, rfl, behind⟩ := List.map_eq_append_iff.mp split
    obtain ⟨a, ds, rfl, rfl, -⟩ := List.map_eq_cons_iff.mp behind
    rw [place, ← length_firsts, firsts_append, firsts,
      List.filter_cons_of_pos (by simpa using fresh), List.map_append, List.map_cons,
      List.getElem?_append_right (by simp)]
    simp

/-! ### Registrations -/

namespace Registry

/-- A call that registers something. -/
inductive Registration where
  /-- An image. -/
  | image (path : String)
  /-- A texture with a buffer and an average. -/
  | texture (t : Listing.Texture)

namespace Registration

/-- Registers it, and gives its number. -/
def perform (r : Registry) : Registration → Registry × Nat
  | image path => r.registerImage path
  | texture t => r.registerTexture t.name t.buffer.toNat t.average

/-- The number that a registry has for it. -/
def number? (r : Registry) : Registration → Option Nat
  | image path => r.imageIndex? path
  | texture t => r.textureSlot? t.name

/-- The image, if it is one. -/
def image? : Registration → Option String
  | image path => some path
  | texture _ => none

/-- The texture, if it is one. -/
def texture? : Registration → Option Listing.Texture
  | image _ => none
  | texture t => some t

end Registration

/-- The registry after calls. -/
def after (r : Registry) (calls : List Registration) : Registry :=
  calls.foldl (fun r call => (call.perform r).1) r

/-- The images of calls, in order. -/
def imageCalls (calls : List Registration) : List String := calls.filterMap Registration.image?

/-- The textures of calls, in order. -/
def textureCalls (calls : List Registration) : List Listing.Texture :=
  calls.filterMap Registration.texture?

/-- What calls come to: the first calls for images and for textures. -/
def listing (calls : List Registration) : Listing :=
  ⟨firsts id (imageCalls calls), firsts Listing.Texture.name (textureCalls calls)⟩

variable {r s : Registry} {l : Listing} {calls : List Registration} {path name : String} {i : Nat}

theorem after_append (r : Registry) (calls later : List Registration) :
    r.after (calls ++ later) = (r.after calls).after later :=
  List.foldl_append

theorem after_concat (r : Registry) (calls : List Registration) (call : Registration) :
    r.after (calls ++ [call]) = (call.perform (r.after calls)).1 := by
  rw [after_append]
  rfl

@[simp] theorem imageCalls_append (calls later : List Registration) :
    imageCalls (calls ++ later) = imageCalls calls ++ imageCalls later := List.filterMap_append

@[simp] theorem textureCalls_append (calls later : List Registration) :
    textureCalls (calls ++ later) = textureCalls calls ++ textureCalls later :=
  List.filterMap_append

@[simp] theorem imageCalls_image (path : String) : imageCalls [.image path] = [path] := rfl

@[simp] theorem imageCalls_texture (t : Listing.Texture) : imageCalls [.texture t] = [] := rfl

@[simp] theorem textureCalls_image (path : String) : textureCalls [.image path] = [] := rfl

@[simp] theorem textureCalls_texture (t : Listing.Texture) : textureCalls [.texture t] = [t] := rfl

theorem addImage_listing (calls : List Registration) (path : String) :
    (listing calls).addImage path = listing (calls ++ [.image path]) := by
  have images := firsts_concat id (imageCalls calls) path
  rw [List.map_id] at images
  rw [Listing.addImage, listing, listing]
  simp only [imageCalls_append, imageCalls_image, textureCalls_append, textureCalls_image,
    List.append_nil, images, id]
  split <;> rfl

theorem addTexture_listing (calls : List Registration) (t : Listing.Texture) :
    (listing calls).addTexture t = listing (calls ++ [.texture t]) := by
  rw [Listing.addTexture, listing, listing]
  simp only [imageCalls_append, imageCalls_texture, textureCalls_append, textureCalls_texture,
    List.append_nil, firsts_concat]
  split <;> rfl

/-- A registry represents the first calls for images and for textures. -/
theorem represents_after (calls : List Registration) :
    (empty.after calls).Represents (listing calls) := by
  induction calls using List.reverseRecOn with
  | nil => exact represents_empty
  | append_singleton calls call ih =>
    rw [after_concat]
    cases call with
    | image path => exact addImage_listing calls path ▸ ih.registerImage path
    | texture t => exact addTexture_listing calls t ▸ ih.registerTexture t

/-- There are as many images as different ones were called for. -/
theorem length_images_listing (calls : List Registration) :
    (listing calls).images.length = (imageCalls calls).toFinset.card := by
  rw [listing, length_firsts, List.map_id]

/-! ### Numbers that stay -/

/-- What has a number in the first registry, or is found under one, has the same in the
second. -/
structure Keeps (r s : Registry) : Prop where
  /-- Images keep their buffers. -/
  imageIndex? : ∀ path i, r.imageIndex? path = some i → s.imageIndex? path = some i
  /-- Textures keep their slots. -/
  textureSlot? : ∀ name i, r.textureSlot? name = some i → s.textureSlot? name = some i
  /-- Textures keep the buffers that they were given. -/
  textureBuffer? : ∀ name b, r.textureBuffer? name = some b → s.textureBuffer? name = some b
  /-- Slots keep their averages. -/
  average? : ∀ slot v, r.average? slot = some v → s.average? slot = some v

/-- Where something is only added, numbers stay. -/
theorem Extends.keeps (h : r.Extends s) : r.Keeps s where
  imageIndex? _ _ := h.imageIndex?
  textureSlot? _ _ := h.textureSlot?
  textureBuffer? _ _ := h.textureBuffer?
  average? _ _ := h.average?

theorem extends_perform (r : Registry) (call : Registration) : r.Extends (call.perform r).1 := by
  cases call with
  | image path => exact extends_registerImage r path
  | texture t => exact extends_registerTexture r t.name t.buffer.toNat t.average

theorem extends_after (r : Registry) (calls : List Registration) : r.Extends (r.after calls) := by
  induction calls generalizing r with
  | nil => exact .refl r
  | cons call rest ih => exact (extends_perform r call).trans (ih _)

/-- A call gives the number that its look-up finds behind it. -/
theorem number?_perform (r : Registry) (call : Registration) :
    call.number? (call.perform r).1 = some (call.perform r).2 := by
  cases call with
  | image path => exact imageIndex?_registerImage r path
  | texture t => exact textureSlot?_registerTexture r t.name t.buffer.toNat t.average

theorem Keeps.number? (h : r.Keeps s) {call : Registration} {i : Nat}
    (found : call.number? r = some i) : call.number? s = some i := by
  cases call with
  | image path => exact h.imageIndex? path i found
  | texture t => exact h.textureSlot? t.name i found

/-! ### Registries after calls -/

/-- What is so of a registry after calls. -/
structure Numbered (calls : List Registration) (r : Registry) : Prop where
  /-- Images have buffers in the order in which they were first called for. -/
  images : Numbers r.imageIndex? (imageCalls calls) r.imageCount
  /-- The list of images has them with their buffers, -/
  listed : ∀ path i, (path, i) ∈ r.numberedImages ↔ r.imageIndex? path = some i
  /-- and the buffers in it count up from zero. -/
  ordered : r.numberedImages.map Prod.snd = List.range r.imageCount
  /-- Textures have slots in the order in which they were first called for. -/
  textures : Numbers r.textureSlot? ((textureCalls calls).map (·.name)) r.textureCount
  /-- There is an average for each slot. -/
  averages_length : r.averages.length = r.textureCount
  /-- A texture has the buffer and the average of the first call for it. -/
  firstData : ∀ before t later, textureCalls calls = before ++ t :: later →
    t.name ∉ before.map (·.name) → r.textureBuffer? t.name = some t.buffer.toNat ∧
      ∃ slot, r.textureSlot? t.name = some slot ∧ r.averages[slot]? = some t.average ∧
        r.average? slot = some t.average
  /-- No other texture has a buffer. -/
  noData : ∀ name, name ∉ (textureCalls calls).map (·.name) → r.textureBuffer? name = none

/-- What a texture was given is found under its name and its slot. -/
theorem Represents.data_of_slot (h : r.Represents l) {slot : Nat} {t : Listing.Texture}
    (stands : l.textures[slot]? = some t) :
    r.textureSlot? t.name = some slot ∧ r.textureBuffer? t.name = some t.buffer.toNat ∧
      r.averages[slot]? = some t.average ∧ r.average? slot = some t.average := by
  have found := h.texture slot t stands
  have average : r.average? slot = some t.average := by
    rw [h.average?_eq, stands]
    rfl
  exact ⟨by rw [textureSlot?, found]; rfl, by rw [textureBuffer?, found]; rfl, average, average⟩

theorem numbered_after (calls : List Registration)
    (few : (imageCalls calls).toFinset.card ≤ UInt32.size) : Numbered calls (empty.after calls) := by
  have represents := represents_after calls
  have fits : (listing calls).images.length ≤ UInt32.size := length_images_listing calls ▸ few
  have images : Numbers (empty.after calls).imageIndex? (imageCalls calls)
      (empty.after calls).imageCount := by
    have numbers := numbers_firsts id (imageCalls calls)
    rw [List.map_id] at numbers
    rw [imageCount, represents.images, funext (represents.imageIndex?_eq_findIdx? fits)]
    exact numbers
  have textures : Numbers (empty.after calls).textureSlot? ((textureCalls calls).map (·.name))
      (empty.after calls).textureCount := by
    rw [textureCount, represents.size, funext represents.textureSlot?_eq]
    exact numbers_firsts Listing.Texture.name (textureCalls calls)
  refine ⟨images, fun path i => ?_, ?_, textures, ?_, fun before t later split fresh => ?_,
    fun name absent => ?_⟩
  · rw [represents.numberedImages_eq_zipIdx fits, List.mem_zipIdx_iff_getElem?]
    exact (represents.imageIndex?_eq_some_iff fits).symm
  · rw [represents.numberedImages_eq_zipIdx fits, List.zipIdx_map_snd, List.range_eq_range',
      imageCount, represents.images]
  · rw [represents.averages, List.length_map, textureCount, represents.size]
  · have none : before.find? (·.name = t.name) = none := by simpa using fresh
    have found : (listing calls).textures.find? (·.name = t.name) = some t := by
      rw [listing, find?_firsts, split, List.find?_append, none]
      simp
    obtain ⟨slot, stands⟩ := List.getElem?_of_mem (List.mem_of_find?_eq_some found)
    obtain ⟨named, buffer, averages, average⟩ := represents.data_of_slot stands
    exact ⟨buffer, slot, named, averages, average⟩
  · have none : (listing calls).textures.find? (·.name = name) = none := by
      rw [listing, find?_firsts]
      simpa using absent
    rw [represents.textureBuffer?_eq, none]
    rfl

/-- **Images and textures are numbered by first registration.** After any calls on an empty
registry its maps and lists are those of the first calls for images and for textures. If these are
not too many images for buffers of 32 bits, the numbers of images and of textures are those of the
first calls for them. A call gives what its look-up finds from then on, whatever is called later,
and later calls change nothing that was given out. Calls for images leave the textures alone, and
calls for textures the images. -/
theorem numbered_by_first_call (calls : List Registration)
    (few : (imageCalls calls).toFinset.card ≤ UInt32.size) :
    (empty.after calls).Represents (listing calls) ∧ Numbered calls (empty.after calls) ∧
      (∀ (call : Registration) later,
        call.number? ((call.perform (empty.after calls)).1.after later)
          = some (call.perform (empty.after calls)).2) ∧
      (∀ later, (empty.after calls).Keeps ((empty.after calls).after later)) ∧
      (∀ path, ((empty.after calls).registerImage path).1.textures = (empty.after calls).textures ∧
        ((empty.after calls).registerImage path).1.averages = (empty.after calls).averages) ∧
      ∀ name buffer average,
        ((empty.after calls).registerTexture name buffer average).1.images
            = (empty.after calls).images ∧
          ((empty.after calls).registerTexture name buffer average).1.buffers
            = (empty.after calls).buffers := by
  refine ⟨represents_after calls, numbered_after calls few, fun call later => ?_, fun later => ?_,
    fun path => ?_, fun name buffer average => ?_⟩
  · exact (extends_after _ later).keeps.number? (number?_perform _ call)
  · exact (extends_after _ later).keeps
  · unfold registerImage
    split <;> exact ⟨rfl, rfl⟩
  · unfold registerTexture
    split <;> exact ⟨rfl, rfl⟩

/-- Calls for two images, one of them twice, and for two textures, one of them again with another
buffer and another average. -/
def woodCalls : List Registration :=
  [.image "wood.png", .texture ⟨"wood", 0, .one⟩, .image "bark.png", .image "wood.png",
    .texture ⟨"bark", 1, .zero⟩, .texture ⟨"wood", 42, .zero⟩]

/-- A texture that is registered again keeps its slot and its first data. -/
theorem wood_keeps_first_data :
    (imageCalls woodCalls).toFinset.card ≤ UInt32.size ∧ Numbered woodCalls (empty.after woodCalls) ∧
      (empty.after woodCalls).imageIndex? "bark.png" = some 1 ∧
      (empty.after woodCalls).textureBuffer? "wood" = some 0 ∧
      (empty.after woodCalls).average? 0 = some .one := by
  have few : (imageCalls woodCalls).toFinset.card ≤ UInt32.size := by decide
  obtain ⟨-, numbered, -⟩ := numbered_by_first_call woodCalls few
  have bark := numbered.images.first ["wood.png"] "bark.png" ["wood.png"] rfl (by decide)
  obtain ⟨buffer, slot, named, -, average⟩ :=
    numbered.firstData [] ⟨"wood", 0, .one⟩ _ rfl (by simp)
  obtain rfl : slot = 0 :=
    Option.some.inj (named.symm.trans (numbered.textures.first [] "wood" _ rfl (by simp)))
  exact ⟨few, numbered, bark, buffer, average⟩

end Registry

end RayShader
