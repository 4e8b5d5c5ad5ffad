import RayShader.Proofs.AssetPaths
import RayShader.Proofs.Numbering

/-!
# Registering the image textures of a scene

The textures of a scene are registered in the order of their names. Those that are no images
are passed over, and the first image texture with a defect ends the registration.

A defect only depends on the texture itself and the path of its file only on the texture and the
file of the scene, so the files of the textures can be read first (`readAll`) and be registered
afterwards (`withFiles`). A registration that is made again reads the same files, and a registry
that has them stays as it is.
-/

namespace RayShader

/-! ### Reading image textures -/

/-- What is registered of an image texture. -/
structure ImageFile where
  /-- The name of the texture. -/
  name : String
  /-- The path of its file. -/
  path : String
  /-- The average of its colors. -/
  average : Vec3

namespace Context

variable {c : Context} {name : String} {o : Object} {e : Error} {p : String × Object}
  {before later textures : List (String × Object)} {files : List ImageFile} {r s : Registry}

/-- The image textures of the scene, in the order of their names. -/
def imageTextures (c : Context) : List (String × Object) :=
  c.scene.textures.entries.filter (·.2.kind = "image")

/-- The color that the value of a property stands for. Without a value it is white. -/
def average? : Option Property → Option Vec3
  | none => some .one
  | some (.vector3 v) => some v
  | some (.number x) => some (.splat x)
  | some (.integer n) => some (.splat (.ofInt n.toInt))
  | some _ => none

/-- What is wrong with an image texture. A defect of its file goes before one of its average. -/
def defect? (name : String) (o : Object) : Option Error :=
  match o.property? "filename", average? (o.property? "average") with
  | none, _ => some (.missingProperty name "filename")
  | some (.string _), some _ => none
  | some (.string _), none => some (.propertyMismatch o.name "average" "vector3 or number")
  | some _, _ => some (.propertyMismatch o.name "filename" "string")

/-- The texture names the file and has the average. -/
structure Reads (c : Context) (p : String × Object) (file : ImageFile) : Prop where
  /-- The name is that of the texture. -/
  name : p.1 = file.name
  /-- The path is that of the file that it names. -/
  path : c.Located p.2 file.path
  /-- The average is its own, or white. -/
  average : average? (p.2.property? "average") = some file.average

theorem color_eq (o : Object) :
    color o "average" defaultColor = match average? (o.property? "average") with
      | some v => .ok v
      | none => .error (.propertyMismatch o.name "average" "vector3 or number") := by
  unfold color Object.vector3
  cases o.property? "average" with
  | none => rfl
  | some value => cases value <;> rfl

theorem imageTexture_of_defect (h : defect? name o = some e) :
    c.imageTexture name o = .error e := by
  unfold defect? at h
  unfold imageTexture Object.string?
  rw [color_eq]
  cases file : o.property? "filename" with
  | none =>
    rw [file] at h
    obtain rfl := Option.some.inj h
    rfl
  | some value =>
    cases value with
    | string path =>
      cases average : average? (o.property? "average") with
      | none =>
        rw [file, average] at h
        obtain rfl := Option.some.inj h
        rfl
      | some v =>
        rw [file, average] at h
        cases h
    | _ =>
      rw [file] at h
      obtain rfl := Option.some.inj h
      rfl

theorem imageTexture_of_none (h : defect? name o = none) :
    ∃ path average, c.imageTexture name o = .ok (path, average) ∧
      c.Reads (name, o) ⟨name, path, average⟩ := by
  unfold defect? at h
  cases file : o.property? "filename" with
  | none =>
    rw [file] at h
    cases h
  | some value =>
    cases value with
    | string path =>
      cases average : average? (o.property? "average") with
      | none =>
        rw [file, average] at h
        cases h
      | some v =>
        refine ⟨c.assetPath path o, v, imageTexture_eq_ok.mpr ⟨path, file, ?_, rfl⟩,
          rfl, ⟨path, file, resolves_iff.mpr rfl⟩, average⟩
        rw [color_eq, average]
    | _ =>
      rw [file] at h
      cases h

/-- The files of image textures up to the first defective one, and how the reading ends. -/
def readAll (read : String → Object → Except Error (String × Vec3)) :
    List (String × Object) → List ImageFile × Except Failure Unit
  | [] => ([], .ok ())
  | (name, o) :: rest =>
    match read name o with
    | .ok (path, average) => (⟨name, path, average⟩ :: (readAll read rest).1, (readAll read rest).2)
    | .error e => ([], .error (.error e))

theorem readAll_of_readable (h : ∀ p ∈ before, defect? p.1 p.2 = none) :
    ∃ files, readAll c.imageTexture before = (files, .ok ()) ∧
      List.Forall₂ c.Reads before files := by
  induction before with
  | nil => exact ⟨[], rfl, .nil⟩
  | cons p before ih =>
    obtain ⟨first, others⟩ := List.forall_mem_cons.mp h
    obtain ⟨path, average, read, reads⟩ := imageTexture_of_none (c := c) first
    obtain ⟨files, all, more⟩ := ih others
    exact ⟨⟨p.1, path, average⟩ :: files, by simp only [readAll, read, all], .cons reads more⟩

/-- A defective texture ends the reading, whatever comes after it. -/
theorem readAll_of_defect (read : readAll c.imageTexture before = (files, .ok ()))
    (h : defect? p.1 p.2 = some e) :
    readAll c.imageTexture (before ++ p :: later) = (files, .error (.error e)) := by
  induction before generalizing files with
  | nil =>
    obtain rfl : [] = files := (Prod.mk.inj read).1
    simp only [List.nil_append, readAll, imageTexture_of_defect h]
  | cons q before ih =>
    rw [readAll] at read
    split at read
    · rename_i path average first
      obtain ⟨rfl, rest⟩ := Prod.mk.inj read
      have behind := ih (Prod.ext rfl rest)
      simp only [List.cons_append, readAll, first, behind]
    · cases (Prod.mk.inj read).2

/-! ### Registering files -/

/-- The registry with image textures and their files. -/
def withFiles (r : Registry) (files : List ImageFile) : Registry :=
  files.foldl (fun r file => registryWith r file.name file.path file.average) r

/-- The context with what was read, and how the reading ended. -/
def store (c : Context) (found : List ImageFile × Except Failure Unit) :
    Context × Except Failure Unit :=
  ({ c with registry := withFiles c.registry found.1 }, found.2)

/-- Registering textures is reading those that are images and registering their files. -/
theorem step_registerAll (textures : List (String × Object)) (c : Context) :
    (registerAll textures).step c
      = c.store (readAll c.imageTexture (textures.filter (·.2.kind = "image"))) := by
  induction textures generalizing c with
  | nil => rfl
  | cons p rest ih =>
    obtain ⟨name, o⟩ := p
    have one := step_registerTexture c name o
    rw [registerAll, Stage.bind_eq]
    by_cases kind : o.kind = "image"
    · rw [if_pos kind] at one
      rw [List.filter_cons_of_pos (by simpa using kind), readAll]
      cases read : c.imageTexture name o with
      | ok found =>
        rw [read] at one
        rw [Stage.step_bind_of_ok one, ih]
        rfl
      | error e =>
        rw [read] at one
        exact Stage.step_bind_of_error one _
    · rw [if_neg kind] at one
      rw [List.filter_cons_of_neg (by simpa using kind), Stage.step_bind_of_ok one, ih]

theorem step_registerTextures (c : Context) :
    registerTextures.step c = c.store (readAll c.imageTexture c.imageTextures) :=
  step_registerAll _ c

/-! ### Registering again -/

/-- The calls that register a file in a registry. -/
def fileCalls (r : Registry) (file : ImageFile) : List Registry.Registration :=
  [.image file.path, .texture ⟨file.name, .ofNat (r.registerImage file.path).2, file.average⟩]

theorem registryWith_eq_after (r : Registry) (file : ImageFile) :
    registryWith r file.name file.path file.average = r.after (fileCalls r file) := by
  have buffer : (UInt32.ofNat (r.registerImage file.path).2).toNat = (r.registerImage file.path).2 :=
    UInt32.toNat_ofNat_of_lt' (Registry.registerImage_lt r file.path)
  rw [fileCalls, Registry.after, List.foldl_cons, List.foldl_cons, List.foldl_nil,
    Registry.Registration.perform, Registry.Registration.perform, buffer, registryWith]

/-- The registry has numbers for the image and the texture of the file. -/
def Known (r : Registry) (file : ImageFile) : Prop :=
  (∃ buffer, r.buffers.get? file.path = some buffer) ∧
    ∃ texture, r.textures.get? file.name = some texture

theorem Known.of_extends {file : ImageFile} (h : Known r file) (more : r.Extends s) :
    Known s file := by
  obtain ⟨⟨buffer, image⟩, slot, texture⟩ := h
  exact ⟨⟨buffer, more.buffer _ _ image⟩, slot, more.texture _ _ texture⟩

theorem known_registryWith (r : Registry) (file : ImageFile) :
    Known (registryWith r file.name file.path file.average) file := by
  obtain ⟨buffer, image, -⟩ := Option.map_eq_some_iff.mp
    (Registry.imageIndex?_registerImage r file.path)
  obtain ⟨texture, found, -⟩ := Option.map_eq_some_iff.mp (Registry.textureSlot?_registerTexture
    (r.registerImage file.path).1 file.name (r.registerImage file.path).2 file.average)
  have more := Registry.extends_registerTexture (r.registerImage file.path).1 file.name
    (r.registerImage file.path).2 file.average
  exact ⟨⟨buffer, more.buffer _ _ image⟩, texture, found⟩

theorem registryWith_of_known {file : ImageFile} (h : Known r file) :
    registryWith r file.name file.path file.average = r := by
  obtain ⟨⟨buffer, image⟩, slot, texture⟩ := h
  simp only [registryWith, Registry.registerImage, image, Registry.registerTexture, texture]

theorem extends_withFiles (r : Registry) (files : List ImageFile) :
    r.Extends (withFiles r files) := by
  induction files generalizing r with
  | nil => exact .refl r
  | cons file rest ih =>
    have one := Registry.extends_after r (fileCalls r file)
    rw [← registryWith_eq_after] at one
    exact one.trans (ih _)

theorem known_withFiles (r : Registry) : ∀ file ∈ files, Known (withFiles r files) file := by
  induction files generalizing r with
  | nil => simp
  | cons first rest ih =>
    intro file mem
    rcases List.mem_cons.mp mem with rfl | mem
    · exact (known_registryWith r file).of_extends (extends_withFiles _ rest)
    · exact ih _ file mem

theorem withFiles_of_known (h : ∀ file ∈ files, Known r file) : withFiles r files = r := by
  induction files with
  | nil => rfl
  | cons file rest ih =>
    obtain ⟨first, others⟩ := List.forall_mem_cons.mp h
    rw [withFiles, List.foldl_cons, registryWith_of_known first]
    exact ih others

theorem withFiles_again (r : Registry) (files : List ImageFile) :
    withFiles (withFiles r files) files = withFiles r files :=
  withFiles_of_known (known_withFiles r)

/-- The textures may be registered twice. What is read does not depend on the registry. -/
theorem registerTextures_again (c : Context) :
    registerTextures.step (registerTextures.step c).1 = registerTextures.step c := by
  set found := readAll c.imageTexture c.imageTextures with hf
  have first : registerTextures.step c = c.store found := step_registerTextures c
  have second : registerTextures.step (c.store found).1 = (c.store found).1.store found :=
    step_registerTextures (c.store found).1
  rw [first, second]
  simp only [store, withFiles_again]

/-! ### What a registry has afterwards -/

/-- A registry with image textures and the paths of their files: each texture has the slot of its
place, its average and the buffer of its path. -/
structure Holds (c : Context) (images : List (String × Object)) (paths : List String)
    (r : Registry) : Prop where
  /-- The paths are where the file names of the textures lead. -/
  located : List.Forall₂ (fun p path => c.Located p.2 path) images paths
  /-- The slot of a texture is its place, and its average is in the slot. -/
  slot : ∀ (k : Nat) (name : String) (o : Object), images[k]? = some (name, o) →
    r.textureSlot? name = some k ∧
      ∃ v, average? (o.property? "average") = some v ∧ r.average? k = some v
  /-- The images are the different paths in the order of their first use, with their places in
  32 bits. -/
  listed : r.numberedImages = (firsts id paths).zipIdx.map fun (path, i) => (path, i % UInt32.size)
  /-- The buffer of a texture is that of its path. -/
  buffer : ∀ (k : Nat) (p : String × Object) (path : String), images[k]? = some p →
    paths[k]? = some path → ∃ i, (firsts id paths)[i]? = some path ∧
      r.textureBuffer? p.1 = some (i % UInt32.size)
  /-- If there are not too many paths, two textures have the same buffer exactly when their paths
  are the same. -/
  shared : paths.toFinset.card ≤ UInt32.size → ∀ (j k : Nat) (p q : String × Object)
    (path path' : String), images[j]? = some p → paths[j]? = some path → images[k]? = some q →
    paths[k]? = some path' → (r.textureBuffer? p.1 = r.textureBuffer? q.1 ↔ path = path')
  /-- No other path is that of an image. -/
  known : ∀ path, path ∈ r.images ↔ path ∈ paths
  /-- There are no more slots than textures, -/
  count : r.textureCount = images.length
  /-- and no other texture has one, or a buffer. -/
  other : ∀ name, name ∉ images.map (·.1) →
    r.textureSlot? name = none ∧ r.textureBuffer? name = none

/-- The texture that is listed is that of the file, with the buffer of its path. -/
structure IsOf (r : Registry) (file : ImageFile) (t : Listing.Texture) : Prop where
  /-- The name is that of the texture. -/
  name : t.name = file.name
  /-- The average is that of the texture. -/
  average : t.average = file.average
  /-- The buffer is that of the path. -/
  buffer : r.imageIndex? file.path = some t.buffer.toNat

/-- Files come to calls for their paths and their textures. -/
theorem withFiles_empty (files : List ImageFile) :
    ∃ calls, withFiles .empty files = Registry.empty.after calls ∧
      Registry.imageCalls calls = files.map (·.path) ∧
      List.Forall₂ (IsOf (withFiles .empty files)) files (Registry.textureCalls calls) := by
  -- from the end of the list, since the buffer of a file is that of the registry before it
  induction files using List.reverseRecOn with
  | nil => exact ⟨[], rfl, rfl, .nil⟩
  | append_singleton files file ih =>
    obtain ⟨calls, same, paths, textures⟩ := ih
    set r := withFiles .empty files with hr
    have stepped : withFiles .empty (files ++ [file])
        = registryWith r file.name file.path file.average := List.foldl_concat ..
    have more : r.Extends (withFiles .empty (files ++ [file])) := by
      rw [stepped, registryWith_eq_after]
      exact Registry.extends_after r (fileCalls r file)
    have texture : (r.registerImage file.path).1.Extends (withFiles .empty (files ++ [file])) := by
      rw [stepped]
      exact Registry.extends_registerTexture ..
    have image : (r.registerImage file.path).1.imageIndex? file.path
        = some (UInt32.ofNat (r.registerImage file.path).2).toNat := by
      rw [Registry.imageIndex?_registerImage,
        UInt32.toNat_ofNat_of_lt' (Registry.registerImage_lt r file.path)]
    refine ⟨calls ++ fileCalls r file, ?_, ?_, ?_⟩
    · rw [stepped, registryWith_eq_after, same, Registry.after_append]
    · rw [Registry.imageCalls_append, paths, List.map_append]
      rfl
    · have kept : List.Forall₂ (IsOf (withFiles .empty (files ++ [file]))) files
          (Registry.textureCalls calls) :=
        textures.imp fun f t is => ⟨is.name, is.average, more.imageIndex? is.buffer⟩
      rw [Registry.textureCalls_append]
      exact List.rel_append kept (.cons ⟨rfl, rfl, texture.imageIndex? image⟩ .nil)

theorem map_eq_of_forall₂ {α β γ : Type} {R : α → β → Prop} {f : α → γ} {g : β → γ} {as : List α}
    {bs : List β} (all : List.Forall₂ R as bs) (h : ∀ a b, R a b → f a = g b) :
    as.map f = bs.map g := by
  induction all with
  | nil => rfl
  | cons first _ ih => rw [List.map_cons, List.map_cons, h _ _ first, ih]

/-- A file of a list stands where the texture does that it was read of. -/
theorem file_of_reads {images : List (String × Object)}
    (reads : List.Forall₂ c.Reads images files) {k : Nat} (at_k : images[k]? = some p) :
    ∃ file, files[k]? = some file ∧ c.Reads p file := by
  obtain ⟨lt, rfl⟩ := List.getElem?_eq_some_iff.mp at_k
  have lt_files : k < files.length := reads.length_eq ▸ lt
  exact ⟨_, List.getElem?_eq_getElem lt_files, reads.get lt lt_files⟩

/-- In a list of different keys that is not too long, places in 32 bits are the same for the same
key alone. -/
theorem place_inj {keys : List String} (distinct : keys.Nodup) (few : keys.length ≤ UInt32.size)
    {i j : Nat} {k k' : String} (at_i : keys[i]? = some k) (at_j : keys[j]? = some k') :
    some (i % UInt32.size) = some (j % UInt32.size) ↔ k = k' := by
  obtain ⟨lt, rfl⟩ := List.getElem?_eq_some_iff.mp at_i
  obtain ⟨lt', rfl⟩ := List.getElem?_eq_some_iff.mp at_j
  rw [Option.some.injEq, Nat.mod_eq_of_lt (Nat.lt_of_lt_of_le lt few),
    Nat.mod_eq_of_lt (Nat.lt_of_lt_of_le lt' few), List.Nodup.getElem_inj_iff distinct]

/-- What registering image textures with different names in an empty registry comes to. -/
theorem holds_withFiles {images : List (String × Object)}
    (reads : List.Forall₂ c.Reads images files) (distinct : (images.map (·.1)).Nodup) :
    c.Holds images (files.map (·.path)) (withFiles .empty files) := by
  obtain ⟨calls, same, paths, are⟩ := withFiles_empty files
  set r := withFiles .empty files with hr
  have represents : r.Represents (Registry.listing calls) :=
    same ▸ Registry.represents_after calls
  have images_eq : (Registry.listing calls).images = firsts id (files.map (·.path)) := by
    rw [Registry.listing, paths]
  have names : (Registry.textureCalls calls).map (·.name) = images.map (·.1) :=
    calc (Registry.textureCalls calls).map (·.name)
        = files.map (·.name) := (map_eq_of_forall₂ are fun _ _ is => is.name.symm).symm
      _ = images.map (·.1) := (map_eq_of_forall₂ reads fun _ _ read => read.name).symm
  -- with different names every call is the first one for its texture
  have textures_eq : (Registry.listing calls).textures = Registry.textureCalls calls :=
    firsts_of_nodup (names ▸ distinct)
  have placed {k : Nat} {p : String × Object} (at_k : images[k]? = some p) :
      ∃ file t, files[k]? = some file ∧ c.Reads p file ∧
        (Registry.listing calls).textures[k]? = some t ∧ IsOf r file t := by
    obtain ⟨file, stands, read⟩ := file_of_reads reads at_k
    obtain ⟨lt, rfl⟩ := List.getElem?_eq_some_iff.mp stands
    have lt_textures : k < (Registry.textureCalls calls).length := are.length_eq ▸ lt
    exact ⟨_, _, stands, read, by rw [textures_eq, List.getElem?_eq_getElem lt_textures]; rfl,
      are.get lt lt_textures⟩
  have buffer (k : Nat) (p : String × Object) (path : String) (at_k : images[k]? = some p)
      (path_k : (files.map (·.path))[k]? = some path) :
      ∃ i, (firsts id (files.map (·.path)))[i]? = some path ∧
        r.textureBuffer? p.1 = some (i % UInt32.size) := by
    obtain ⟨file, t, file_k, read, stands, is⟩ := placed at_k
    obtain ⟨-, buffer, -⟩ := represents.data_of_slot stands
    have path_eq : path = file.path := by
      rw [List.getElem?_map, file_k] at path_k
      exact (Option.some.inj path_k).symm
    have named : t.name = p.1 := is.name.trans read.name.symm
    have place := is.buffer
    rw [represents.imageIndex?_eq, images_eq] at place
    obtain ⟨i, found, small⟩ := Option.map_eq_some_iff.mp place
    obtain ⟨lt, here, -⟩ := List.findIdx?_eq_some_iff_getElem.mp found
    refine ⟨i, ?_, by rw [small, ← named, buffer]⟩
    rw [List.getElem?_eq_getElem lt, of_decide_eq_true here, path_eq]
  refine ⟨?_, fun k name o at_k => ?_, ?_, buffer, fun few j k p q path path' at_j path_j at_k
    path_k => ?_, fun path => ?_, ?_, fun name absent => ?_⟩
  · exact List.forall₂_map_right_iff.mpr (reads.imp fun _ _ read => read.path)
  · obtain ⟨file, t, -, read, stands, is⟩ := placed at_k
    obtain ⟨slot, -, -, average⟩ := represents.data_of_slot stands
    have named : t.name = name := is.name.trans read.name.symm
    exact ⟨named ▸ slot, t.average, is.average ▸ read.average, average⟩
  · rw [represents.numberedImages_eq, images_eq]
  · obtain ⟨i, place, found⟩ := buffer j p path at_j path_j
    obtain ⟨i', place', found'⟩ := buffer k q path' at_k path_k
    have distinct := nodup_map_firsts id (files.map (·.path))
    rw [List.map_id] at distinct
    rw [found, found']
    exact place_inj distinct (by rwa [length_firsts, List.map_id]) place place'
  · have known : path ∈ (firsts id (files.map (·.path))).map id
        ↔ path ∈ (files.map (·.path)).map id := mem_map_firsts
    rw [List.map_id, List.map_id] at known
    rw [represents.images, images_eq, known]
  · rw [Registry.textureCount, represents.size, textures_eq]
    exact are.length_eq.symm.trans reads.length_eq.symm
  · have out : name ∉ (Registry.listing calls).textures.map (·.name) := by
      rwa [textures_eq, names]
    rw [Registry.textureSlot?, Registry.textureBuffer?, represents.no_texture name out]
    exact ⟨rfl, rfl⟩

/-! ### The textures of a scene -/

theorem imageTextures_ascending (c : Context) : c.imageTextures.Pairwise (·.1 < ·.1) :=
  c.scene.textures.ascending.filter _

theorem filter_imageTextures {images : List (String × Object)} (h : images <+: c.imageTextures) :
    images.filter (·.2.kind = "image") = images := by
  refine List.filter_eq_self.mpr fun p mem => ?_
  exact (List.mem_filter.mp (h.subset mem)).2

theorem distinct_of_front {images : List (String × Object)} (h : images <+: c.imageTextures) :
    (images.map (·.1)).Nodup := by
  have distinct : (c.imageTextures.map (·.1)).Nodup :=
    (NameMap.nodup_names c.scene.textures).sublist (List.filter_sublist.map _)
  exact distinct.sublist (h.sublist.map _)

/-- Where no image texture has a defect, all are registered. -/
theorem registerTextures_of_readable (fresh : c.registry = .empty)
    (readable : ∀ p ∈ c.imageTextures, defect? p.1 p.2 = none) :
    ∃ r paths, registerTextures.step c = ({ c with registry := r }, .ok ()) ∧
      c.Holds c.imageTextures paths r := by
  obtain ⟨files, read, reads⟩ := readAll_of_readable (c := c) readable
  refine ⟨withFiles .empty files, _, ?_, holds_withFiles reads (distinct_of_front List.prefix_rfl)⟩
  rw [step_registerTextures, read, store, fresh]

/-- The first defect ends the registration, and the textures in front are registered. -/
theorem registerTextures_of_defect (fresh : c.registry = .empty)
    (split : c.imageTextures = before ++ p :: later)
    (readable : ∀ q ∈ before, defect? q.1 q.2 = none) (defect : defect? p.1 p.2 = some e) :
    ∃ r paths, registerTextures.step c = ({ c with registry := r }, .error (.error e)) ∧
      c.Holds before paths r ∧ (registerAll before).step c = ({ c with registry := r }, .ok ()) := by
  obtain ⟨files, read, reads⟩ := readAll_of_readable (c := c) readable
  have front : before <+: c.imageTextures := ⟨p :: later, split.symm⟩
  refine ⟨withFiles .empty files, _, ?_, holds_withFiles reads (distinct_of_front front), ?_⟩
  · rw [step_registerTextures, split, readAll_of_defect read defect, store, fresh]
  · rw [step_registerAll, filter_imageTextures front, read, store, fresh]

/-- **Image textures are registered in the order of their names, up to the first defective
one.** In a fresh context the image textures without defects that come first are registered, and
nothing else is. Buffers are the places of the different paths, counted in 32 bits, so with no more
paths than these have numbers two textures share a buffer exactly when they have the same path. If
there is a defective texture behind them, the registration ends with its error, and its file is an
image only if one in front of it has the same. The registration may be made again, and comes to the
same. -/
theorem registerTextures_in_order (c : Context) (fresh : c.registry = .empty) :
    c.imageTextures.Pairwise (·.1 < ·.1) ∧
      ((∀ p ∈ c.imageTextures, defect? p.1 p.2 = none) →
        ∃ r paths, registerTextures.step c = ({ c with registry := r }, .ok ()) ∧
          c.Holds c.imageTextures paths r) ∧
      (∀ before p later e, c.imageTextures = before ++ p :: later →
        (∀ q ∈ before, defect? q.1 q.2 = none) → defect? p.1 p.2 = some e →
        ∃ r paths, registerTextures.step c = ({ c with registry := r }, .error (.error e)) ∧
          c.Holds before paths r ∧
          (registerAll before).step c = ({ c with registry := r }, .ok ())) ∧
      registerTextures.step (registerTextures.step c).1 = registerTextures.step c :=
  ⟨imageTextures_ascending c, registerTextures_of_readable fresh,
    fun _ _ _ _ => registerTextures_of_defect fresh, registerTextures_again c⟩

/-- A scene with two textures on one file, one that is no image, and behind them one without a
file, whose average is no color either. -/
def wallScene : Scene :=
  let wall := (Object.ofKind "image").withProperty "filename" (.string "/wall.png")
  let blank := (Object.ofKind "image").withProperty "average" (.bool true)
  ((((Scene.empty.addTexture "east" wall).addTexture "north" (.ofKind "checkers")).addTexture
    "south" (wall.withProperty "average" (.integer 0))).addTexture "top" blank).addTexture
    "west" wall

theorem blank_wall_refused :
    ∃ c r, (ofScene wallScene default .standard).result = .ok c ∧ c.registry = .empty ∧
      registerTextures.step c
        = ({ c with registry := r }, .error (.error (.missingProperty "top" "filename"))) ∧
      registerTextures.step { c with registry := r }
        = ({ c with registry := r }, .error (.error (.missingProperty "top" "filename"))) ∧
      r.textureCount = 2 ∧ r.textureSlot? "south" = some 1 ∧ r.average? 1 = some .zero ∧
      r.textureSlot? "north" = none ∧ r.textureBuffer? "east" = r.textureBuffer? "south" := by
  obtain ⟨c, made⟩ := exists_of_isOk
    (show (ofScene wallScene default .standard).result.isOk = true by decide +kernel)
  obtain ⟨scene, -, -, -, -, fresh⟩ := ofScene_ok made
  obtain ⟨-, -, stops, again⟩ := registerTextures_in_order c fresh
  obtain ⟨east, south, top, west, images, named, named', file, file', black, readable, defect⟩ :
      ∃ east south top west, c.imageTextures = [east, south] ++ top :: [west] ∧
        east.1 = "east" ∧ south.1 = "south" ∧
        east.2.property? "filename" = some (.string "/wall.png") ∧
        south.2.property? "filename" = some (.string "/wall.png") ∧
        average? (south.2.property? "average") = some .zero ∧
        (∀ p ∈ [east, south], defect? p.1 p.2 = none) ∧
        defect? top.1 top.2 = some (.missingProperty "top" "filename") := by
    rw [imageTextures, scene]
    exact ⟨_, _, _, _, rfl, rfl, rfl, rfl, rfl, by decide +kernel, by decide +kernel,
      by decide +kernel⟩
  obtain ⟨r, paths, registered, holds, -⟩ := stops _ _ _ _ images readable defect
  rw [registered] at again
  obtain ⟨slot, v, average, found⟩ := holds.slot 1 south.1 south.2 rfl
  rw [black] at average
  obtain rfl := Option.some.inj average
  obtain ⟨path, rest, one, more, rfl⟩ := List.forall₂_cons_left_iff.mp holds.located
  obtain ⟨path', _, two, done, rfl⟩ := List.forall₂_cons_left_iff.mp more
  obtain rfl := List.forall₂_nil_left_iff.mp done
  obtain rfl : path = "/wall.png" := one.eq_of_absolute file ⟨"wall.png", rfl⟩
  obtain rfl : path' = "/wall.png" := two.eq_of_absolute file' ⟨"wall.png", rfl⟩
  have shared := (holds.shared (by decide) 0 1 east south _ _ rfl rfl rfl rfl).mpr rfl
  rw [named, named'] at shared
  refine ⟨c, r, made, fresh, registered, again, holds.count, named' ▸ slot, found,
    (holds.other "north" ?_).1, shared⟩
  simp [named, named']

/-! ### More paths than buffers -/

/-- So many letters. -/
def letters (i : Nat) : String := .ofList (List.replicate i 'a')

theorem letters_lt {i j : Nat} (h : i < j) : letters i < letters j := by
  rw [letters, letters, String.lt_iff, String.toList_ofList, String.toList_ofList]
  induction i generalizing j with
  | zero =>
    obtain ⟨j, rfl⟩ := Nat.exists_eq_succ_of_ne_zero (Nat.ne_of_gt h)
    exact List.nil_lt_cons ..
  | succ i ih =>
    obtain ⟨j, rfl⟩ := Nat.exists_eq_succ_of_ne_zero (Nat.ne_of_gt (Nat.zero_lt_of_lt h))
    exact List.cons_lt_cons_iff.mpr (.inr ⟨rfl, ih (Nat.lt_of_succ_lt_succ h)⟩)

theorem slash_letters_inj {i j : Nat} (h : "/" ++ letters i = "/" ++ letters j) : i = j := by
  simpa [letters] using congrArg (·.toList.length) h

/-- An image texture with a file at the root whose name has so many letters. -/
def lettersTexture (i : Nat) : Object :=
  ((Object.ofKind "image").withProperty "filename" (.string ("/" ++ letters i))).named (letters i)

/-- A scene with so many image textures, each with a file of its own. -/
def lettersScene (count : Nat) : Scene :=
  { Scene.empty with
    textures := ⟨(List.range count).map fun i => (letters i, lettersTexture i),
      List.pairwise_map.mpr (List.pairwise_lt_range.imp letters_lt)⟩ }

theorem imageTextures_letters {count : Nat} (scene : c.scene = lettersScene count) :
    c.imageTextures = (List.range count).map fun i => (letters i, lettersTexture i) := by
  rw [imageTextures, scene]
  refine List.filter_eq_self.mpr fun p mem => ?_
  obtain ⟨i, -, rfl⟩ := List.mem_map.mp mem
  rfl

/-- The buffers of such textures count up in 32 bits. -/
theorem buffer_letters {count : Nat} (scene : c.scene = lettersScene count)
    (fresh : c.registry = .empty) :
    ∃ r, registerTextures.step c = ({ c with registry := r }, .ok ()) ∧
      ∀ i < count, r.textureBuffer? (letters i) = some (i % UInt32.size) := by
  have images := imageTextures_letters scene
  have readable : ∀ p ∈ c.imageTextures, defect? p.1 p.2 = none := by
    rw [images]
    intro p mem
    obtain ⟨i, -, rfl⟩ := List.mem_map.mp mem
    rfl
  obtain ⟨r, paths, registered, holds⟩ := registerTextures_of_readable fresh readable
  have located := holds.located
  rw [images, List.forall₂_map_left_iff] at located
  have paths_eq : (List.range count).map (fun i => "/" ++ letters i) = paths.map id :=
    map_eq_of_forall₂ located fun i path at_ => (at_.eq_of_absolute rfl ⟨_, rfl⟩).symm
  rw [List.map_id] at paths_eq
  have distinct : (paths.map id).Nodup := by
    rw [List.map_id, ← paths_eq]
    refine List.Nodup.map (fun i j same => ?_) List.nodup_range
    exact slash_letters_inj same
  have place {i : Nat} (lt : i < count) : paths[i]? = some ("/" ++ letters i) := by
    rw [← paths_eq, List.getElem?_map, List.getElem?_range lt]
    rfl
  refine ⟨r, registered, fun i lt => ?_⟩
  obtain ⟨j, at_j, buffer⟩ := holds.buffer i (letters i, lettersTexture i) _
    (by rw [images, List.getElem?_map, List.getElem?_range lt]; rfl) (place lt)
  -- the paths are all different, so that each is its own first one
  rw [firsts_of_nodup distinct] at at_j
  rw [List.map_id] at distinct
  obtain ⟨lt_j, at_j⟩ := List.getElem?_eq_some_iff.mp at_j
  obtain ⟨lt_i, at_i⟩ := List.getElem?_eq_some_iff.mp (place lt)
  obtain rfl : j = i := (List.Nodup.getElem_inj_iff distinct).mp (at_j.trans at_i.symm)
  exact buffer

/-- A texture on a file, and behind it one on the same file whose average is no color. -/
def frameScene : Scene :=
  let frame := (Object.ofKind "image").withProperty "filename" (.string "/wood.png")
  (Scene.empty.addTexture "frame" frame).addTexture "panel"
    (frame.withProperty "average" (.string "brown"))

/-- With one path more than there are buffers two textures with different files share a buffer. And
if a defective texture has the file of one in front of it, its image is registered. -/
theorem buffers_wrap_around :
    (∃ c r p q path path', (ofScene (lettersScene (UInt32.size + 1)) default .standard).result = .ok c ∧
      c.registry = .empty ∧ registerTextures.step c = ({ c with registry := r }, .ok ()) ∧
      p ∈ c.imageTextures ∧ q ∈ c.imageTextures ∧ c.Located p.2 path ∧ c.Located q.2 path' ∧
      path ≠ path' ∧ r.textureBuffer? p.1 = r.textureBuffer? q.1) ∧
    ∃ c r p path, (ofScene frameScene default .standard).result = .ok c ∧ c.registry = .empty ∧
      registerTextures.step c = ({ c with registry := r },
        .error (.error (.propertyMismatch "panel" "average" "vector3 or number"))) ∧
      p ∈ c.imageTextures ∧ p.1 = "panel" ∧ c.Located p.2 path ∧ path ∈ r.images := by
  constructor
  · obtain ⟨c, made⟩ := exists_of_isOk
      (show (ofScene (lettersScene (UInt32.size + 1)) default .standard).result.isOk = true from rfl)
    obtain ⟨scene, -, -, -, -, fresh⟩ := ofScene_ok made
    obtain ⟨r, registered, buffer⟩ := buffer_letters scene fresh
    have stands {i : Nat} (lt : i < UInt32.size + 1) :
        (letters i, lettersTexture i) ∈ c.imageTextures := by
      rw [imageTextures_letters scene]
      exact List.mem_map.mpr ⟨i, List.mem_range.mpr lt, rfl⟩
    have at_ (i : Nat) : c.Located (lettersTexture i) ("/" ++ letters i) :=
      ⟨_, rfl, .absolute ⟨_, rfl⟩⟩
    refine ⟨c, r, _, _, _, _, made, fresh, registered, stands (Nat.zero_lt_succ _),
      stands (Nat.lt_succ_self _), at_ 0, at_ UInt32.size, fun same => ?_, ?_⟩
    · exact absurd (slash_letters_inj same) (by decide)
    · rw [buffer 0 (Nat.zero_lt_succ _), buffer UInt32.size (Nat.lt_succ_self _), Nat.mod_self]
      rfl
  · obtain ⟨c, made⟩ := exists_of_isOk
      (show (ofScene frameScene default .standard).result.isOk = true by decide +kernel)
    obtain ⟨scene, -, -, -, -, fresh⟩ := ofScene_ok made
    obtain ⟨frame, panel, images, named, file, file', readable, defect⟩ :
        ∃ frame panel, c.imageTextures = [frame] ++ panel :: [] ∧ panel.1 = "panel" ∧
          frame.2.property? "filename" = some (.string "/wood.png") ∧
          panel.2.property? "filename" = some (.string "/wood.png") ∧
          (∀ p ∈ [frame], defect? p.1 p.2 = none) ∧
          defect? panel.1 panel.2
            = some (.propertyMismatch "panel" "average" "vector3 or number") := by
      rw [imageTextures, scene]
      exact ⟨_, _, rfl, rfl, rfl, rfl, by decide +kernel, by decide +kernel⟩
    obtain ⟨r, paths, registered, holds, -⟩ := registerTextures_of_defect fresh images readable defect
    obtain ⟨path, rest, one, -, rfl⟩ := List.forall₂_cons_left_iff.mp holds.located
    obtain rfl : path = "/wood.png" := one.eq_of_absolute file ⟨"wood.png", rfl⟩
    refine ⟨c, r, panel, _, made, fresh, registered, by simp [images], named, ?_,
      (holds.known _).mpr (List.mem_cons_self ..)⟩
    exact ⟨_, file', .absolute ⟨"wood.png", rfl⟩⟩

end Context

end RayShader
