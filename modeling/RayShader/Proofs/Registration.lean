import RayShader.Context.Assets
import RayShader.Proofs.Listing
import RayShader.Proofs.Run

/-!
# Registered textures

What a texture was given at its registration it has from then on: the buffer of the image at the
path of its file (`Registry.Provides`).

A scene that is loaded has exactly its image textures registered, each with the path
that its file name resolves to. The names of textures are distinct because a map from
names has them in ascending order. The registry of a loaded scene represents a listing, so that
with few enough images the buffers are the places of the images.
-/

namespace RayShader

/-! ### Registering the textures of a scene -/

theorem Object.string?_eq_ok {o : Object} {property : String} {s? : Option String} :
    o.string? property = .ok s? ↔ o.property? property = s?.map .string := by
  unfold Object.string?
  cases o.property? property with
  | none => cases s? <;> simp
  | some value => cases value <;> cases s? <;> simp

namespace Context

variable {c c' : Context} {name : String} {o : Object}

/-- An image texture is read if it names its file and has an average color. -/
theorem imageTexture_eq_ok {path : String} {average : Vec3} :
    c.imageTexture name o = .ok (path, average) ↔
      ∃ file, o.property? "filename" = some (.string file) ∧
        color o "average" defaultColor = .ok average ∧ path = c.assetPath file o := by
  constructor
  · intro read
    obtain ⟨file?, filename, read⟩ := except_bind_eq_ok.mp read
    cases file? with
    | none => cases read
    | some file =>
      obtain ⟨_, color, read⟩ := except_bind_eq_ok.mp read
      obtain ⟨rfl, rfl⟩ := Prod.mk.inj (Except.ok.inj read)
      exact ⟨file, Object.string?_eq_ok.mp filename, color, rfl⟩
  · rintro ⟨file, filename, color, rfl⟩
    exact except_bind_eq_ok.mpr ⟨some file, Object.string?_eq_ok.mpr filename,
      except_bind_eq_ok.mpr ⟨average, color, rfl⟩⟩

/-- The registry with a texture and its image. -/
def registryWith (r : Registry) (name path : String) (average : Vec3) : Registry :=
  ((r.registerImage path).1.registerTexture name (r.registerImage path).2 average).1

/-- A texture and its image are listed when they are registered. -/
theorem represents_registryWith {r : Registry} {l : Listing} (h : r.Represents l)
    (name path : String) (average : Vec3) : (registryWith r name path average).Represents
      ((l.addImage path).addTexture ⟨name, .ofNat (r.registerImage path).2, average⟩) := by
  have listed := (h.registerImage path).registerTexture
    ⟨name, .ofNat (r.registerImage path).2, average⟩
  rwa [UInt32.toNat_ofNat_of_lt' (Registry.registerImage_lt r path)] at listed

/-- What registering a texture does to a context. -/
theorem step_registerTexture (c : Context) (name : String) (o : Object) :
    (registerTexture name o).step c =
      if o.kind = "image" then
        match c.imageTexture name o with
        | .ok (path, average) =>
          ({ c with registry := registryWith c.registry name path average }, .ok ())
        | .error e => (c, .error (.error e))
      else (c, .ok ()) := by
  unfold registerTexture
  by_cases kind : o.kind = "image"
  · rw [if_neg (not_not.mpr kind), if_pos kind]
    simp only [Stage.bind_eq, Stage.step, Stage.get_bind]
    cases c.imageTexture name o with
    | ok found => rfl
    | error e => rfl
  · rw [if_pos kind, if_neg kind]
    rfl

/-- What registering one texture comes to: nothing for a texture that is no image, and
otherwise the image of its file, and the texture on it. -/
theorem registerTexture_ok (h : (registerTexture name o).step c = (c', .ok ())) :
    o.kind ≠ "image" ∧ c' = c ∨
      o.kind = "image" ∧ ∃ file average, o.property? "filename" = some (.string file) ∧
        c' = { c with registry :=
          ((c.registry.registerImage (c.assetPath file o)).1.registerTexture name
            (c.registry.registerImage (c.assetPath file o)).2 average).1 } := by
  rw [step_registerTexture] at h
  by_cases kind : o.kind = "image"
  · refine .inr ⟨kind, ?_⟩
    rw [if_pos kind] at h
    cases read : c.imageTexture name o with
    | error e =>
      rw [read] at h
      cases (Prod.mk.inj h).2
    | ok found =>
      obtain ⟨file, filename, -, path⟩ := imageTexture_eq_ok.mp read
      rw [read] at h
      exact ⟨file, found.2, filename, by rw [← path]; exact (Prod.mk.inj h).1.symm⟩
  · refine .inl ⟨kind, ?_⟩
    rw [if_neg kind] at h
    exact (Prod.mk.inj h).1.symm

/-- Registering textures leaves a registry that represents a listing. -/
theorem represents_registerAll (textures : List (String × Object))
    (h : ∃ l, c.registry.Represents l) :
    ∃ l, ((registerAll textures).step c).1.registry.Represents l := by
  induction textures generalizing c with
  | nil => exact h
  | cons p rest ih =>
    obtain ⟨name, o⟩ := p
    have one := step_registerTexture c name o
    rw [registerAll, Stage.bind_eq]
    split at one
    · cases read : c.imageTexture name o with
      | error e =>
        rw [read] at one
        rw [Stage.step_bind_of_error one]
        exact h
      | ok found =>
        rw [read] at one
        rw [Stage.step_bind_of_ok one]
        obtain ⟨l, represents⟩ := h
        exact ih ⟨_, represents_registryWith represents name found.1 found.2⟩
    · rw [Stage.step_bind_of_ok one]
      exact ih h

/-- What registering textures of distinct new names comes to: the registry is extended
by the image textures among them, and by nothing else. -/
theorem registerAll_ok {textures : List (String × Object)} (distinct : (textures.map (·.1)).Nodup)
    (new : ∀ p ∈ textures, c.registry.textureBuffer? p.1 = none)
    (h : (registerAll textures).step c = (c', .ok ())) :
    ∃ r, c' = { c with registry := r } ∧ c.registry.Extends r ∧
      (∀ p ∈ textures, p.2.kind = "image" → ∃ file, p.2.property? "filename" = some (.string file) ∧
        r.Provides p.1 (c.assetPath file p.2)) ∧
      ∀ name buffer, r.textureBuffer? name = some buffer →
        c.registry.textureBuffer? name = some buffer ∨
          ∃ o, (name, o) ∈ textures ∧ o.kind = "image" := by
  induction textures generalizing c with
  | nil =>
    obtain rfl : c' = c := (Prod.mk.inj h).1.symm
    exact ⟨c'.registry, rfl, .refl _, by simp, fun _ _ hb => .inl hb⟩
  | cons p rest ih =>
    obtain ⟨name, o⟩ := p
    obtain ⟨first, others⟩ := List.nodup_cons.mp distinct
    obtain ⟨d, _, one, all⟩ := Stage.step_bind_eq_ok.mp h
    have fresh : c.registry.textureBuffer? name = none := new (name, o) (List.mem_cons_self ..)
    have later : ∀ q ∈ rest, c.registry.textureBuffer? q.1 = none :=
      fun q hq => new q (List.mem_cons_of_mem _ hq)
    rcases registerTexture_ok one with ⟨kind, rfl⟩ | ⟨kind, file, average, filename, rfl⟩
    · obtain ⟨r, rfl, extends_, provided, registered⟩ := ih others later all
      refine ⟨r, rfl, extends_, ?_, fun n b hb => ?_⟩
      · rintro q hq image
        rcases List.mem_cons.mp hq with rfl | hq
        · exact absurd image kind
        · exact provided q hq image
      · exact (registered n b hb).imp_right fun ⟨o, ho, image⟩ =>
          ⟨o, List.mem_cons_of_mem _ ho, image⟩
    · -- the image is registered first, and then the texture on its buffer
      set images := c.registry.registerImage (c.assetPath file o) with hi
      have before (n : String) : images.1.textureBuffer? n = c.registry.textureBuffer? n :=
        Registry.textureBuffer?_registerImage ..
      have elsewhere {n : String} (ne : n ≠ name) :
          (images.1.registerTexture name images.2 average).1.textureBuffer? n
            = c.registry.textureBuffer? n :=
        (Registry.textureBuffer?_registerTexture_of_ne ne ..).trans (before n)
      have grown : images.1.Extends (images.1.registerTexture name images.2 average).1 :=
        Registry.extends_registerTexture ..
      have provides : (images.1.registerTexture name images.2 average).1.Provides name
          (c.assetPath file o) :=
        ⟨images.2, Registry.textureBuffer?_registerTexture ((before name).trans fresh)
            (Registry.registerImage_lt ..) _,
          grown.imageIndex? (Registry.imageIndex?_registerImage ..)⟩
      have other : ∀ q ∈ rest, q.1 ≠ name := fun q hq same =>
        first (List.mem_map.mpr ⟨q, hq, same⟩)
      obtain ⟨r, rfl, extends_, provided, registered⟩ := ih others
        (fun q hq => (elsewhere (other q hq)).trans (later q hq)) all
      refine ⟨r, rfl, ((Registry.extends_registerImage ..).trans grown).trans extends_, ?_,
        fun n b hb => ?_⟩
      · rintro q hq image
        rcases List.mem_cons.mp hq with rfl | hq
        · exact ⟨file, filename, extends_.provides provides⟩
        · exact provided q hq image
      · rcases registered n b hb with known | ⟨o, ho, image⟩
        · by_cases same : n = name
          · exact .inr ⟨o, same ▸ List.mem_cons_self .., kind⟩
          · exact .inl ((elsewhere same).symm.trans known)
        · exact .inr ⟨o, List.mem_cons_of_mem _ ho, image⟩

/-! ### Loading -/

/-- What a context knows of the scene and the options that it was loaded from. -/
structure Loaded (describe : String → Scene → Run Technique.Info) (scene : Scene)
    (options : Options) (c : Context) : Prop where
  /-- The scene is that which was loaded. -/
  scene_eq : c.scene = scene
  /-- Paths are relative to the file of the options. -/
  filePath_eq : c.filePath = options.filePath
  /-- The kind of camera is that of the options, or of the scene, or the default. -/
  cameraKind_eq : c.cameraKind = resolveCamera scene options
  /-- The kind of technique is that of the options, or of the scene, or the default. -/
  techniqueKind_eq : c.techniqueKind = resolveTechnique scene options
  /-- The technique is described as the collaborator does. -/
  described : (describe c.techniqueKind scene).result = .ok c.technique
  /-- The registry represents a listing. -/
  represents : ∃ l, c.registry.Represents l
  /-- Every image texture has a buffer, which is that of its file. -/
  provides : ∀ p ∈ scene.textures.entries, p.2.kind = "image" →
    ∃ file, p.2.property? "filename" = some (.string file) ∧
      c.registry.Provides p.1 (c.assetPath file p.2)
  /-- No other texture has a buffer. -/
  registered : ∀ name buffer, c.registry.textureBuffer? name = some buffer →
    ∃ o, (name, o) ∈ scene.textures.entries ∧ o.kind = "image"

/-- The context with a scene database and a selected variant. -/
def prepare (c : Context) (d : Scene.Database) (index : Nat) : Context :=
  { c with database := some d, selected := index }

/-- A scene database and a selection do not change what a context knows of its scene. -/
theorem Loaded.prepare {describe : String → Scene → Run Technique.Info} {scene : Scene}
    {options : Options} (h : Loaded describe scene options c) (d : Scene.Database) (index : Nat) :
    Loaded describe scene options (c.prepare d index) :=
  ⟨h.scene_eq, h.filePath_eq, h.cameraKind_eq, h.techniqueKind_eq, h.described,
    h.represents, h.provides, h.registered⟩

/-- The part of a context that comes before the textures. -/
theorem ofScene_ok {scene : Scene} {technique : Technique.Info} {options : Options}
    (h : (ofScene scene technique options).result = .ok c) :
    c.scene = scene ∧ c.filePath = options.filePath ∧ c.cameraKind = resolveCamera scene options ∧
      c.techniqueKind = resolveTechnique scene options ∧ c.technique = technique ∧
      c.registry = .empty := by
  unfold ofScene at h
  by_cases bad : options.samples.toNat = 0 ∨ maxSamples < options.samples.toNat
  · simp only [if_pos bad] at h
    cases h
  · simp only [if_neg bad] at h
    cases empty : technique.variants.isEmpty with
    | true =>
      rw [empty, if_pos rfl] at h
      obtain rfl := Except.ok.inj h
      exact ⟨rfl, rfl, rfl, rfl, rfl, rfl⟩
    | false =>
      rw [empty, if_neg (by decide)] at h
      obtain rfl := Except.ok.inj h
      exact ⟨rfl, rfl, rfl, rfl, rfl, rfl⟩

theorem load_ok {describe : String → Scene → Run Technique.Info} {scene : Scene}
    {options : Options} (h : (load describe scene options).result = .ok c) :
    Loaded describe scene options c := by
  obtain ⟨_, -, described_on⟩ := Run.bind_eq_ok.mp h
  obtain ⟨technique, described, made_on⟩ := Run.bind_eq_ok.mp described_on
  obtain ⟨d, made, registered_on⟩ := Run.bind_eq_ok.mp made_on
  obtain ⟨rfl, filePath, camera, kind, rfl, registry⟩ := ofScene_ok made
  obtain ⟨⟨⟩, all, h⟩ := Run.bind_eq_ok.mp registered_on
  have reached : (registerAll d.scene.textures.entries d).1 = c := Except.ok.inj h
  obtain ⟨r, rfl, -, provided, registered⟩ := registerAll_ok (NameMap.nodup_names _)
    (fun _ _ => by rw [registry]; rfl) (Prod.ext reached all)
  have represents := represents_registerAll d.scene.textures.entries
    ⟨_, registry ▸ Registry.represents_empty⟩
  refine ⟨rfl, filePath, camera, kind, kind.symm ▸ described, ?_, provided,
    fun name buffer hb => ?_⟩
  · rwa [Stage.step, reached] at represents
  · rcases registered name buffer hb with known | image
    · rw [registry] at known
      cases known
    · exact image

end Context

end RayShader
