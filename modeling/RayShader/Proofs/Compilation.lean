import RayShader.Stock.Emitters
import RayShader.Proofs.Diagnostics
import RayShader.Proofs.Requests

/-!
# Compilations end with programs or truthful diagnostics

A compilation loads a scene and generates all of its programs with the stock emitters. It
ends with programs or with an error, never with a fault, and what the error says is so.

Every step of a compilation has this property on its own (`FailsOnly`), and going on
preserves it. What a step needs to know of the steps before is that the context is a
loaded one: the technique is a stock technique with its own description, and all image
textures are registered. The templates use no values but those that they are given, and
the requests of a schedule never go beyond the materials of the scene, nor to a callback
that the technique does not have.
-/

namespace RayShader

open Context (Loaded)

variable {scene : Scene} {options : Options} {o : Object} {property : String} {c : Context}

/-! ### Techniques and cameras -/

namespace Stock

theorem describe_ok {kind : String} {info : Technique.Info}
    (h : (describe kind scene).result = .ok info) :
    ∃ t, Technique.ofKind? kind = some t ∧ t.info scene = .ok info := by
  unfold describe at h
  split at h
  · cases h
  · rename_i t found
    obtain ⟨info', made, h⟩ := Run.bind_eq_ok.mp h
    obtain rfl : info' = info := Except.ok.inj h
    refine ⟨t, found, ?_⟩
    cases ht : t.info scene with
    | error e =>
      rw [ht] at made
      cases made
    | ok info =>
      rw [ht] at made
      exact congrArg Except.ok (Except.ok.inj made)

/-- Only the variants of photon maps have callbacks. -/
theorem Technique.eq_photons {t : Technique} {info : Technique.Info} {v : Technique.VariantInfo}
    {m : Technique.Moment} (h : t.info scene = .ok info) (hv : v ∈ info.variants)
    (hm : v.hasCallback m = true) : t = photons := by
  have none_of {w : Technique.VariantInfo} (same : v = w)
      (hw : ∀ m : Technique.Moment, w.hasCallback m = false) : t = photons := by
    rw [same, hw m] at hm
    cases hm
  cases t with
  | path =>
    obtain ⟨normals, -, h⟩ := except_bind_eq_ok.mp h
    obtain rfl := Except.ok.inj h
    exact none_of (List.mem_singleton.mp hv) (by rintro ⟨⟩ <;> decide)
  | ambientOcclusion | debug | lightVisibility =>
    obtain rfl := Except.ok.inj h
    exact none_of (List.mem_singleton.mp hv) (by rintro ⟨⟩ <;> decide)
  | photons => rfl

/-- Reading a mode fails only for a property that is no text, or is no mode. -/
theorem readMode_truthful {modes : List String} {default category : String} (ho : scene.Reads o)
    (hd : (modeIndex? modes default).isSome = true)
    (claim : ∀ mode, o.property? "mode" = some (.string mode) → IsNoneOf modes mode →
      Unsupported scene options category mode o.name) :
    FailsOnly (Error.Truthful scene options) (do
      let mode := (← o.string? "mode").getD default
      match modeIndex? modes mode with
      | some index => pure (mode, index)
      | none => .error (.unsupportedKind category mode o.name)) := by
  refine (Object.string?_truthful ho).bind fun mode? read => ?_
  rw [Object.string?_eq_ok] at read
  dsimp only
  split
  · exact .ok _
  · rename_i unknown
    cases mode? with
    | none =>
      have known : modeIndex? modes default = none := unknown
      rw [known] at hd
      cases hd
    | some mode => exact .error (claim mode read (modeIndex?_eq_none.mp unknown))

namespace Technique

theorem reads_object (hc : Loaded Stock.describe scene options c) : scene.Reads (object c) := by
  unfold object
  rw [hc.scene_eq]
  cases found : scene.techniqueOfKind? c.techniqueKind with
  | none => exact Scene.reads_ofKind _
  | some o => exact Scene.reads_technique found

theorem mode_truthful (hc : Loaded Stock.describe scene options c) :
    FailsOnly (Error.Truthful scene options) (mode (object c)) := by
  refine readMode_truthful (reads_object hc) (by decide +kernel) fun mode found unknown => ?_
  refine .debugMode ?_ found unknown
  rw [object, hc.scene_eq] at found ⊢
  exact Object.eq_some_of_property? found

theorem parameters_truthful (hc : Loaded Stock.describe scene options c) (t : Technique) :
    FailsOnly (Error.Truthful scene options) (t.parameters (object c)) := by
  have reads := reads_object hc
  cases t with
  | path =>
    exact (Object.integer_truthful reads _).bind fun _ _ =>
      (Object.number_truthful reads _).bind fun _ _ =>
        (Object.bool_truthful reads _).bind fun _ _ => .ok _
  | ambientOcclusion => exact .ok _
  | debug => exact (mode_truthful hc).bind fun _ _ => .ok _
  | lightVisibility => exact (Object.integer_truthful reads _).bind fun _ _ => .ok _
  | photons =>
    exact (Object.integer_truthful reads _).bind fun _ _ =>
      (Object.number_truthful reads _).bind fun _ _ =>
        (Object.integer_truthful reads _).bind fun _ _ => .ok _

theorem ofContext_truthful (hc : Loaded Stock.describe scene options c) :
    FailsOnly (Error.Truthful scene options) (ofContext c) := by
  unfold ofContext
  split
  · rename_i t _
    exact (parameters_truthful hc t).bind fun _ _ => .ok _
  · rename_i unknown
    exact .error ⟨hc.techniqueKind_eq, find?_kind_eq_none.mp unknown⟩

/-- The values that the templates of techniques may use. -/
def scopeNames : List String :=
  ["variant", "is_before", "max_depth", "clamp", "aov_normals", "mode", "mode_id", "radius",
    "photons"]

theorem fill_scope {nodes : List Template.Node} (isBefore : Bool) (p : Parameters)
    (h : Template.Node.areCovered scopeNames nodes = true) :
    ∃ s, fill nodes (scope c isBefore p) = .ok s :=
  Template.fill_ok scopeNames rfl (by simp [scope, Parameters.scope, Template.Value.nat]) h

end Technique

theorem technique_truthful (hc : Loaded Stock.describe scene options c) :
    FailsOnly (Error.Truthful scene options) (technique c) := by
  refine (Technique.ofContext_truthful hc).bind fun (t, p) _ =>
    .of_ok (Technique.fill_scope false p ?_)
  cases t <;> decide +kernel

theorem callback_truthful (hc : Loaded Stock.describe scene options c) (m : Technique.Moment)
    (photons : c.techniqueKind = Technique.photons.kind) :
    FailsOnly (Error.Truthful scene options) (callback c m) := by
  unfold callback
  rw [if_neg (by simpa using photons)]
  exact (Technique.ofContext_truthful hc).bind fun (t, p) _ =>
    .of_ok (Technique.fill_scope _ p (by decide +kernel))

theorem header_truthful {v : Technique.VariantInfo} (hv : c.variant = .ok v)
    (rayGeneration : Bool) :
    FailsOnly (Failure.Truthful scene options) (header c rayGeneration) := by
  unfold header
  rw [hv]
  refine orFault_truthful (.of_ok (Template.fill_ok
    ["technique", "variant", "primary_payload", "secondary_payload", "initializer",
      "is_ray_generation"] rfl ?_ (by decide +kernel)))
  simp [Template.Value.nat]

namespace Camera

theorem reads_object (hc : Loaded Stock.describe scene options c) : scene.Reads (object c) := by
  unfold object
  rw [hc.scene_eq]
  cases found : scene.cameraOfKind? c.cameraKind with
  | none => exact Scene.reads_ofKind _
  | some o => exact Scene.reads_camera found

/-- The values that the templates of all cameras may use. -/
def baseNames : List String := ["origin", "direction", "up", "near", "far", "aspect"]

theorem baseScope_ok {base : Template.Scope} (h : baseScope c o = .ok base) :
    base.map (·.1) = baseNames ∧ ∀ p ∈ base, p.2 ≠ .undefined := by
  obtain ⟨_, -, h⟩ := except_bind_eq_ok.mp h
  obtain ⟨_, -, h⟩ := except_bind_eq_ok.mp h
  obtain ⟨_, -, h⟩ := except_bind_eq_ok.mp h
  obtain ⟨_, -, h⟩ := except_bind_eq_ok.mp h
  obtain ⟨_, -, h⟩ := except_bind_eq_ok.mp h
  obtain rfl := Except.ok.inj h
  exact ⟨rfl, by simp⟩

theorem baseScope_truthful (ho : scene.Reads o) :
    FailsOnly (Error.Truthful scene options) (baseScope c o) :=
  (Object.vector3_truthful ho _).bind fun _ _ => (Object.vector3_truthful ho _).bind fun _ _ =>
    (Object.vector3_truthful ho _).bind fun _ _ => (Object.number_truthful ho _).bind fun _ _ =>
      (Object.number_truthful ho _).bind fun _ _ => .ok _

theorem mode_truthful (hc : Loaded Stock.describe scene options c) :
    FailsOnly (Error.Truthful scene options) (mode (object c)) := by
  refine readMode_truthful (reads_object hc) (by decide +kernel) fun mode found unknown => ?_
  refine .fishlensMode ?_ found unknown
  rw [object, hc.scene_eq] at found ⊢
  exact Object.eq_some_of_property? found

theorem lines_truthful (hc : Loaded Stock.describe scene options c) (kind : Camera)
    {base : Template.Scope} (hb : base.map (·.1) = baseNames ∧ ∀ p ∈ base, p.2 ≠ .undefined) :
    FailsOnly (Error.Truthful scene options) (kind.lines c (object c) base) := by
  have reads := reads_object hc
  cases kind with
  | perspective =>
    refine (Object.number_truthful reads _).bind fun _ _ => .of_ok
      (Template.fill_ok ("fov" :: baseNames) (by rw [List.map_cons, hb.1]) ?_ (by decide +kernel))
    simpa using hb.2
  | orthogonal =>
    refine (Object.number_truthful reads _).bind fun _ _ => .of_ok
      (Template.fill_ok ("scale" :: baseNames) (by rw [List.map_cons, hb.1]) ?_ (by decide +kernel))
    simpa using hb.2
  | fishlens =>
    refine (mode_truthful hc).bind fun _ _ => .of_ok (Template.fill_ok
      ("mode" :: "mode_id" :: "width" :: "height" :: baseNames)
      (by simp only [List.map_cons, hb.1]) ?_ (by decide +kernel))
    simpa [Template.Value.nat] using hb.2

end Camera

theorem camera_truthful (hc : Loaded Stock.describe scene options c) :
    FailsOnly (Error.Truthful scene options) (camera c) := by
  refine (Camera.baseScope_truthful (Camera.reads_object hc)).bind fun base made => ?_
  split
  · rename_i kind _
    exact Camera.lines_truthful hc kind (Camera.baseScope_ok made)
  · rename_i unknown
    have name : (Camera.object c).name = (scene.cameraOfKind? c.cameraKind).elim "" (·.name) := by
      rw [Camera.object, hc.scene_eq]
      cases scene.cameraOfKind? c.cameraKind <;> rfl
    have claim : Unsupported scene options "camera" _ _ :=
      .camera (hc.cameraKind_eq ▸ find?_kind_eq_none.mp unknown)
    rw [← hc.cameraKind_eq, ← name] at claim
    exact .error claim

/-! ### Lights and materials -/

theorem shadingColor_truthful (hc : Loaded Stock.describe scene options c)
    (ho : o ∈ scene.lights.values ++ scene.bsdfs.values) (default : Vec3) :
    (ShadingTree.color c o property default).FailsOnly (Failure.Truthful scene options) := by
  refine .bind (.read (Context.textureColor_truthful hc ho default)) fun value => ?_
  cases value with
  | texture buffer => exact fun _ => .ok _
  | color v => exact .pure _

theorem shadingVector_truthful (ho : scene.Reads o) (default : Vec3) :
    (ShadingTree.vector o property default).FailsOnly (Failure.Truthful scene options) :=
  .read ((Object.vector3_truthful ho default).map _)

theorem shadingNumber_truthful (ho : scene.Reads o) (default : Single) :
    (ShadingTree.number o property default).FailsOnly (Failure.Truthful scene options) :=
  .read ((Object.number_truthful ho default).map _)

namespace Light

theorem entity_truthful (ho : o ∈ scene.lights.values) (area : o.kind = "area") :
    FailsOnly (Error.Truthful scene options) (entity scene o) := by
  have reads : scene.Reads o := .inl (by simp [Scene.objects, ho])
  refine (Object.string?_truthful reads).bind fun name? read => ?_
  rw [Object.string?_eq_ok] at read
  cases name? with
  | none => exact .error (.inr ⟨rfl, o, ho, rfl, area, read⟩)
  | some name =>
    dsimp only
    split
    · exact .ok _
    · rename_i unknown
      have absent : ∀ n ∈ scene.entities.names, n ≠ name := by
        simpa [Scene.entityIndex?, NameMap.index?] using unknown
      exact .error ⟨fun mem => absent name mem rfl, o, ho, rfl, area, read⟩

theorem expr_truthful (hc : Loaded Stock.describe scene options c) (ho : o ∈ scene.lights.values)
    {light : Light} (kind : o.kind = light.kind) (restricted : Bool) :
    (light.expr c o restricted).FailsOnly (Failure.Truthful scene options) := by
  have reads : scene.Reads o := .inl (by simp [Scene.objects, ho])
  have color {property : String} : (ShadingTree.color c o property .one).FailsOnly
      (Failure.Truthful scene options) :=
    shadingColor_truthful hc (List.mem_append_left _ ho) .one
  cases light with
  | point => exact (shadingVector_truthful reads _).bind fun _ => color.bind fun _ => .pure _
  | spot =>
    exact .bind (.read (Object.number_truthful reads _)) fun _ =>
      .bind (.read (Object.number_truthful reads _)) fun _ =>
        (shadingVector_truthful reads _).bind fun _ =>
          (shadingVector_truthful reads _).bind fun _ => color.bind fun _ => .pure _
  | directional => exact (shadingVector_truthful reads _).bind fun _ => color.bind fun _ => .pure _
  | area =>
    cases restricted with
    | true => exact .pure _
    | false =>
      have entity : FailsOnly (Error.Truthful scene options) (entity c.scene o) := by
        rw [hc.scene_eq]
        exact entity_truthful ho kind
      exact .bind (.read entity) fun _ => color.bind fun _ => .pure _
  | env =>
    refine (shadingNumber_truthful reads _).bind fun _ =>
      .bind (.read (Context.textureColor_truthful hc (List.mem_append_left _ ho) _)) fun value => ?_
    cases value with
    | texture buffer => exact fun _ => .ok _
    | color v => exact .pure _
  | constant => exact .bind (.read (Object.vector3_truthful reads _)) fun _ => .pure _

theorem ofObject_truthful (hc : Loaded Stock.describe scene options c)
    (ho : o ∈ scene.lights.values) (restricted : Bool) :
    (ofObject c o restricted).FailsOnly (Failure.Truthful scene options) := by
  unfold ofObject
  split
  · rename_i light found
    exact expr_truthful hc ho (find?_kind_eq_some found).symm restricted
  · rename_i unknown
    exact .error (.light ho (find?_kind_eq_none.mp unknown))

theorem entries_truthful (hc : Loaded Stock.describe scene options c) (restricted : Bool)
    {lights : List (String × Object)} (h : ∀ p ∈ lights, p.2 ∈ scene.lights.values) :
    (entries c restricted lights).FailsOnly (Failure.Truthful scene options) := by
  induction lights with
  | nil => exact .pure _
  | cons p rest ih =>
    obtain ⟨name, o⟩ := p
    exact (ofObject_truthful hc (h _ (List.mem_cons_self ..)) restricted).bind fun _ =>
      (ih fun q hq => h q (List.mem_cons_of_mem _ hq)).bind fun _ => .pure _

end Light

theorem lights_truthful (hc : Loaded Stock.describe scene options c) (restricted : Bool) :
    (lights c restricted).FailsOnly (Failure.Truthful scene options) := by
  rw [lights_eq, hc.scene_eq]
  exact .bind (Light.entries_truthful hc restricted fun p hp => List.mem_map.mpr ⟨p, hp, rfl⟩)
    fun _ _ => .ok _

namespace Material

theorem expr_truthful (hc : Loaded Stock.describe scene options c) (ho : o ∈ scene.bsdfs.values)
    (material : Material) : (material.expr c o).FailsOnly (Failure.Truthful scene options) := by
  have reads : scene.Reads o := .inl (by simp [Scene.objects, ho])
  have color {property : String} (default : Vec3) :
      (ShadingTree.color c o property default).FailsOnly (Failure.Truthful scene options) :=
    shadingColor_truthful hc (List.mem_append_right _ ho) default
  have ior {property : String} (hp : property ∈ ["ext_ior", "int_ior"]) (default : Single) :
      (ShadingTree.ior o property default).FailsOnly (Failure.Truthful scene options) :=
    .read ((Context.ior_truthful ho hp default).map _)
  cases material with
  | diffuse => exact (color _).bind fun _ => .pure _
  | dielectric =>
    exact (ior (by simp) _).bind fun _ => (ior (by simp) _).bind fun _ => (color _).bind fun _ =>
      (color _).bind fun _ => .pure _
  | conductor =>
    exact .bind (.read (Object.vector3_truthful reads _)) fun _ =>
      .bind (.read (Object.vector3_truthful reads _)) fun _ => (color _).bind fun _ => .pure _

theorem ofObject_truthful (hc : Loaded Stock.describe scene options c)
    (ho : o ∈ scene.bsdfs.values) :
    (ofObject c o).FailsOnly (Failure.Truthful scene options) := by
  unfold ofObject
  split
  · exact expr_truthful hc ho _
  · rename_i unknown
    exact .error (.bsdf ho (find?_kind_eq_none.mp unknown))

end Material

theorem material_truthful (hc : Loaded Stock.describe scene options c) {group : Nat}
    (h : group < c.hitGroups) : (material c group).FailsOnly (Failure.Truthful scene options) := by
  have found : c.scene.bsdfs.entries[group]? = some c.scene.bsdfs.entries[group] :=
    List.getElem?_eq_getElem h
  rw [material_eq found]
  refine .bind (Material.ofObject_truthful hc ?_) fun _ _ => .ok _
  rw [← hc.scene_eq]
  exact List.mem_map.mpr ⟨_, List.getElem_mem h, rfl⟩

end Stock

/-! ### Programs -/

namespace Generation

/-- A context that programs are generated in: a loaded one with a scene database and a
selected variant. -/
structure Ready (scene : Scene) (options : Options) (c : Context) (v : Technique.VariantInfo) :
    Prop where
  /-- The context is a loaded one. -/
  loaded : Loaded Stock.describe scene options c
  /-- There is a scene database. -/
  database : ∃ d, c.requireDatabase = .ok d
  /-- The variant is selected. -/
  selected : c.variant = .ok v

variable {v : Technique.VariantInfo}

section Asking

variable (hc : Ready scene options c v)
include hc

theorem askHeader_truthful (rayGeneration : Bool) :
    (Emitters.stock.askHeader c rayGeneration).FailsOnly (Failure.Truthful scene options) :=
  .bind (fun _ => .ok _) fun _ _ => Stock.header_truthful hc.selected rayGeneration

theorem techniqueLines_truthful :
    (techniqueLines .stock c).FailsOnly (Failure.Truthful scene options) :=
  .bind (.bind (fun _ => .ok _) fun _ _ =>
    Stock.orFault_truthful (Stock.technique_truthful hc.loaded)) fun _ => .pure _

theorem askLights_truthful (restricted : Bool) :
    (Emitters.stock.askLights c restricted).FailsOnly (Failure.Truthful scene options) :=
  .bind (fun _ => .ok _) fun _ => Stock.lights_truthful hc.loaded restricted

theorem lightLines_truthful (withDatabase : Bool) :
    (lightLines .stock c v withDatabase).FailsOnly (Failure.Truthful scene options) := by
  unfold lightLines
  cases v.usesLights with
  | false => exact .pure _
  | true =>
    cases withDatabase with
    | false => exact (askLights_truthful hc true).bind fun _ => .pure _
    | true =>
      simp only [if_true, Stage.bind_eq]
      exact .bind (fun _ => .ok _) fun _ => .bind (fun _ => .ok _) fun _ =>
        (askLights_truthful hc false).bind fun _ => .pure _

/-- Each program of a variant fails only for what is wrong with the scene. -/
theorem build_truthful {kind : ShaderKind} (hk : kind ∈ kinds v c.hitGroups)
    (hv : v ∈ c.technique.variants) :
    (build .stock c kind).FailsOnly (Failure.Truthful scene options) := by
  obtain ⟨d, hd⟩ := hc.database
  have header := askHeader_truthful hc
  have opening : (prologue .stock c).FailsOnly (Failure.Truthful scene options) := fun _ => .ok _
  have database : Emitters.stock.askDatabase.FailsOnly (Failure.Truthful scene options) :=
    fun _ => .ok _
  have technique := techniqueLines_truthful hc
  cases kind with
  | rayGeneration =>
    have camera : (Emitters.stock.askCamera c).FailsOnly (Failure.Truthful scene options) :=
      .bind (fun _ => .ok _) fun _ _ => Stock.orFault_truthful (Stock.camera_truthful hc.loaded)
    have emitter : (emitterLines .stock c).FailsOnly (Failure.Truthful scene options) := by
      unfold emitterLines
      cases c.isTracer with
      | true => exact .pure _
      | false => exact camera.bind fun _ => .pure _
    simp only [build, rayGeneration, hd, Stage.bind_eq, Stage.ofExcept_ok_bind]
    exact (header true).bind fun _ => opening.bind fun _ => emitter.bind fun _ =>
      technique.bind fun _ => .pure _
  | miss =>
    simp only [build, miss, hd, hc.selected, Stage.bind_eq, Stage.ofExcept_ok_bind]
    exact (header false).bind fun _ => opening.bind fun _ =>
      (lightLines_truthful hc _).bind fun _ => technique.bind fun _ => .pure _
  | hit group =>
    have lights : (hitLights .stock c v).FailsOnly (Failure.Truthful scene options) := by
      unfold hitLights
      cases v.usesLights with
      | true => exact (askLights_truthful hc false).bind fun _ => .pure _
      | false => exact .pure _
    have material :
        (Emitters.stock.askMaterial c group).FailsOnly (Failure.Truthful scene options) :=
      .bind (fun _ => .ok _) fun _ => Stock.material_truthful hc.loaded (mem_kinds_hit hk)
    rw [build, hit_eq hd hc.selected]
    exact (header false).bind fun _ => opening.bind fun _ => database.bind fun _ =>
      lights.bind fun _ => material.bind fun _ => technique.bind fun _ => .pure _
  | shadowHit | shadowMiss =>
    simp only [build, shadow, hd, hc.selected, Stage.bind_eq, Stage.ofExcept_ok_bind]
    exact (header false).bind fun _ => opening.bind fun _ =>
      (lightLines_truthful hc _).bind fun _ => technique.bind fun _ => .pure _
  | callback m =>
    obtain ⟨t, found, described⟩ := Stock.describe_ok hc.loaded.described
    have photons : c.techniqueKind = Stock.Technique.photons.kind := by
      rw [← Stock.Technique.eq_photons described hv (mem_kinds_callback hk)]
      exact (Stock.find?_kind_eq_some found).symm
    have callback : (Emitters.stock.askCallback c m).FailsOnly (Failure.Truthful scene options) :=
      .bind (fun _ => .ok _) fun _ _ =>
        Stock.orFault_truthful (Stock.callback_truthful hc.loaded m photons)
    simp only [build, Generation.callback, hd, Stage.bind_eq, Stage.ofExcept_ok_bind]
    exact (header false).bind fun _ => opening.bind fun _ => callback.bind fun _ => .pure _

theorem variant_truthful (hv : v ∈ c.technique.variants) :
    FailsOnly (Failure.Truthful scene options) (variant .stock c).result := by
  obtain ⟨d, hd⟩ := hc.database
  simp only [variant, hd, hc.selected]
  refine failsOnly_bind (.ok _) fun _ _ => failsOnly_bind (.ok _) fun info same =>
    failsOnly_bind (failsOnly_mapM fun s hs => ?_) fun _ _ => .ok _
  obtain rfl : v = info := Except.ok.inj same
  rw [slots_layout] at hs
  obtain ⟨kind, hk, rfl⟩ := List.mem_map.mp hs
  exact failsOnly_bind (build_truthful hc hk hv .empty) fun _ _ => .ok _

end Asking

/-! ### Compilations -/

theorem all_truthful (hc : Loaded Stock.describe scene options c) (d : Scene.Database) :
    FailsOnly (Failure.Truthful scene options)
      (all .stock { c with database := some d }).2.result := by
  rw [result_all]
  refine .mapM fun index h => ?_
  have in_range : index < c.technique.count := List.mem_range.mp h
  have found : c.technique.variants[index]? = some c.technique.variants[index] :=
    List.getElem?_eq_getElem in_range
  have selected := task_eq (e := .stock) (c := { c with database := some d }) in_range
  rw [selected]
  exact variant_truthful ⟨hc.prepare d index, ⟨d, rfl⟩,
    by simp only [Context.variant, found]⟩ (List.getElem_mem in_range)

/-- Loads a scene and generates all of its programs with the stock emitters, on a scene
database. -/
def compile (scene : Scene) (options : Options) (d : Scene.Database) :
    Run (List (Variant String)) :=
  (Context.load Stock.describe scene options).bind fun c =>
    (all .stock { c with database := some d }).2

/-- **Compilations end with programs or truthful diagnostics.** Whatever the scene and
the options, what comes of loading and generating is the programs of all variants, or an
error that claims nothing of the scene and the options but what is so. -/
theorem compile_truthful (scene : Scene) (options : Options) (d : Scene.Database) :
    (∃ variants, (compile scene options d).result = .ok variants) ∨
      ∃ e, (compile scene options d).result = .error (.error e) ∧ e.Truthful scene options := by
  have truthful : FailsOnly (Failure.Truthful scene options) (compile scene options d).result := by
    rw [compile, Run.result_bind]
    exact Context.load_truthful.bind fun c loaded => all_truthful (Context.load_ok loaded) d
  rcases h : (compile scene options d).result with f | variants
  · cases f with
    | error e => exact .inr ⟨e, rfl, truthful _ h⟩
    | fault f => exact (truthful _ h).elim
  · exact .inl ⟨variants, rfl⟩

end Generation

end RayShader
