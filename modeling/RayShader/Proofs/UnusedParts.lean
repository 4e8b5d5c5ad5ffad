import RayShader.Proofs.Compilation
import RayShader.Proofs.Variants

/-!
# Parts of a scene that a compilation does not use

Two scenes may differ in what a compilation does not use, and it ends with the same
programs or the same error: in shapes and in what stands in entities, in a camera or a
technique object of another kind than the options ask for, in the camera where rays come
from a list, and in lights and entities where the technique uses no lights.

What the programs of a context are made of is what `Context.Alike` compares. Each emitter
reads only that, so alike contexts give the same programs; and alike scenes load into
alike contexts, or fail to load for the same reason.
-/

namespace RayShader

open Generation (compile)
open Program (Fragment)
open Technique (Info Moment VariantInfo)

/-! ### Two computations side by side -/

/-- Both results are values that the relation holds of, or both are the same failure. -/
inductive Corresponds {α β ε : Type} (R : α → β → Prop) : Except ε α → Except ε β → Prop where
  /-- Both are values. -/
  | ok {a : α} {b : β} (h : R a b) : Corresponds R (.ok a) (.ok b)
  /-- Both are the same failure. -/
  | error (e : ε) : Corresponds R (.error e) (.error e)

namespace Corresponds

variable {α β γ δ ε : Type} {R : α → β → Prop} {S : γ → δ → Prop}

theorem bind {x : Except ε α} {y : Except ε β} {f : α → Except ε γ} {g : β → Except ε δ}
    (h : Corresponds R x y) (hf : ∀ a b, R a b → Corresponds S (f a) (g b)) :
    Corresponds S (x >>= f) (y >>= g) := by
  cases h with
  | ok h => exact hf _ _ h
  | error e => exact .error e

theorem of_eq {x y : Except ε α} (h : x = y) : Corresponds Eq x y := by
  subst h
  cases x with
  | ok a => exact .ok rfl
  | error e => exact .error e

theorem eq {x y : Except ε α} (h : Corresponds Eq x y) : x = y := by
  cases h with
  | ok h => rw [h]
  | error e => rfl

end Corresponds

namespace Stage

variable {σ α β : Type}

theorem bind_congr {x y : Stage σ α} {f g : α → Stage σ β} (hx : x = y) (hf : ∀ a, f a = g a) :
    x.bind f = y.bind g := by
  rw [hx, funext hf]

theorem ofExcept_bind_congr {r s : Except Failure α} (hr : r = s) {f g : α → Stage σ β}
    (h : ∀ a, r = .ok a → f a = g a) : (ofExcept r).bind f = (ofExcept s).bind g := by
  subst hr
  cases r with
  | ok a => exact h a rfl
  | error e => rfl

end Stage

theorem except_mapM_congr {α β ε : Type} {f g : α → Except ε β} {as : List α} (h : ∀ a ∈ as, f a = g a) :
    as.mapM f = as.mapM g := by
  induction as with
  | nil => rfl
  | cons a as ih =>
    obtain ⟨first, others⟩ := List.forall_mem_cons.mp h
    rw [List.mapM_cons, List.mapM_cons, first, ih others]

/-! ### Alike contexts -/

namespace Context

/-- The contexts have in common what programs are made of. -/
structure Alike (c d : Context) : Prop where
  /-- The technique has the same description. -/
  technique : c.technique = d.technique
  /-- The technique is of the same kind. -/
  techniqueKind : c.techniqueKind = d.techniqueKind
  /-- The parameters of the technique are the same. -/
  techniqueObject : Stock.Technique.object c = Stock.Technique.object d
  /-- The same variant is selected. -/
  selected : c.selected = d.selected
  /-- There are as many samples. -/
  samples : c.samples = d.samples
  /-- The programs are for the same processor. -/
  target : c.target = d.target
  /-- Images and textures have the same numbers. -/
  registry : c.registry = d.registry
  /-- The materials are the same. -/
  bsdfs : c.scene.bsdfs = d.scene.bsdfs
  /-- The film is of the same size. -/
  film : c.filmWidth = d.filmWidth ∧ c.filmHeight = d.filmHeight
  /-- Both have a scene database, or none has. -/
  database : c.database.isSome = d.database.isSome
  /-- Rays come from the same kind of source. -/
  isTracer : c.isTracer = d.isTracer
  /-- The camera is the same, where there is need of one. -/
  camera : c.isTracer = true ∨
    c.cameraKind = d.cameraKind ∧ Stock.Camera.object c = Stock.Camera.object d
  /-- The lights and the numbers of entities are the same, if a variant uses lights. -/
  lights : (∀ v ∈ c.technique.variants, v.usesLights = false) ∨
    c.scene.lights = d.scene.lights ∧ c.scene.entities.names = d.scene.entities.names

variable {c d : Context}

namespace Alike

theorem variant_eq (h : c.Alike d) : c.variant = d.variant := by
  rw [variant, variant, h.technique, h.selected]

theorem hitGroups_eq (h : c.Alike d) : c.hitGroups = d.hitGroups := by
  rw [hitGroups, hitGroups, h.bsdfs]

theorem filmAspect_eq (h : c.Alike d) : c.filmAspect = d.filmAspect := by
  rw [filmAspect, filmAspect, h.film.1, h.film.2]

/-- What goes on without a look at the database goes on alike. -/
theorem requireDatabase_bind {α : Type} (h : c.Alike d) {x y : Stage ShadingTree α} (hx : x = y) :
    (Stage.ofExcept c.requireDatabase).bind (fun _ => x)
      = (Stage.ofExcept d.requireDatabase).bind fun _ => y := by
  have both := h.database
  unfold requireDatabase
  subst hx
  cases hc : c.database <;> cases hd : d.database <;> simp_all

theorem select (h : c.Alike d) (index : Nat) :
    Alike { c with selected := index } { d with selected := index } :=
  { h with selected := rfl }

theorem withDatabase (h : c.Alike d) (a b : Scene.Database) :
    Alike { c with database := some a } { d with database := some b } :=
  { h with database := rfl }

theorem withRegistry (h : c.Alike d) (r : Registry) :
    Alike { c with registry := r } { d with registry := r } :=
  { h with registry := rfl }

end Alike

end Context

/-! ### Emitters read what alike contexts share -/

namespace Stock

variable {c d : Context}

theorem header_congr (h : c.Alike d) (rayGeneration : Bool) :
    header c rayGeneration = header d rayGeneration := by
  simp only [header, h.variant_eq, h.techniqueKind, h.selected]

theorem Technique.ofContext_congr (h : c.Alike d) : ofContext c = ofContext d := by
  simp only [ofContext, h.techniqueKind, h.techniqueObject]

theorem technique_congr (h : c.Alike d) : technique c = technique d := by
  simp only [technique, Technique.scope, Technique.ofContext_congr h, h.selected]

theorem callback_congr (h : c.Alike d) (m : Moment) : callback c m = callback d m := by
  simp only [callback, Technique.scope, Technique.ofContext_congr h, h.techniqueKind, h.selected]

theorem camera_congr (h : c.Alike d) (tracer : c.isTracer = false) : camera c = camera d := by
  obtain ⟨kind, object⟩ := h.camera.resolve_left (by simp [tracer])
  have base (o : Object) : Camera.baseScope c o = Camera.baseScope d o := by
    simp only [Camera.baseScope, h.filmAspect_eq]
  have lines (k : Camera) (o : Object) (scope : Template.Scope) :
      k.lines c o scope = k.lines d o scope := by
    cases k <;> simp only [Camera.lines, h.film.1, h.film.2]
  simp only [camera, kind, object, base, lines]

theorem textureColor_congr (h : c.Alike d) (o : Object) (property : String) (default : Vec3) :
    c.textureColor o property default = d.textureColor o property default := by
  simp only [Context.textureColor, h.registry]

theorem color_congr (h : c.Alike d) (o : Object) (property : String) (default : Vec3) :
    ShadingTree.color c o property default = ShadingTree.color d o property default := by
  simp only [ShadingTree.color, textureColor_congr h]

/-- An area light reads the number of its entity, and so the names of entities only. -/
theorem Light.entity_congr {s s' : Scene} (h : s.entities.names = s'.entities.names) (o : Object) :
    entity s o = entity s' o := by
  simp only [entity, Scene.entityIndex?, NameMap.index?, h]

theorem Light.ofObject_congr (h : c.Alike d) (names : c.scene.entities.names = d.scene.entities.names)
    (o : Object) (restricted : Bool) : ofObject c o restricted = ofObject d o restricted := by
  have expr (light : Light) : light.expr c o restricted = light.expr d o restricted := by
    cases light <;>
      simp only [Light.expr, color_congr h, textureColor_congr h, entity_congr names]
  simp only [ofObject, expr]

theorem Light.entries_congr (h : c.Alike d) (names : c.scene.entities.names = d.scene.entities.names)
    (restricted : Bool) (lights : List (String × Object)) :
    entries c restricted lights = entries d restricted lights := by
  induction lights with
  | nil => rfl
  | cons p rest ih =>
    obtain ⟨name, o⟩ := p
    rw [entries, entries, ofObject_congr h names, ih]

theorem lights_congr (h : c.Alike d) (same : c.scene.lights = d.scene.lights)
    (names : c.scene.entities.names = d.scene.entities.names) (restricted : Bool) :
    lights c restricted = lights d restricted := by
  rw [lights, lights, same, Light.entries_congr h names]

theorem Material.ofObject_congr (h : c.Alike d) (o : Object) : ofObject c o = ofObject d o := by
  have expr (material : Material) : material.expr c o = material.expr d o := by
    cases material <;> simp only [Material.expr, color_congr h]
  simp only [ofObject, expr]

theorem material_congr (h : c.Alike d) (group : Nat) : material c group = material d group := by
  simp only [material, h.bsdfs, h.hitGroups_eq, Material.ofObject_congr h]

end Stock

/-! ### Programs of alike contexts -/

namespace Generation

variable {c d : Context}

theorem askHeader_congr (h : c.Alike d) (rayGeneration : Bool) :
    Emitters.stock.askHeader c rayGeneration = Emitters.stock.askHeader d rayGeneration := by
  simp only [Emitters.askHeader, Emitters.stock, Stock.header_congr h]

theorem prologue_congr (h : c.Alike d) : prologue .stock c = prologue .stock d := by
  simp only [prologue, h.target]

theorem techniqueLines_congr (h : c.Alike d) : techniqueLines .stock c = techniqueLines .stock d := by
  simp only [techniqueLines, Emitters.askTechnique, Emitters.stock, Stock.technique_congr h]

theorem emitterLines_congr (h : c.Alike d) : emitterLines .stock c = emitterLines .stock d := by
  unfold emitterLines
  rw [← h.isTracer]
  cases tracer : c.isTracer with
  | true => rfl
  | false => simp only [Emitters.askCamera, Emitters.stock, Stock.camera_congr h tracer]

theorem askLights_congr (h : c.Alike d) {v : VariantInfo} (hv : c.variant = .ok v)
    (uses : v.usesLights = true) (restricted : Bool) :
    Emitters.stock.askLights c restricted = Emitters.stock.askLights d restricted := by
  have mem : v ∈ c.technique.variants := by
    unfold Context.variant at hv
    split at hv
    · rename_i found
      exact Except.ok.inj hv ▸ List.mem_of_getElem? found
    · cases hv
  have used : ¬ ∀ v ∈ c.technique.variants, v.usesLights = false := fun none => by
    rw [none v mem] at uses
    cases uses
  obtain ⟨same, names⟩ := h.lights.resolve_left used
  simp only [Emitters.askLights, Emitters.stock, Stock.lights_congr h same names]

theorem lightLines_congr (h : c.Alike d) {v : VariantInfo} (hv : c.variant = .ok v)
    (withDatabase : Bool) :
    lightLines .stock c v withDatabase = lightLines .stock d v withDatabase := by
  unfold lightLines
  by_cases uses : v.usesLights = true
  · simp only [askLights_congr h hv uses]
  · rw [if_neg uses, if_neg uses]

theorem askMaterial_congr (h : c.Alike d) (group : Nat) :
    Emitters.stock.askMaterial c group = Emitters.stock.askMaterial d group := by
  simp only [Emitters.askMaterial, Emitters.stock, Stock.material_congr h]

theorem samplesBinding_congr (h : c.Alike d) : samplesBinding c = samplesBinding d := by
  rw [samplesBinding, samplesBinding, h.samples]

/-- Alike contexts have the same programs. -/
theorem build_congr (h : c.Alike d) (kind : ShaderKind) : build .stock c kind = build .stock d kind := by
  have header := askHeader_congr h
  have opening := prologue_congr h
  have technique := techniqueLines_congr h
  have samples := samplesBinding_congr h
  have shadow (isHit : Bool) : shadow .stock c isHit = shadow .stock d isHit := by
    simp only [Generation.shadow, Stage.bind_eq, samples]
    exact h.requireDatabase_bind <| Stage.ofExcept_bind_congr h.variant_eq fun v hv =>
      Stage.bind_congr (header false) fun _ => Stage.bind_congr opening fun _ =>
      Stage.bind_congr (lightLines_congr h hv _) fun _ => Stage.bind_congr technique fun _ => rfl
  cases kind with
  | rayGeneration =>
    simp only [build, rayGeneration, Stage.bind_eq, samples]
    exact h.requireDatabase_bind <| Stage.bind_congr (header true) fun _ =>
      Stage.bind_congr opening fun _ => Stage.bind_congr (emitterLines_congr h) fun _ =>
      Stage.bind_congr technique fun _ => rfl
  | miss =>
    simp only [build, miss, Stage.bind_eq, samples]
    exact h.requireDatabase_bind <| Stage.ofExcept_bind_congr h.variant_eq fun v hv =>
      Stage.bind_congr (header false) fun _ => Stage.bind_congr opening fun _ =>
      Stage.bind_congr (lightLines_congr h hv _) fun _ => Stage.bind_congr technique fun _ => rfl
  | hit group =>
    simp only [build, hit, Stage.bind_eq, samples]
    refine h.requireDatabase_bind <| Stage.bind_congr (header false) fun _ =>
      Stage.bind_congr opening fun _ => Stage.bind_congr rfl fun _ =>
      Stage.ofExcept_bind_congr h.variant_eq fun v hv => ?_
    cases uses : v.usesLights with
    | false =>
      simp only [Bool.false_eq_true, if_false]
      exact Stage.bind_congr rfl fun _ => Stage.bind_congr (askMaterial_congr h group) fun _ =>
        Stage.bind_congr technique fun _ => rfl
    | true =>
      simp only [if_true]
      exact Stage.bind_congr (askLights_congr h hv uses _) fun _ => Stage.bind_congr rfl fun _ =>
        Stage.bind_congr (askMaterial_congr h group) fun _ => Stage.bind_congr technique fun _ => rfl
  | shadowHit => exact shadow true
  | shadowMiss => exact shadow false
  | callback m =>
    have lines : Emitters.stock.askCallback c m = Emitters.stock.askCallback d m := by
      simp only [Emitters.askCallback, Emitters.stock, Stock.callback_congr h]
    simp only [build, callback, Stage.bind_eq, samples]
    exact h.requireDatabase_bind <| Stage.bind_congr (header false) fun _ =>
      Stage.bind_congr opening fun _ => Stage.bind_congr lines fun _ => rfl

theorem source_congr (h : c.Alike d) (kind : ShaderKind) : source .stock c kind = source .stock d kind := by
  rw [source, source, build_congr h, h.selected]

/-- Alike contexts have the same programs of the selected variant. -/
theorem variant_congr (h : c.Alike d) : (variant .stock c).result = (variant .stock d).result := by
  have database : Corresponds (fun _ _ => True) c.requireDatabase d.requireDatabase := by
    have both := h.database
    unfold Context.requireDatabase
    cases hc : c.database <;> cases hd : d.database <;> simp_all
    · exact .error _
    · exact .ok trivial
  have programs : (fun kind (_ : Unit) => source .stock c kind) = fun kind _ => source .stock d kind := by
    funext kind _
    exact source_congr h kind
  unfold variant
  rw [h.variant_eq, h.hitGroups_eq, h.selected, programs]
  refine (Run.result_bind ..).trans (.trans (Corresponds.eq ?_) (Run.result_bind ..).symm)
  exact database.bind fun _ _ _ => .of_eq rfl

/-- Alike contexts have the same programs of all variants. -/
theorem all_congr (h : c.Alike d) : (all .stock c).2.result = (all .stock d).2.result := by
  have count : c.technique.count = d.technique.count := by rw [h.technique]
  rw [result_all, result_all, ← count]
  refine except_mapM_congr fun index mem => ?_
  have lt : index < c.technique.count := List.mem_range.mp mem
  rw [task_eq lt, task_eq (count ▸ lt)]
  exact variant_congr (h.select index)

end Generation

/-! ### Loading alike scenes -/

namespace Context

variable {c d : Context}

theorem assetPath_congr (file : c.filePath = d.filePath) (path : String) (o : Object) :
    c.assetPath path o = d.assetPath path o := by
  simp only [assetPath, file]

/-- Registering textures changes the registry only, and reads only the registry and the
path of the scene file. -/
theorem registerAll_congr (textures : List (String × Object)) (registry : c.registry = d.registry)
    (file : c.filePath = d.filePath) :
    ∃ r result, (registerAll textures).step c = ({ c with registry := r }, result) ∧
      (registerAll textures).step d = ({ d with registry := r }, result) := by
  -- both go on with the same registry, which is all that the induction asks of them
  induction textures generalizing c d with
  | nil => exact ⟨c.registry, .ok (), rfl, by rw [registry]; rfl⟩
  | cons p rest ih =>
    obtain ⟨name, o⟩ := p
    have onC := step_registerTexture c name o
    have onD := step_registerTexture d name o
    have image : c.imageTexture name o = d.imageTexture name o := by
      simp only [imageTexture, assetPath_congr file]
    rw [image, registry] at onC
    by_cases kind : o.kind = "image"
    · rw [if_pos kind] at onC onD
      cases read : d.imageTexture name o with
      | ok found =>
        rw [read] at onC onD
        let grown := registryWith d.registry name found.1 found.2
        obtain ⟨r, result, left, right⟩ :=
          ih (c := { c with registry := grown }) (d := { d with registry := grown }) rfl file
        exact ⟨r, result, (Stage.step_bind_of_ok onC _).trans left,
          (Stage.step_bind_of_ok onD _).trans right⟩
      | error e =>
        rw [read] at onC onD
        exact ⟨c.registry, .error (.error e), Stage.step_bind_of_error onC _,
          (Stage.step_bind_of_error onD _).trans (by rw [registry])⟩
    · rw [if_neg kind] at onC onD
      obtain ⟨r, result, left, right⟩ := ih registry file
      exact ⟨r, result, (Stage.step_bind_of_ok onC _).trans left,
        (Stage.step_bind_of_ok onD _).trans right⟩

/-- The contexts before registration that two scenes are loaded into. -/
structure Loading (c d : Context) : Prop extends Alike c d where
  /-- Paths are relative to the same file. -/
  filePath : c.filePath = d.filePath
  /-- The textures are the same. -/
  textures : c.scene.textures = d.scene.textures

theorem registerTextures_congr (h : c.Loading d) :
    Corresponds Alike ((registerTextures c).2.result >>= fun _ => .ok (registerTextures c).1)
      ((registerTextures d).2.result >>= fun _ => .ok (registerTextures d).1) := by
  obtain ⟨r, result, onC, onD⟩ := registerAll_congr d.scene.textures.entries h.registry h.filePath
  rw [← h.textures] at onC
  obtain ⟨stateC, resultC⟩ := Prod.mk.inj onC
  obtain ⟨stateD, resultD⟩ := Prod.mk.inj onD
  simp only [registerTextures, stateC, stateD, resultC, resultD]
  cases result with
  | ok a => exact .ok (h.toAlike.withRegistry r)
  | error e => exact .error e

end Context

/-! ### Scenes that a compilation does not tell apart -/

/-- A compilation reads neither object, since the options ask for a kind that neither is
of; or the objects are the same. -/
def Interchangeable (wanted : Option String) (o o' : Option Object) : Prop :=
  o = o' ∨ ∃ kind, wanted = some kind ∧ (∀ a ∈ o, a.kind ≠ kind) ∧ ∀ a ∈ o', a.kind ≠ kind

namespace Interchangeable

variable {wanted : Option String} {o o' : Option Object}

theorem kind_eq (h : Interchangeable wanted o o') (default : String) :
    wanted.getD (o.elim default (·.kind)) = wanted.getD (o'.elim default (·.kind)) := by
  rcases h with rfl | ⟨kind, rfl, -, -⟩ <;> rfl

theorem filter_eq (h : Interchangeable wanted o o') (default : String) :
    o.filter (·.kind = wanted.getD (o.elim default (·.kind)))
      = o'.filter (·.kind = wanted.getD (o'.elim default (·.kind))) := by
  rcases h with rfl | ⟨kind, rfl, other, other'⟩
  · rfl
  · have unread {a : Option Object} (ha : ∀ b ∈ a, b.kind ≠ kind) :
        a.filter (·.kind = kind) = none := by
      rw [Option.filter_eq_none_iff]
      simpa using ha
    exact (unread other).trans (unread other').symm

end Interchangeable

namespace Scene

/-- No variant of the technique that the scene is compiled with uses lights. -/
def Unlit (s : Scene) (options : Options) : Prop :=
  ∀ info, (Stock.describe (Context.resolveTechnique s options) s).result = .ok info →
    ∀ v ∈ info.variants, v.usesLights = false

/-- The scenes have in common all that a compilation with the options uses. -/
structure SameUsed (s : Scene) (options : Options) (s' : Scene) : Prop where
  /-- The textures are the same. -/
  textures : s.textures = s'.textures
  /-- The materials are the same. -/
  bsdfs : s.bsdfs = s'.bsdfs
  /-- Rays come from a list, or a look at the cameras does not tell them apart. -/
  camera : options.isTracer = true ∨ Interchangeable options.cameraKind s.camera s'.camera
  /-- A look at the technique objects does not tell them apart. -/
  technique : Interchangeable options.techniqueKind s.technique s'.technique
  /-- The lights are the same and so are the names of entities, if lights are used. -/
  lights : s.Unlit options ∨ s.lights = s'.lights ∧ s.entities.names = s'.entities.names

namespace SameUsed

variable {options : Options} {s s' : Scene}

theorem resolveTechnique_eq (h : s.SameUsed options s') :
    Context.resolveTechnique s options = Context.resolveTechnique s' options :=
  h.technique.kind_eq _

theorem techniqueOfKind?_eq (h : s.SameUsed options s') :
    s.techniqueOfKind? (Context.resolveTechnique s options)
      = s'.techniqueOfKind? (Context.resolveTechnique s' options) :=
  h.technique.filter_eq _

end SameUsed

end Scene

variable {s s' : Scene} {options : Options}

/-- The description of a technique reads the technique object of its own kind only. -/
theorem Stock.describe_congr {kind : String}
    (h : s.techniqueOfKind? kind = s'.techniqueOfKind? kind) : describe kind s = describe kind s' := by
  unfold describe
  cases found : Technique.ofKind? kind with
  | none => rfl
  | some t =>
    have own : t.kind = kind := find?_kind_eq_some found
    have info : t.info s = t.info s' := by
      cases t with
      | path =>
        have normals : Technique.wantsNormals s kind = Technique.wantsNormals s' kind := by
          simp only [Technique.wantsNormals, h]
        rw [Technique.info, Technique.info, own, normals]
      | ambientOcclusion | debug | lightVisibility | photons => rfl
    simp only [info]

namespace Context

theorem ofScene_congr (h : s.SameUsed options s') {info : Info}
    (described : (Stock.describe (resolveTechnique s options) s).result = .ok info) :
    Corresponds Loading (ofScene s info options).result (ofScene s' info options).result := by
  have kind := h.resolveTechnique_eq
  have object : (s.techniqueOfKind? (resolveTechnique s options)).getD
      (.ofKind (resolveTechnique s options))
        = (s'.techniqueOfKind? (resolveTechnique s' options)).getD
          (.ofKind (resolveTechnique s' options)) := by
    rw [h.techniqueOfKind?_eq, kind]
  have camera : options.isTracer = true ∨ resolveCamera s options = resolveCamera s' options ∧
      (s.cameraOfKind? (resolveCamera s options)).getD (.ofKind (resolveCamera s options))
        = (s'.cameraOfKind? (resolveCamera s' options)).getD (.ofKind (resolveCamera s' options)) := by
    refine h.camera.imp_right fun same => ⟨same.kind_eq _, ?_⟩
    have unread : s.cameraOfKind? (resolveCamera s options)
        = s'.cameraOfKind? (resolveCamera s' options) := same.filter_eq _
    have wanted : resolveCamera s options = resolveCamera s' options := same.kind_eq _
    rw [unread, wanted]
  have lights := h.lights.imp_left fun unlit => unlit info described
  unfold ofScene
  by_cases bad : options.samples.toNat = 0 ∨ maxSamples < options.samples.toNat
  · simp only [if_pos bad]
    exact .error _
  · simp only [if_neg bad]
    cases info.variants.isEmpty <;>
      exact .ok ⟨⟨rfl, kind, object, rfl, rfl, rfl, rfl, h.bsdfs, ⟨rfl, rfl⟩, rfl, rfl, camera, lights⟩,
        rfl, h.textures⟩

/-- Scenes with the same used parts load into alike contexts, or fail to load alike. -/
theorem load_congr (h : s.SameUsed options s') :
    Corresponds Alike (load Stock.describe s options).result
      (load Stock.describe s' options).result := by
  have described : Stock.describe (resolveTechnique s' options) s'
      = Stock.describe (resolveTechnique s options) s := by
    rw [← h.resolveTechnique_eq, Stock.describe_congr]
    rw [h.techniqueOfKind?_eq, h.resolveTechnique_eq]
  unfold load
  simp only [Run.bind_eq, Run.result_bind, described]
  cases info : (Stock.describe (resolveTechnique s options) s).result with
  | error e => exact .error e
  | ok technique => exact (ofScene_congr h info).bind fun a b alike => registerTextures_congr alike

end Context

namespace Generation

/-- **A compilation reads no unused part of the scene.** Two scenes with the same textures
and materials compile with the same options to the same programs, or fail with the same
error, if they also have in common: the camera, unless rays come from a list or the options
ask for a kind of camera that neither scene has; the technique object, with the same
exception; and the lights and the names of entities, unless no variant of the technique
uses lights. -/
theorem compile_ignores_unused (options : Options) (s s' : Scene) (used : s.SameUsed options s')
    (d d' : Scene.Database) :
    (compile s options d).result = (compile s' options d').result := by
  unfold compile
  rw [Run.result_bind, Run.result_bind]
  refine Corresponds.eq ((Context.load_congr used).bind fun a b alike => .of_eq ?_)
  exact all_congr (alike.withDatabase d d')

/-- A scene with a material only. -/
def bareScene : Scene := Scene.empty.addBsdf "floor" (.ofKind "diffuse")

/-- The scene with a camera, a technique object, a light and an entity. The parameters of
the technique are no parameters of it, and the light shines on an entity that is not there. -/
def furnishedScene : Scene :=
  (((bareScene.setCamera (.ofKind "perspective")).setTechnique
    ((Object.ofKind "path").withProperty "max_depth" (.string "deep"))).addLight "lamp"
      ((Object.ofKind "area").withProperty "entity" (.string "nowhere"))).addEntity "wall"
        (.ofKind "default")

/-- Options that ask for ambient occlusion, which uses no lights, and for a wide view. -/
def occlusionOptions : Options :=
  { Options.standard with cameraKind := some "fishlens", techniqueKind := some "ao" }

theorem sameUsed_furnished : bareScene.SameUsed occlusionOptions furnishedScene where
  textures := rfl
  bsdfs := rfl
  camera := .inr (.inr ⟨"fishlens", rfl, by decide, by decide⟩)
  technique := .inr ⟨"ao", rfl, by decide, by decide⟩
  lights := by
    refine .inl fun info described => ?_
    have occlusion : (Stock.describe "ao" bareScene).result = .ok (.single (.ofFeatures [])) := rfl
    obtain rfl := Except.ok.inj (occlusion.symm.trans described)
    decide

theorem furnished_compiles_like_bare :
    bareScene.SameUsed occlusionOptions furnishedScene ∧
      (compile bareScene occlusionOptions ⟨0, 0⟩).result.isOk = true ∧
      (compile bareScene occlusionOptions ⟨0, 0⟩).result
        = (compile furnishedScene occlusionOptions ⟨1, 1⟩).result :=
  ⟨sameUsed_furnished, by decide +kernel,
    compile_ignores_unused _ _ _ sameUsed_furnished ⟨0, 0⟩ ⟨1, 1⟩⟩

end Generation

end RayShader
