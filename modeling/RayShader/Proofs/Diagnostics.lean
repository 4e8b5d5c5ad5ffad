import RayShader.Stock.Camera
import RayShader.Stock.Technique
import RayShader.Proofs.Registration
import RayShader.Proofs.Template

/-!
# Truthful diagnostics

What an error says of a scene and of the options that it is loaded with is a claim, which
`Error.Truthful` spells out for each kind of error. Errors that blame neither, such as a
template that was not rendered, claim something that is never so.

Reading properties and loading a scene for a stock technique fail only with errors whose
claims are so.
-/

namespace RayShader

open Context (Loaded)

/-! ### What errors claim -/

/-- The kinds of values that a description in an error stands for. -/
def expectations : List (String × List String) :=
  [("bool", ["bool"]), ("integer", ["integer"]), ("number", ["integer", "number"]),
    ("string", ["string"]), ("vector3 or number", ["vector3", "integer", "number"]),
    ("number or material name", ["integer", "number", "string"]),
    ("texture name, vector3 or number", ["string", "vector3", "integer", "number"])]

/-- The name is none of the given ones, whatever the case of its letters. -/
def IsNoneOf (names : List String) (name : String) : Prop :=
  ∀ n ∈ names, Text.eqIgnoringCase n name = false

/-- What an object of an unknown kind, or with an unknown mode, claims. -/
inductive Unsupported (scene : Scene) (options : Options) : String → String → String → Prop
  /-- A light of the kind has the name, and no stock light is of the kind. -/
  | light {o : Object} (ho : o ∈ scene.lights.values) (h : o.kind ∉ Stock.Light.all.map (·.kind)) :
    Unsupported scene options "light" o.kind o.name
  /-- A material of the kind has the name, and no stock material is of the kind. -/
  | bsdf {o : Object} (ho : o ∈ scene.bsdfs.values) (h : o.kind ∉ Stock.Material.all.map (·.kind)) :
    Unsupported scene options "bsdf" o.kind o.name
  /-- The kind of camera is no stock one. The name is that of the camera, if it is of the kind. -/
  | camera (h : Context.resolveCamera scene options ∉ Stock.Camera.all.map (·.kind)) :
    Unsupported scene options "camera" (Context.resolveCamera scene options)
      ((scene.cameraOfKind? (Context.resolveCamera scene options)).elim "" (·.name))
  /-- The camera has a mode that is unknown. -/
  | fishlensMode {o : Object} {mode : String} (ho : scene.camera = some o)
    (hm : o.property? "mode" = some (.string mode)) (h : IsNoneOf Stock.Camera.modes mode) :
    Unsupported scene options "fishlens mode" mode o.name
  /-- The technique has a mode that is unknown. -/
  | debugMode {o : Object} {mode : String} (ho : scene.technique = some o)
    (hm : o.property? "mode" = some (.string mode)) (h : IsNoneOf Stock.Technique.modes mode) :
    Unsupported scene options "debug mode" mode o.name

/-- What the error claims is so. An object is found by the name that it carries, which is
that under which it stands wherever a scene names its objects. -/
def Error.Truthful (scene : Scene) (options : Options) : Error → Prop
  | propertyMismatch object property expected =>
    ∃ o ∈ scene.objects, o.name = object ∧
      ∃ kinds value, expectations.lookup expected = some kinds ∧
        o.property? property = some value ∧ value.kind ∉ kinds
  | missingProperty object property =>
    property = "filename" ∧ (∃ o, (object, o) ∈ scene.textures.entries ∧ o.kind = "image" ∧
        o.property? property = none) ∨
      property = "entity" ∧ ∃ o ∈ scene.lights.values, o.name = object ∧ o.kind = "area" ∧
        o.property? property = none
  | unknownIor object name =>
    ∃ o ∈ scene.bsdfs.values, o.name = object ∧
      (∃ property ∈ ["ext_ior", "int_ior"], o.property? property = some (.string name)) ∧
      IsNoneOf (Dielectric.indices.map (·.1)) (Text.trim name)
  | unknownTexture object property texture =>
    ∃ o ∈ scene.lights.values ++ scene.bsdfs.values, o.name = object ∧
      o.property? property = some (.string texture) ∧
      ∀ t, (texture, t) ∈ scene.textures.entries → t.kind ≠ "image"
  | unknownEntity object entity =>
    entity ∉ scene.entities.names ∧ ∃ o ∈ scene.lights.values, o.name = object ∧ o.kind = "area" ∧
      o.property? "entity" = some (.string entity)
  | unsupportedKind category kind object => Unsupported scene options category kind object
  | unknownTechnique kind =>
    kind = Context.resolveTechnique scene options ∧ kind ∉ Stock.Technique.all.map (·.kind)
  | invalidSamples samples =>
    samples = options.samples.toNat ∧ (samples = 0 ∨ 0x7FFFFFFF < samples)
  | unknownHitGroup .. | databaseMissing | template _ | toolchain .. | image _ | malformed => False

/-- The failure is an error, and truthful. -/
def Failure.Truthful (scene : Scene) (options : Options) : Failure → Prop
  | error e => e.Truthful scene options
  | fault _ => False

variable {scene : Scene} {options : Options} {o : Object} {property : String}

/-! ### Reading properties -/

/-- The object is one of the scene, or a substitute without properties. -/
def Scene.Reads (scene : Scene) (o : Object) : Prop :=
  o ∈ scene.objects ∨ ∀ property, o.property? property = none

namespace Object

theorem mismatch_truthful (ho : scene.Reads o) {value : Property} {expected : String}
    {kinds : List String} (found : o.property? property = some value)
    (described : expectations.lookup expected = some kinds) (wrong : value.kind ∉ kinds) :
    (o.mismatch property expected).Truthful scene options := by
  rcases ho with ho | none
  · exact ⟨o, ho, rfl, kinds, value, described, found, wrong⟩
  · rw [none property] at found
    cases found

theorem number_truthful (ho : scene.Reads o) (default : Single) :
    FailsOnly (Error.Truthful scene options) (o.number property default) := by
  unfold number
  split
  · exact .ok _
  · exact .ok _
  · exact .ok _
  · rename_i value _ _ found
    exact .error (mismatch_truthful ho found rfl (by cases value <;> simp_all [Property.kind]))

theorem integer_truthful (ho : scene.Reads o) (default : Int64) :
    FailsOnly (Error.Truthful scene options) (o.integer property default) := by
  unfold integer
  split
  · exact .ok _
  · exact .ok _
  · rename_i value _ found
    exact .error (mismatch_truthful ho found rfl (by cases value <;> simp_all [Property.kind]))

theorem bool_truthful (ho : scene.Reads o) (default : Bool) :
    FailsOnly (Error.Truthful scene options) (o.bool property default) := by
  unfold bool
  split
  · exact .ok _
  · exact .ok _
  · rename_i value _ found
    exact .error (mismatch_truthful ho found rfl (by cases value <;> simp_all [Property.kind]))

theorem string?_truthful (ho : scene.Reads o) :
    FailsOnly (Error.Truthful scene options) (o.string? property) := by
  unfold string?
  split
  · exact .ok _
  · exact .ok _
  · rename_i value _ found
    exact .error (mismatch_truthful ho found rfl (by cases value <;> simp_all [Property.kind]))

theorem vector3_truthful (ho : scene.Reads o) (default : Vec3) :
    FailsOnly (Error.Truthful scene options) (o.vector3 property default) := by
  unfold vector3
  split
  · exact .ok _
  · exact .ok _
  · exact .ok _
  · exact .ok _
  · rename_i value _ _ _ found
    exact .error (mismatch_truthful ho found rfl (by cases value <;> simp_all [Property.kind]))

/-- An object with a property is not the substitute. -/
theorem eq_some_of_property? {o? : Option Object} {p : Object → Bool} {kind : String}
    {value : Property}
    (found : ((o?.filter p).getD (.ofKind kind)).property? property = some value) :
    o? = some ((o?.filter p).getD (.ofKind kind)) := by
  cases filtered : o?.filter p with
  | none =>
    rw [filtered] at found
    cases found
  | some o => exact (Option.filter_eq_some_iff.mp filtered).1

end Object

theorem Stock.modeIndex?_eq_none {modes : List String} {mode : String} :
    Stock.modeIndex? modes mode = none ↔ IsNoneOf modes mode := by
  simp [Stock.modeIndex?, IsNoneOf]

namespace Context

theorem ior_truthful (ho : o ∈ scene.bsdfs.values) (hp : property ∈ ["ext_ior", "int_ior"])
    (default : Single) : FailsOnly (Error.Truthful scene options) (ior o property default) := by
  have reads : scene.Reads o := .inl (by simp [Scene.objects, ho])
  unfold ior
  split
  · exact .ok _
  · exact .ok _
  · exact .ok _
  · rename_i name found
    split
    · exact .ok _
    · rename_i unknown
      refine .error ⟨o, ho, rfl, ⟨property, hp, found⟩, ?_⟩
      simpa [Dielectric.index?, IsNoneOf] using unknown
  · rename_i value _ _ _ found
    exact .error (Object.mismatch_truthful reads found rfl
      (by cases value <;> simp_all [Property.kind]))

theorem textureColor_truthful {c : Context} (hc : Loaded Stock.describe scene options c)
    (ho : o ∈ scene.lights.values ++ scene.bsdfs.values) (default : Vec3) :
    FailsOnly (Error.Truthful scene options) (c.textureColor o property default) := by
  have reads : scene.Reads o := .inl (by
    rcases List.mem_append.mp ho with ho | ho <;> simp [Scene.objects, ho])
  unfold textureColor
  split
  · exact .ok _
  · rename_i texture found
    split
    · exact .ok _
    · rename_i unregistered
      refine .error ⟨o, ho, rfl, found, fun t ht image => ?_⟩
      obtain ⟨_, _, buffer, registered, -⟩ := hc.provides (texture, t) ht image
      rw [registered] at unregistered
      cases unregistered
  · exact .ok _
  · exact .ok _
  · exact .ok _
  · rename_i value _ _ _ _ found
    exact .error (Object.mismatch_truthful reads found rfl
      (by cases value <;> simp_all [Property.kind]))

theorem imageTexture_truthful (c : Context) {name : String}
    (ho : (name, o) ∈ scene.textures.entries) (image : o.kind = "image") :
    FailsOnly (Error.Truthful scene options) (c.imageTexture name o) := by
  have reads : scene.Reads o := .inl (by
    have : o ∈ scene.textures.values := List.mem_map.mpr ⟨(name, o), ho, rfl⟩
    simp [Scene.objects, this])
  refine (Object.string?_truthful reads).bind fun file? filename => ?_
  cases file? with
  | none => exact .error (.inl ⟨rfl, o, ho, image, Object.string?_eq_ok.mp filename⟩)
  | some file => exact (Object.vector3_truthful reads _).bind fun _ _ => .ok _

theorem registerAll_truthful {textures : List (String × Object)}
    (h : ∀ p ∈ textures, p ∈ scene.textures.entries) :
    (registerAll textures).FailsOnly (Failure.Truthful scene options) := by
  induction textures with
  | nil => exact .pure ()
  | cons p rest ih =>
    obtain ⟨name, o⟩ := p
    refine .bind ?_ fun _ => ih fun q hq => h q (List.mem_cons_of_mem _ hq)
    unfold registerTexture
    by_cases kind : o.kind = "image"
    · rw [if_neg (by simpa using kind)]
      refine .bind (fun _ => .ok _) fun c => .bind ?_ fun _ =>
        .bind (fun _ => .ok _) fun _ _ => .ok _
      exact .read (imageTexture_truthful c (h _ (List.mem_cons_self ..)) kind)
    · rw [if_pos kind]
      exact fun _ => .ok _

end Context

/-! ### Loading -/

theorem Scene.reads_technique {kind : String} (ho : scene.techniqueOfKind? kind = some o) :
    scene.Reads o := by
  have := (Option.filter_eq_some_iff.mp ho).1
  exact .inl (by simp [Scene.objects, this])

theorem Scene.reads_camera {kind : String} (ho : scene.cameraOfKind? kind = some o) :
    scene.Reads o := by
  have := (Option.filter_eq_some_iff.mp ho).1
  exact .inl (by simp [Scene.objects, this])

/-- An object of which only the kind is given has no properties. -/
theorem Scene.reads_ofKind (kind : String) : scene.Reads (.ofKind kind) := .inr fun _ => rfl

namespace Stock

/-- Nothing is of the kind. -/
theorem find?_kind_eq_none {α : Type} {as : List α} {kind : α → String} {k : String} :
    as.find? (fun a => kind a = k) = none ↔ k ∉ as.map kind := by
  simp

theorem find?_kind_eq_some {α : Type} {as : List α} {kind : α → String} {k : String} {a : α}
    (h : as.find? (fun a => kind a = k) = some a) : kind a = k := by
  simpa using List.find?_some h

theorem orFault_truthful {α : Type} {r : Except Error α}
    (h : FailsOnly (Error.Truthful scene options) r) :
    FailsOnly (Failure.Truthful scene options) (orFault r) :=
  .mapError h

theorem Technique.info_truthful (t : Technique) :
    FailsOnly (Error.Truthful scene options) (t.info scene) := by
  cases t with
  | path =>
    refine .bind ?_ fun _ _ => .ok _
    unfold wantsNormals
    split
    · rename_i o found
      exact Object.bool_truthful (Scene.reads_technique found) false
    · exact .ok _
  | _ => exact .ok _

theorem describe_truthful :
    FailsOnly (Failure.Truthful scene options)
      (describe (Context.resolveTechnique scene options) scene).result := by
  unfold describe
  split
  · rename_i unknown
    exact .error ⟨rfl, find?_kind_eq_none.mp unknown⟩
  · rename_i t _
    rw [Run.bind_eq, Run.result_bind]
    exact .bind (orFault_truthful (Technique.info_truthful t)) fun _ _ => .ok _

end Stock

namespace Context

theorem ofScene_truthful (technique : Technique.Info) :
    FailsOnly (Failure.Truthful scene options) (ofScene scene technique options).result := by
  unfold ofScene
  by_cases bad : options.samples.toNat = 0 ∨ maxSamples < options.samples.toNat
  · simp only [if_pos bad]
    exact .error ⟨rfl, bad⟩
  · simp only [if_neg bad]
    split <;> exact .ok _

/-- Loading fails only for what is wrong with the scene or the options. -/
theorem load_truthful :
    FailsOnly (Failure.Truthful scene options) (load Stock.describe scene options).result := by
  refine (Run.result_bind _ _) ▸ .bind (.ok _) fun _ _ => ?_
  refine (Run.result_bind _ _) ▸ .bind Stock.describe_truthful fun technique _ => ?_
  refine (Run.result_bind _ _) ▸ .bind (ofScene_truthful technique) fun c made => ?_
  refine (Run.result_bind _ _) ▸ .bind ?_ fun _ _ => .ok _
  rw [← (ofScene_ok made).1]
  exact registerAll_truthful (fun _ h => h) c

end Context

end RayShader
