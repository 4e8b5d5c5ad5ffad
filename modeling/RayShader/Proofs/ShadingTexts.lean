import RayShader.Proofs.Declarations
import RayShader.Proofs.LightTables

/-!
# Texts of lights and materials

What a light or a material is expressed by does not depend on the tree, so each has one
expression (`Light.expression`, `Material.expression`). A table of lights is laid out from the
names and the expressions of all lights, and the block of a material from its own. Both take
them as they are: a name that looks like a part of a template comes out as any other.

Expressions fail on the object that they are made of and on nothing else (`Error.IsOf`), so a
material is only unknown where there is none of its number.
-/

namespace RayShader

/-! ### Errors of objects -/

/-- The error is one of the object with the name. -/
def Error.IsOf (name : String) : Error → Prop
  | propertyMismatch object .. | missingProperty object .. | unknownIor object ..
  | unknownTexture object .. | unknownEntity object .. | unsupportedKind _ _ object => object = name
  | unknownHitGroup .. | unknownTechnique .. | invalidSamples .. | databaseMissing | template _
  | toolchain .. | image _ | malformed => False

/-- The failure is an error of the object with the name. -/
def Failure.IsOf (name : String) : Failure → Prop
  | error e => e.IsOf name
  | fault _ => False

variable {c : Context} {o : Object} {property : String}

namespace Object

theorem vector3_isOf (default : Vec3) :
    FailsOnly (Error.IsOf o.name) (o.vector3 property default) := by
  unfold vector3
  split
  · exact .ok _
  · exact .ok _
  · exact .ok _
  · exact .ok _
  · exact .error rfl

end Object

namespace Context

theorem ior_isOf (default : Single) : FailsOnly (Error.IsOf o.name) (ior o property default) := by
  unfold ior
  split
  · exact .ok _
  · exact .ok _
  · exact .ok _
  · split
    · exact .ok _
    · exact .error rfl
  · exact .error rfl

theorem textureColor_isOf (default : Vec3) :
    FailsOnly (Error.IsOf o.name) (c.textureColor o property default) := by
  unfold textureColor
  split
  · exact .ok _
  · split
    · exact .ok _
    · exact .error rfl
  · exact .ok _
  · exact .ok _
  · exact .ok _
  · exact .error rfl

end Context

namespace ShadingTree

theorem color_isOf (default : Vec3) :
    (color c o property default).FailsOnly (Failure.IsOf o.name) := by
  refine .bind (.read (Context.textureColor_isOf default)) fun value => ?_
  cases value with
  | texture buffer => exact fun _ => .ok _
  | color v => exact .pure _

theorem ior_isOf (default : Single) :
    (ior o property default).FailsOnly (Failure.IsOf o.name) :=
  .read ((Context.ior_isOf default).map _)

end ShadingTree

namespace Stock

/-! ### Expressions -/

/-- The expression of a light object, in a restricted table or not. -/
def Light.expression (c : Context) (restricted : Bool) (o : Object) : Except Failure String :=
  ((ofObject c o restricted).step .empty).2

/-- The expression of a material object. -/
def Material.expression (c : Context) (o : Object) : Except Failure String :=
  ((ofObject c o).step .empty).2

/-- Whatever the tree, a light object has its expression. -/
theorem Light.result_ofObject (c : Context) (restricted : Bool) (o : Object) (t : ShadingTree) :
    ((ofObject c o restricted).step t).2 = expression c restricted o := by
  have blind : Blind (ofObject c o restricted) := by
    unfold ofObject
    cases ofKind? o.kind with
    | none => exact .ofRun _
    | some light => exact blind_expr light restricted
  exact blind t .empty

namespace Material

theorem blind_expr (material : Material) : Blind (material.expr c o) := by
  cases material with
  | diffuse => exact (Blind.color _).bind fun _ => .ofRun _
  | dielectric =>
    exact (Blind.ofRun _).bind fun _ => (Blind.ofRun _).bind fun _ => (Blind.color _).bind fun _ =>
      (Blind.color _).bind fun _ => .ofRun _
  | conductor =>
    exact (Blind.ofRun _).bind fun _ => (Blind.ofRun _).bind fun _ => (Blind.color _).bind fun _ =>
      .ofRun _

/-- Whatever the tree, a material object has its expression. -/
theorem result_ofObject (c : Context) (o : Object) (t : ShadingTree) :
    ((ofObject c o).step t).2 = expression c o := by
  have blind : Blind (ofObject c o) := by
    unfold ofObject
    cases ofKind? o.kind with
    | none => exact .ofRun _
    | some material => exact blind_expr material
  exact blind t .empty

theorem expr_isOf (material : Material) :
    (material.expr c o).FailsOnly (Failure.IsOf o.name) := by
  cases material with
  | diffuse => exact (ShadingTree.color_isOf _).bind fun _ => .pure _
  | dielectric =>
    exact (ShadingTree.ior_isOf _).bind fun _ => (ShadingTree.ior_isOf _).bind fun _ =>
      (ShadingTree.color_isOf _).bind fun _ => (ShadingTree.color_isOf _).bind fun _ => .pure _
  | conductor =>
    exact .bind (.read (Object.vector3_isOf _)) fun _ => .bind (.read (Object.vector3_isOf _))
      fun _ => (ShadingTree.color_isOf _).bind fun _ => .pure _

/-- A material without an expression has an error that is its own. -/
theorem expression_isOf (c : Context) (o : Object) :
    FailsOnly (Failure.IsOf o.name) (expression c o) := by
  have fails : (ofObject c o).FailsOnly (Failure.IsOf o.name) := by
    unfold ofObject
    cases ofKind? o.kind with
    | none => exact .error rfl
    | some material => exact expr_isOf material
  exact fails .empty

end Material

/-! ### Entries of tables -/

variable {restricted : Bool} {t t' u : ShadingTree} {lights : List (String × Object)}
  {entries : List (String × String)} {buffers : List Nat} {exprs : List String}

/-- The entry has the name and the expression of the light. -/
def Light.IsOf (c : Context) (restricted : Bool) (p : String × Object)
    (entry : String × String) : Prop :=
  entry.1 = p.1 ∧ expression c restricted p.2 = .ok entry.2

/-- Lights have entries if they have expressions, and the entries have these. -/
theorem Light.step_entries_eq_ok :
    (∃ u, (Light.entries c restricted lights).step t = (u, .ok entries)) ↔
      List.Forall₂ (IsOf c restricted) lights entries := by
  -- every light leaves another tree, so the tree is arbitrary in the induction
  induction lights generalizing t entries with
  | nil =>
    simp only [Light.entries, Stage.step_pure_eq_ok, List.forall₂_nil_left_iff]
    constructor
    · rintro ⟨_, -, same⟩
      exact same
    · intro same
      exact ⟨t, rfl, same⟩
  | cons p rest ih =>
    simp only [Light.entries, Stage.bind_eq, Stage.step_bind_eq_ok, Stage.step_pure_eq_ok]
    constructor
    · rintro ⟨_, v, s, one, w, more, all, -, rfl⟩
      have read := result_ofObject c restricted p.2 t
      rw [one] at read
      exact .cons ⟨rfl, read.symm⟩ (ih.mp ⟨w, all⟩)
    · rintro (_ | ⟨⟨name, read⟩, all⟩)
      obtain ⟨w, made⟩ := ih.mpr all
      exact ⟨w, _, _, Prod.ext rfl ((result_ofObject c restricted p.2 t).trans read), w, _, made,
        rfl, by rw [← name]⟩

/-! ### Texts -/

/-- The buffers are those of the images to declare in front of expressions: of those that are
used already or that the expressions sample, and that are not declared yet. -/
structure Declares (t : ShadingTree) (buffers : List Nat) (exprs : List String) : Prop where
  /-- The images. -/
  mem : ∀ b, b ∈ buffers ↔ (b ∈ t.used ∨ ∃ s ∈ exprs, Samples s b) ∧ b ∉ t.declared
  /-- Their order. -/
  ascending : t.Ascends → buffers.Pairwise (· < ·)

theorem declares_of_gains {P : Nat → Prop} (gains : t.Gains P u)
    (sampled : ∀ b, P b ↔ ∃ s ∈ exprs, Samples s b)
    (taken : declare.step u = (t', .ok buffers)) : Declares t buffers exprs := by
  obtain rfl : u.pending = buffers := Except.ok.inj (Prod.mk.inj taken).2
  refine ⟨fun b => ?_, fun ascends => (gains.ascends ascends).filter _⟩
  rw [ShadingTree.mem_pending, gains.declared_eq, gains.mem_used, sampled]

theorem trimEnd_lightTable (buffers : List Nat) (entries : List (String × String)) :
    Text.trimEnd (lightTable buffers entries) = lightTable buffers entries :=
  Text.trimEnd_join [_, _, _, _, _, _, _] (by decide +kernel) (by decide)

theorem trimEnd_materialBlock (buffers : List Nat) (group : Nat) (name bsdf : String) :
    Text.trimEnd (materialBlock buffers group name bsdf) = materialBlock buffers group name bsdf :=
  Text.trimEnd_join [_, _, _, _, _, _, _, _, _] (by decide +kernel) (by decide)

/-- A table of lights is made of their names and expressions, behind declarations. -/
theorem text_of_lights {text : String} (h : (Stock.lights c restricted).step t = (t', .ok text)) :
    ∃ buffers entries, Declares t buffers (entries.map (·.2)) ∧
      List.Forall₂ (Light.IsOf c restricted) c.scene.lights.entries entries ∧
      text = lightTable buffers entries := by
  obtain ⟨u, entries, buffers, made, taken, rfl⟩ := lights_step_eq_ok.mp h
  obtain ⟨gains, each⟩ := Light.adds_entries restricted _ _ _ _ made
  obtain ⟨ms, rfl, -, -, sampled⟩ := Light.emissions_of_entries each
  refine ⟨buffers, _, declares_of_gains gains (fun b => ?_) taken,
    Light.step_entries_eq_ok.mp ⟨u, made⟩, rfl⟩
  rw [sampled]
  simp

/-- There is a table if all lights have expressions. -/
theorem lights_of_expressions (t : ShadingTree)
    (h : ∀ p ∈ c.scene.lights.entries, ∃ s, Light.expression c restricted p.2 = .ok s) :
    ∃ t' text, (Stock.lights c restricted).step t = (t', .ok text) := by
  have each : List.Forall₂ (Light.IsOf c restricted) c.scene.lights.entries
      (c.scene.lights.entries.map fun p =>
        (p.1, (Light.expression c restricted p.2).toOption.getD "")) := by
    refine List.forall₂_map_right_iff.mpr (List.forall₂_same.mpr fun p mem => ?_)
    obtain ⟨s, expressed⟩ := h p mem
    exact ⟨rfl, by rw [expressed]; rfl⟩
  obtain ⟨u, made⟩ := Light.step_entries_eq_ok.mpr each
  exact ⟨_, _, lights_step_eq_ok.mpr ⟨u, _, _, made, rfl, rfl⟩⟩

/-- What becomes of a material that there is: its text if it has an expression, and otherwise the
error that it has in the place of one. -/
theorem step_material {group : Nat} {name : String} {o : Object}
    (h : c.scene.bsdfs.entries[group]? = some (name, o)) (t : ShadingTree) :
    match Material.expression c o with
    | .ok bsdf => ∃ t' buffers, Declares t buffers [bsdf] ∧
        (material c group).step t = (t', .ok (materialBlock buffers group name bsdf))
    | .error f => ((material c group).step t).2 = .error f := by
  rw [material_eq h]
  have result := Material.result_ofObject c o t
  cases expression : Material.expression c o with
  | ok bsdf =>
    obtain ⟨u, made⟩ : ∃ u, (Material.ofObject c o).step t = (u, .ok bsdf) :=
      ⟨_, Prod.ext rfl (result.trans expression)⟩
    obtain ⟨gains, expresses⟩ := Material.adds_ofObject _ _ _ made
    refine ⟨(declare.step u).1, u.pending, declares_of_gains gains (fun b => ?_) rfl, ?_⟩
    · simpa using (expresses.samples b).symm
    · rw [Stage.step_bind_of_ok made]
      rfl
  | error f =>
    have failed : (Material.ofObject c o).step t = (_, .error f) :=
      Prod.ext rfl (result.trans expression)
    exact congrArg Prod.snd (Stage.step_bind_of_error failed _)

/-- A material is unknown where there is none of its number, and nowhere else. -/
theorem material_unknown_iff (c : Context) (group : Nat) (t : ShadingTree) :
    ((material c group).step t).2 = .error (.error (.unknownHitGroup group c.hitGroups))
      ↔ ¬ group < c.hitGroups := by
  constructor
  · intro unknown lt
    have result := step_material (List.getElem?_eq_getElem lt) t
    split at result
    · obtain ⟨t', buffers, -, made⟩ := result
      rw [made] at unknown
      cases unknown
    · rename_i f failed
      -- an unknown number is no error of an object
      obtain rfl : f = _ := Except.error.inj (result.symm.trans unknown)
      exact Material.expression_isOf c _ _ failed
  · intro beyond
    have none : c.scene.bsdfs.entries[group]? = none :=
      List.getElem?_eq_none (Nat.le_of_not_lt beyond)
    unfold material
    rw [none]
    rfl

/-- **Tables of lights and blocks of materials are laid out of names and expressions as they
are.** A table is made if all lights have expressions. It has a line for each light and one that
finds it, in the order of the names, and the count of the lights between them. A material is
unknown if there is none of its number. Otherwise its block is made of its name and its expression,
or it fails on an error of its own. Declarations of images come first, and no blank is at the
end. -/
theorem laid_out_as_they_are (c : Context) :
    (∀ restricted t, (∃ t' text, (Stock.lights c restricted).step t = (t', .ok text)) ↔
      ∀ p ∈ c.scene.lights.entries, ∃ s, Light.expression c restricted p.2 = .ok s) ∧
    (∀ restricted t t' text, (Stock.lights c restricted).step t = (t', .ok text) →
      ∃ buffers entries, Declares t buffers (entries.map (·.2)) ∧
        List.Forall₂ (Light.IsOf c restricted) c.scene.lights.entries entries ∧
        text = lightTable buffers entries ∧ Text.trimEnd text = text) ∧
    (∀ group t,
      ((material c group).step t).2 = .error (.error (.unknownHitGroup group c.hitGroups))
        ↔ ¬ group < c.hitGroups) ∧
    ∀ group t, group < c.hitGroups →
      ∃ name o, c.scene.bsdfs.entries[group]? = some (name, o) ∧
        ((∃ t' text buffers bsdf, (material c group).step t = (t', .ok text) ∧
          Declares t buffers [bsdf] ∧ Material.expression c o = .ok bsdf ∧
          text = materialBlock buffers group name bsdf ∧ Text.trimEnd text = text) ∨
        ∃ f, ((material c group).step t).2 = .error f ∧ Material.expression c o = .error f ∧
          f.IsOf o.name) := by
  refine ⟨fun restricted t => ⟨?_, lights_of_expressions t⟩, fun restricted t t' text made => ?_,
    material_unknown_iff c, fun group t lt => ?_⟩
  · rintro ⟨t', text, made⟩ p mem
    obtain ⟨_, entries, -, each, -⟩ := text_of_lights made
    obtain ⟨i, at_i, rfl⟩ := List.getElem_of_mem mem
    exact ⟨_, (each.get at_i (each.length_eq ▸ at_i)).2⟩
  · obtain ⟨buffers, entries, declares, each, rfl⟩ := text_of_lights made
    exact ⟨buffers, entries, declares, each, rfl, trimEnd_lightTable buffers entries⟩
  · refine ⟨_, _, List.getElem?_eq_getElem lt, ?_⟩
    have result := step_material (List.getElem?_eq_getElem lt) t
    split at result
    · rename_i bsdf expressed
      obtain ⟨t', buffers, declares, made⟩ := result
      exact .inl ⟨t', _, buffers, bsdf, made, declares, expressed, rfl, trimEnd_materialBlock ..⟩
    · rename_i f failed
      exact .inr ⟨f, result, failed, Material.expression_isOf c _ f failed⟩

/-- The names of a light and of a bsdf that look like parts of templates. -/
def bracedNames : String × String :=
  ("\x7b\x7b textures \x7d\x7d $$ endfor", "\x7b$ if bsdf $\x7d\x7b\x7b\x7b $$")

theorem braced_names_stay :
    ∃ c t t' before before',
      (Context.ofScene ((Scene.empty.addLight bracedNames.1 (.ofKind "constant")).addBsdf
        bracedNames.2 (.ofKind "diffuse")) default .standard).result = .ok c ∧
      (Stock.lights c true).step .empty = (t, .ok (lightTable before
        [(bracedNames.1, "make_environment_light(make_color(1.0, 1.0, 1.0, 1.0), 1.0)")])) ∧
      (material c 0).step .empty = (t', .ok (materialBlock before' 0 bracedNames.2
        "make_diffuse_bsdf(ctx.surf, make_color(0.5, 0.5, 0.5, 1.0))")) ∧
      ((material c 1).step .empty).2 = .error (.error (.unknownHitGroup 1 1)) := by
  have read : ((Context.ofScene ((Scene.empty.addLight bracedNames.1 (.ofKind "constant")).addBsdf
      bracedNames.2 (.ofKind "diffuse")) default .standard).bind fun c =>
        (Run.ofExcept (Light.expression c true (.named (.ofKind "constant") bracedNames.1))).bind
          fun light => (Run.ofExcept (Material.expression c
            (.named (.ofKind "diffuse") bracedNames.2))).bind fun bsdf => pure (light, bsdf)).result
      = .ok ("make_environment_light(make_color(1.0, 1.0, 1.0, 1.0), 1.0)",
        "make_diffuse_bsdf(ctx.surf, make_color(0.5, 0.5, 0.5, 1.0))") := by
    decide +kernel
  obtain ⟨c, made, read⟩ := Run.bind_eq_ok.mp read
  obtain ⟨_, light, read⟩ := Run.bind_eq_ok.mp read
  obtain ⟨_, bsdf, read⟩ := Run.bind_eq_ok.mp read
  obtain ⟨rfl, rfl⟩ := Prod.mk.inj (Except.ok.inj read)
  obtain ⟨scene, -⟩ := Context.ofScene_ok made
  have lights : c.scene.lights.entries
      = [(bracedNames.1, .named (.ofKind "constant") bracedNames.1)] := by rw [scene]; rfl
  have bsdfs : c.scene.bsdfs.entries
      = [(bracedNames.2, .named (.ofKind "diffuse") bracedNames.2)] := by rw [scene]; rfl
  have count : c.hitGroups = 1 := congrArg List.length bsdfs
  obtain ⟨succeeds, tables, unknown, blocks⟩ := laid_out_as_they_are c
  obtain ⟨t, text, table⟩ := (succeeds true .empty).mpr (by
    rw [lights]
    exact List.forall_mem_singleton.mpr ⟨_, light⟩)
  obtain ⟨before, entries, -, each, rfl, -⟩ := tables true .empty t text table
  obtain ⟨name, o, at_zero, block⟩ := blocks 0 .empty (by rw [count]; decide)
  obtain ⟨rfl, rfl⟩ : bracedNames.2 = name ∧ .named (.ofKind "diffuse") bracedNames.2 = o := by
    rw [bsdfs] at at_zero
    exact Prod.mk.inj (Option.some.inj at_zero)
  obtain ⟨t', _, before', _, shown, -, expressed, rfl, -⟩ | ⟨f, -, failed, -⟩ := block
  · obtain rfl := Except.ok.inj (expressed.symm.trans bsdf)
    rw [lights] at each
    obtain ⟨entry, _, ⟨named, expressed'⟩, others, rfl⟩ := List.forall₂_cons_left_iff.mp each
    obtain rfl := List.forall₂_nil_left_iff.mp others
    obtain rfl : entry = (_, _) := Prod.ext named (Except.ok.inj (expressed'.symm.trans light))
    have beyond := (unknown 1 .empty).mpr (by rw [count]; decide)
    rw [count] at beyond
    exact ⟨c, t, t', before, before', made, table, shown, beyond⟩
  · cases failed.symm.trans bsdf

end Stock

end RayShader
