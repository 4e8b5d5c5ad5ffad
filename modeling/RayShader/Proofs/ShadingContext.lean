import RayShader.Proofs.FreeTexts
import RayShader.Proofs.Scopes

/-!
# Where programs use the shading context

A material is a function of the shading context, so its expression may sample a texture at
the surface point. The table of lights binds no shading context. But lights share the way in
which materials turn a color into an expression, so a light whose color names a texture
samples it at the surface point as well, all but the light around the scene, which samples
its texture by the function of its image.
-/

namespace RayShader

open Generation (build compile)
open Program (Fragment boundNames callText indent)
open Stock (lightContent closureLine)
open Text (lines IsLine IsFree code Mentions)

variable {c : Context} {o : Object} {property : String}

/-! ### Expressions of lights -/

/-- The text names the shading context if something is so, and is free of it if not. -/
structure NamesContext (P : Prop) (s : String) : Prop where
  /-- It names the shading context. -/
  names : P → Mentions s "ctx"
  /-- It is free of it. -/
  free : ¬ P → IsFree s

namespace NamesContext

variable {P : Prop} {s : String}

theorem ofFree (h : IsFree s) (not : ¬ P) : NamesContext P s := ⟨fun p => absurd p not, fun _ => h⟩

theorem mentions_iff (h : NamesContext P s) : Mentions s "ctx" ↔ P :=
  ⟨fun mentioned => by_contra fun not => (h.free not).not_mentions mentioned, h.names⟩

/-- A call names the shading context if its last argument does. -/
theorem callText (head : String) (args : List String) {last : String} (hh : IsFree head)
    (apart : Text.endsApart head = true) (ha : ∀ arg ∈ args, IsFree arg) (hl : NamesContext P last) :
    NamesContext P (callText head (args ++ [last])) where
  names p := (Program.mentions_callText apart).mpr (.inr ⟨last, by simp, hl.names p⟩)
  free not := Text.isFree_callText hh (List.forall_mem_append.mpr
    ⟨ha, List.forall_mem_singleton.mpr (hl.free not)⟩)

end NamesContext

namespace ShadingTree

theorem free_vector (default : Vec3) : (vector o property default).Gives IsFree :=
  gives_literal Text.isFree_vec3Literal

theorem free_number (default : Single) : (number o property default).Gives IsFree :=
  gives_literal Text.isFree_floatLiteral

theorem isFree_imageName (buffer : Nat) : IsFree (imageName buffer) :=
  .append (.literal rfl) (Text.isFree_nat buffer)

/-- A color names the shading context if it is a texture. -/
theorem namesContext_color (default : Vec3) :
    (color c o property default).Gives (NamesContext (∃ b, Names c o property b)) := by
  have read : (Stage.read (c.textureColor o property default) : Stage ShadingTree TextureColor).Gives
      fun value => ∀ b, Names c o property b ↔ value = .texture b := fun t u value gave =>
    (adds_textureColor default t u value gave).2.1
  refine read.bind fun value named => ?_
  cases value with
  | texture buffer =>
    refine .bind (.any _) fun name _ =>
      .pure ⟨fun _ => ?_, fun none => absurd ⟨buffer, by simp [named]⟩ none⟩
    have apart : Text.startsApart "(ctx.uvw)" = true := by decide
    have behind : Mentions "(ctx.uvw)" "ctx" := by decide +kernel
    have sampled : Mentions (name ++ "(ctx.uvw)") "ctx" := by
      rw [Mentions, Text.words_append_of_startsApart name apart]
      exact List.mem_append_right _ behind
    exact sampled
  | color v =>
    exact .pure (.ofFree (Text.isFree_colorLiteral v) (by simp [named]))

end ShadingTree

namespace Stock.Light

/-- The properties whose textures a light samples at the surface point, in a restricted table
or not. -/
def surfaceProperties (restricted : Bool) : Light → List String
  | point | spot => ["intensity"]
  | directional => ["irradiance"]
  | area => if restricted then [] else ["radiance"]
  | env | constant => []

theorem namesContext_expr (light : Light) (restricted : Bool) :
    (light.expr c o restricted).Gives
      (NamesContext (∃ b, NamedBy c o (light.surfaceProperties restricted) b)) := by
  have number {α : Type} (r : Except Error α) :
      (Stage.read r : Stage ShadingTree α).Gives fun _ => True := .any _
  cases light with
  | point =>
    simp only [expr, Stage.bind_eq, surfaceProperties, namedBy_singleton]
    refine (ShadingTree.free_vector _).bind fun position hp =>
      (ShadingTree.namesContext_color _).bind fun intensity hi => .pure ?_
    exact .callText "make_point_light(" [position] (.literal rfl) (by decide) (by simp [hp]) hi
  | spot =>
    simp only [expr, Stage.bind_eq, surfaceProperties, namedBy_singleton]
    refine (number _).bind fun cutoff _ => (number _).bind fun falloff _ =>
      (ShadingTree.free_vector _).bind fun position hp =>
      (ShadingTree.free_vector _).bind fun direction hd =>
      (ShadingTree.namesContext_color _).bind fun intensity hi => .pure ?_
    exact .callText "make_spot_light(" [position, direction, Program.floatLiteral _,
      Program.floatLiteral _] (.literal rfl) (by decide)
      (by simp [hp, hd, Text.isFree_floatLiteral]) hi
  | directional =>
    simp only [expr, Stage.bind_eq, surfaceProperties, namedBy_singleton]
    refine (ShadingTree.free_vector _).bind fun direction hd =>
      (ShadingTree.namesContext_color _).bind fun irradiance hi => .pure ?_
    exact .callText "make_directional_light(" [direction] (.literal rfl) (by decide) (by simp [hd]) hi
  | area =>
    cases restricted with
    | true =>
      simp only [expr, if_true, surfaceProperties]
      exact .pure (.ofFree (.literal rfl) (by simp))
    | false =>
      simp only [expr, Bool.false_eq_true, if_false, Stage.bind_eq, surfaceProperties,
        namedBy_singleton]
      refine (number _).bind fun index _ => (ShadingTree.namesContext_color _).bind fun radiance hr =>
        .pure ?_
      exact .callText "make_area_light(dtb, " [toString index] (.literal rfl) (by decide)
        (List.forall_mem_singleton.mpr (Text.isFree_nat index)) hr
  | env =>
    have nothing : ¬ ∃ b, NamedBy c o (env.surfaceProperties restricted) b := by
      simp [surfaceProperties]
    simp only [expr, Stage.bind_eq]
    -- the expression has the function of the image, which is not applied
    refine (ShadingTree.free_number _).bind fun scale hs => .bind (.any _) fun value _ => ?_
    cases value with
    | texture buffer =>
      refine .bind (fun t u name gave => (ShadingTree.adds_texture buffer t u name gave).2)
        fun name made => .pure (.ofFree ?_ nothing)
      show IsFree (callText "make_environment_light_textured(" [name, scale])
      exact Text.isFree_callText (.literal rfl) (by simp [made, ShadingTree.isFree_imageName, hs])
    | color v =>
      refine .pure (.ofFree ?_ nothing)
      show IsFree (callText "make_environment_light(" [Program.colorLiteral v, scale])
      exact Text.isFree_callText (.literal rfl) (by simp [hs, Text.isFree_colorLiteral])
  | constant =>
    simp only [expr, Stage.bind_eq]
    refine (number _).bind fun radiance _ => .pure (.ofFree ?_ (by simp [surfaceProperties]))
    exact .append (.append (.literal rfl) (Text.isFree_colorLiteral radiance)) (.literal rfl)

/-- The properties whose textures a light object samples at the surface point. -/
def surfacePropertiesOf (restricted : Bool) (o : Object) : List String :=
  (ofKind? o.kind).elim [] (surfaceProperties restricted)

/-- The light object samples a texture at the surface point. -/
def SamplesSurface (c : Context) (restricted : Bool) (o : Object) : Prop :=
  ∃ b, NamedBy c o (surfacePropertiesOf restricted o) b

/-- The expression of a light names the shading context if it samples a texture at the surface
point. -/
theorem namesContext_ofObject (restricted : Bool) :
    (ofObject c o restricted).Gives (NamesContext (SamplesSurface c restricted o)) := by
  unfold ofObject SamplesSurface surfacePropertiesOf
  cases ofKind? o.kind with
  | none => exact fun _ _ _ gave => nomatch (Prod.mk.inj gave).2
  | some light => exact namesContext_expr light restricted

end Stock.Light

/-! ### Lines that use the shading context -/

open Stock.Light (SamplesSurface)

namespace Generation

variable {kind : ShaderKind}

/-- The lines whose code may use the shading context: those that bind a function of it in the
program of a hit group, and those of lights that sample a texture at the surface point. -/
inductive UsesContext (c : Context) : ShaderKind → String → Prop where
  /-- The line binds a function of the shading context. -/
  | closure {group : Nat} (name body : String) : UsesContext c (.hit group) (closureLine name body)
  /-- The line of a light. -/
  | light {kind : ShaderKind} (restricted : Bool) {i : Nat} {name expr : String} {o : Object}
    (listed : c.scene.lights.entries[i]? = some (name, o)) (samples : SamplesSurface c restricted o) :
    UsesContext c kind (lightContent ((name, expr), i))

/-- The code of the lines names the shading context only where it may be used. -/
def Confined (c : Context) (kind : ShaderKind) (ls : List String) : Prop :=
  ∀ line ∈ ls, Mentions (code line) "ctx" → UsesContext c kind line

namespace Confined

variable {ls ms : List String}

theorem append (h : Confined c kind ls) (h' : Confined c kind ms) : Confined c kind (ls ++ ms) :=
  List.forall_mem_append.mpr ⟨h, h'⟩

theorem flatMap {α : Type} {as : List α} {f : α → List String} (h : ∀ a ∈ as, Confined c kind (f a)) :
    Confined c kind (as.flatMap f) := fun line mem =>
  let ⟨a, ha, mem⟩ := List.mem_flatMap.mp mem
  h a ha line mem

theorem ofFree {text : String} (h : IsFree text) : Confined c kind (lines text) :=
  fun _ mem mentioned => absurd mentioned (h.not_mentions_code mem)

theorem closure {group : Nat} (name : String) {body : String} (line : IsLine (closureLine name body)) :
    Confined c (.hit group) (lines (closureLine name body)) := by
  rw [Text.lines_of_isLine line]
  exact List.forall_mem_singleton.mpr fun _ => .closure name body

/-- The line of a light uses the shading context only if the light samples a texture at the
surface point. -/
theorem light {restricted : Bool} {i : Nat} {name expr : String} {o : Object}
    (listed : c.scene.lights.entries[i]? = some (name, o)) (hn : IsLine name) (he : IsLine expr)
    (names : NamesContext (SamplesSurface c restricted o) expr) :
    Confined c kind (lines (lightContent ((name, expr), i))) := by
  rw [Text.lines_of_isLine (Stock.isLine_lightContent i he hn)]
  refine List.forall_mem_singleton.mpr fun mentioned =>
    .light restricted listed (by_contra fun not => ?_)
  -- the name may be any text, but it stands in the comment
  have free : IsFree (Stock.lightCode i expr) := .append (.literal rfl)
    (.append (.append (.literal rfl) (Text.isFree_nat i))
      (.append (.literal rfl) ((names.free not).append (.literal rfl))))
  rw [Stock.lightContent_eq] at mentioned
  exact free.not_mentions_of_infix (Text.code_comment_infix ..) mentioned

end Confined

end Generation

open Generation (UsesContext Confined)

namespace Stock

variable {kind : ShaderKind}

/-- What the entries of a table have to do with the lights. -/
theorem Light.gives_namesContext (restricted : Bool) (lights : List (String × Object)) :
    (entries c restricted lights).Gives (List.Forall₂ (fun p entry => entry.1 = p.1 ∧
      IsLine entry.2 ∧ NamesContext (SamplesSurface c restricted p.2) entry.2) lights) := by
  induction lights with
  | nil => exact .pure .nil
  | cons p rest ih =>
    refine Stage.Gives.bind (fun t u e gave => ⟨gives_ofObject restricted t u e gave,
      namesContext_ofObject restricted t u e gave⟩) fun e both =>
      ih.bind fun more others => .pure (.cons ⟨rfl, both⟩ others)

theorem confined_declarations (buffers : List Nat) :
    Confined c kind (buffers.flatMap fun b => lines (declarationContent b)) :=
  .flatMap fun b _ => .ofFree (declaration_isFree b)

/-- A table of lights uses the shading context only for lights that sample a texture at the
surface point. -/
theorem confined_lights (unbroken : c.scene.HasUnbrokenNames) (restricted : Bool) :
    (lights c restricted).Gives fun text => Confined c kind (lines text) := by
  intro t u text gave
  obtain ⟨w, entries, buffers, made, -, rfl⟩ := lights_step_eq_ok.mp gave
  have each := Light.gives_namesContext restricted _ _ _ _ made
  rw [lines_lightTable_eq]
  refine (confined_declarations buffers).append (.append (.flatMap fun p mem => ?_)
    (.ofFree (tableRest_isFree _)))
  obtain ⟨entry, i⟩ := p
  obtain ⟨lt, same⟩ := List.mem_zipIdx' mem
  have lt' : i < c.scene.lights.entries.length := by rwa [each.length_eq]
  have listed := List.getElem?_eq_getElem lt'
  obtain ⟨named, line, names⟩ := each.get lt' lt
  simp only [List.get_eq_getElem, ← same] at named line names
  have unbrokenName : IsLine c.scene.lights.entries[i].1 :=
    unbroken.lights _ (List.mem_map_of_mem (List.getElem_mem lt'))
  rw [← Prod.eta entry, named]
  exact .light listed unbrokenName line names

/-- The block of a material uses the shading context in functions of it only. -/
theorem confined_material (unbroken : c.scene.HasUnbrokenNames) (group : Nat) :
    (material c group).Gives fun text => Confined c (.hit group) (lines text) := by
  cases stands : c.scene.bsdfs.entries[group]? with
  | none =>
    unfold material
    rw [stands]
    exact fun _ _ _ gave => nomatch (Prod.mk.inj gave).2
  | some p =>
    have name : IsLine p.1 := unbroken.bsdfs _ (List.mem_map_of_mem (List.mem_of_getElem? stands))
    have shader : IsLine (shaderContent group) := .append (.literal rfl) (.append (.literal rfl)
      (.append (.literal rfl) (.append (.literal rfl) (.append (Text.isLine_nat group) (.literal rfl)))))
    rw [material_eq stands]
    refine Material.gives_ofObject.bind fun bsdf line => .bind (.any _) fun buffers _ => .pure ?_
    rw [lines_materialBlock_eq]
    exact (confined_declarations buffers).append
      (.append (.closure _ (isLine_bsdfContent group line name)) (.closure _ shader))

end Stock

/-! ### Programs -/

namespace Generation

variable {kind : ShaderKind} {v : Technique.VariantInfo}

/-- The lines of the fragments use the shading context only where they may. -/
abbrev ConfinedBody (c : Context) (kind : ShaderKind) (fs : List Fragment) : Prop :=
  Confined c kind (fs.flatMap Fragment.lines)

namespace ConfinedBody

variable {fs gs : List Fragment}

theorem append (h : ConfinedBody c kind fs) (h' : ConfinedBody c kind gs) :
    ConfinedBody c kind (fs ++ gs) := by
  rw [ConfinedBody, List.flatMap_append]
  exact Confined.append h h'

theorem ofFree (h : ∀ f ∈ fs, IsFree f.content) : ConfinedBody c kind fs :=
  Confined.flatMap fun f mem => .ofFree (h f mem)

theorem source {text : String} (h : Confined c kind (lines text)) :
    ConfinedBody c kind [.source text] :=
  Confined.flatMap (List.forall_mem_singleton.mpr h)

end ConfinedBody

theorem isFree_binding {name : String} {value : Program.Expr} {type : Option String}
    (hn : IsFree name) (hv : IsFree value.text) (ht : ∀ t ∈ type, IsFree t) :
    IsFree (Fragment.binding name value type).content := by
  have typed : IsFree (type.elim "" (" : " ++ ·)) := by
    cases type with
    | none => exact .literal rfl
    | some t => exact .append (.literal rfl) (ht t rfl)
  exact .append (.append (.append (.append (.append (.append (.literal rfl) (.literal rfl)) hn)
    (.literal rfl)) hv) typed) (.literal rfl)

/-- The line that binds a whole number. -/
theorem isFree_number {name : String} (hn : IsFree name) (n : Int) :
    IsFree (Fragment.binding name (.int n) (some "i32")).content :=
  isFree_binding hn (Text.isFree_int n) (by simpa using (.literal rfl : IsFree "i32"))

theorem isFree_bool {name : String} (hn : IsFree name) (b : Bool) :
    IsFree (Fragment.binding name (.bool b) none).content :=
  isFree_binding hn (by cases b <;> exact .literal rfl) (by simp)

variable (kind)

theorem confined_samples : ConfinedBody c kind [samplesBinding c] :=
  .ofFree (List.forall_mem_singleton.mpr (isFree_number (.literal rfl) _))

theorem confined_framebuffer (v : Technique.VariantInfo) :
    ConfinedBody c kind [framebufferBinding v] :=
  .ofFree (List.forall_mem_singleton.mpr (isFree_bool (.literal rfl) _))

theorem confined_prologue : (prologue .stock c).Gives (ConfinedBody c kind) := by
  refine gives_prologue.mono fun fs opening => opening ▸ .ofFree ?_
  simp only [List.forall_mem_cons]
  exact ⟨by decide +kernel, .append (.literal rfl) (Stock.device_isFree _), .literal rfl, by simp⟩

theorem confined_technique : (techniqueLines .stock c).Gives (ConfinedBody c kind) := by
  refine gives_techniqueLines.mono fun fs answered => ?_
  obtain ⟨text, answered, rfl⟩ := answered
  refine .ofFree ?_
  simp only [List.forall_mem_cons]
  exact ⟨Stock.technique_isFree answered, .literal rfl, by simp⟩

theorem confined_emitter : (emitterLines .stock c).Gives (ConfinedBody c kind) := by
  unfold emitterLines
  split
  · exact .pure (.ofFree (List.forall_mem_singleton.mpr (by decide +kernel)))
  · refine .bind (.bind (.any _) fun _ _ => .ofExcept _) fun camera answered => .pure (.ofFree ?_)
    simp only [List.forall_mem_cons]
    exact ⟨Stock.camera_isFree (Stock.ok_of_orFault answered), by decide +kernel, by simp⟩

/-- The scene database uses no shading context. -/
theorem confined_askDatabase : (Emitters.stock.askDatabase).Gives fun text =>
    ConfinedBody c kind [.source text] :=
  .bind (.any _) fun _ _ => .pure (.ofFree (List.forall_mem_singleton.mpr Stock.database_isFree))

section

variable (unbroken : c.scene.HasUnbrokenNames)

include unbroken

theorem confined_askLights (restricted : Bool) :
    (Emitters.stock.askLights c restricted).Gives fun text => ConfinedBody c kind [.source text] :=
  .bind (.any _) fun _ _ => (Stock.confined_lights unbroken restricted).mono fun _ => .source

theorem confined_lightLines (withDatabase : Bool) :
    (lightLines .stock c v withDatabase).Gives (ConfinedBody c kind) := by
  have table (database : List Fragment) (restricted : Bool) (hd : ConfinedBody c kind database) :
      ((Emitters.stock.askLights c restricted).bind fun text => pure (database ++ [.source text])).Gives
        (ConfinedBody c kind) :=
    (confined_askLights kind unbroken restricted).bind fun _ table => .pure (hd.append table)
  unfold lightLines
  cases v.usesLights with
  | false => exact .pure (.ofFree (by simp))
  | true =>
    cases withDatabase with
    | true =>
      simp only [if_true, Stage.bind_eq, Bool.not_true]
      exact (confined_askDatabase kind).bind fun _ database =>
        .bind (.pure database) fun _ database => table _ false database
    | false =>
      simp only [if_true, Bool.false_eq_true, if_false, Stage.bind_eq, Bool.not_false]
      exact .bind (.pure (.ofFree (by simp))) fun _ nothing => table _ true nothing

theorem confined_hitLights (group : Nat) :
    (hitLights .stock c v).Gives (ConfinedBody c (.hit group)) := by
  unfold hitLights
  cases v.usesLights with
  | false => exact .pure (.ofFree (by simp))
  | true => exact (confined_askLights _ unbroken false).bind fun _ table => .pure table

theorem confined_askMaterial (group : Nat) : (Emitters.stock.askMaterial c group).Gives fun text =>
    ConfinedBody c (.hit group) [.source text] :=
  .bind (.any _) fun _ _ => (Stock.confined_material unbroken group).mono fun _ => .source

/-- What programs for misses and for shadow rays have from the lights on. -/
theorem confined_lit (withDatabase : Bool) (preamble : String) (entry : Program.EntryPoint)
    (result : Program.Call) {opening closing : List Fragment} (ho : ConfinedBody c kind opening)
    (hc : ConfinedBody c kind closing) :
    Stage.Gives (fun p : Program => ConfinedBody c kind p.body)
      ((lightLines .stock c v withDatabase).bind fun table =>
        (techniqueLines .stock c).bind fun technique =>
        pure ⟨preamble, entry, opening ++ table ++ [samplesBinding c] ++ technique ++ closing,
          result⟩) := by
  refine (confined_lightLines kind unbroken withDatabase).bind fun _ table =>
    (confined_technique kind).bind fun _ technique => .pure ?_
  exact (((ho.append table).append (confined_samples kind)).append technique).append hc

theorem confined_miss : (miss .stock c).Gives fun p => ConfinedBody c .miss p.body := by
  simp only [miss, Stage.bind_eq]
  exact .bind (.any _) fun _ _ => .bind (.any _) fun v _ => .bind (.any _) fun _ _ =>
    (confined_prologue .miss).bind fun _ opening =>
    confined_lit .miss unbroken _ _ _ _ opening (confined_framebuffer .miss v)

theorem confined_shadow (isHit : Bool) :
    (shadow .stock c isHit).Gives fun p => ConfinedBody c (.shadow isHit) p.body := by
  have side : ConfinedBody c (.shadow isHit) [.binding "is_hit" (.bool isHit) none] :=
    .ofFree (List.forall_mem_singleton.mpr (isFree_bool (.literal rfl) isHit))
  simp only [shadow, Stage.bind_eq]
  exact .bind (.any _) fun _ _ => .bind (.any _) fun v _ => .bind (.any _) fun _ _ =>
    (confined_prologue (.shadow isHit)).bind fun _ opening =>
    confined_lit (.shadow isHit) unbroken _ _ _ _ opening
      (side.append (confined_framebuffer (.shadow isHit) v))

theorem confined_hit {d : Scene.Database} (hd : c.requireDatabase = .ok d) (hv : c.variant = .ok v)
    (group : Nat) : (hit .stock c group).Gives fun p => ConfinedBody c (.hit group) p.body := by
  rw [hit_eq hd hv]
  refine .bind (.any _) fun _ _ => (confined_prologue (.hit group)).bind fun _ opening =>
    (confined_askDatabase (c := c) (.hit group)).bind fun _ database =>
    (confined_hitLights unbroken group).bind fun _ table =>
    (confined_askMaterial unbroken group).bind fun _ block =>
    (confined_technique (.hit group)).bind fun _ technique => .pure ?_
  have number : ConfinedBody c (.hit group) [materialBinding group] :=
    .ofFree (List.forall_mem_singleton.mpr (isFree_number (.literal rfl) _))
  have own := (confined_samples (.hit group)).append (number.append block)
  exact ((((opening.append database).append table).append own).append technique).append
    (confined_framebuffer (.hit group) v)

end

theorem confined_rayGeneration :
    (rayGeneration .stock c).Gives fun p => ConfinedBody c .rayGeneration p.body := by
  simp only [rayGeneration, Stage.bind_eq]
  refine .bind (.any _) fun _ _ => .bind (.any _) fun _ _ =>
    (confined_prologue .rayGeneration).bind fun _ opening =>
    (confined_emitter .rayGeneration).bind fun _ emitter =>
    (confined_technique .rayGeneration).bind fun _ technique => .pure ?_
  exact ((opening.append (confined_samples .rayGeneration)).append emitter).append technique

theorem confined_callback (m : Technique.Moment) :
    (callback .stock c m).Gives fun p => ConfinedBody c (.callback m) p.body := by
  simp only [callback, Stage.bind_eq]
  refine .bind (.any _) fun _ _ => .bind (.any _) fun _ _ => (confined_prologue (.callback m)).bind
    fun _ opening => .bind (.bind (.any _) fun _ _ => .ofExcept _) fun text answered => .pure ?_
  have main : ConfinedBody c (.callback m) [.source text, .blank] := .ofFree (by
    simp only [List.forall_mem_cons]
    exact ⟨Stock.callback_isFree (Stock.ok_of_orFault answered), .literal rfl, by simp⟩)
  exact opening.append ((confined_samples (.callback m)).append main)

variable {kind}

/-- The body of a program uses the shading context only where it may. -/
theorem confined_build (unbroken : c.scene.HasUnbrokenNames) :
    (build .stock c kind).Gives fun p => ConfinedBody c kind p.body := by
  cases kind with
  | rayGeneration => exact confined_rayGeneration
  | miss => exact confined_miss unbroken
  | shadowHit => exact confined_shadow unbroken true
  | shadowMiss => exact confined_shadow unbroken false
  | callback m => exact confined_callback m
  | hit group =>
    intro t u p built
    obtain ⟨d, hd⟩ := requireDatabase_ok rfl built
    obtain ⟨v, hv⟩ := variant_ok hd rfl built
    exact confined_hit unbroken hd hv group t u p built

/-- The line that opens the function and the call at the end use no shading context, and no
parameter is named so. -/
theorem fixed_lines_free (kind : ShaderKind) :
    IsFree (entryOf kind).text ∧ IsFree (callLine kind) ∧
      "ctx" ∉ (entryOf kind).params.map Prod.fst := by
  obtain ⟨k, form, entry, call⟩ := exists_form kind
  rw [entry, call]
  simp only [IsFree, callLine, Program.EntryPoint.toList_text, Program.Call.toList_text_forward,
    String.toList_append]
  clear entry call
  revert k
  decide +kernel

/-- What a program has to do with the shading context. -/
structure ConfinesContext (c : Context) (kind : ShaderKind) (p : Program) : Prop where
  /-- No line binds it. -/
  unbound : "ctx" ∉ boundNames p.text
  /-- It is no parameter. -/
  param : "ctx" ∉ p.entry.params.map Prod.fst
  /-- The code names it only in functions of it and in lines of lights that sample a texture
  at the surface point. -/
  uses : Confined c kind (lines p.text)

namespace Laid

variable {p : Program} {b : Parts}

theorem isFree_preamble (h : Laid c v kind p b) (technique : IsFree c.techniqueKind)
    (initializer : IsFree (v.payloadInitializer.getD Stock.Technique.emptyPayload)) :
    IsFree p.preamble := by
  have made := Stock.header_isFree h.variant_eq technique initializer
    (Stock.header_eq h.variant_eq (decide (kind = .rayGeneration)))
  rw [h.preamble_eq, preamble]
  simpa only [decide_eq_true_eq] using made

/-- A program whose preamble uses no shading context confines it, if its body does. -/
theorem confinesContext (h : Laid c v kind p b) (unbroken : HasUnbrokenPreamble c v)
    (preamble : IsFree p.preamble) (body : ConfinedBody c kind p.body) : ConfinesContext c kind p := by
  obtain ⟨entry, call, param⟩ := fixed_lines_free kind
  refine ⟨fun bound => ?_, h.entry_eq ▸ param, ?_⟩
  · -- the body binds words that are known, and names with a number at the end
    obtain ⟨numbered, splits, -⟩ := h.boundNames_text unbroken
    exact absurd (splits.mem_words bound (by decide)) (by decide)
  · have ending : Confined c kind ["\x7d", ""] := fun line mem mentioned => by
      have nowhere : ∀ line ∈ ["\x7d", ""], ¬ Mentions (code line) "ctx" := by decide
      exact absurd mentioned (nowhere line mem)
    have result : IsFree (indent ++ p.result.text) := h.result_eq ▸ call
    rw [Program.lines_text, h.entry_eq]
    exact .append (.ofFree preamble) (.append (.ofFree entry) (.append body
      (.append (.ofFree result) ending)))

end Laid

/-! ### Loaded scenes -/

/-- The preambles of the stock techniques use no shading context. -/
theorem isFree_known {scene : Scene} {options : Options}
    (loaded : Context.Loaded Stock.describe scene options c) (hv : v ∈ c.technique.variants) :
    IsFree c.techniqueKind ∧ IsFree (v.payloadInitializer.getD Stock.Technique.emptyPayload) := by
  obtain ⟨kind, initializer⟩ := preamble_known loaded hv
  have kinds : ∀ kind ∈ Stock.Technique.all.map Stock.Technique.kind, IsFree kind := by decide
  have values : ∀ value ∈ initializers, IsFree value := by decide
  exact ⟨kinds _ kind, values _ initializer⟩

/-- **Lights that sample a texture at the surface point use the shading context**, which
nothing binds for them, and no others do: whatever the context, the object and the restriction,
an expression of a light names the shading context if and only if a texture is registered for
the color of a point, spot or directional light, or of an area light outside restricted tables.
In the programs of a scene whose names have no breaks, nothing else uses it but the functions of
it in the block of a material. -/
theorem context_uses (c : Context) :
    (∀ (o : Object) (restricted : Bool) (t u : ShadingTree) (expr : String),
      (Stock.Light.ofObject c o restricted).step t = (u, .ok expr) →
        (Mentions expr "ctx" ↔ SamplesSurface c restricted o)) ∧
    ∀ (scene : Scene) (options : Options) (d : Scene.Database) (variants : List (Variant String)),
      scene.HasUnbrokenNames → (Context.load Stock.describe scene options).result = .ok c →
        (compile scene options d).result = .ok variants →
          ∀ (i : Nat) (w : Variant String), variants[i]? = some w → ∀ slot ∈ w.slots, ∃ p : Program,
            ((build .stock (c.prepare d i) slot.1).runOn .empty).result = .ok p ∧ slot.2 = p.text ∧
              ConfinesContext (c.prepare d i) slot.1 p := by
  refine ⟨fun o restricted t u expr gave =>
    (Stock.Light.namesContext_ofObject restricted t u expr gave).mentions_iff,
    fun scene options d variants unbroken loaded compiled i w hw slot mem => ?_⟩
  obtain ⟨c', loaded', programs⟩ := laid_of_compile unbroken compiled
  obtain rfl : c = c' := Except.ok.inj (loaded.symm.trans loaded')
  obtain ⟨v, p, t, b, selected, built, text, laid, preamble⟩ := programs i w hw slot mem
  have hc := Context.load_ok loaded
  obtain ⟨technique, initializer⟩ := isFree_known hc (List.mem_of_getElem? selected)
  have names : (c.prepare d i).scene.HasUnbrokenNames := hc.scene_eq.symm ▸ unbroken
  exact ⟨p, congrArg Prod.snd built, text, laid.confinesContext preamble
    (laid.isFree_preamble technique initializer) (confined_build names _ _ _ built)⟩

/-- A lamp whose intensity is a texture. -/
def paintedLamp : Object := (Object.ofKind "point").withProperty "intensity" (.string "glass")

/-- A room with that lamp. -/
def paintedScene : Scene :=
  let image := (Object.ofKind "image").withProperty "filename" (.string "glass.png")
  ((Scene.empty.addTexture "glass" image).addLight "lamp" paintedLamp).addBsdf "floor"
    (Object.ofKind "diffuse")

/-- The expression of the lamp. -/
def paintedExpr : String := "make_point_light(make_vec3(0.0, 0.0, 0.0), tex_0(ctx.uvw))"

/-- The loaded room has the lamp, and its expression is the same in both tables. -/
theorem painted_loaded :
    ∃ c o, (Context.load Stock.describe paintedScene .standard).result = .ok c ∧
      c.scene.lights.entries[0]? = some ("lamp", o) ∧ ∀ restricted, ∃ u,
        (Stock.Light.ofObject c o restricted).step .empty = (u, .ok paintedExpr) := by
  have made : ((Context.load Stock.describe paintedScene .standard).bind fun c =>
      pure (c.scene.lights.entries[0]?.map fun p => (p.1, [false, true].map fun restricted =>
        ((Stock.Light.ofObject c p.2 restricted).step .empty).2))).result
      = .ok (some ("lamp", [.ok paintedExpr, .ok paintedExpr])) := by decide +kernel
  obtain ⟨c, loaded, made⟩ := Run.bind_eq_ok.mp made
  obtain ⟨⟨name, o⟩, listed, same⟩ := Option.map_eq_some_iff.mp (Except.ok.inj made)
  obtain ⟨rfl, exprs⟩ := Prod.mk.inj same
  simp only [List.map_cons, List.map_nil, List.cons.injEq, and_true] at exprs
  refine ⟨c, o, loaded, listed, fun restricted => ⟨_, Prod.ext rfl ?_⟩⟩
  cases restricted with
  | false => exact exprs.1
  | true => exact exprs.2

theorem painted_context_uses :
    ∃ c variants, (Context.load Stock.describe paintedScene .standard).result = .ok c ∧
      (compile paintedScene .standard ⟨0, 0⟩).result = .ok variants ∧
      variants.map (fun w => w.slots.map Prod.fst) = [[.rayGeneration, .miss, .hit 0]] ∧
      (∃ o, c.scene.lights.entries[0]? = some ("lamp", o) ∧
        ∀ restricted, SamplesSurface c restricted o) ∧
      ∀ (i : Nat) (w : Variant String), variants[i]? = some w → ∀ slot ∈ w.slots, ∃ p : Program,
        slot.2 = p.text ∧ ConfinesContext (c.prepare ⟨0, 0⟩ i) slot.1 p := by
  obtain ⟨c, o, loaded, listed, exprs⟩ := painted_loaded
  have kinds : ((compile paintedScene .standard ⟨0, 0⟩).result.map
      fun variants => variants.map fun w => w.slots.map Prod.fst)
      = .ok [[.rayGeneration, .miss, .hit 0]] := by decide +kernel
  cases compiled : (compile paintedScene .standard ⟨0, 0⟩).result with
  | error f =>
    rw [compiled] at kinds
    cases kinds
  | ok variants =>
    rw [compiled] at kinds
    have unbroken : paintedScene.HasUnbrokenNames := ⟨by decide +kernel, by decide +kernel⟩
    obtain ⟨expressions, programs⟩ := context_uses c
    refine ⟨c, variants, loaded, rfl, Except.ok.inj kinds, ⟨o, listed, fun restricted => ?_⟩,
      fun i w hw slot mem => ?_⟩
    · obtain ⟨u, gave⟩ := exprs restricted
      exact (expressions o restricted .empty u paintedExpr gave).mp (by decide +kernel)
    · obtain ⟨p, -, text, confines⟩ := programs paintedScene .standard ⟨0, 0⟩ variants unbroken loaded
        compiled i w hw slot mem
      exact ⟨p, text, confines⟩

/-- **A light may use the shading context.** The lamp with the painted glass does so in both
tables. -/
theorem painted_lamp_names_context :
    ∃ c o, (Context.load Stock.describe paintedScene .standard).result = .ok c ∧
      c.scene.lights.entries[0]? = some ("lamp", o) ∧ ∀ restricted, ∃ u expr,
        (Stock.Light.ofObject c o restricted).step .empty = (u, .ok expr) ∧ Mentions expr "ctx" := by
  obtain ⟨c, o, loaded, listed, exprs⟩ := painted_loaded
  refine ⟨c, o, loaded, listed, fun restricted => ?_⟩
  obtain ⟨u, gave⟩ := exprs restricted
  exact ⟨u, paintedExpr, gave, by decide +kernel⟩

end Generation

end RayShader
