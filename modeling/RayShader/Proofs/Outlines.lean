import RayShader.Generation.EntryPoint
import RayShader.Proofs.Requests

/-!
# Outlines of programs

The programs of misses, hits and shadow rays are made in the same way: a preamble, the
signature of their function, and a body, which has the device first, then the scene database,
the table of lights, the count of samples, the material, the technique and the lines that
close it; some kinds leave some of these out. What the collaborators answer for the lights, the
material and the technique is the outline of the program, and the program is what its kind and
its variant make of the outline (`Generation.Outlined`).

The table of lights and the material share the shading tree of the program. The outline also
tells on which tree either of them was asked for, and whether the table is the whole one.
-/

namespace RayShader.Generation

open Program (Fragment)
open Technique (VariantInfo)

/-! ### What a kind of program has -/

/-- The programs of the kind may hold lights and materials. -/
def shades : ShaderKind → Bool
  | .miss | .hit _ | .shadowHit | .shadowMiss => true
  | .rayGeneration | .callback _ => false

/-- The table of lights of the program is the whole one. -/
def hasDatabase (v : VariantInfo) : ShaderKind → Bool
  | .hit _ | .shadowHit => true
  | .miss | .shadowMiss => v.usesAllLightsInMiss
  | .rayGeneration | .callback _ => false

/-- The program binds the scene database: that of a hit group always does, and others do for
whole tables of lights. -/
def bindsDatabase (v : VariantInfo) : ShaderKind → Bool
  | .hit _ => true
  | kind => v.usesLights && hasDatabase v kind

/-- The signature of the function of a kind. -/
def entryOf : ShaderKind → Program.EntryPoint
  | .rayGeneration => rayGenerationEntry
  | .miss => rangeEntry .miss
  | .hit group => hitEntry group
  | .shadowHit => rangeEntry .shadowHit
  | .shadowMiss => rangeEntry .shadowMiss
  | .callback m => callbackEntry m

/-- The function of the device that a program of the kind calls at its end, and the names
that it passes. -/
def dispatch : ShaderKind → String × List String
  | .rayGeneration =>
    ("generate_rays", ["emitter", "id", "size", "xmin", "ymin", "xmax", "ymax", "spp"])
  | .miss => ("handle_miss_shader", ["technique", "first", "last", "spp", "use_framebuffer"])
  | .hit _ => ("handle_hit_shader", ["entity_id", "material_id", "shader", "technique", "first", "last",
    "spp", "use_framebuffer"])
  | .shadowHit | .shadowMiss => ("handle_advanced_shadow_shader",
    ["technique", "first", "last", "spp", "use_framebuffer", "is_hit"])
  | .callback _ => ("handle_callback", ["callback", "iter", "spp"])

/-- The first lines. -/
def opening (e : Emitters) (c : Context) : List Fragment :=
  [.statement (.free "maybe_unused" [.ident "settings"]), .inline (e.device c.target), .blank]

/-- The line for the number of a hit group. -/
def groupLines : ShaderKind → List Fragment
  | .hit group => [materialBinding group]
  | _ => []

/-- The lines behind the technique. -/
def closing (v : VariantInfo) : ShaderKind → List Fragment
  | .rayGeneration | .callback _ => []
  | .miss | .hit _ => [framebufferBinding v]
  | .shadowHit => [.binding "is_hit" (.bool true) none, framebufferBinding v]
  | .shadowMiss => [.binding "is_hit" (.bool false) none, framebufferBinding v]

/-! ### Outlines -/

/-- What the collaborators contribute to a program. -/
structure Outline where
  /-- The table of lights. -/
  lights : Option String
  /-- The material. -/
  material : Option String
  /-- The technique. -/
  technique : String

variable {e : Emitters} {c : Context} {v : VariantInfo} {kind : ShaderKind} {t t' u : ShadingTree}
  {p : Program}

namespace Outline

/-- The scene database and the table of lights. -/
def lightLines (o : Outline) (e : Emitters) (v : VariantInfo) (kind : ShaderKind) : List Fragment :=
  (if bindsDatabase v kind then [.source e.database] else []) ++ o.lights.toList.map .source

/-- The number of the hit group and its material. -/
def materialLines (o : Outline) (kind : ShaderKind) : List Fragment :=
  groupLines kind ++ o.material.toList.map .source

/-- The body of the program. -/
def body (o : Outline) (e : Emitters) (c : Context) (v : VariantInfo) (kind : ShaderKind) :
    List Fragment :=
  opening e c ++ (o.lightLines e v kind ++ samplesBinding c :: (o.materialLines kind
    ++ [.source o.technique, .blank])) ++ closing v kind

/-- The table of lights is what the emitter answers; a variant that does not use lights has
none. -/
def LightsFrom (e : Emitters) (c : Context) (v : VariantInfo) (whole : Bool) (t u : ShadingTree)
    (o : Outline) : Prop :=
  if v.usesLights then ∃ table, e.lights c (!whole) t = (u, .ok table) ∧ o.lights = some table
  else o.lights = none ∧ u = t

/-- The material is what the emitter answers; only programs of hits have one. -/
def MaterialFrom (e : Emitters) (c : Context) (u t' : ShadingTree) (o : Outline) :
    ShaderKind → Prop
  | .hit group => ∃ block, e.material c group u = (t', .ok block) ∧ o.material = some block
  | _ => o.material = none ∧ t' = u

end Outline

/-- The program is what its kind makes of the outline, and the outline is what the
collaborators answer. The trees are those before the program, between its lights and its
material, and behind it. -/
structure Outlined (e : Emitters) (c : Context) (v : VariantInfo) (kind : ShaderKind)
    (t u t' : ShadingTree) (o : Outline) (p : Program) : Prop where
  /-- The preamble is what the emitter answers. -/
  preamble_eq : e.header c false = .ok p.preamble
  /-- The signature. -/
  entry_eq : p.entry = entryOf kind
  /-- The body. -/
  body_eq : p.body = o.body e c v kind
  /-- The call at the end. -/
  result_eq : p.result = .forward "device" (dispatch kind).1 (dispatch kind).2
  /-- The technique is what the emitter answers. -/
  technique_eq : e.technique c = .ok o.technique
  /-- The lights. -/
  lights : o.LightsFrom e c v (hasDatabase v kind) t u
  /-- The material. -/
  material : o.MaterialFrom e c u t' kind

/-! ### The steps of programs -/

theorem askHeader_ok {rayGeneration : Bool} {preamble : String}
    (h : (e.askHeader c rayGeneration).step t = (u, .ok preamble)) :
    u = t ∧ e.header c rayGeneration = .ok preamble := by
  obtain ⟨_, _, asked, h⟩ := Stage.step_bind_eq_ok.mp h
  obtain rfl := (Stage.Keeps.ofRun _).step asked
  exact Stage.step_ofExcept_eq_ok.mp h

theorem prologue_ok {first : List Fragment} (h : (prologue e c).step t = (u, .ok first)) :
    u = t ∧ first = opening e c := by
  have asked : (prologue e c).step t = (t, .ok (opening e c)) := rfl
  rw [asked] at h
  obtain ⟨rfl, rfl⟩ := (Prod.mk.inj h).imp_right Except.ok.inj
  exact ⟨rfl, rfl⟩

theorem askDatabase_ok {database : String} (h : e.askDatabase.step t = (u, .ok database)) :
    u = t ∧ database = e.database := by
  obtain ⟨_, _, asked, h⟩ := Stage.step_bind_eq_ok.mp h
  obtain rfl := (Stage.Keeps.ofRun _).step asked
  exact Stage.step_pure_eq_ok.mp h

theorem techniqueLines_ok {lines : List Fragment}
    (h : (techniqueLines e c).step t = (u, .ok lines)) :
    u = t ∧ ∃ technique, e.technique c = .ok technique ∧ lines = [.source technique, .blank] := by
  obtain ⟨_, technique, asked, made⟩ := Stage.step_bind_eq_ok.mp h
  obtain ⟨_, _, answer, asked'⟩ := Stage.step_bind_eq_ok.mp asked
  obtain ⟨rfl, answered⟩ := Stage.step_ofExcept_eq_ok.mp asked'
  obtain ⟨rfl, rfl⟩ := Stage.step_pure_eq_ok.mp made
  exact ⟨(Stage.Keeps.ofRun _).step answer, technique, answered, rfl⟩

theorem askLights_ok {restricted : Bool} {table : String}
    (h : (e.askLights c restricted).step t = (u, .ok table)) :
    e.lights c restricted t = (u, .ok table) := by
  obtain ⟨_, _, asked, h⟩ := Stage.step_bind_eq_ok.mp h
  obtain rfl := (Stage.Keeps.ofRun _).step asked
  exact h

theorem askMaterial_ok {group : Nat} {block : String}
    (h : (e.askMaterial c group).step t = (u, .ok block)) :
    e.material c group t = (u, .ok block) := by
  obtain ⟨_, _, asked, h⟩ := Stage.step_bind_eq_ok.mp h
  obtain rfl := (Stage.Keeps.ofRun _).step asked
  exact h

/-- The lines for lights: the database, if the program has it, and the table. -/
theorem lightLines_ok {withDatabase : Bool} {lines : List Fragment}
    (h : (lightLines e c v withDatabase).step t = (u, .ok lines)) :
    if v.usesLights then
      ∃ table, e.lights c (!withDatabase) t = (u, .ok table) ∧
        lines = (if withDatabase then [.source e.database] else []) ++ [.source table]
    else lines = [] ∧ u = t := by
  unfold lightLines at h
  cases used : v.usesLights with
  | false =>
    simp only [used, Bool.false_eq_true, if_false] at h
    obtain ⟨rfl, rfl⟩ := Stage.step_pure_eq_ok.mp h
    exact ⟨rfl, rfl⟩
  | true =>
    cases withDatabase with
    | false =>
      simp only [used, if_true, Bool.false_eq_true, if_false, Stage.bind_eq] at h
      obtain ⟨_, _, nothing, h⟩ := Stage.step_bind_eq_ok.mp h
      obtain ⟨rfl, rfl⟩ := Stage.step_pure_eq_ok.mp nothing
      obtain ⟨_, table, answered, h⟩ := Stage.step_bind_eq_ok.mp h
      obtain ⟨rfl, rfl⟩ := Stage.step_pure_eq_ok.mp h
      exact ⟨table, askLights_ok answered, rfl⟩
    | true =>
      simp only [used, if_true, Stage.bind_eq] at h
      obtain ⟨_, _, asked, h⟩ := Stage.step_bind_eq_ok.mp h
      obtain ⟨rfl, rfl⟩ := askDatabase_ok asked
      obtain ⟨_, _, made, h⟩ := Stage.step_bind_eq_ok.mp h
      obtain ⟨rfl, rfl⟩ := Stage.step_pure_eq_ok.mp made
      obtain ⟨_, table, answered, h⟩ := Stage.step_bind_eq_ok.mp h
      obtain ⟨rfl, rfl⟩ := Stage.step_pure_eq_ok.mp h
      exact ⟨table, askLights_ok answered, rfl⟩

/-! ### Programs that are built -/

/-- Programs whose lights stand right behind the opening. -/
theorem outlined_of_stages (other : ∀ group, kind ≠ .hit group)
    (built : ((e.askHeader c false).bind fun preamble => (prologue e c).bind fun first =>
      (lightLines e c v (hasDatabase v kind)).bind fun lights =>
        (techniqueLines e c).bind fun technique =>
          pure ⟨preamble, entryOf kind,
            first ++ lights ++ [samplesBinding c] ++ technique ++ closing v kind,
            .forward "device" (dispatch kind).1 (dispatch kind).2⟩).step t = (t', .ok p)) :
    ∃ o, Outlined e c v kind t t' t' o p := by
  rw [Stage.step_bind_eq_ok] at built
  obtain ⟨_, preamble, asked, built⟩ := built
  obtain ⟨rfl, header⟩ := askHeader_ok asked
  rw [Stage.step_bind_eq_ok] at built
  obtain ⟨_, first, opened, built⟩ := built
  obtain ⟨rfl, rfl⟩ := prologue_ok opened
  rw [Stage.step_bind_eq_ok] at built
  obtain ⟨_, lines, lights, built⟩ := built
  rw [Stage.step_bind_eq_ok] at built
  obtain ⟨_, technique, asked, built⟩ := built
  obtain ⟨rfl, text, answered, rfl⟩ := techniqueLines_ok asked
  obtain ⟨rfl, rfl⟩ := Stage.step_pure_eq_ok.mp built
  have database : bindsDatabase v kind = (v.usesLights && hasDatabase v kind) := by
    cases kind with
    | hit group => exact absurd rfl (other group)
    | rayGeneration | miss | shadowHit | shadowMiss | callback => rfl
  have number : groupLines kind = [] := by
    cases kind with
    | hit group => exact absurd rfl (other group)
    | rayGeneration | miss | shadowHit | shadowMiss | callback => rfl
  have material (o : Outline) (none : o.material = none) : o.MaterialFrom e c t' t' kind := by
    cases kind with
    | hit group => exact absurd rfl (other group)
    | rayGeneration | miss | shadowHit | shadowMiss | callback => exact ⟨none, rfl⟩
  have made := lightLines_ok lights
  split at made
  · rename_i used
    obtain ⟨table, answers, rfl⟩ := made
    refine ⟨⟨some table, none, text⟩, header, rfl, ?_, rfl, answered, ?_, material _ rfl⟩
    · simp [Outline.body, Outline.lightLines, Outline.materialLines, database, number, used]
    · rw [Outline.LightsFrom, if_pos used]
      exact ⟨table, answers, rfl⟩
  · rename_i unused
    obtain ⟨rfl, rfl⟩ := made
    refine ⟨⟨none, none, text⟩, header, rfl, ?_, rfl, answered, ?_, material _ rfl⟩
    · simp [Outline.body, Outline.lightLines, Outline.materialLines, database, number, unused]
    · rw [Outline.LightsFrom, if_neg unused]
      exact ⟨rfl, rfl⟩

theorem outlined_miss {d : Scene.Database} (hd : c.requireDatabase = .ok d)
    (hv : c.variant = .ok v) (built : (miss e c).step t = (t', .ok p)) :
    ∃ o, Outlined e c v .miss t t' t' o p := by
  simp only [miss, hd, hv, Stage.bind_eq, Stage.ofExcept_ok_bind] at built
  exact outlined_of_stages (by simp) built

theorem outlined_shadow {d : Scene.Database} (hd : c.requireDatabase = .ok d)
    (hv : c.variant = .ok v) (isHit : Bool) (built : (shadow e c isHit).step t = (t', .ok p)) :
    ∃ o, Outlined e c v (.shadow isHit) t t' t' o p := by
  simp only [shadow, hd, hv, Stage.bind_eq, Stage.ofExcept_ok_bind] at built
  cases isHit with
  | true => exact outlined_of_stages (by simp [ShaderKind.shadow]) built
  | false => exact outlined_of_stages (by simp [ShaderKind.shadow]) built

/-- The table of a hit group, if the variant has one, is the whole one. -/
theorem hitLights_ok {lines : List Fragment} (h : (hitLights e c v).step t = (u, .ok lines)) :
    if v.usesLights then ∃ table, e.lights c false t = (u, .ok table) ∧ lines = [.source table]
    else lines = [] ∧ u = t := by
  unfold hitLights at h
  split at h
  · rename_i used
    rw [if_pos used]
    obtain ⟨_, table, asked, h⟩ := Stage.step_bind_eq_ok.mp h
    obtain ⟨rfl, rfl⟩ := Stage.step_pure_eq_ok.mp h
    exact ⟨table, askLights_ok asked, rfl⟩
  · rename_i unused
    rw [if_neg unused]
    exact (Stage.step_pure_eq_ok.mp h).symm

theorem outlined_hit {d : Scene.Database} (hd : c.requireDatabase = .ok d)
    (hv : c.variant = .ok v) {group : Nat} (built : (hit e c group).step t = (t', .ok p)) :
    ∃ o u, Outlined e c v (.hit group) t u t' o p := by
  rw [hit_eq hd hv] at built
  rw [Stage.step_bind_eq_ok] at built
  obtain ⟨_, preamble, asked, built⟩ := built
  obtain ⟨rfl, header⟩ := askHeader_ok asked
  rw [Stage.step_bind_eq_ok] at built
  obtain ⟨_, first, opened, built⟩ := built
  obtain ⟨rfl, rfl⟩ := prologue_ok opened
  rw [Stage.step_bind_eq_ok] at built
  obtain ⟨_, _, asked, built⟩ := built
  obtain ⟨rfl, rfl⟩ := askDatabase_ok asked
  rw [Stage.step_bind_eq_ok] at built
  obtain ⟨u, lines, lights, built⟩ := built
  rw [Stage.step_bind_eq_ok] at built
  obtain ⟨_, block, material, built⟩ := built
  rw [Stage.step_bind_eq_ok] at built
  obtain ⟨_, technique, asked, built⟩ := built
  obtain ⟨rfl, text, answered, rfl⟩ := techniqueLines_ok asked
  obtain ⟨rfl, rfl⟩ := Stage.step_pure_eq_ok.mp built
  have material := askMaterial_ok material
  have made := hitLights_ok lights
  split at made
  · rename_i used
    obtain ⟨table, answers, rfl⟩ := made
    refine ⟨⟨some table, some block, text⟩, u, header, rfl, ?_, rfl, answered, ?_, block, material,
      rfl⟩
    · simp [Outline.body, Outline.lightLines, Outline.materialLines, bindsDatabase, groupLines,
        closing]
    · rw [Outline.LightsFrom, if_pos used]
      exact ⟨table, answers, rfl⟩
  · rename_i unused
    obtain ⟨rfl, rfl⟩ := made
    refine ⟨⟨none, some block, text⟩, _, header, rfl, ?_, rfl, answered, ?_, block, material, rfl⟩
    · simp [Outline.body, Outline.lightLines, Outline.materialLines, bindsDatabase, groupLines,
        closing]
    · rw [Outline.LightsFrom, if_neg unused]
      exact ⟨rfl, rfl⟩

/-- A program that is built has a scene database. -/
theorem requireDatabase_ok (hk : shades kind = true)
    (built : (build e c kind).step t = (t', .ok p)) : ∃ d, c.requireDatabase = .ok d := by
  have first {α : Type} {f : Scene.Database → Stage ShadingTree α} {a : α}
      (h : ((Stage.ofExcept c.requireDatabase).bind f).step t = (t', .ok a)) :
      ∃ d, c.requireDatabase = .ok d := by
    obtain ⟨_, d, hd, -⟩ := Stage.step_bind_eq_ok.mp h
    exact ⟨d, (Stage.step_ofExcept_eq_ok.mp hd).2⟩
  cases kind with
  | rayGeneration | callback => cases hk
  | miss | hit | shadowHit | shadowMiss => exact first built

/-- A program that is built has a selected variant. -/
theorem variant_ok {d : Scene.Database} (hd : c.requireDatabase = .ok d) 
    (hk : shades kind = true) (built : (build e c kind).step t = (t', .ok p)) :
    ∃ v, c.variant = .ok v := by
  have first {α : Type} {f : VariantInfo → Stage ShadingTree α} {s : ShadingTree} {a : α}
      (h : ((Stage.ofExcept c.variant).bind f).step s = (t', .ok a)) : ∃ v, c.variant = .ok v := by
    obtain ⟨_, v, hv, -⟩ := Stage.step_bind_eq_ok.mp h
    exact ⟨v, (Stage.step_ofExcept_eq_ok.mp hv).2⟩
  cases kind with
  | rayGeneration | callback => cases hk
  | miss =>
    simp only [build, miss, hd, Stage.bind_eq, Stage.ofExcept_ok_bind] at built
    exact first built
  | shadowHit | shadowMiss =>
    simp only [build, shadow, hd, Stage.bind_eq, Stage.ofExcept_ok_bind] at built
    exact first built
  | hit group =>
    simp only [build, hit, hd, Stage.bind_eq, Stage.ofExcept_ok_bind] at built
    obtain ⟨_, _, _, built⟩ := Stage.step_bind_eq_ok.mp built
    obtain ⟨_, _, _, built⟩ := Stage.step_bind_eq_ok.mp built
    obtain ⟨_, _, _, built⟩ := Stage.step_bind_eq_ok.mp built
    exact first built

/-- Every program for misses, hits and shadow rays has an outline. -/
theorem outlined_build (hk : shades kind = true) (built : (build e c kind).step t = (t', .ok p)) :
    ∃ v o u, c.variant = .ok v ∧ Outlined e c v kind t u t' o p := by
  obtain ⟨d, hd⟩ := requireDatabase_ok hk built
  obtain ⟨v, hv⟩ := variant_ok hd hk built
  have single (h : ∃ o, Outlined e c v kind t t' t' o p) :
      ∃ v o u, c.variant = .ok v ∧ Outlined e c v kind t u t' o p := by
    obtain ⟨o, outlined⟩ := h
    exact ⟨v, o, t', hv, outlined⟩
  cases kind with
  | rayGeneration | callback => cases hk
  | miss => exact single (outlined_miss hd hv built)
  | shadowHit => exact single (outlined_shadow hd hv true built)
  | shadowMiss => exact single (outlined_shadow hd hv false built)
  | hit group =>
    obtain ⟨o, u, outlined⟩ := outlined_hit hd hv built
    exact ⟨v, o, u, hv, outlined⟩

end RayShader.Generation
