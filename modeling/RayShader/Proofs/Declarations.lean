import RayShader.Stock.Emitters
import RayShader.Proofs.AssetPaths
import RayShader.Proofs.Images
import RayShader.Proofs.Outlines
import RayShader.Proofs.Registration
import RayShader.Proofs.Template

/-!
# Declarations of images

The table of lights and the material of a program each begin with the declarations of
the images that they sample and that are not declared yet. All images that a tree uses
are declared between two contributions (`ShadingTree.Settled`). One contribution keeps
it so (`Contribution.Extends`), and a program, whose contributions follow each other on
one tree, then declares each image once and before the first expression that samples it.

A declaration is one that a contribution begins with: the names of lights and bsdfs stand
in programs as they are, and nothing is said of what they hold.
-/

namespace RayShader

open Stock (declare lightTable materialBlock)
open Generation (Outline build shades hasDatabase)
open Technique (VariantInfo)

/-! ### Contributions -/

/-- An expression that a program has of a light or of a bsdf. -/
structure Emission where
  /-- The name of the light or of the bsdf. -/
  name : String
  /-- The light or the bsdf. -/
  object : Object
  /-- The properties by which it names textures. -/
  properties : List String
  /-- The expression. -/
  expr : String

/-- The expression samples the images that the properties name. -/
def Emission.IsExpressed (c : Context) (m : Emission) : Prop :=
  Expresses c m.object m.properties m.expr

/-- The table of lights or the material of a program. -/
structure Contribution where
  /-- The buffers of the images that are declared at its beginning, in order. -/
  declared : List Nat
  /-- The expressions behind the declarations, in order. -/
  emissions : List Emission
  /-- The text. -/
  text : String

namespace Contribution

variable {c : Context} {s : Contribution}

/-- An expression of the contribution samples the image. -/
def Uses (s : Contribution) (buffer : Nat) : Prop := ∃ m ∈ s.emissions, Samples m.expr buffer

/-- The contribution is a table of all lights of the scene in the order of their names,
and the declarations are in front of the lights. -/
structure IsTable (c : Context) (restricted : Bool) (s : Contribution) : Prop where
  /-- The lights. -/
  emitted : s.emissions.map (fun m => (m.name, m.object, m.properties))
    = c.scene.lights.entries.map fun p => (p.1, p.2, Stock.Light.propertiesOf restricted p.2)
  /-- The expressions are what the stock lights are made into. -/
  made : ∃ t u, (Stock.Light.entries c restricted c.scene.lights.entries).step t
    = (u, .ok (s.emissions.map fun m => (m.name, m.expr)))
  /-- The text. -/
  text_eq : s.text = lightTable s.declared (s.emissions.map fun m => (m.name, m.expr))

/-- The contribution is the material of a hit group, and the declarations are in front
of it. -/
structure IsMaterial (c : Context) (group : Nat) (s : Contribution) : Prop where
  /-- The material. -/
  emitted : ∃ m, s.emissions = [m] ∧ c.scene.bsdfs.entries[group]? = some (m.name, m.object) ∧
    m.properties = Stock.Material.propertiesOf m.object ∧
    (∃ t u, (Stock.Material.ofObject c m.object).step t = (u, .ok m.expr)) ∧
    s.text = materialBlock s.declared group m.name m.expr

end Contribution

/-! ### Declaring -/

/-- All images that are used are declared. -/
structure ShadingTree.Settled (t : ShadingTree) : Prop where
  /-- The used buffers ascend. -/
  ascends : t.Ascends
  /-- The used buffers are the declared ones. -/
  mem_used : ∀ b, b ∈ t.used ↔ b ∈ t.declared

theorem ShadingTree.settled_empty : ShadingTree.empty.Settled := ⟨ascends_empty, fun _ => .rfl⟩

namespace Contribution

variable {s : Contribution} {ss : List Contribution} {t t' u : ShadingTree} {b : Nat}

/-- On the first tree the contribution declares the images that it uses and that are not
declared there, each once; the second tree is that of afterwards. -/
structure Extends (t : ShadingTree) (s : Contribution) (t' : ShadingTree) : Prop where
  /-- All used images are declared afterwards. -/
  settled : t'.Settled
  /-- No image is declared twice. -/
  nodup : s.declared.Nodup
  /-- The declarations are of the images that are used and not declared before. -/
  mem_declared : ∀ b, b ∈ s.declared ↔ s.Uses b ∧ b ∉ t.declared
  /-- The declarations come to those before. -/
  mem_after : ∀ b, b ∈ t'.declared ↔ b ∈ t.declared ∨ b ∈ s.declared

/-- Declaring, when the expressions of a contribution are made, extends the tree. -/
theorem extends_of_gains (settled : t.Settled) (gains : t.Gains s.Uses u)
    (h : declare.step u = (t', .ok s.declared)) : Extends t s t' := by
  obtain ⟨rfl, pending⟩ := Prod.mk.inj h
  have pending : u.pending = s.declared := Except.ok.inj pending
  have mem_declared (b : Nat) : b ∈ s.declared ↔ s.Uses b ∧ b ∉ t.declared := by
    rw [← pending, ShadingTree.mem_pending, gains.declared_eq, gains.mem_used, settled.mem_used]
    tauto
  have mem_after (b : Nat) :
      b ∈ u.pending.foldl (fun ds b => ShadingTree.insertBuffer b ds) u.declared
        ↔ b ∈ t.declared ∨ b ∈ s.declared := by
    rw [ShadingTree.mem_foldl_insertBuffer, gains.declared_eq, pending, or_comm]
  have settles (b : Nat) : b ∈ u.used ↔ b ∈ t.declared ∨ b ∈ s.declared := by
    rw [mem_declared, gains.mem_used, settled.mem_used]
    tauto
  refine ⟨⟨gains.ascends settled.ascends, fun b => ?_⟩, ?_, mem_declared, mem_after⟩
  · exact (settles b).trans (mem_after b).symm
  · rw [← pending]
    exact ShadingTree.nodup_pending (gains.ascends settled.ascends)

/-- The contributions follow each other on one tree. -/
inductive Chain : ShadingTree → List Contribution → ShadingTree → Prop where
  /-- There are none. -/
  | nil (t : ShadingTree) : Chain t [] t
  /-- One follows, and then others. -/
  | cons {t u t' : ShadingTree} {s : Contribution} {ss : List Contribution} :
    Extends t s u → Chain u ss t' → Chain t (s :: ss) t'

/-- The images that contributions declare, in order. -/
def allDeclared (ss : List Contribution) : List Nat := ss.flatMap (·.declared)

/-- Each image that contributions use is declared by one of them once, and before it is
used for the first time; no other image is declared. -/
structure DeclareOnce (ss : List Contribution) : Prop where
  /-- No image is declared twice. -/
  nodup : (allDeclared ss).Nodup
  /-- A used image is declared in a contribution before, or at the beginning of the one
  that uses it. -/
  before : ∀ before s after, ss = before ++ s :: after →
    ∀ b, s.Uses b → b ∈ allDeclared (before ++ [s])
  /-- A declared image is used. -/
  used : ∀ b ∈ allDeclared ss, ∃ s ∈ ss, s.Uses b

/-- The images that are declared are those that are used. -/
theorem DeclareOnce.mem_allDeclared (h : DeclareOnce ss) :
    b ∈ allDeclared ss ↔ ∃ s ∈ ss, s.Uses b := by
  refine ⟨h.used b, fun ⟨s, hs, used⟩ => ?_⟩
  obtain ⟨before, after, split⟩ := List.append_of_mem hs
  have mem := h.before before s after split b used
  rw [split, List.append_cons, allDeclared, List.flatMap_append]
  exact List.mem_append_left _ mem

namespace Chain

theorem append {ss' : List Contribution} (h : Chain t ss u) (h' : Chain u ss' t') :
    Chain t (ss ++ ss') t' := by
  induction h with
  | nil => exact h'
  | cons first _ ih => exact .cons first (ih h')

/-- Later contributions do not declare again what is declared. -/
theorem fresh (h : Chain t ss t') : ∀ b ∈ allDeclared ss, b ∉ t.declared := by
  induction h with
  | nil => simp [allDeclared]
  | cons first _ ih =>
    intro b hb
    rcases List.mem_append.mp hb with here | later
    · exact ((first.mem_declared b).mp here).2
    · exact fun known => ih b later ((first.mem_after b).mpr (.inl known))

theorem nodup (h : Chain t ss t') : (allDeclared ss).Nodup := by
  induction h with
  | nil => exact .nil
  | cons first rest ih =>
    refine List.nodup_append.mpr ⟨first.nodup, ih, fun b here b' later same => ?_⟩
    subst same
    exact rest.fresh b later ((first.mem_after b).mpr (.inr here))

theorem declared_of_uses (h : Chain t ss t') {before after : List Contribution}
    (split : ss = before ++ s :: after) (used : s.Uses b) :
    b ∈ t.declared ∨ b ∈ allDeclared (before ++ [s]) := by
  induction h generalizing before with
  | nil => simp at split
  | @cons t _ _ _ _ first _ ih =>
    cases before with
    | nil =>
      -- a used image is declared on the tree, or pending and so declared right here
      obtain ⟨rfl, rfl⟩ := List.cons.inj split
      by_cases known : b ∈ t.declared
      · exact .inl known
      · exact .inr (by simpa [allDeclared] using (first.mem_declared b).mpr ⟨used, known⟩)
    | cons s' before =>
      obtain ⟨rfl, rest⟩ := List.cons.inj split
      rcases ih rest with known | later
      · exact ((first.mem_after b).mp known).imp_right fun here => List.mem_append_left _ here
      · exact .inr (List.mem_append_right _ later)

theorem uses_of_declared (h : Chain t ss t') : ∀ b ∈ allDeclared ss, ∃ s ∈ ss, s.Uses b := by
  induction h with
  | nil => simp [allDeclared]
  | @cons _ _ _ s ss first _ ih =>
    intro b hb
    rcases List.mem_append.mp hb with here | later
    · exact ⟨s, List.mem_cons_self .., ((first.mem_declared b).mp here).1⟩
    · obtain ⟨s', hs', used⟩ := ih b later
      exact ⟨s', List.mem_cons_of_mem _ hs', used⟩

/-- The tree knows what was declared on it. -/
theorem mem_declared (h : Chain t ss t') : b ∈ t'.declared ↔ b ∈ t.declared ∨ b ∈ allDeclared ss := by
  induction h with
  | nil => simp [allDeclared]
  | cons first _ ih => rw [ih, first.mem_after, or_assoc, ← List.mem_append]; rfl

/-- On a new tree every declaration is needed and is the first and only one. -/
theorem declareOnce (h : Chain .empty ss t') : DeclareOnce ss where
  nodup := h.nodup
  before _ _ _ split _ used :=
    (h.declared_of_uses split used).resolve_left (by simp [ShadingTree.empty])
  used := h.uses_of_declared

end Chain

end Contribution

/-! ### What lights and materials contribute -/

namespace Stock

variable {c : Context} {restricted : Bool} {t t' : ShadingTree} {text : String}

theorem Light.emissions_of_entries {lights : List (String × Object)}
    {entries : List (String × String)}
    (h : List.Forall₂ (Light.IsEntry c restricted) lights entries) :
    ∃ ms : List Emission, entries = ms.map (fun m => (m.name, m.expr)) ∧
      ms.map (fun m => (m.name, m.object, m.properties))
        = lights.map (fun p => (p.1, p.2, propertiesOf restricted p.2)) ∧
      (∀ m ∈ ms, m.IsExpressed c) ∧
      ∀ b, (∃ p ∈ lights, NamedBy c p.2 (propertiesOf restricted p.2) b)
        ↔ ∃ m ∈ ms, Samples m.expr b := by
  induction h with
  | nil => exact ⟨[], rfl, rfl, by simp, by simp⟩
  | @cons p entry _ _ first _ ih =>
    obtain ⟨name_eq, light, found, expresses⟩ := first
    obtain ⟨ms, rfl, emitted, expressed, sampled⟩ := ih
    have properties : propertiesOf restricted p.2 = light.textureProperties restricted := by
      rw [propertiesOf, found, Option.elim_some]
    have expresses : RayShader.Expresses c p.2 (propertiesOf restricted p.2) entry.2 :=
      properties ▸ expresses.toExpresses
    refine ⟨⟨p.1, p.2, propertiesOf restricted p.2, entry.2⟩ :: ms, ?_, ?_, ?_, fun b => ?_⟩
    · rw [List.map_cons, ← name_eq]
    · rw [List.map_cons, List.map_cons, emitted]
    · exact List.forall_mem_cons.mpr ⟨expresses, expressed⟩
    · simp only [List.mem_cons, exists_eq_or_imp, sampled, expresses.samples]

/-- The table of lights is a contribution to the tree. -/
theorem lights_ok (settled : t.Settled) (h : (lights c restricted).step t = (t', .ok text)) :
    ∃ s : Contribution, s.text = text ∧ s.IsTable c restricted ∧ s.Extends t t' ∧
      ∀ m ∈ s.emissions, m.IsExpressed c := by
  obtain ⟨u, entries, declared, made, declares, rfl⟩ := lights_step_eq_ok.mp h
  obtain ⟨gains, each⟩ := Light.adds_entries restricted _ _ _ _ made
  obtain ⟨ms, rfl, emitted, expressed, sampled⟩ := Light.emissions_of_entries each
  have used : t.Gains (Contribution.Uses ⟨declared, ms, ""⟩) u :=
    ⟨gains.declared_eq, fun b => by rw [gains.mem_used, sampled]; rfl, gains.ascends⟩
  exact ⟨⟨declared, ms, _⟩, rfl, ⟨emitted, ⟨t, u, made⟩, rfl⟩,
    Contribution.extends_of_gains settled used declares, expressed⟩

/-- The material of a hit group is a contribution to the tree. -/
theorem material_ok {group : Nat} (settled : t.Settled)
    (h : (material c group).step t = (t', .ok text)) :
    ∃ s : Contribution, s.text = text ∧ s.IsMaterial c group ∧ s.Extends t t' ∧
      ∀ m ∈ s.emissions, m.IsExpressed c := by
  cases found : c.scene.bsdfs.entries[group]? with
  | none =>
    unfold material at h
    rw [found] at h
    cases (Prod.mk.inj h).2
  | some p =>
    obtain ⟨name, o⟩ := p
    rw [material_eq found] at h
    obtain ⟨u, bsdf, made, h⟩ := Stage.step_bind_eq_ok.mp h
    obtain ⟨_, declared, declares, h⟩ := Stage.step_bind_eq_ok.mp h
    obtain ⟨rfl, rfl⟩ := Stage.step_pure_eq_ok.mp h
    obtain ⟨gains, expresses⟩ := Material.adds_ofObject _ _ _ made
    let m : Emission := ⟨name, o, Material.propertiesOf o, bsdf⟩
    have used : t.Gains (Contribution.Uses ⟨declared, [m], ""⟩) u :=
      ⟨gains.declared_eq, fun b => by
        rw [gains.mem_used, ← expresses.samples]
        simp [Contribution.Uses, m], gains.ascends⟩
    exact ⟨⟨declared, [m], _⟩, rfl, ⟨m, rfl, found, rfl, ⟨t, u, made⟩, rfl⟩,
      Contribution.extends_of_gains settled used declares,
      by simpa [m, Emission.IsExpressed] using expresses⟩

end Stock

/-! ### Images of loaded scenes -/

/-- The texture is an image texture of the scene, and the image of the buffer is its
file. -/
structure Context.IsImageOf (c : Context) (texture : String) (buffer : Nat) : Prop where
  /-- The texture has the buffer. -/
  registered : c.registry.textureBuffer? texture = some buffer
  /-- The buffer is one of an image. -/
  lt_imageCount : buffer < c.registry.imageCount
  /-- The image is at the path of the file that the texture names. -/
  image : ∃ o path, (texture, o) ∈ c.scene.textures.entries ∧ o.kind = "image" ∧
    c.Located o path ∧ c.registry.images[buffer]? = some path

theorem Context.Loaded.isImageOf {describe : String → Scene → Run Technique.Info} {scene : Scene}
    {options : Options} {c : Context} (loaded : c.Loaded describe scene options)
    (few : c.registry.imageCount ≤ UInt32.size) {texture : String} {buffer : Nat}
    (registered : c.registry.textureBuffer? texture = some buffer) :
    c.IsImageOf texture buffer := by
  obtain ⟨o, stands, image⟩ := loaded.registered _ _ registered
  obtain ⟨file, filename, buffer', registered', found⟩ := loaded.provides (texture, o) stands image
  obtain rfl : buffer = buffer' := Option.some.inj (registered.symm.trans registered')
  obtain ⟨l, represents⟩ := loaded.represents
  rw [Registry.imageCount, represents.images] at few
  -- with so few images a buffer is the place where its image is listed
  have listed := (represents.imageIndex?_eq_some_iff few).mp found
  rw [← represents.images] at listed
  exact ⟨registered, (List.getElem?_eq_some_iff.mp listed).1, o, _, loaded.scene_eq ▸ stands, image,
    ⟨file, filename, Context.resolves_iff.mpr rfl⟩, listed⟩

/-- A property of the expression that names a texture names an image texture, and the
expression samples its image. -/
def Emission.IsResolved (c : Context) (m : Emission) : Prop :=
  ∀ property ∈ m.properties, ∀ texture, m.object.property? property = some (.string texture) →
    ∃ buffer, c.IsImageOf texture buffer ∧ Samples m.expr buffer

theorem Emission.IsExpressed.isResolved {describe : String → Scene → Run Technique.Info}
    {scene : Scene} {options : Options} {c : Context} (loaded : c.Loaded describe scene options)
    (few : c.registry.imageCount ≤ UInt32.size) {m : Emission} (h : m.IsExpressed c) :
    m.IsResolved c := by
  intro property mem texture found
  obtain ⟨buffer, texture', found', registered⟩ := h.resolves property mem texture found
  obtain rfl : texture = texture' := by simpa [found] using found'
  exact ⟨buffer, loaded.isImageOf few registered,
    (h.samples buffer).mpr ⟨property, mem, texture, found, registered⟩⟩

/-! ### Programs -/

namespace Generation

variable {e : Emitters} {c : Context} {v : VariantInfo} {kind : ShaderKind} {o : Outline}
  {t t' u : ShadingTree}

/-- A variant that uses lights has a table, whole or restricted. -/
def HasTable (c : Context) (v : VariantInfo) (whole : Bool) (table : Option Contribution) :
    Prop :=
  if v.usesLights then ∃ s, table = some s ∧ s.IsTable c !whole else table = none

/-- A program of hits has the material of its group. -/
def HasMaterial (c : Context) : ShaderKind → Option Contribution → Prop
  | .hit group, block => ∃ s, block = some s ∧ s.IsMaterial c group
  | _, block => block = none

/-- The lights and the material of a program are the two contributions. -/
structure Contributes (c : Context) (v : VariantInfo) (kind : ShaderKind) (o : Outline)
    (table block : Option Contribution) : Prop where
  /-- The text of the lights. -/
  lights_eq : o.lights = table.map (·.text)
  /-- The text of the material. -/
  material_eq : o.material = block.map (·.text)
  /-- The lights that it has. -/
  table : HasTable c v (hasDatabase v kind) table
  /-- The material that it has. -/
  block : HasMaterial c kind block

theorem Contributes.isTable {block : Option Contribution} {s : Contribution}
    (h : Contributes c v kind o (some s) block) :
    s.IsTable c !hasDatabase v kind := by
  have has := h.table
  unfold HasTable at has
  split at has
  · obtain ⟨s', same, isTable⟩ := has
    obtain rfl := Option.some.inj same
    exact isTable
  · cases has

theorem Contributes.isMaterial {group : Nat} {table : Option Contribution}
    {s : Contribution} (h : Contributes c v (.hit group) o table (some s)) : s.IsMaterial c group := by
  obtain ⟨s', same, isMaterial⟩ := h.block
  obtain rfl := Option.some.inj same
  exact isMaterial

theorem table_ok (stock : e.lights = Emitters.stock.lights) (settled : t.Settled)
    {whole : Bool} (h : o.LightsFrom e c v whole t u) :
    ∃ table : Option Contribution, o.lights = table.map (·.text) ∧
      HasTable c v whole table ∧ u.Settled ∧ Contribution.Chain t table.toList u ∧
      ∀ s ∈ table.toList, ∀ m ∈ s.emissions, m.IsExpressed c := by
  unfold Outline.LightsFrom at h
  cases uses : v.usesLights with
  | true =>
    rw [uses, if_pos rfl] at h
    obtain ⟨text, answered, lights⟩ := h
    rw [stock] at answered
    obtain ⟨s, rfl, table, extended, expressed⟩ := Stock.lights_ok settled answered
    refine ⟨some s, lights, ?_, extended.settled, .cons extended (.nil u), by simpa using expressed⟩
    rw [HasTable, if_pos uses]
    exact ⟨s, rfl, table⟩
  | false =>
    rw [uses, if_neg (by decide)] at h
    obtain ⟨absent, rfl⟩ := h
    refine ⟨none, absent, ?_, settled, .nil u, by simp⟩
    rw [HasTable, if_neg (by simp [uses])]

theorem block_ok (stock : e.material = Emitters.stock.material) (settled : t.Settled)
    (h : o.MaterialFrom e c t t' kind) :
    ∃ block : Option Contribution, o.material = block.map (·.text) ∧ HasMaterial c kind block ∧
      Contribution.Chain t block.toList t' ∧
      ∀ s ∈ block.toList, ∀ m ∈ s.emissions, m.IsExpressed c := by
  cases kind with
  | hit group =>
    obtain ⟨text, answered, material⟩ := h
    rw [stock] at answered
    obtain ⟨s, rfl, block, extended, expressed⟩ := Stock.material_ok settled answered
    exact ⟨some s, material, ⟨s, rfl, block⟩, .cons extended (.nil t'), by simpa using expressed⟩
  | rayGeneration | miss | shadowHit | shadowMiss | callback =>
    obtain ⟨absent, rfl⟩ := h
    exact ⟨none, absent, rfl, .nil _, by simp⟩

/-- The lights and the material of a program are contributions on one new tree. -/
theorem contributes_of_outlined {p : Program} (lights : e.lights = Emitters.stock.lights)
    (material : e.material = Emitters.stock.material)
    (outlined : Outlined e c v kind .empty u t' o p) :
    ∃ table block, Contributes c v kind o table block ∧
      Contribution.Chain .empty (table.toList ++ block.toList) t' ∧
      ∀ s ∈ table.toList ++ block.toList, ∀ m ∈ s.emissions, m.IsExpressed c := by
  obtain ⟨table, texts, isTable, settled, first, expressed⟩ :=
    table_ok lights ShadingTree.settled_empty outlined.lights
  obtain ⟨block, texts', isMaterial, second, expressed'⟩ :=
    block_ok material settled outlined.material
  refine ⟨table, block, ⟨texts, texts', isTable, isMaterial⟩, first.append second,
    fun s hs m hm => ?_⟩
  rcases List.mem_append.mp hs with hs | hs
  · exact expressed s hs m hm
  · exact expressed' s hs m hm

end Generation

end RayShader
