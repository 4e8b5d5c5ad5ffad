import RayShader.Proofs.Bindings
import RayShader.Proofs.ShadingTexts
import RayShader.Proofs.UnusedParts

/-!
# Lights and bsdfs under other names

A scene may have its lights and bsdfs under other names, in the same order (`Scene.Renames`).
An object is read through its properties, so it gives the same values under every name;
only its errors tell the name. So whatever succeeds for a scene succeeds for the scene with
the other names, and has the same expressions and the same images: the second computation
follows the first (`Stage.Follows`), step by step and from tree to tree.
-/

namespace RayShader

open Generation (build)

/-! ### Computations that follow others -/

namespace Stage

variable {σ α β γ δ : Type} {R : α → β → Prop} {S : γ → δ → Prop}

/-- Where the first computation gives a value, the second gives one that the relation holds
of, and leaves the same state. -/
def Follows (R : α → β → Prop) (x : Stage σ α) (y : Stage σ β) : Prop :=
  ∀ s t a, x.step s = (t, .ok a) → ∃ b, y.step s = (t, .ok b) ∧ R a b

namespace Follows

theorem refl (x : Stage σ α) : Follows Eq x x := fun _ _ a gave => ⟨a, gave, rfl⟩

theorem pure {a : α} {b : β} (h : R a b) : Follows R (pure a : Stage σ α) (Pure.pure b) := by
  intro s t a' gave
  obtain ⟨rfl, rfl⟩ := step_pure_eq_ok.mp gave
  exact ⟨b, rfl, h⟩

theorem bind {x : Stage σ α} {y : Stage σ β} {f : α → Stage σ γ} {g : β → Stage σ δ}
    (hx : Follows R x y) (hf : ∀ a b, R a b → Follows S (f a) (g b)) :
    Follows S (x.bind f) (y.bind g) := by
  intro s u c gave
  obtain ⟨t, a, first, second⟩ := step_bind_eq_ok.mp gave
  obtain ⟨b, first', related⟩ := hx s t a first
  obtain ⟨d, second', last⟩ := hf a b related t u c second
  exact ⟨d, step_bind_eq_ok.mpr ⟨t, b, first', second'⟩, last⟩

/-- Goes on with the same value. -/
theorem thenSame {x y : Stage σ α} {f : α → Stage σ γ} {g : α → Stage σ δ} (hx : Follows Eq x y)
    (hf : ∀ a, Follows S (f a) (g a)) : Follows S (x.bind f) (y.bind g) :=
  hx.bind fun a _ same => same ▸ hf a

/-- What is known of the values of the first. -/
theorem withGives {P : α → Prop} {x : Stage σ α} {y : Stage σ β} (h : Follows R x y)
    (hx : x.Gives P) : Follows (fun a b => P a ∧ R a b) x y := by
  intro s t a gave
  obtain ⟨b, gave', related⟩ := h s t a gave
  exact ⟨b, gave', hx s t a gave, related⟩

theorem read {r r' : Except Error α} (h : ∀ a, r = .ok a → r' = .ok a) :
    Follows Eq (Stage.read r : Stage σ α) (Stage.read r') := by
  intro s t a gave
  obtain ⟨rfl, ok⟩ := step_read_eq_ok.mp gave
  exact ⟨a, step_read_eq_ok.mpr ⟨rfl, h a ok⟩, rfl⟩

theorem error (e : Error) (y : Stage σ β) : Follows R (Stage.error e : Stage σ α) y :=
  fun _ _ _ gave => nomatch (Prod.mk.inj gave).2

end Follows

end Stage

open Stage (Follows)
open Text (IsLine)

/-! ### Objects under other names -/

namespace Object

/-- What is read of an object is read of it under every name. -/
def Reads {α : Type} (f : Object → Except Error α) : Prop :=
  ∀ o name a, f o = .ok a → f (o.named name) = .ok a

theorem property?_named (o : Object) (name property : String) :
    (o.named name).property? property = o.property? property := rfl

theorem reads_number (property : String) (default : Single) :
    Reads (·.number property default) := by
  intro o name x read
  simp only [number, property?_named] at read ⊢
  split at read <;> first | exact read | cases read

theorem reads_string? (property : String) : Reads (·.string? property) := by
  intro o name s read
  simp only [string?, property?_named] at read ⊢
  split at read <;> first | exact read | cases read

theorem reads_vector3 (property : String) (default : Vec3) :
    Reads (·.vector3 property default) := by
  intro o name v read
  simp only [vector3, property?_named] at read ⊢
  split at read <;> first | exact read | cases read

theorem reads_ior (property : String) (default : Single) :
    Reads (Context.ior · property default) := by
  intro o name x read
  simp only [Context.ior, property?_named] at read ⊢
  split at read
  case h_1 | h_2 | h_3 => exact read
  case h_4 dielectric _ =>
    cases known : Dielectric.index? dielectric with
    | some y =>
      rw [known] at read
      exact read
    | none =>
      rw [known] at read
      cases read
  case h_5 => cases read

theorem reads_textureColor (c : Context) (property : String) (default : Vec3) :
    Reads (c.textureColor · property default) := by
  intro o name value read
  simp only [Context.textureColor, property?_named] at read ⊢
  split at read
  case h_1 | h_3 | h_4 | h_5 => exact read
  case h_2 texture _ =>
    cases known : c.registry.textureBuffer? texture with
    | some buffer =>
      rw [known] at read
      exact read
    | none =>
      rw [known] at read
      cases read
  case h_6 => cases read

theorem Reads.map {α β : Type} {f : Object → Except Error α} (h : Reads f) (g : α → β) :
    Reads fun o => (f o).map g := by
  intro o name b read
  cases made : f o with
  | error e => simp [made, Except.map] at read
  | ok a => simpa [made, h o name a made] using read

/-- Reading follows reading under another name. -/
theorem Reads.follows {σ α : Type} {f : Object → Except Error α} (h : Reads f) (o : Object)
    (name : String) : Follows Eq (Stage.read (f o) : Stage σ α) (Stage.read (f (o.named name))) :=
  .read (h o name)

end Object

/-! ### Renamed scenes -/

/-- The entry is the first one with another key, and its object the first one's with another
name. -/
def Relabels (p q : String × Object) : Prop := q.2 = p.2.named q.2.name

/-- The second scene is the first one with other names of lights and bsdfs. The names of both
ascend, so lights and bsdfs are in the same order. -/
structure Scene.Renames (s s' : Scene) : Prop where
  /-- Everything else is the same. -/
  others : s' = { s with lights := s'.lights, bsdfs := s'.bsdfs }
  /-- The lights are the same objects under other names. -/
  lights : List.Forall₂ Relabels s.lights.entries s'.lights.entries
  /-- The bsdfs are the same objects under other names. -/
  bsdfs : List.Forall₂ Relabels s.bsdfs.entries s'.bsdfs.entries

/-- The context with other lights and bsdfs. -/
def Context.withNames (c : Context) (lights bsdfs : NameMap Object) : Context :=
  { c with scene := { c.scene with lights := lights, bsdfs := bsdfs } }

variable {c : Context} {o : Object} {lights bsdfs : NameMap Object} {property : String}

/-! ### Expressions under other names -/

namespace ShadingTree

theorem follows_vector (name : String) (default : Vec3) :
    Follows Eq (vector o property default) (vector (o.named name) property default) :=
  ((Object.reads_vector3 property default).map Program.vec3Literal).follows o name

theorem follows_number (name : String) (default : Single) :
    Follows Eq (number o property default) (number (o.named name) property default) :=
  ((Object.reads_number property default).map Program.floatLiteral).follows o name

theorem follows_ior (name : String) (default : Single) :
    Follows Eq (ior o property default) (ior (o.named name) property default) :=
  ((Object.reads_ior property default).map Program.floatLiteral).follows o name

theorem follows_color (name : String) (default : Vec3) :
    Follows Eq (color c o property default)
      (color (c.withNames lights bsdfs) (o.named name) property default) :=
  ((Object.reads_textureColor c property default).follows o name).thenSame fun _ => .refl _

end ShadingTree

namespace Stock

open ShadingTree

/-- The entity of an area light is told by its own name. -/
theorem Light.reads_entity (scene : Scene) : Object.Reads (entity scene) := by
  intro o name index read
  obtain ⟨entity?, named, read⟩ := except_bind_eq_ok.mp read
  refine except_bind_eq_ok.mpr ⟨entity?, Object.reads_string? _ o name _ named, ?_⟩
  cases entity? with
  | none => cases read
  | some entity =>
    simp only at read ⊢
    split at read
    · exact read
    · cases read

theorem Light.follows_expr (light : Light) (restricted : Bool) (name : String) :
    Follows Eq (light.expr c o restricted)
      (light.expr (c.withNames lights bsdfs) (o.named name) restricted) := by
  have number := fun p d => (Object.reads_number p d).follows (σ := ShadingTree) o name
  cases light with
  | point =>
    simp only [expr, Stage.bind_eq]
    exact (follows_vector name _).thenSame fun _ => (follows_color name _).thenSame fun _ => .refl _
  | spot =>
    simp only [expr, Stage.bind_eq]
    exact (number _ _).thenSame fun _ => (number _ _).thenSame fun _ =>
      (follows_vector name _).thenSame fun _ => (follows_vector name _).thenSame fun _ =>
      (follows_color name _).thenSame fun _ => .refl _
  | directional =>
    simp only [expr, Stage.bind_eq]
    exact (follows_vector name _).thenSame fun _ => (follows_color name _).thenSame fun _ => .refl _
  | area =>
    cases restricted with
    | true => exact .refl _
    | false =>
      simp only [expr, Bool.false_eq_true, if_false, Stage.bind_eq]
      exact ((reads_entity c.scene).follows o name).thenSame fun _ =>
        (follows_color name _).thenSame fun _ => .refl _
  | env =>
    simp only [expr, Stage.bind_eq]
    exact (follows_number name _).thenSame fun _ =>
      ((Object.reads_textureColor c _ _).follows o name).thenSame fun _ => .refl _
  | constant =>
    simp only [expr, Stage.bind_eq]
    exact ((Object.reads_vector3 _ _).follows o name).thenSame fun _ => .refl _

theorem Light.follows_ofObject (restricted : Bool) (name : String) :
    Follows Eq (ofObject c o restricted)
      (ofObject (c.withNames lights bsdfs) (o.named name) restricted) := by
  have kind : (o.named name).kind = o.kind := rfl
  unfold ofObject
  rw [kind]
  cases ofKind? o.kind with
  | none => exact .error _ _
  | some light => exact follows_expr light restricted name

theorem Material.follows_ofObject (name : String) :
    Follows Eq (ofObject c o) (ofObject (c.withNames lights bsdfs) (o.named name)) := by
  have kind : (o.named name).kind = o.kind := rfl
  have vector := fun p d => (Object.reads_vector3 p d).follows (σ := ShadingTree) o name
  unfold ofObject
  rw [kind]
  cases ofKind? o.kind with
  | none => exact .error _ _
  | some material =>
    cases material <;> simp only [expr, Stage.bind_eq]
    case diffuse => exact (follows_color name _).thenSame fun _ => .refl _
    case dielectric =>
      exact (follows_ior name _).thenSame fun _ => (follows_ior name _).thenSame fun _ =>
        (follows_color name _).thenSame fun _ => (follows_color name _).thenSame fun _ => .refl _
    case conductor =>
      exact (vector _ _).thenSame fun _ => (vector _ _).thenSame fun _ =>
        (follows_color name _).thenSame fun _ => .refl _

/-! ### Tables and blocks under other names -/

/-- The entries have the names of the lights that they are made of, and the same expressions. -/
structure Light.SameExprs (from' to' : List (String × Object)) (es es' : List (String × String)) :
    Prop where
  /-- The names of the first. -/
  names : es.map (·.1) = from'.map (·.1)
  /-- The names of the second. -/
  names' : es'.map (·.1) = to'.map (·.1)
  /-- The expressions. -/
  exprs : es'.map (·.2) = es.map (·.2)

theorem Light.follows_entries (restricted : Bool) {from' to' : List (String × Object)}
    (h : List.Forall₂ Relabels from' to') :
    Follows (SameExprs from' to') (entries c restricted from')
      (entries (c.withNames lights bsdfs) restricted to') := by
  induction h with
  | nil => exact .pure ⟨rfl, rfl, rfl⟩
  | @cons p q rest rest' first _ ih =>
    have expr : Follows Eq (ofObject c p.2 restricted)
        (ofObject (c.withNames lights bsdfs) q.2 restricted) := first ▸ follows_ofObject restricted _
    refine expr.thenSame fun e => ih.bind fun more more' same => .pure ?_
    exact ⟨by simp [same.names], by simp [same.names'], by simp [same.exprs]⟩

/-- The table of lights follows with the same declarations. -/
theorem follows_lights (restricted : Bool)
    (h : List.Forall₂ Relabels c.scene.lights.entries lights.entries) :
    Follows (fun text text' => ∃ buffers es es', (∀ entry ∈ es, IsLine entry.2) ∧
        Light.SameExprs c.scene.lights.entries lights.entries es es' ∧
        text = lightTable buffers es ∧ text' = lightTable buffers es')
      (Stock.lights c restricted) (Stock.lights (c.withNames lights bsdfs) restricted) := by
  rw [lights_eq, lights_eq]
  refine ((Light.follows_entries restricted h).withGives (Light.gives_entries restricted _)).bind
    fun es es' ⟨line, same⟩ => (Follows.refl declare).thenSame fun buffers => .pure ?_
  exact ⟨buffers, es, es', line, same, rfl, rfl⟩

/-- The block of a material follows with the same declarations. -/
theorem follows_material (group : Nat)
    (h : List.Forall₂ Relabels c.scene.bsdfs.entries bsdfs.entries) :
    Follows (fun text text' => ∃ buffers name name' bsdf, IsLine bsdf ∧
        c.scene.bsdfs.names[group]? = some name ∧ bsdfs.names[group]? = some name' ∧
        text = materialBlock buffers group name bsdf ∧ text' = materialBlock buffers group name' bsdf)
      (material c group) (material (c.withNames lights bsdfs) group) := by
  cases stands : c.scene.bsdfs.entries[group]? with
  | none =>
    unfold material
    rw [stands]
    exact .error _ _
  | some p =>
    obtain ⟨lt, here⟩ := List.getElem?_eq_some_iff.mp stands
    have lt' : group < bsdfs.entries.length := h.length_eq ▸ lt
    have relabels := h.get lt lt'
    have stands' : (c.withNames lights bsdfs).scene.bsdfs.entries[group]?
        = some (bsdfs.entries[group].1, bsdfs.entries[group].2) := List.getElem?_eq_getElem lt'
    simp only [List.get_eq_getElem, here, Relabels] at relabels
    rw [material_eq stands, material_eq stands', relabels]
    refine ((Material.follows_ofObject _).withGives Material.gives_ofObject).bind
      fun bsdf _ ⟨line, same⟩ => same ▸ (Follows.refl declare).thenSame fun buffers => .pure ?_
    exact ⟨buffers, p.1, bsdfs.entries[group].1, bsdf, line, by simp [NameMap.names, stands],
      by simp [NameMap.names, lt'], rfl, rfl⟩

end Stock

end RayShader
