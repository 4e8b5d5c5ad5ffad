import RayShader.Stock.Light
import RayShader.Stock.Material
import RayShader.Proofs.Registration
import RayShader.Proofs.Words
import Mathlib.Data.List.Forall2

/-!
# Images of expressions

The expressions of lights and materials sample the images of the textures that certain
properties of the objects name, and no others (`Light.textureProperties`,
`Material.textureProperties`). The shading tree on which an expression is made keeps
exactly the buffers of these images among the used ones. `Adds` says both of a piece of
an emitter; it composes over going on, so each emitter is a short calculation.
-/

namespace RayShader

open Text (Mentions)

/-! ### Used and declared buffers -/

namespace ShadingTree

variable {a b : Nat} {bs : List Nat} {t : ShadingTree}

theorem mem_insertBuffer : b ∈ insertBuffer a bs ↔ b = a ∨ b ∈ bs := by
  induction bs with
  | nil => simp [insertBuffer]
  | cons c bs ih =>
    rw [insertBuffer]
    split
    · simp
    · split
      · rename_i same
        simp [same]
      · simp only [List.mem_cons, ih]
        tauto

theorem pairwise_insertBuffer (h : bs.Pairwise (· < ·)) : (insertBuffer a bs).Pairwise (· < ·) := by
  induction bs with
  | nil => exact List.pairwise_singleton ..
  | cons c bs ih =>
    obtain ⟨head, tail⟩ := List.pairwise_cons.mp h
    rw [insertBuffer]
    split
    · rename_i lt
      refine List.pairwise_cons.mpr ⟨fun d hd => ?_, h⟩
      rcases List.mem_cons.mp hd with rfl | hd
      · exact lt
      · exact Nat.lt_trans lt (head d hd)
    · split
      · exact h
      · refine List.pairwise_cons.mpr ⟨fun d hd => ?_, ih tail⟩
        rcases mem_insertBuffer.mp hd with rfl | hd
        · omega
        · exact head d hd

theorem mem_foldl_insertBuffer {ds : List Nat} :
    b ∈ bs.foldl (fun ds b => insertBuffer b ds) ds ↔ b ∈ bs ∨ b ∈ ds := by
  induction bs generalizing ds with
  | nil => simp
  | cons c bs ih =>
    rw [List.foldl_cons, ih, mem_insertBuffer, List.mem_cons]
    tauto

theorem mem_pending : b ∈ t.pending ↔ b ∈ t.used ∧ b ∉ t.declared := by
  simp [pending]

/-- The used buffers ascend. -/
def Ascends (t : ShadingTree) : Prop := t.used.Pairwise (· < ·)

theorem ascends_empty : empty.Ascends := .nil

theorem nodup_pending (h : t.Ascends) : t.pending.Nodup :=
  (List.Pairwise.imp (fun lt => Nat.ne_of_lt lt) h).filter _

end ShadingTree

/-! ### Samples -/

/-- The expression samples the image of the buffer. -/
def Samples (s : String) (buffer : Nat) : Prop := Mentions s (ShadingTree.imageName buffer)

instance (s : String) (buffer : Nat) : Decidable (Samples s buffer) :=
  inferInstanceAs (Decidable (Mentions s (ShadingTree.imageName buffer)))

namespace Samples

variable {s : String} {b b' : Nat}

theorem toList_imageName (b : Nat) :
    (ShadingTree.imageName b).toList = "tex_".toList ++ Nat.toDigits 10 b := by
  simp [ShadingTree.imageName, toString, String.toList_append]

theorem imageName_inj (h : ShadingTree.imageName b = ShadingTree.imageName b') : b = b' := by
  have digits : toString b = toString b' := by simpa [ShadingTree.imageName] using h
  exact Text.toString_nat_inj digits

/-- The name of an image is one word. -/
theorem words_imageName (b : Nat) :
    Text.words (ShadingTree.imageName b) = [(ShadingTree.imageName b).toList] := by
  refine Text.words_of_forall (fun empty => ?_) fun c hc => ?_
  · have := congrArg String.toList empty
    rw [toList_imageName] at this
    simp at this
  · rw [toList_imageName] at hc
    rcases List.mem_append.mp hc with stem | digit
    · have apart : "tex_".toList.all Text.isWordChar = true := by decide
      exact List.all_eq_true.mp apart c stem
    · have digit : c.isDigit = true := Nat.isDigit_of_mem_toDigits (by decide) (by decide) digit
      simp [Text.isWordChar, Char.isAlphanum, digit]

theorem imageName_iff : Samples (ShadingTree.imageName b) b' ↔ b' = b := by
  rw [Samples, Mentions, words_imageName, List.mem_singleton, String.toList_inj]
  exact ⟨imageName_inj, fun same => by rw [same]⟩

example : Samples "make_diffuse_bsdf(ctx.surf, tex_12(ctx.uvw))" 12 ∧
    ¬ Samples "make_diffuse_bsdf(ctx.surf, tex_12(ctx.uvw))" 1 := by decide +kernel

theorem no_b_imageName (b : Nat) : 'b' ∉ (ShadingTree.imageName b).toList := by
  have digits : 'b' ∉ (toString b).toList := Text.not_mem_toString_nat (by decide) b
  rw [toList_imageName, List.mem_append, not_or]
  exact ⟨by decide, by simpa using digits⟩

/-- A text without the letter `x` samples nothing. -/
theorem not_of_not_mem (h : 'x' ∉ s.toList) : ¬ Samples s b :=
  Text.not_mentions_of_not_mem (by rw [toList_imageName]; simp) h

/-- A text none of whose words begins with the letter `t` samples nothing. -/
theorem not_of_words (h : ∀ w ∈ Text.words s, w.head? ≠ some 't') : ¬ Samples s b :=
  fun mentioned => h _ mentioned (by rw [toList_imageName]; rfl)

end Samples

/-! ### Names of textures -/

/-- The property names a texture whose image has the buffer. -/
def Names (c : Context) (o : Object) (property : String) (buffer : Nat) : Prop :=
  ∃ texture, o.property? property = some (.string texture) ∧
    c.registry.textureBuffer? texture = some buffer

/-- One of the properties names a texture whose image has the buffer. -/
def NamedBy (c : Context) (o : Object) (properties : List String) (buffer : Nat) : Prop :=
  ∃ property ∈ properties, Names c o property buffer

/-- If the property names a texture, then one whose image has a buffer. -/
def Resolves (c : Context) (o : Object) (property : String) : Prop :=
  ∀ texture, o.property? property = some (.string texture) → ∃ buffer, Names c o property buffer

/-- The expression samples the images of the textures that the properties name, and
these have images. -/
structure Expresses (c : Context) (o : Object) (properties : List String) (s : String) : Prop where
  /-- The sampled images. -/
  samples : ∀ b, Samples s b ↔ NamedBy c o properties b
  /-- The named textures have images. -/
  resolves : ∀ property ∈ properties, Resolves c o property

variable {c : Context} {o : Object} {property : String}

@[simp] theorem namedBy_singleton {b : Nat} : NamedBy c o [property] b ↔ Names c o property b := by
  simp [NamedBy]

@[simp] theorem not_namedBy_nil {b : Nat} : ¬ NamedBy c o [] b := by
  simp [NamedBy]

theorem textureColor_ok {default : Vec3} {value : TextureColor}
    (h : c.textureColor o property default = .ok value) :
    (∀ b, Names c o property b ↔ value = .texture b) ∧ Resolves c o property := by
  unfold Context.textureColor at h
  unfold Resolves Names
  split at h
  · rename_i found
    obtain rfl := Except.ok.inj h
    simp [found]
  · rename_i texture found
    split at h
    · rename_i buffer registered
      obtain rfl := Except.ok.inj h
      simp [found, registered]
    · cases h
  · rename_i found
    obtain rfl := Except.ok.inj h
    simp [found]
  · rename_i found
    obtain rfl := Except.ok.inj h
    simp [found]
  · rename_i found
    obtain rfl := Except.ok.inj h
    simp [found]
  · cases h

/-! ### What emitters add to the tree -/

/-- The second tree uses the images of the given buffers beside those of the first, and
declares the same. -/
structure ShadingTree.Gains (t : ShadingTree) (P : Nat → Prop) (t' : ShadingTree) : Prop where
  /-- The declared buffers are the same. -/
  declared_eq : t'.declared = t.declared
  /-- The used buffers are the given ones, beside those before. -/
  mem_used : ∀ b, b ∈ t'.used ↔ b ∈ t.used ∨ P b
  /-- The used buffers ascend as before. -/
  ascends : t.Ascends → t'.Ascends

/-- What the stage gives, if it gives something: the tree uses the buffers of `P` as well,
and `R` holds of the value. -/
def Adds {α : Type} (x : Stage ShadingTree α) (P : Nat → Prop) (R : α → Prop) : Prop :=
  ∀ t t' a, x.step t = (t', .ok a) → t.Gains P t' ∧ R a

namespace Adds

variable {α β : Type} {x : Stage ShadingTree α} {P Q : Nat → Prop} {R : α → Prop} {S : β → Prop}

theorem pure {a : α} (h : R a) : Adds (pure a) (fun _ => False) R := by
  intro t t' a' ran
  obtain ⟨rfl, rfl⟩ := Stage.step_pure_eq_ok.mp ran
  exact ⟨⟨rfl, by simp, id⟩, h⟩

theorem read {r : Except Error α} (h : ∀ a, r = .ok a → R a) :
    Adds (Stage.read r) (fun _ => False) R := by
  intro t t' a ran
  obtain ⟨rfl, ok⟩ := Stage.step_read_eq_ok.mp ran
  exact ⟨⟨rfl, by simp, id⟩, h a ok⟩

theorem error (e : Error) : Adds (Stage.error e) P R := fun _ _ _ ran => nomatch (Prod.mk.inj ran).2

theorem bind {f : α → Stage ShadingTree β} (hx : Adds x P R) (hf : ∀ a, R a → Adds (f a) Q S) :
    Adds (x.bind f) (fun b => P b ∨ Q b) S := by
  intro t t' b ran
  obtain ⟨u, a, first, second⟩ := Stage.step_bind_eq_ok.mp ran
  obtain ⟨gains, ha⟩ := hx _ _ _ first
  obtain ⟨gains', hb⟩ := hf a ha _ _ _ second
  refine ⟨⟨gains'.declared_eq.trans gains.declared_eq, fun b => ?_,
    gains'.ascends ∘ gains.ascends⟩, hb⟩
  rw [gains'.mem_used, gains.mem_used, or_assoc]

theorem mono {S : α → Prop} (h : Adds x P R) (hS : ∀ a, R a → S a) : Adds x P S := by
  intro t t' a ran
  obtain ⟨gains, ha⟩ := h _ _ _ ran
  exact ⟨gains, hS a ha⟩

theorem congr (h : Adds x P R) (hP : ∀ b, P b ↔ Q b) : Adds x Q R := by
  intro t t' a ran
  obtain ⟨gains, ha⟩ := h _ _ _ ran
  exact ⟨⟨gains.declared_eq, fun b => by rw [gains.mem_used, hP], gains.ascends⟩, ha⟩

end Adds

/-! ### Pieces of expressions -/

/-- The text samples exactly the given buffers, and does not have the letter `b`, which
the name of the scene database has. -/
structure Sampling (P : Nat → Prop) (s : String) : Prop where
  /-- The buffers. -/
  samples : ∀ b, Samples s b ↔ P b
  /-- The letter does not occur. -/
  no_b : 'b' ∉ s.toList

/-- The text samples nothing. -/
abbrev Plain (s : String) : Prop := Sampling (fun _ => False) s

theorem plain_of_not_mem {s : String} (hx : 'x' ∉ s.toList) (hb : 'b' ∉ s.toList) : Plain s :=
  ⟨fun _ => iff_of_false (Samples.not_of_not_mem hx) id, hb⟩

theorem plain_floatLiteral (x : Single) : Plain (Program.floatLiteral x) :=
  plain_of_not_mem (Program.not_mem_floatLiteral (by decide) x)
    (Program.not_mem_floatLiteral (by decide) x)

theorem plain_vec3Literal (v : Vec3) : Plain (Program.vec3Literal v) :=
  plain_of_not_mem (Program.not_mem_vec3Literal (by decide) (by decide) v)
    (Program.not_mem_vec3Literal (by decide) (by decide) v)

theorem plain_colorLiteral (v : Vec3) : Plain (Program.colorLiteral v) :=
  plain_of_not_mem (Program.not_mem_colorLiteral (by decide) (by decide) v)
    (Program.not_mem_colorLiteral (by decide) (by decide) v)

/-- No word of the text is the name of an image, and none goes on behind it. -/
def isHead (s : String) : Bool :=
  Text.endsApart s && (Text.words s).all fun w => w.head? != some 't'

theorem samples_callText {head : String} {args : List String} (h : isHead head = true) {b : Nat} :
    Samples (Program.callText head args) b ↔ ∃ arg ∈ args, Samples arg b := by
  obtain ⟨apart, words⟩ := Bool.and_eq_true_iff.mp h
  have none : ¬ Samples head b := Samples.not_of_words (by simpa using words)
  rw [Samples, Program.mentions_callText apart]
  exact ⟨fun mentioned => mentioned.resolve_left none, .inr⟩

/-- A call samples what its arguments sample. -/
theorem sampling_callText (head : String) (args : List String) {P : Nat → Prop}
    (h : isHead head = true) (hb : 'b' ∉ head.toList) (ha : ∀ arg ∈ args, 'b' ∉ arg.toList)
    (hP : ∀ b, P b ↔ ∃ arg ∈ args, Samples arg b) : Sampling P (Program.callText head args) :=
  ⟨fun b => by rw [samples_callText h, hP], Program.not_mem_callText (by decide) hb ha⟩

namespace ShadingTree

/-- Literals of properties sample nothing. -/
theorem adds_literal {α : Type} {r : Except Error α} {literal : α → String}
    (h : ∀ a, Plain (literal a)) : Adds (Stage.read (r.map literal)) (fun _ => False) Plain := by
  refine .read fun s made => ?_
  cases r with
  | error e => cases made
  | ok a => exact (Except.ok.inj made) ▸ h a

theorem adds_vector (default : Vec3) : Adds (vector o property default) (fun _ => False) Plain :=
  adds_literal plain_vec3Literal

theorem adds_number (default : Single) : Adds (number o property default) (fun _ => False) Plain :=
  adds_literal plain_floatLiteral

theorem adds_ior (default : Single) : Adds (ior o property default) (fun _ => False) Plain :=
  adds_literal plain_floatLiteral

theorem adds_texture (buffer : Nat) :
    Adds (texture buffer) (· = buffer) (· = imageName buffer) := by
  intro t t' s ran
  have made : (texture buffer).step t
      = ({ t with used := insertBuffer buffer t.used }, .ok (imageName buffer)) := rfl
  rw [made] at ran
  obtain ⟨rfl, named⟩ := Prod.mk.inj ran
  exact ⟨⟨rfl, fun b => by rw [mem_insertBuffer, or_comm], pairwise_insertBuffer⟩,
    (Except.ok.inj named).symm⟩

/-- The sample of a color at the surface. -/
theorem sampling_color (buffer : Nat) :
    Sampling (· = buffer) (imageName buffer ++ "(ctx.uvw)") := by
  have apart : Text.startsApart "(ctx.uvw)" = true := by decide
  have nothing (b : Nat) : ¬ Samples "(ctx.uvw)" b := Samples.not_of_words (by decide)
  refine ⟨fun b => ?_, ?_⟩
  · rw [Samples, Mentions, Text.words_append_of_startsApart _ apart, List.mem_append]
    exact ⟨fun mentioned => Samples.imageName_iff.mp (mentioned.resolve_right (nothing b)),
      fun same => .inl (Samples.imageName_iff.mpr same)⟩
  · rw [String.toList_append, List.mem_append]
    exact fun mem => mem.elim (Samples.no_b_imageName buffer) (by decide)

theorem adds_textureColor (default : Vec3) :
    Adds (Stage.read (c.textureColor o property default)) (fun _ => False)
      fun value => (∀ b, Names c o property b ↔ value = .texture b) ∧ Resolves c o property :=
  .read fun _ made => textureColor_ok made

theorem adds_color (default : Vec3) :
    Adds (color c o property default) (Names c o property)
      fun s => Sampling (Names c o property) s ∧ Resolves c o property := by
  refine (Adds.bind (Q := Names c o property) (adds_textureColor default)
    fun value read => ?_).congr (by simp)
  obtain ⟨named, resolves⟩ := read
  cases value with
  | texture buffer =>
    -- rewriting the named buffers makes the goal one about the buffer alone
    have only : (· = buffer) = Names c o property := by
      funext b
      simp [named, eq_comm]
    rw [← only]
    refine ((adds_texture buffer).bind fun s made => .pure ?_).congr (by simp)
    rw [made]
    exact ⟨sampling_color buffer, resolves⟩
  | color v =>
    have nothing : (fun _ => False) = Names c o property := by
      funext b
      simp [named]
    rw [← nothing]
    exact .pure ⟨plain_colorLiteral v, resolves⟩

end ShadingTree

/-! ### Expressions of lights -/

namespace Stock.Light

/-- The properties by which a light names textures, in a restricted table or not. -/
def textureProperties (restricted : Bool) : Light → List String
  | point | spot => ["intensity"]
  | directional => ["irradiance"]
  | area => if restricted then [] else ["radiance"]
  | env => ["radiance"]
  | constant => []

/-- The expression samples the images of its textures, and only that of an area light in
a table that is not restricted may use the scene database. -/
structure Expresses (c : Context) (o : Object) (restricted : Bool) (light : Light) (s : String) :
    Prop extends RayShader.Expresses c o (light.textureProperties restricted) s where
  /-- The use of the scene database. -/
  no_b : 'b' ∈ s.toList → light = area ∧ restricted = false

theorem expresses_of_sampling {restricted : Bool} {light : Light} {s : String}
    (h : Sampling (NamedBy c o (light.textureProperties restricted)) s)
    (hr : ∀ property ∈ light.textureProperties restricted, Resolves c o property) :
    Expresses c o restricted light s :=
  ⟨⟨h.samples, hr⟩, fun mem => absurd mem h.no_b⟩

theorem adds_point (restricted : Bool) :
    Adds (point.expr c o restricted) (NamedBy c o ["intensity"])
      (Expresses c o restricted point) := by
  refine ((ShadingTree.adds_vector .zero).bind fun position hp =>
    (ShadingTree.adds_color .one).bind fun intensity hi =>
      .pure (expresses_of_sampling ?_ (by simpa [textureProperties] using hi.2))).congr (by simp)
  exact sampling_callText "make_point_light(" [position, intensity] (by decide) (by decide)
    (by simp [hp.no_b, hi.1.no_b]) (by simp [textureProperties, hp.samples, hi.1.samples])

theorem adds_spot (restricted : Bool) :
    Adds (spot.expr c o restricted) (NamedBy c o ["intensity"])
      (Expresses c o restricted spot) := by
  simp only [expr, Stage.bind_eq]
  refine (Adds.bind (.read (R := fun _ => True) (by simp)) fun cutoff _ =>
    Adds.bind (.read (R := fun _ => True) (by simp)) fun falloff _ =>
    (ShadingTree.adds_vector .zero).bind fun position hp =>
    (ShadingTree.adds_vector .negUnitY).bind fun direction hd =>
    (ShadingTree.adds_color .one).bind fun intensity hi =>
      .pure (expresses_of_sampling ?_ (by simpa [textureProperties] using hi.2))).congr (by simp)
  have hc := plain_floatLiteral (toRadians cutoff)
  have hf := plain_floatLiteral (toRadians falloff)
  exact sampling_callText "make_spot_light("
    [position, direction, Program.floatLiteral (toRadians cutoff),
      Program.floatLiteral (toRadians falloff), intensity] (by decide) (by decide)
    (by simp [hp.no_b, hd.no_b, hc.no_b, hf.no_b, hi.1.no_b])
    (by simp [textureProperties, hp.samples, hd.samples, hc.samples, hf.samples, hi.1.samples])

theorem adds_directional (restricted : Bool) :
    Adds (directional.expr c o restricted) (NamedBy c o ["irradiance"])
      (Expresses c o restricted directional) := by
  refine ((ShadingTree.adds_vector .negUnitY).bind fun direction hd =>
    (ShadingTree.adds_color .one).bind fun irradiance hi =>
      .pure (expresses_of_sampling ?_ (by simpa [textureProperties] using hi.2))).congr (by simp)
  exact sampling_callText "make_directional_light(" [direction, irradiance] (by decide) (by decide)
    (by simp [hd.no_b, hi.1.no_b]) (by simp [textureProperties, hd.samples, hi.1.samples])

theorem adds_area_restricted :
    Adds (area.expr c o true) (NamedBy c o []) (Expresses c o true area) := by
  refine (Adds.pure (expresses_of_sampling ?_ (by simp [textureProperties]))).congr (by simp)
  exact sampling_callText "make_null_light(" [] (by decide) (by decide) (by simp)
    (by simp [textureProperties])

/-- The number of the entity stands in the expression of an area light, and samples
nothing. -/
theorem adds_area :
    Adds (area.expr c o false) (NamedBy c o ["radiance"]) (Expresses c o false area) := by
  refine (Adds.bind (.read (R := fun _ => True) (by simp)) fun index _ =>
    (ShadingTree.adds_color (c := c) (o := o) .one).bind fun radiance color =>
      .pure (Expresses.mk ⟨fun b => ?_, ?_⟩ fun _ => ⟨rfl, rfl⟩)).congr (by simp)
  · have digits : ¬ Samples index.repr b :=
      Samples.not_of_not_mem (Text.not_mem_toString_nat (by decide) index)
    have call : Samples (Program.callText "make_area_light(dtb, " [index.repr, radiance]) b
        ↔ Names c o "radiance" b := by
      rw [samples_callText (by decide)]
      simp [digits, color.1.samples]
    exact call.trans namedBy_singleton.symm
  · simpa [textureProperties] using color.2

theorem adds_env (restricted : Bool) :
    Adds (env.expr c o restricted) (NamedBy c o ["radiance"]) (Expresses c o restricted env) := by
  refine ((ShadingTree.adds_number (.ofInt 1)).bind fun scale hs =>
    Adds.bind (Q := Names c o "radiance") (ShadingTree.adds_textureColor .one)
      fun value read => ?_).congr (by simp)
  obtain ⟨named, resolves⟩ := read
  have resolves : ∀ property ∈ env.textureProperties restricted, Resolves c o property := by
    simpa [textureProperties] using resolves
  cases value with
  | texture buffer =>
    refine ((ShadingTree.adds_texture buffer).bind fun name made =>
      .pure (expresses_of_sampling ?_ resolves)).congr (by simp [named, eq_comm])
    subst made
    exact sampling_callText "make_environment_light_textured(" [ShadingTree.imageName buffer, scale]
      (by decide) (by decide) (by simp [hs.no_b, Samples.no_b_imageName])
      (by simp [textureProperties, hs.samples, named, Samples.imageName_iff, eq_comm])
  | color v =>
    refine (Adds.pure (expresses_of_sampling ?_ resolves)).congr (by simp [named])
    have hv := plain_colorLiteral v
    exact sampling_callText "make_environment_light(" [Program.colorLiteral v, scale]
      (by decide) (by decide) (by simp [hs.no_b, hv.no_b])
      (by simp [textureProperties, hs.samples, hv.samples, named])

theorem adds_constant (restricted : Bool) :
    Adds (constant.expr c o restricted) (NamedBy c o []) (Expresses c o restricted constant) := by
  refine (Adds.bind (.read (R := fun _ => True) (by simp)) fun radiance _ =>
    .pure (expresses_of_sampling ?_ (by simp [textureProperties]))).congr (by simp)
  have plain : Plain ("make_environment_light(" ++ Program.colorLiteral radiance ++ ", 1.0)") := by
    refine plain_of_not_mem ?_ ?_
    · have hx := Program.not_mem_colorLiteral (c := 'x') (by decide) (by decide) radiance
      simp only [String.toList_append, List.mem_append, not_or]
      exact ⟨⟨by decide, hx⟩, by decide⟩
    · have hb := Program.not_mem_colorLiteral (c := 'b') (by decide) (by decide) radiance
      simp only [String.toList_append, List.mem_append, not_or]
      exact ⟨⟨by decide, hb⟩, by decide⟩
  exact ⟨fun b => (plain.samples b).trans (iff_of_false id not_namedBy_nil), plain.no_b⟩

/-- The expression of every light samples the images of its textures. -/
theorem adds_expr (light : Light) (restricted : Bool) :
    Adds (light.expr c o restricted) (NamedBy c o (light.textureProperties restricted))
      (Expresses c o restricted light) := by
  cases light with
  | point => exact adds_point restricted
  | spot => exact adds_spot restricted
  | directional => exact adds_directional restricted
  | area =>
    cases restricted with
    | true => exact adds_area_restricted
    | false => exact adds_area
  | env => exact adds_env restricted
  | constant => exact adds_constant restricted

/-- The properties by which a light object names textures. -/
def propertiesOf (restricted : Bool) (o : Object) : List String :=
  (ofKind? o.kind).elim [] (textureProperties restricted)

theorem adds_ofObject (restricted : Bool) :
    Adds (ofObject c o restricted) (NamedBy c o (propertiesOf restricted o)) fun s =>
      ∃ light, ofKind? o.kind = some light ∧ light.Expresses c o restricted s := by
  unfold ofObject propertiesOf
  cases found : ofKind? o.kind with
  | none => exact .error _
  | some light =>
    exact (adds_expr light restricted).mono fun s expresses => ⟨light, rfl, expresses⟩

/-- The entry of a table is that of the light object of the same name. -/
structure IsEntry (c : Context) (restricted : Bool) (p : String × Object)
    (entry : String × String) : Prop where
  /-- The name. -/
  name_eq : entry.1 = p.1
  /-- The expression. -/
  expresses : ∃ light, ofKind? p.2.kind = some light ∧ light.Expresses c p.2 restricted entry.2

theorem adds_entries (restricted : Bool) (lights : List (String × Object)) :
    Adds (entries c restricted lights)
      (fun b => ∃ p ∈ lights, NamedBy c p.2 (propertiesOf restricted p.2) b)
      (List.Forall₂ (IsEntry c restricted) lights) := by
  induction lights with
  | nil => exact (Adds.pure .nil).congr (by simp)
  | cons p rest ih =>
    exact ((adds_ofObject restricted).bind fun s expresses => ih.bind fun more each =>
      .pure (.cons ⟨rfl, expresses⟩ each)).congr (by simp)

end Stock.Light

/-! ### Expressions of materials -/

namespace Stock.Material

/-- The properties by which a material names textures. -/
def textureProperties : Material → List String
  | diffuse => ["reflectance"]
  | dielectric => ["specular_reflectance", "specular_transmittance"]
  | conductor => ["specular_reflectance"]

theorem adds_diffuse :
    Adds (diffuse.expr c o) (NamedBy c o ["reflectance"]) (Expresses c o ["reflectance"]) := by
  refine ((ShadingTree.adds_color _).bind fun reflectance hr =>
    .pure (Expresses.mk (fun b => ?_) (by simpa using hr.2))).congr (by simp)
  have call : Samples (Program.callText "make_diffuse_bsdf(ctx.surf, " [reflectance]) b
      ↔ Names c o "reflectance" b := by
    rw [samples_callText (by decide)]
    simp [hr.1.samples]
  exact call.trans namedBy_singleton.symm

theorem adds_dielectric :
    Adds (dielectric.expr c o) (NamedBy c o ["specular_reflectance", "specular_transmittance"])
      (Expresses c o ["specular_reflectance", "specular_transmittance"]) := by
  simp only [expr, Stage.bind_eq]
  refine ((ShadingTree.adds_ior _).bind fun outer ho =>
    (ShadingTree.adds_ior _).bind fun inner hi =>
    (ShadingTree.adds_color (c := c) (o := o) .one).bind fun reflectance first =>
    (ShadingTree.adds_color (c := c) (o := o) .one).bind fun transmittance second =>
      .pure (Expresses.mk (fun b => ?_) ?_)).congr (by simp [NamedBy])
  · have call : Samples (Program.callText "make_glass_bsdf(ctx.surf, "
        [outer, inner, reflectance, transmittance]) b
        ↔ NamedBy c o ["specular_reflectance", "specular_transmittance"] b := by
      rw [samples_callText (by decide)]
      simp [ho.samples, hi.samples, first.1.samples, second.1.samples, NamedBy]
    exact call
  · simp only [List.forall_mem_cons]
    exact ⟨first.2, second.2, by simp⟩

theorem adds_conductor :
    Adds (conductor.expr c o) (NamedBy c o ["specular_reflectance"])
      (Expresses c o ["specular_reflectance"]) := by
  simp only [expr, Stage.bind_eq]
  refine (Adds.bind (.read (R := fun _ => True) (by simp)) fun eta _ =>
    Adds.bind (.read (R := fun _ => True) (by simp)) fun k _ =>
    (ShadingTree.adds_color .one).bind fun reflectance hr =>
      .pure (Expresses.mk (fun b => ?_) (by simpa using hr.2))).congr (by simp)
  have he := plain_colorLiteral eta
  have hk := plain_colorLiteral k
  have call : Samples (Program.callText "make_conductor_bsdf(ctx.surf, "
      [Program.colorLiteral eta, Program.colorLiteral k, reflectance]) b
      ↔ Names c o "specular_reflectance" b := by
    rw [samples_callText (by decide)]
    simp [he.samples, hk.samples, hr.1.samples]
  exact call.trans namedBy_singleton.symm

/-- The expression of every material samples the images of its textures. -/
theorem adds_expr (material : Material) :
    Adds (material.expr c o) (NamedBy c o material.textureProperties)
      (Expresses c o material.textureProperties) := by
  cases material with
  | diffuse => exact adds_diffuse
  | dielectric => exact adds_dielectric
  | conductor => exact adds_conductor

/-- The properties by which a material object names textures. -/
def propertiesOf (o : Object) : List String := (ofKind? o.kind).elim [] textureProperties

theorem adds_ofObject :
    Adds (ofObject c o) (NamedBy c o (propertiesOf o)) (Expresses c o (propertiesOf o)) := by
  unfold ofObject propertiesOf
  cases ofKind? o.kind with
  | none => exact .error _
  | some material => exact adds_expr material

end Stock.Material

end RayShader
