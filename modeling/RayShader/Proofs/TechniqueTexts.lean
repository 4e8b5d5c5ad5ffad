import RayShader.Proofs.Bindings
import RayShader.Proofs.Compilation
import RayShader.Proofs.Operations

/-!
# Texts of techniques

A technique is described when a scene is loaded, and its texts are made when programs are
generated. Both read the technique object of the scene, each for itself, so that they agree
is no matter of course.

The text of a technique and the line of a callback are given exactly by the parameters, and
the parameters are read from one object, whichever text they go to. The images that a text
loads are told by the quote that the name of an image stands behind: no parameter has one.
-/

namespace RayShader

namespace Stock

open Template
open RayShader.Technique (Info Moment VariantInfo)

variable {c : Context} {scene : Scene} {options : Options}

namespace Technique

/-! ### Exact texts -/

/-- The lines that make the additional images of traced paths. -/
def imageLines (normals : Bool) : String :=
  if normals then
    .join ["  let aov_normals = device.load_aov_image(\"Normals\", spp);\n",
      "  let aovs = @|id: i32| -> AOVImage \x7b if id == 1 \x7b aov_normals \x7d ",
      "else \x7b make_empty_aov_image(0, 0) \x7d \x7d;\n"]
  else "  let aovs = @|_id: i32| -> AOVImage \x7b make_empty_aov_image(0, 0) \x7d;\n"

/-- The text of traced paths. -/
def pathText (p : Parameters) : String :=
  .join [imageLines p.normals, "  let technique = make_path_renderer(", toString p.maxDepth,
    ", aovs, ", p.clamp, ");"]

/-- The text that shows one quantity of a surface. -/
def debugText (p : Parameters) : String :=
  .join ["  let debug_mode = ", toString p.modeIndex, " : i32; // ", p.mode,
    "\n  let technique = make_debug_renderer(debug_mode);"]

/-- The text that shows where lights are visible. -/
def lightVisibilityText (p : Parameters) : String :=
  .join ["  let technique = make_lv_renderer(", toString p.maxDepth, ");"]

/-- The text that traces photons. -/
def photonText (p : Parameters) : String :=
  .join ["  let ppm_radius = ", p.radius, ";\n",
    "  let technique = make_ppm_light_emitter_renderer(", toString p.maxDepth, ", ",
    toString p.photons, ", ppm_radius);"]

/-- The text that gathers photons. -/
def gatherText (p : Parameters) : String :=
  .join ["  let ppm_radius = ", p.radius, ";\n", "  let technique = make_ppm_path_renderer(",
    toString p.maxDepth, ", ppm_radius, device.load_photon_map());"]

/-- The text of a technique, given the number of its variant. -/
def text (variant : Nat) (p : Parameters) : Technique → String
  | path => pathText p
  | ambientOcclusion => "  let technique = make_ao_renderer();"
  | debug => debugText p
  | lightVisibility => lightVisibilityText p
  | photons => if variant = 0 then photonText p else gatherText p

theorem fill_photons (isBefore : Bool) (p : Parameters) :
    fill Template.Stock.photons (scope c isBefore p)
      = .ok (if c.selected = 0 then photonText p else gatherText p) := by
  have answer : (Test.isInt (.name "variant") 0).eval (scope c isBefore p)
      = .ok (decide (c.selected = 0)) :=
    congrArg Except.ok (decide_eq_decide.mpr Int.natCast_eq_zero)
  by_cases first : c.selected = 0
  · rw [decide_eq_true first] at answer
    rw [if_pos first]
    exact fill_nested ["  let ppm_radius = ", p.radius, ";\n"] [_, _, _, _]
      (.cons rfl <| .cons rfl <| .cons rfl <| .cons (renders_cond answer (renderAll_eq
        (.cons rfl <| .cons rfl <| .cons rfl <| .cons rfl <| .cons rfl .nil))) .nil)
      (by decide +kernel) (by decide)
  · rw [decide_eq_false first] at answer
    rw [if_neg first]
    exact fill_nested ["  let ppm_radius = ", p.radius, ";\n"] [_, _]
      (.cons rfl <| .cons rfl <| .cons rfl <| .cons (renders_cond answer (renderAll_eq
        (.cons rfl <| .cons rfl <| .cons rfl .nil))) .nil)
      (by decide +kernel) (by decide)

theorem fill_template (t : Technique) (isBefore : Bool) (p : Parameters) :
    fill t.template (scope c isBefore p) = .ok (t.text c.selected p) := by
  have line : Text.trimEnd ");\n" = ");" := by decide +kernel
  cases t with
  | path =>
    have images : Renders (scope c isBefore p) (.cond (.holds (.name "aov_normals"))
        [.text "  let aov_normals = device.load_aov_image(\"Normals\", spp);\n",
          .text "  let aovs = @|id: i32| -> AOVImage \x7b if id == 1 \x7b aov_normals \x7d ",
          .text "else \x7b make_empty_aov_image(0, 0) \x7d \x7d;\n"]
        [.text "  let aovs = @|_id: i32| -> AOVImage \x7b make_empty_aov_image(0, 0) \x7d;\n"])
        (imageLines p.normals) := by
      have answer : (Test.holds (.name "aov_normals")).eval (scope c isBefore p) = .ok p.normals := rfl
      exact renders_cond answer (by cases p.normals <;> rfl)
    show fill Template.Stock.path _ = .ok (pathText p)
    exact fill_eq [_, _, _, _, _] (.cons images <| .cons rfl <| .cons rfl <| .cons rfl <|
      .cons rfl <| .cons rfl .nil) line (by decide)
  | ambientOcclusion =>
    show fill Template.Stock.ambientOcclusion _ = .ok (.join ["  let technique = make_ao_renderer();"])
    exact fill_eq [] (.cons rfl .nil) (by decide +kernel) (by decide)
  | debug =>
    show fill Template.Stock.debug _ = .ok (debugText p)
    exact fill_eq [_, _, _, _] (.cons rfl <| .cons (renders_nat rfl) <| .cons rfl <| .cons rfl <|
      .cons rfl .nil) (by decide +kernel) (by decide)
  | lightVisibility =>
    show fill Template.Stock.lightVisibility _ = .ok (lightVisibilityText p)
    exact fill_eq [_, _] (.cons rfl <| .cons rfl <| .cons rfl .nil) line (by decide)
  | photons => exact fill_photons isBefore p

/-! ### Images that texts load -/

theorem not_mem_join {ch : Char} {parts : List String} (h : ∀ part ∈ parts, ch ∉ part.toList) :
    ch ∉ (String.join parts).toList := by
  rw [String.toList_join, List.mem_flatMap]
  rintro ⟨part, mem, inside⟩
  exact h part mem inside

/-- The text loads the additional image of the name. -/
def LoadsImage (name text : String) : Prop :=
  ("device.load_aov_image(\"" ++ name ++ "\"").toList <:+: text.toList

/-- Only the text of traced paths with normals has a quote in it. -/
theorem normals_of_quote_mem {t : Technique} {o : Object} {p : Parameters} {variant : Nat}
    (h : t.parameters o = .ok p) (quote : '"' ∈ (t.text variant p).toList) :
    t = path ∧ p.normals = true := by
  obtain ⟨clamp, mode, radius⟩ := not_mem_parameters '"' (by decide) (by decide) (by decide) h
  have nat (n : Nat) : '"' ∉ (toString n).toList := Text.not_mem_toString_nat (by decide) n
  have int (n : Int) : '"' ∉ (toString n).toList :=
    Text.not_mem_toString_int (by decide) (by decide) n
  cases t with
  | path =>
    refine ⟨rfl, ?_⟩
    by_contra other
    have images : '"' ∉ (imageLines p.normals).toList := by
      rw [eq_false_of_ne_true other]
      decide
    refine not_mem_join ?_ quote
    simp only [List.forall_mem_cons]
    exact ⟨images, by decide, int _, by decide, clamp, by decide, nofun⟩
  | ambientOcclusion =>
    have line : '"' ∉ "  let technique = make_ao_renderer();".toList := by decide
    exact absurd quote line
  | debug =>
    refine absurd quote (not_mem_join ?_)
    simp only [List.forall_mem_cons]
    exact ⟨by decide, nat _, by decide, mode, by decide, nofun⟩
  | lightVisibility =>
    refine absurd quote (not_mem_join ?_)
    simp only [List.forall_mem_cons]
    exact ⟨by decide, int _, by decide, nofun⟩
  | photons =>
    have emitter : '"' ∉ (photonText p).toList := by
      refine not_mem_join ?_
      simp only [List.forall_mem_cons]
      exact ⟨by decide, radius, by decide, by decide, int _, by decide, int _, by decide, nofun⟩
    have gatherer : '"' ∉ (gatherText p).toList := by
      refine not_mem_join ?_
      simp only [List.forall_mem_cons]
      exact ⟨by decide, radius, by decide, by decide, int _, by decide, nofun⟩
    rw [text] at quote
    split at quote
    · exact absurd quote emitter
    · exact absurd quote gatherer

/-- Of all texts of techniques only that of traced paths with normals loads the image of the
normals. -/
theorem loadsImage_text {t : Technique} {o : Object} {p : Parameters} (h : t.parameters o = .ok p)
    (variant : Nat) : LoadsImage "Normals" (t.text variant p) ↔ t = path ∧ p.normals = true := by
  constructor
  · intro loads
    -- the name of the image stands behind a quote
    exact normals_of_quote_mem h (loads.mem (by decide))
  · rintro ⟨rfl, normals⟩
    have line : "device.load_aov_image(\"Normals\"".toList
        <:+: "  let aov_normals = device.load_aov_image(\"Normals\", spp);\n".toList :=
      ⟨"  let aov_normals = ".toList, ", spp);\n".toList, by decide +kernel⟩
    have images : "device.load_aov_image(\"Normals\"".toList <:+: (imageLines true).toList := by
      rw [imageLines, if_pos rfl, String.join_cons, String.toList_append]
      exact line.trans (List.prefix_append _ _).isInfix
    refine images.trans ?_
    rw [text, pathText, normals, String.join_cons, String.toList_append]
    exact (List.prefix_append _ _).isInfix

/-! ### From descriptions to texts -/

theorem ofContext_eq {t : Technique} (found : ofKind? c.techniqueKind = some t) :
    ofContext c = (t.parameters (object c)).map (t, ·) := by
  rw [ofContext, found]
  show (t.parameters (object c)).bind (fun p => .ok (t, p)) = _
  cases t.parameters (object c) with
  | error e => rfl
  | ok p => rfl

theorem ofContext_eq_ok {t : Technique} {p : Parameters} :
    ofContext c = .ok (t, p) ↔
      ofKind? c.techniqueKind = some t ∧ t.parameters (object c) = .ok p := by
  cases found : ofKind? c.techniqueKind with
  | none => simp [ofContext, found]
  | some u =>
    rw [ofContext_eq found]
    cases read : u.parameters (object c) with
    | error e =>
      simp only [Except.map, reduceCtorEq, Option.some.injEq, false_iff, not_and]
      rintro rfl
      rw [read]
      nofun
    | ok q =>
      simp only [Except.map, Except.ok.injEq, Prod.mk.injEq, Option.some.injEq]
      refine and_congr_right ?_
      rintro rfl
      rw [read, Except.ok.injEq]

/-- The object with the parameters asks for an image of the normals if and only if the
technique object of the scene does. -/
theorem bool_object : (object c).bool "aov_normals" false = wantsNormals c.scene c.techniqueKind := by
  unfold object wantsNormals
  cases c.scene.techniqueOfKind? c.techniqueKind with
  | some o => rfl
  | none => rfl

/-- The description has an image of the normals if and only if traced paths read that there
is one. -/
theorem mem_aovs {t : Technique} {info : Info} {p : Parameters}
    (found : ofKind? c.techniqueKind = some t) (described : t.info c.scene = .ok info)
    (read : t.parameters (object c) = .ok p) :
    "Normals" ∈ info.aovs ↔ t = path ∧ p.normals = true := by
  cases t with
  | path =>
    have kind : c.techniqueKind = path.kind := (find?_kind_eq_some found).symm
    obtain ⟨normals, wanted, made⟩ := except_bind_eq_ok.mp described
    obtain ⟨depth, -, read⟩ := except_bind_eq_ok.mp read
    obtain ⟨clamp, -, read⟩ := except_bind_eq_ok.mp read
    obtain ⟨normals', asked, read⟩ := except_bind_eq_ok.mp read
    rw [bool_object, kind, wanted] at asked
    obtain rfl := Except.ok.inj asked
    obtain rfl := Except.ok.inj made
    obtain rfl := Except.ok.inj read
    cases normals with
    | true => simp
    | false => simp
  | ambientOcclusion | debug | lightVisibility | photons =>
    obtain rfl := Except.ok.inj described
    simp [Info.single]

end Technique

theorem technique_eq_ok {text : String} : technique c = .ok text ↔
    ∃ t p, Technique.ofContext c = .ok (t, p) ∧ text = t.text c.selected p := by
  unfold technique
  rw [except_bind_eq_ok]
  simp only [Technique.fill_template, Except.ok.injEq, Prod.exists]
  exact exists₂_congr fun _ _ => and_congr_right fun _ => eq_comm

/-! ### Agreement -/

/-- The parameters that photon maps read. -/
def Technique.photonParameters (c : Context) : Except Error Technique.Parameters :=
  Technique.photons.parameters (Technique.object c)

/-- The description of the technique of a context and the texts of its programs agree. -/
structure TextsAgree (c : Context) : Prop where
  /-- The image of the normals is described if and only if it is loaded. -/
  normals : ∀ text, technique c = .ok text →
    ("Normals" ∈ c.technique.aovs ↔ Technique.LoadsImage "Normals" text)
  /-- The selected variant is there, and the preamble is made of its description. -/
  preamble : ∃ v, c.technique.variants[c.selected]? = some v ∧ ∀ rayGeneration,
    header c rayGeneration = .ok (preambleText c.techniqueKind c.selected v.primaryPayload.toNat
        v.secondaryPayload.toNat
      ++ if rayGeneration then initializerText (v.payloadInitializer.getD Technique.emptyPayload)
        else "")
  /-- Where the technique has a text, every callback that is described has one. -/
  callbacks : ∀ text v m, technique c = .ok text → c.technique.variants[c.selected]? = some v →
    v.hasCallback m = true → ∃ lines, callback c m = .ok lines
  /-- For photon maps, both texts and both callbacks are made of one reading of the
  parameters. -/
  photons : c.techniqueKind = Technique.photons.kind →
    c.technique.variants = [Technique.photonVariant, Technique.gatherVariant] ∧
      (c.selected = 0 → technique c = (Technique.photonParameters c).map Technique.photonText) ∧
      (c.selected = 1 → technique c = (Technique.photonParameters c).map Technique.gatherText) ∧
      callback c .before
        = (Technique.photonParameters c).map (fun p => callbackLine .before (toString p.photons)) ∧
      callback c .after = (Technique.photonParameters c).map (fun p => callbackLine .after p.radius)

theorem variants_ne_nil {t : Technique} {info : Info} (h : t.info scene = .ok info) :
    info.variants ≠ [] := by
  cases t with
  | path =>
    obtain ⟨normals, -, made⟩ := except_bind_eq_ok.mp h
    obtain rfl := Except.ok.inj made
    exact List.cons_ne_nil _ _
  | ambientOcclusion | debug | lightVisibility | photons =>
    obtain rfl := Except.ok.inj h
    exact List.cons_ne_nil _ _

theorem ofKind?_photons (kind : c.techniqueKind = Technique.photons.kind) :
    Technique.ofKind? c.techniqueKind = some .photons := by
  rw [kind]
  decide +kernel

theorem technique_photons (kind : c.techniqueKind = Technique.photons.kind) :
    technique c = (Technique.photonParameters c).map fun p =>
      if c.selected = 0 then Technique.photonText p else Technique.gatherText p := by
  rw [technique, Technique.ofContext_eq (ofKind?_photons kind), Technique.photonParameters]
  cases Technique.photons.parameters (Technique.object c) with
  | error e => rfl
  | ok p => exact Technique.fill_template .photons false p

theorem callback_photons (kind : c.techniqueKind = Technique.photons.kind) (m : Moment) :
    callback c m
      = (Technique.photonParameters c).map fun p => callbackLine m (p.callbackArgument m) := by
  rw [callback, if_neg (by simpa using kind), Technique.ofContext_eq (ofKind?_photons kind),
    Technique.photonParameters]
  cases Technique.photons.parameters (Technique.object c) with
  | error e => rfl
  | ok p => exact fill_callback c m p

/-- A context whose technique is described by its scene and whose selection is in range has
texts that agree with the description. -/
theorem textsAgree_of_described
    (described : (describe c.techniqueKind c.scene).result = .ok c.technique)
    (inRange : c.InRange) : TextsAgree c := by
  obtain ⟨t, found, info⟩ := describe_ok described
  refine ⟨fun text made => ?_, ?_, fun text v m made hv hm => ?_, fun kind => ?_⟩
  · obtain ⟨u, p, chosen, rfl⟩ := technique_eq_ok.mp made
    obtain ⟨foundAgain, read⟩ := Technique.ofContext_eq_ok.mp chosen
    obtain rfl : t = u := Option.some.inj (found.symm.trans foundAgain)
    rw [Technique.mem_aovs found info read, Technique.loadsImage_text read]
  · obtain ⟨v, hv⟩ := Context.variant_of_inRange inRange (variants_ne_nil info)
    exact ⟨v, hv, header_eq (by rw [Context.variant, hv])⟩
  · obtain ⟨u, p, chosen, -⟩ := technique_eq_ok.mp made
    obtain rfl : t = .photons :=
      Technique.eq_photons info (List.mem_of_getElem? hv) hm
    have kind : c.techniqueKind = Technique.photons.kind := (find?_kind_eq_some found).symm
    exact ⟨_, callback_eq_ok.mpr ⟨kind, u, p, chosen, rfl⟩⟩
  · obtain rfl : t = .photons := Option.some.inj (found.symm.trans (ofKind?_photons kind))
    have variants : c.technique.variants = [Technique.photonVariant, Technique.gatherVariant] := by
      rw [← Except.ok.inj info]
    refine ⟨variants, fun first => ?_, fun second => ?_, callback_photons kind .before,
      callback_photons kind .after⟩
    · rw [technique_photons kind, first]
      rfl
    · rw [technique_photons kind, second]
      rfl

/-- **Descriptions and texts of techniques agree.** Whatever the scene and the options are,
and whatever was done with the context since the scene was loaded: the description has the
image of the normals if and only if the text of the technique loads it; the preamble of
every program has the components and the initializer of the selected variant; a variant
with a text has every callback that it describes; and the count and the radius of photon
maps are the same in texts and callbacks. -/
theorem texts_agree {c₀ : Context}
    (loaded : (Context.load describe scene options).result = .ok c₀)
    (ops : List Context.Operation) (reached : c₀.after ops = c) : TextsAgree c := by
  have hc := Context.load_ok loaded
  have sound := Context.load_sound (hc.techniqueKind_eq ▸ hc.described) loaded
  obtain ⟨agrees, inRange⟩ := Context.agrees_after ops sound.inRange
  rw [reached] at agrees inRange
  refine textsAgree_of_described ?_ inRange
  rw [Context.Agrees] at agrees
  rw [agrees]
  show (describe c₀.techniqueKind c₀.scene).result = .ok c₀.technique
  rw [hc.scene_eq]
  exact hc.described

/-- A scene that gathers photons within half a unit. -/
def photonScene : Scene :=
  Scene.empty.setTechnique (((Object.ofKind "ppm").withProperty "radius" (.number (decimal 5 (-1)))
    ).withProperty "photons" (.integer 7))

/-- The text of the technique that gathers the photons of the scene. -/
def photonSceneText : String :=
  .join ["  let ppm_radius = 0.5;\n",
    "  let technique = make_ppm_path_renderer(8, ppm_radius, device.load_photon_map());"]

theorem photonScene_text :
    ((Context.load describe photonScene .standard).result.map fun c₀ =>
      technique (c₀.after [.select 1])) = .ok (.ok photonSceneText) := by
  decide +kernel

theorem photonScene_texts_agree :
    ∃ c₀ c, (Context.load describe photonScene .standard).result = .ok c₀ ∧
      c₀.after [.select 1] = c ∧ TextsAgree c ∧ technique c = .ok photonSceneText ∧
      "Normals" ∉ c.technique.aovs := by
  have made : (Context.load describe photonScene .standard).result.isOk = true := by decide +kernel
  obtain ⟨c₀, loaded⟩ := exists_of_isOk made
  have agree := texts_agree loaded [.select 1] rfl
  have text := photonScene_text
  rw [loaded] at text
  have shown : technique (c₀.after [.select 1]) = .ok photonSceneText := Except.ok.inj text
  have unloaded : ¬ Technique.LoadsImage "Normals" photonSceneText := by
    unfold Technique.LoadsImage
    decide +kernel
  refine ⟨c₀, _, loaded, rfl, agree, shown, ?_⟩
  rw [agree.normals _ shown]
  exact unloaded

end Stock

end RayShader
