import RayShader.Proofs.Bindings
import RayShader.Proofs.DistinctPrograms
import Mathlib.Data.List.Perm.Basic

/-!
# Layouts of programs

Every program of the stock emitters is laid out in the same way: the opening, the lines
for lights, the count of samples, what belongs to the kind of shader alone, the technique
or the callback, and the lines that close the body (`Generation.Laid`).

A body binds words and numbered names (`Splits`). The words come in the order of one list
(`Generation.frontWords`, then those of the closing lines), whatever the shader, the
technique and the camera, so none comes twice. The numbered names are those of images,
lights and the bsdf; an image is declared once because the contributions of a program
share its shading tree.
-/

namespace RayShader

open Program (Lets Fragment boundName? boundNames indent)
open Technique (Moment VariantInfo)
open Text (lines IsLine isWord)

/-! ### Words and numbered names -/

/-- The name ends with a digit. -/
def isNumbered (name : String) : Bool := name.toList.getLast?.any Char.isDigit

/-- The names are words and numbered names, each from a list and in its order. -/
structure Splits (names words numbered : List String) : Prop where
  /-- The words. -/
  words : (names.filter fun name => !isNumbered name).Sublist words
  /-- The numbered names. -/
  numbered : (names.filter isNumbered).Sublist numbered

namespace Splits

variable {names names' words words' numbered numbered' : List String} {name : String}

theorem nil : Splits [] words numbered := ⟨List.nil_sublist _, List.nil_sublist _⟩

theorem append (h : Splits names words numbered) (h' : Splits names' words' numbered') :
    Splits (names ++ names') (words ++ words') (numbered ++ numbered') := by
  constructor
  · rw [List.filter_append]
    exact h.words.append h'.words
  · rw [List.filter_append]
    exact h.numbered.append h'.numbered

theorem mono (h : Splits names words numbered) (hw : words.Sublist words') :
    Splits names words' numbered := ⟨h.words.trans hw, h.numbered⟩

/-- Words from a list of words. -/
theorem ofWords (h : names.Sublist words) (none : words.all fun name => !isNumbered name) :
    Splits names words [] := by
  have plain : ∀ name ∈ names, (!isNumbered name) = true :=
    fun name mem => List.all_eq_true.mp none name (h.subset mem)
  constructor
  · rwa [List.filter_eq_self.mpr plain]
  · rw [List.filter_eq_nil_iff.mpr fun name mem => by simpa using plain name mem]

/-- All words of a list. -/
theorem self (none : words.all fun name => !isNumbered name) : Splits words words [] :=
  ofWords (List.Sublist.refl _) none

theorem ofNumbered (h : ∀ name ∈ names, isNumbered name = true) : Splits names [] names := by
  constructor
  · rw [List.filter_eq_nil_iff.mpr fun name mem => by simp [h name mem]]
  · exact List.filter_sublist

/-- No name comes twice where no word and no numbered name does. -/
theorem nodup (h : Splits names words numbered) (hw : words.Nodup) (hn : numbered.Nodup) :
    names.Nodup := by
  rw [← (List.filter_append_perm isNumbered names).nodup_iff]
  refine List.nodup_append.mpr ⟨h.numbered.nodup hn, h.words.nodup hw, fun a ha b hb same => ?_⟩
  have first := (List.mem_filter.mp ha).2
  have second := (List.mem_filter.mp hb).2
  simp [← same, first] at second

theorem mem_words (h : Splits names words numbered) (mem : name ∈ names)
    (word : isNumbered name = false) : name ∈ words :=
  h.words.subset (List.mem_filter.mpr ⟨mem, by simp [word]⟩)

end Splits

theorem isNumbered_append (stem : String) (n : Nat) : isNumbered (stem ++ toString n) = true := by
  have nonempty : (toString n).toList ≠ [] := by
    rw [Text.toList_toString_nat]
    exact Nat.toDigits_ne_nil
  have digit : ((toString n).toList.getLast nonempty).isDigit = true :=
    Text.isDigit_of_mem_toString_nat (List.getLast_mem nonempty)
  rw [isNumbered, String.toList_append, List.getLast?_append, List.getLast?_eq_some_getLast nonempty,
    Option.some_or, Option.any_some, digit]

/-- Numbered names with stems that begin differently differ. -/
theorem numbered_ne {stem stem' : String} (h : stem.toList.head? ≠ stem'.toList.head?)
    (hs : stem.toList ≠ []) (hs' : stem'.toList ≠ []) (m n : Nat) :
    stem ++ toString m ≠ stem' ++ toString n := by
  intro same
  apply h
  have first := congrArg (fun s => s.toList.head?) same
  obtain ⟨c, cs, stem_eq⟩ := List.exists_cons_of_ne_nil hs
  obtain ⟨d, ds, stem'_eq⟩ := List.exists_cons_of_ne_nil hs'
  simpa only [String.toList_append, stem_eq, stem'_eq, List.cons_append, List.head?_cons] using first

/-- The numbered names of a program are distinct if no image is declared twice. -/
theorem nodup_numbered {images images' : List Nat} (h : (images ++ images').Nodup)
    (count group : Nat) :
    (images.map ShadingTree.imageName ++ (List.range count).map Stock.lightName
      ++ (images'.map ShadingTree.imageName ++ [Stock.bsdfName group])).Nodup := by
  obtain ⟨first, second, apart⟩ := List.nodup_append.mp h
  have names {bs : List Nat} (hb : bs.Nodup) : (bs.map ShadingTree.imageName).Nodup :=
    hb.map fun _ _ => Samples.imageName_inj
  have lights : ((List.range count).map Stock.lightName).Nodup :=
    List.nodup_range.map fun m n same =>
      Text.toString_nat_inj ((String.append_right_inj "light_").mp same)
  have image_light (b i : Nat) : ShadingTree.imageName b ≠ Stock.lightName i :=
    numbered_ne (by decide) (by decide) (by decide) b i
  have image_bsdf (b : Nat) : ShadingTree.imageName b ≠ Stock.bsdfName group :=
    numbered_ne (by decide) (by decide) (by decide) b group
  have light_bsdf (i : Nat) : Stock.lightName i ≠ Stock.bsdfName group :=
    numbered_ne (by decide) (by decide) (by decide) i group
  simp only [List.nodup_append, List.mem_append, List.mem_map, List.mem_singleton]
  refine ⟨⟨names first, lights, ?_⟩, ⟨names second, List.nodup_singleton _, ?_⟩, ?_⟩
  · rintro _ ⟨b, -, rfl⟩ _ ⟨i, -, rfl⟩
    exact image_light b i
  · rintro _ ⟨b, -, rfl⟩ _ rfl
    exact image_bsdf b
  · rintro _ (⟨b, hb, rfl⟩ | ⟨i, -, rfl⟩) _ (⟨b', hb', rfl⟩ | rfl)
    · exact fun same => apart b hb b' hb' (Samples.imageName_inj same)
    · exact image_bsdf b
    · exact (image_light b' i).symm
    · exact light_bsdf i

/-! ### Lights and materials -/

/-- The names of lights and bsdfs have no breaks. -/
structure Scene.HasUnbrokenNames (scene : Scene) : Prop where
  /-- The names of lights. -/
  lights : ∀ name ∈ scene.lights.names, IsLine name
  /-- The names of bsdfs. -/
  bsdfs : ∀ name ∈ scene.bsdfs.names, IsLine name

namespace Stock

variable {c : Context} {t u : ShadingTree}

/-- Names that are numbered behind a stem. -/
theorem splits_map (stem : String) (name : Nat → String) (h : ∀ n, name n = stem ++ toString n)
    (numbers : List Nat) : Splits (numbers.map name) [] (numbers.map name) := by
  apply Splits.ofNumbered
  intro s mem
  obtain ⟨n, -, rfl⟩ := List.mem_map.mp mem
  rw [h n]
  exact isNumbered_append stem n

theorem splits_images (buffers : List Nat) :
    Splits (buffers.map ShadingTree.imageName) [] (buffers.map ShadingTree.imageName) :=
  splits_map "tex_" ShadingTree.imageName (fun _ => rfl) buffers

end Stock

namespace Contribution

variable {c : Context} {s : Contribution}

theorem IsTable.isLine_name (unbroken : c.scene.HasUnbrokenNames) {restricted : Bool}
    (h : s.IsTable c restricted) : ∀ m ∈ s.emissions, IsLine m.name := by
  intro m hm
  have listed : (m.name, m.object, m.properties)
      ∈ s.emissions.map fun m => (m.name, m.object, m.properties) := List.mem_map_of_mem hm
  rw [h.emitted] at listed
  obtain ⟨p, hp, same⟩ := List.mem_map.mp listed
  rw [← (Prod.mk.inj same).1]
  exact unbroken.lights p.1 (List.mem_map_of_mem hp)

theorem IsTable.isLine_expr {restricted : Bool} (h : s.IsTable c restricted) :
    ∀ m ∈ s.emissions, IsLine m.expr := by
  intro m mem
  obtain ⟨t, u, made⟩ := h.made
  exact Stock.Light.gives_entries _ _ _ _ _ made (m.name, m.expr) (List.mem_map.mpr ⟨m, mem, rfl⟩)

/-- The table of lights binds its images, its lights and itself. -/
theorem IsTable.binds (unbroken : c.scene.HasUnbrokenNames) {restricted : Bool}
    (h : s.IsTable c restricted) : ∃ ns count, Lets (lines s.text) ns ∧
      Splits ns ["num_lights", "lights", "light_selector"]
        (s.declared.map ShadingTree.imageName ++ (List.range count).map Stock.lightName) := by
  have unbroken_entries : ∀ entry ∈ s.emissions.map fun m => (m.name, m.expr),
      IsLine entry.1 ∧ IsLine entry.2 := by
    intro entry mem
    obtain ⟨m, hm, rfl⟩ := List.mem_map.mp mem
    exact ⟨h.isLine_name unbroken m hm, h.isLine_expr m hm⟩
  have binds := Stock.lightTable_binds s.declared unbroken_entries
  rw [← h.text_eq, List.length_map] at binds
  refine ⟨_, s.emissions.length, binds, ?_⟩
  have numbers :=
    Stock.splits_map "light_" Stock.lightName (fun _ => rfl) (List.range s.emissions.length)
  have table : Splits ["num_lights", "lights", "light_selector"] _ [] :=
    .self (by decide)
  simpa only [List.nil_append, List.append_nil] using
    (Stock.splits_images s.declared).append (numbers.append table)

theorem IsMaterial.isLine_name (unbroken : c.scene.HasUnbrokenNames) {group : Nat}
    (h : s.IsMaterial c group) : ∀ m ∈ s.emissions, IsLine m.name := by
  obtain ⟨m, single, stands, -⟩ := h.emitted
  simp only [single, List.mem_singleton, forall_eq]
  exact unbroken.bsdfs m.name (List.mem_map_of_mem (List.mem_of_getElem? stands))

/-- The material of a hit group binds its images, the bsdf and the shader. -/
theorem IsMaterial.binds (unbroken : c.scene.HasUnbrokenNames) {group : Nat}
    (h : s.IsMaterial c group) : ∃ ns, Lets (lines s.text) ns ∧ "shader" ∈ ns ∧
      Splits ns ["shader"] (s.declared.map ShadingTree.imageName ++ [Stock.bsdfName group]) := by
  obtain ⟨m, single, -, -, ⟨t, u, made⟩, text⟩ := h.emitted
  have named : IsLine m.name := h.isLine_name unbroken m (by simp [single])
  have expr : IsLine m.expr := Stock.Material.gives_ofObject t u m.expr made
  refine ⟨_, text ▸ Stock.materialBlock_binds s.declared group named expr, by simp, ?_⟩
  have bsdf := Stock.splits_map "bsdf_" Stock.bsdfName (fun _ => rfl) [group]
  have shader : Splits ["shader"] ["shader"] [] := .self (by decide)
  simpa only [List.nil_append, List.append_nil, List.map_cons, List.map_nil, List.cons_append] using
    (Stock.splits_images s.declared).append (bsdf.append shader)

end Contribution

/-! ### The parts of programs -/

namespace Generation

variable {c : Context} {v : VariantInfo} {kind : ShaderKind} {p : Program} {t t' u : ShadingTree}

/-- The technique, or the callback in place of it. -/
def mainText (c : Context) : ShaderKind → Except Error String
  | .callback m => Stock.callback c m
  | _ => Stock.technique c

/-- What the body of a program has between its fixed lines. -/
structure Parts where
  /-- The database and the table of lights. -/
  lights : List Fragment
  /-- The emitter or the material. -/
  own : List Fragment
  /-- The technique or the callback. -/
  main : String

/-- The body up to the technique. -/
def Parts.front (b : Parts) (c : Context) : List Fragment :=
  opening .stock c ++ (b.lights ++ samplesBinding c :: (b.own ++ [.source b.main, .blank]))

/-- The words that the lines for lights may bind, in order. -/
def lightWords : List String := ["dtb", "scene_info"] ++ ["num_lights", "lights", "light_selector"]

/-- The words that emitters and materials may bind, in order. -/
def ownWords : List String := Stock.Camera.names ++ ["emitter", "material_id", "shader"]

/-- The words that techniques and callbacks may bind, in order. -/
def mainWords : List String := Stock.Technique.names ++ ["callback"]

/-- The words that a body may bind up to the technique, in order. -/
def frontWords : List String := ["device"] ++ (lightWords ++ (["spp"] ++ (ownWords ++ mainWords)))

/-- What the technique or the callback binds. -/
def mainWord : ShaderKind → String
  | .callback _ => "callback"
  | _ => "technique"

/-- The words that the emitter or the material binds. -/
def ownBound : ShaderKind → List String
  | .rayGeneration => ["emitter"]
  | .hit _ => ["material_id", "shader"]
  | _ => []

/-- The program is made of the parts, which bind words and numbered names. -/
structure Laid (c : Context) (v : VariantInfo) (kind : ShaderKind) (p : Program) (b : Parts) :
    Prop extends Formed c kind v p where
  /-- The signature. -/
  entry_eq : p.entry = entryOf kind
  /-- The body. -/
  body_eq : p.body = b.front c ++ closing v kind
  /-- The call at the end. -/
  result_eq : p.result = .forward "device" (dispatch kind).1 (dispatch kind).2
  /-- The technique or the callback. -/
  main_eq : mainText c kind = .ok b.main
  /-- The names. -/
  names : ∃ ns numbered, Lets ((b.front c).flatMap Fragment.lines) ns ∧
    Splits ns frontWords numbered ∧ numbered.Nodup ∧
    ∀ name ∈ ["device", "spp", mainWord kind] ++ ownBound kind, name ∈ ns

theorem opening_binds (c : Context) : Lets ((opening .stock c).flatMap Fragment.lines) ["device"] := by
  have statement : Lets (Fragment.statement (.free "maybe_unused" [.ident "settings"])).lines [] := by
    have line : (Fragment.statement (.free "maybe_unused" [.ident "settings"])).lines
        = ["  maybe_unused(settings);"] := by decide
    rw [line]
    exact .other (.inr ⟨"maybe_unused(settings);", rfl⟩) rfl
  have blank : Lets Fragment.blank.lines [] := .blank
  have device : Lets (Fragment.inline (Emitters.stock.device c.target)).lines ["device"] :=
    Stock.device_binds c.target
  have all := statement.append (device.append blank)
  simpa only [opening, List.flatMap_cons, List.flatMap_nil, List.append_nil, List.nil_append] using all

/-- The type of whole numbers is a line. -/
theorem isLine_i32 : ∀ t ∈ some "i32", IsLine t := by
  simpa using (.literal rfl : IsLine "i32")

theorem samples_binds (c : Context) : Lets (samplesBinding c).lines ["spp"] :=
  .fragment rfl (Text.isLine_int c.samples) isLine_i32

/-- The words that the closing lines bind. -/
def closingNames : ShaderKind → List String
  | .rayGeneration | .callback _ => []
  | .miss | .hit _ => ["use_framebuffer"]
  | .shadowHit | .shadowMiss => ["is_hit", "use_framebuffer"]

theorem lines_framebuffer (v : VariantInfo) : (framebufferBinding v).lines
    = ["  let use_framebuffer = " ++ ((if v.locksFramebuffer then "false" else "true") ++ ";")] := by
  unfold framebufferBinding
  cases v.locksFramebuffer <;> decide

theorem lines_isHit (b : Bool) : (Fragment.binding "is_hit" (.bool b) none).lines
    = ["  let is_hit = " ++ ((if b then "true" else "false") ++ ";")] := by
  cases b <;> decide

theorem closing_binds (v : VariantInfo) (kind : ShaderKind) :
    Lets ((closing v kind).flatMap Fragment.lines) (closingNames kind) := by
  have framebuffer : Lets (framebufferBinding v).lines ["use_framebuffer"] := by
    rw [lines_framebuffer]
    cases v.locksFramebuffer <;> exact .binding_of_eq _ rfl rfl
  have hit (b : Bool) : Lets (Fragment.binding "is_hit" (.bool b) none).lines ["is_hit"] := by
    rw [lines_isHit]
    cases b <;> exact .binding_of_eq _ rfl rfl
  have single (f : Fragment) : [f].flatMap Fragment.lines = f.lines := List.flatMap_singleton ..
  have pair (f g : Fragment) : [f, g].flatMap Fragment.lines = f.lines ++ g.lines := by simp
  cases kind with
  | rayGeneration | callback => exact .nil
  | miss | hit => exact single _ ▸ framebuffer
  | shadowHit => exact pair _ _ ▸ (hit true).append framebuffer
  | shadowMiss => exact pair _ _ ▸ (hit false).append framebuffer

/-- What the parts of a body bind up to the technique. -/
theorem Parts.binds_front {b : Parts} {ns ns' ns'' numbered numbered' : List String} (c : Context)
    (lights : Lets (b.lights.flatMap Fragment.lines) ns) (hl : Splits ns lightWords numbered)
    (own : Lets (b.own.flatMap Fragment.lines) ns') (ho : Splits ns' ownWords numbered')
    (main : Lets (lines b.main) ns'') (hm : ns''.Sublist mainWords) :
    Lets ((b.front c).flatMap Fragment.lines) (["device"] ++ (ns ++ (["spp"] ++ (ns' ++ ns'')))) ∧
      Splits (["device"] ++ (ns ++ (["spp"] ++ (ns' ++ ns'')))) frontWords (numbered ++ numbered') := by
  constructor
  · have last : Lets ((Fragment.source b.main).lines ++ Fragment.blank.lines) (ns'' ++ []) :=
      main.append .blank
    rw [List.append_nil] at last
    have all := (opening_binds c).append (lights.append ((samples_binds c).append (own.append last)))
    simpa only [Parts.front, List.flatMap_append, List.flatMap_cons, List.flatMap_nil,
      List.append_nil] using all
  · have device : Splits ["device"] ["device"] [] := .self (by decide)
    have spp : Splits ["spp"] ["spp"] [] := .self (by decide)
    have all := device.append (hl.append (spp.append (ho.append (.ofWords hm (by decide)))))
    simpa only [frontWords, List.nil_append, List.append_nil] using all

theorem mainText_binds {main : String} (h : mainText c kind = .ok main) :
    ∃ ns, Lets (lines main) ns ∧ ns.Sublist mainWords ∧ mainWord kind ∈ ns := by
  have technique (h : Stock.technique c = .ok main) :
      ∃ ns, Lets (lines main) ns ∧ ns.Sublist mainWords ∧ "technique" ∈ ns := by
    obtain ⟨ns, binds, known, technique⟩ := Stock.technique_binds h
    exact ⟨ns, binds, known.trans (List.sublist_append_left ..), technique⟩
  cases kind with
  | callback m => exact ⟨_, Stock.callback_binds h, by decide, List.mem_singleton_self _⟩
  | rayGeneration | miss | hit | shadowHit | shadowMiss => exact technique h

/-- A program is laid out as its parts are. -/
theorem laid_of_parts {b : Parts} {ns ns' numbered numbered' : List String} (formed : Formed c kind v p)
    (entry : p.entry = entryOf kind) (body : p.body = b.front c ++ closing v kind)
    (result : p.result = .forward "device" (dispatch kind).1 (dispatch kind).2)
    (main : mainText c kind = .ok b.main) (lights : Lets (b.lights.flatMap Fragment.lines) ns)
    (hl : Splits ns lightWords numbered) (own : Lets (b.own.flatMap Fragment.lines) ns')
    (ho : Splits ns' ownWords numbered') (distinct : (numbered ++ numbered').Nodup)
    (bound : ∀ name ∈ ownBound kind, name ∈ ns') : Laid c v kind p b := by
  obtain ⟨ns'', binds, known, mainBound⟩ := mainText_binds main
  obtain ⟨front, splits⟩ := b.binds_front c lights hl own ho binds known
  refine ⟨formed, entry, body, result, main, _, _, front, splits, distinct, fun name mem => ?_⟩
  simp only [List.cons_append, List.nil_append, List.mem_cons, List.mem_append] at mem ⊢
  rcases mem with rfl | rfl | rfl | mem
  · exact .inl rfl
  · exact .inr (.inr (.inl rfl))
  · exact .inr (.inr (.inr (.inr mainBound)))
  · exact .inr (.inr (.inr (.inl (bound name mem))))

/-! ### The parts of each program -/

/-- The lines for lights bind the database, if the program has it, and what the table binds. -/
theorem lightLines_bind (unbroken : c.scene.HasUnbrokenNames) {o : Outline}
    {table block : Option Contribution} (contributes : Contributes c v kind o table block) :
    ∃ ns count, Lets ((o.lightLines .stock v kind).flatMap Fragment.lines) ns ∧
      Splits ns lightWords ((Contribution.allDeclared table.toList).map ShadingTree.imageName
        ++ (List.range count).map Stock.lightName) := by
  have single (text : String) : [Fragment.source text].flatMap Fragment.lines = lines text :=
    List.flatMap_singleton ..
  obtain ⟨ns, first, words⟩ : ∃ ns, Lets ((if bindsDatabase v kind then
      [Fragment.source Emitters.stock.database] else []).flatMap Fragment.lines) ns ∧
      Splits ns ["dtb", "scene_info"] [] := by
    split
    · exact ⟨_, single _ ▸ Stock.database_binds, .self (by decide)⟩
    · exact ⟨[], .nil, .nil⟩
  rw [Outline.lightLines, contributes.lights_eq, List.flatMap_append]
  cases table with
  | none => exact ⟨ns ++ [], 0, first.append .nil, words.append .nil⟩
  | some s =>
    obtain ⟨ns', count, second, splits⟩ := contributes.isTable.binds unbroken
    refine ⟨ns ++ ns', count, first.append (single s.text ▸ second), ?_⟩
    simpa [Contribution.allDeclared, lightWords] using words.append splits

/-- The lines for the material bind the number of the hit group and what the material binds. -/
theorem materialLines_bind (unbroken : c.scene.HasUnbrokenNames) {o : Outline}
    {table block : Option Contribution} (contributes : Contributes c v kind o table block)
    (hk : shades kind = true) :
    ∃ ns group, Lets ((o.materialLines kind).flatMap Fragment.lines) ns ∧
      Splits ns ownWords ((Contribution.allDeclared block.toList).map ShadingTree.imageName
        ++ [Stock.bsdfName group]) ∧ ∀ name ∈ ownBound kind, name ∈ ns := by
  have texts := contributes.material_eq
  have isMaterial := contributes.block
  cases kind with
  | rayGeneration | callback => cases hk
  | miss | shadowHit | shadowMiss =>
    obtain rfl : block = none := isMaterial
    refine ⟨[], 0, ?_, .nil, by simp [ownBound]⟩
    rw [Outline.materialLines, texts]
    exact .nil
  | hit group =>
    obtain ⟨s, rfl, isMaterial⟩ := isMaterial
    obtain ⟨ns, binds, shader, splits⟩ := isMaterial.binds unbroken
    have number : Lets (materialBinding group).lines ["material_id"] :=
      .fragment rfl (Text.isLine_int _) isLine_i32
    refine ⟨["material_id"] ++ ns, group, ?_, ?_, by simp [ownBound, shader]⟩
    · have source : (Fragment.source s.text).lines = lines s.text := rfl
      rw [Outline.materialLines, texts]
      simpa [groupLines, source] using number.append binds
    · have own : Splits ["material_id"] ["material_id"] [] := .self (by decide)
      have all := own.append splits
      simpa [Contribution.allDeclared] using all.mono (by decide : List.Sublist _ ownWords)

/-- Programs for misses, hits and shadow rays are laid out as their outlines are. -/
theorem laid_of_outlined (unbroken : c.scene.HasUnbrokenNames) (formed : Formed c kind v p)
    (hk : shades kind = true) {o : Outline} (outlined : Outlined .stock c v kind .empty u t' o p) :
    ∃ b, Laid c v kind p b := by
  obtain ⟨table, block, contributes, chain, -⟩ := contributes_of_outlined rfl rfl outlined
  obtain ⟨ns, count, lights, hl⟩ := lightLines_bind unbroken contributes
  obtain ⟨ns', group, own, ho, bound⟩ := materialLines_bind unbroken contributes hk
  have images : (Contribution.allDeclared table.toList
      ++ Contribution.allDeclared block.toList).Nodup := by
    have all := chain.nodup
    rwa [Contribution.allDeclared, List.flatMap_append] at all
  have main : mainText c kind = .ok o.technique := by
    have answered := Stock.ok_of_orFault outlined.technique_eq
    cases kind with
    | callback => cases hk
    | rayGeneration | miss | hit | shadowHit | shadowMiss => exact answered
  exact ⟨⟨o.lightLines .stock v kind, o.materialLines kind, o.technique⟩,
    laid_of_parts formed outlined.entry_eq outlined.body_eq outlined.result_eq main lights hl own ho
      (nodup_numbered images count group) bound⟩

/-- The lines of an emitter bind words, and `emitter` among them. -/
theorem gives_emitterLines : (emitterLines .stock c).Gives fun fs =>
    ∃ ns, Lets (fs.flatMap Fragment.lines) ns ∧ ns.Sublist ownWords ∧ "emitter" ∈ ns := by
  unfold emitterLines
  split
  · refine .pure ⟨["emitter"], ?_, by decide, List.mem_singleton_self _⟩
    rw [List.flatMap_singleton]
    exact .fragment rfl (by decide) (by simp)
  · refine .bind (.bind (.any _) fun _ _ => .ofExcept _) fun camera answered => .pure ?_
    obtain ⟨ns, binds, known, -⟩ := Stock.camera_binds (Stock.ok_of_orFault answered)
    refine ⟨ns ++ ["emitter"], ?_, ?_, List.mem_append_right _ (List.mem_singleton_self _)⟩
    · rw [List.flatMap_cons, List.flatMap_singleton]
      exact binds.append (.fragment rfl (by decide) (by simp))
    · exact known.append (by decide : List.Sublist ["emitter"] ["emitter", "material_id", "shader"])

theorem laid_rayGeneration (formed : Formed c .rayGeneration v p)
    (built : (rayGeneration .stock c).step .empty = (t, .ok p)) : ∃ b, Laid c v .rayGeneration p b := by
  simp only [rayGeneration, Stage.bind_eq] at built
  obtain ⟨_, d, -, built⟩ := Stage.step_bind_eq_ok.mp built
  obtain ⟨_, preamble, -, built⟩ := Stage.step_bind_eq_ok.mp built
  obtain ⟨_, first, opened, built⟩ := Stage.step_bind_eq_ok.mp built
  have first_eq := (prologue_ok opened).2
  obtain ⟨_, emitter, asked, built⟩ := Stage.step_bind_eq_ok.mp built
  obtain ⟨ns, binds, known, bound⟩ := gives_emitterLines _ _ _ asked
  obtain ⟨_, ts, asked, built⟩ := Stage.step_bind_eq_ok.mp built
  obtain ⟨technique, answered, rfl⟩ := gives_techniqueLines _ _ _ asked
  obtain ⟨-, rfl⟩ := Stage.step_pure_eq_ok.mp built
  have noLights : Splits [] lightWords [] := .nil
  refine ⟨⟨[], emitter, technique⟩, laid_of_parts formed rfl ?_ rfl answered .nil noLights binds
    (.ofWords known (by decide)) List.nodup_nil (by simpa [ownBound] using bound)⟩
  simp [first_eq, Parts.front, closing]

theorem laid_callback {m : Moment} (formed : Formed c (.callback m) v p)
    (built : (callback .stock c m).step .empty = (t, .ok p)) : ∃ b, Laid c v (.callback m) p b := by
  simp only [callback, Stage.bind_eq] at built
  obtain ⟨_, d, -, built⟩ := Stage.step_bind_eq_ok.mp built
  obtain ⟨_, preamble, -, built⟩ := Stage.step_bind_eq_ok.mp built
  obtain ⟨_, first, opened, built⟩ := Stage.step_bind_eq_ok.mp built
  have first_eq := (prologue_ok opened).2
  obtain ⟨_, main, asked, built⟩ := Stage.step_bind_eq_ok.mp built
  have answered : Stock.callback c m = .ok main := by
    have gives : (Emitters.stock.askCallback c m).Gives fun main => Stock.callback c m = .ok main :=
      .bind (.any _) fun _ _ => (Stage.Gives.ofExcept _).mono fun _ answered =>
        Stock.ok_of_orFault answered
    exact gives _ _ _ asked
  obtain ⟨-, rfl⟩ := Stage.step_pure_eq_ok.mp built
  have noLights : Splits [] lightWords [] := .nil
  have nothing : Splits [] ownWords [] := .nil
  refine ⟨⟨[], [], main⟩, laid_of_parts formed rfl ?_ rfl answered .nil noLights .nil nothing
    List.nodup_nil (by simp [ownBound])⟩
  simp [first_eq, Parts.front, closing]

/-- Every program is laid out in parts. -/
theorem laid_build (unbroken : c.scene.HasUnbrokenNames)
    (built : (build .stock c kind).step .empty = (t, .ok p)) : ∃ v b, Laid c v kind p b := by
  obtain ⟨v, formed⟩ := formed_build kind _ _ _ built
  refine ⟨v, ?_⟩
  have shaded (hk : shades kind = true) : ∃ b, Laid c v kind p b := by
    obtain ⟨v', o, u, selected, outlined⟩ := outlined_build hk built
    obtain rfl : v = v' := Except.ok.inj (formed.variant_eq.symm.trans selected)
    exact laid_of_outlined unbroken formed hk outlined
  cases kind with
  | rayGeneration => exact laid_rayGeneration formed built
  | callback m => exact laid_callback formed built
  | miss | hit | shadowHit | shadowMiss => exact shaded rfl

end Generation

end RayShader
