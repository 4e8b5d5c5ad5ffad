import RayShader.Proofs.Scopes
import RayShader.Proofs.TableLines

/-!
# Images that programs declare

An image is declared by a line that binds its name. The lines of a program that bind names of
images are counted off against the contributions of lights and materials (`Declares`): the table
and the block begin with one such line for each image that they declare, and their other lines bind
other names. What is left are lines of the other collaborators, and lines behind breaks in the names
of lights and bsdfs, which stand in programs as they are (`Outline.otherLines`).

The contributions of a program share one tree, so together they declare each image that they
sample once. In the text, the line of the declaration comes before the lines of all lights and
bsdfs that sample the image, also where the image is declared with the lights and sampled by the
bsdf.
-/

namespace RayShader

open Program (Fragment Lets boundName? indent)
open Stock (bsdfCode bsdfName declarationContent lightCode lightName lightTable materialBlock
  shaderContent tableRest)
open Technique (VariantInfo)
open Text (IsLine Precedes beginsWith lines)

/-! ### Lines that bind images -/

/-- The line binds a name of the form of those of images. -/
def bindsImage (line : String) : Bool := (boundName? line).any (beginsWith "tex_")

/-- Of the lines that bind names of images, one declares each of the images, and the rest are
those among the other lines. -/
def Declares (ls : List String) (images : List Nat) (others : List String) : Prop :=
  ((ls.filter bindsImage).Perm (images.map declarationContent ++ others.filter bindsImage))

variable {ls ls' rest rest' names : List String} {images images' : List Nat} {line : String}
  {b : Nat}

theorem bindsImage_declaration (b : Nat) : boundName? (declarationContent b)
    = some (ShadingTree.imageName b) ∧ bindsImage (declarationContent b) = true := by
  have bound : boundName? (declarationContent b) = some (ShadingTree.imageName b) :=
    Program.boundName?_let (Stock.isWord_numbered (by decide) b) _
  have stem : beginsWith "tex_" (ShadingTree.imageName b) = true := Text.beginsWith_append ..
  exact ⟨bound, by rw [bindsImage, bound, Option.any_some, stem]⟩

theorem bindsImage_of_boundName? {name : String} (h : boundName? line = some name)
    (other : name.toList.head? ≠ some 't' ∨ beginsWith "tex_" name = false) :
    bindsImage line = false := by
  rw [bindsImage, h, Option.any_some]
  rcases other with head | other
  · exact Text.beginsWith_of_head?_ne (by decide) head
  · exact other

/-- Lines that bind other names bind no images. -/
theorem Program.Lets.filter_bindsImage (h : Lets ls names)
    (none : names.all fun name => !beginsWith "tex_" name) : ls.filter bindsImage = [] := by
  refine List.filter_eq_nil_iff.mpr fun line mem => ?_
  cases bound : boundName? line with
  | none => simp [bindsImage, bound]
  | some name =>
    have apart := List.all_eq_true.mp none name (h.mem_of_boundName? mem bound)
    rw [bindsImage_of_boundName? bound (.inr (by simpa using apart))]
    decide

namespace Declares

/-- Lines that bind no images. -/
theorem of_filter_eq_nil (h : ls.filter bindsImage = []) : Declares ls [] [] := by
  rw [Declares, h]
  exact .refl _

/-- Lines that are all of others. -/
theorem self (ls : List String) : Declares ls [] ls := .refl _

theorem append (h : Declares ls images rest) (h' : Declares ls' images' rest') :
    Declares (ls ++ ls') (images ++ images') (rest ++ rest') := by
  rw [Declares, List.filter_append, List.filter_append, List.map_append]
  refine (List.Perm.append h h').trans ?_
  simp only [List.append_assoc]
  exact (List.perm_append_comm_assoc _ _ _).append_left _

theorem flatMap {α : Type} {as : List α} {text : α → List String} {declared : α → List Nat}
    {others : α → List String} (h : ∀ a ∈ as, Declares (text a) (declared a) (others a)) :
    Declares (as.flatMap text) (as.flatMap declared) (as.flatMap others) := by
  induction as with
  | nil => exact .of_filter_eq_nil rfl
  | cons a as ih =>
    obtain ⟨first, more⟩ := List.forall_mem_cons.mp h
    simp only [List.flatMap_cons]
    exact first.append (ih more)

theorem flatMap_nil {α : Type} {as : List α} {text others : α → List String}
    (h : ∀ a ∈ as, Declares (text a) [] (others a)) :
    Declares (as.flatMap text) [] (as.flatMap others) := by
  have none : as.flatMap (fun _ => ([] : List Nat)) = [] :=
    List.flatMap_eq_nil_iff.mpr fun _ _ => rfl
  exact none ▸ flatMap h

/-- A line in front that binds no image. -/
theorem cons (h : bindsImage line = false) (h' : Declares ls images rest) :
    Declares (line :: ls) images rest := by
  rwa [Declares, List.filter_cons_of_neg (by simp [h])]

theorem declarations (bs : List Nat) :
    Declares (bs.flatMap fun b => lines (declarationContent b)) bs [] := by
  have each : (bs.flatMap fun b => lines (declarationContent b)) = bs.map declarationContent := by
    rw [List.map_eq_flatMap]
    exact List.flatMap_congr fun b _ => Text.lines_of_isLine (Stock.declaration_eq b).2
  have all : (bs.map declarationContent).filter bindsImage = bs.map declarationContent := by
    refine List.filter_eq_self.mpr fun line mem => ?_
    obtain ⟨b, -, rfl⟩ := List.mem_map.mp mem
    exact (bindsImage_declaration b).2
  rw [Declares, each, all, List.filter_nil, List.append_nil]

/-- If no other line binds an image, the name of a declared image is bound by the line of its
declaration alone, and that of another image by no line. -/
theorem filter_boundName? (h : Declares ls images rest) (distinct : images.Nodup)
    (quiet : rest.filter bindsImage = []) (b : Nat) :
    ls.filter (fun line => boundName? line = some (ShadingTree.imageName b))
      = if b ∈ images then [declarationContent b] else [] := by
  have narrower : ls.filter (fun line => boundName? line = some (ShadingTree.imageName b))
      = (ls.filter bindsImage).filter
        fun line => boundName? line = some (ShadingTree.imageName b) := by
    rw [List.filter_filter]
    refine List.filter_congr fun line _ => ?_
    by_cases bound : boundName? line = some (ShadingTree.imageName b)
    · have stem : beginsWith "tex_" (ShadingTree.imageName b) = true := Text.beginsWith_append ..
      simp [bindsImage, bound, stem]
    · simp [bound]
  have binds (a : Nat) : decide (boundName? (declarationContent a)
      = some (ShadingTree.imageName b)) = decide (a = b) := by
    rw [(bindsImage_declaration a).1]
    exact decide_eq_decide.mpr ⟨fun eq => Samples.imageName_inj (Option.some.inj eq),
      fun eq => by rw [eq]⟩
  have declared : (images.map declarationContent).filter
      (fun line => boundName? line = some (ShadingTree.imageName b))
      = if b ∈ images then [declarationContent b] else [] := by
    have same := List.filter_congr (l := images) fun a _ => binds a
    rw [List.filter_map, Function.comp_def, same, List.filter_eq, distinct.count]
    split <;> rfl
  rw [Declares, quiet, List.append_nil] at h
  have perm := h.filter fun line => boundName? line = some (ShadingTree.imageName b)
  rw [← narrower, declared] at perm
  split at perm
  · rename_i mem
    rw [if_pos mem]
    exact List.perm_singleton.mp perm
  · rename_i absent
    rw [if_neg absent]
    exact List.perm_nil.mp perm

end Declares

/-! ### Tables and blocks -/

namespace Stock

/-- The line of a light binds the light. -/
theorem bindsImage_lightCode (i : Nat) (expr comment : String) :
    bindsImage (lightCode i expr ++ comment) = false := by
  have bound : boundName? (lightCode i expr ++ comment) = some (lightName i) := by
    simp only [lightCode, String.append_assoc]
    exact Program.boundName?_let (isWord_numbered (by decide) i) _
  refine bindsImage_of_boundName? bound (.inl ?_)
  rw [lightName, Text.head?_of_append (by decide)]
  decide

/-- The line of a bsdf binds the bsdf. -/
theorem bindsImage_bsdfCode (group : Nat) (bsdf comment : String) :
    bindsImage (bsdfCode group bsdf ++ comment) = false := by
  have front : " = @|ctx: ShadingContext| " = " = " ++ "@|ctx: ShadingContext| " := rfl
  have bound : boundName? (bsdfCode group bsdf ++ comment) = some (bsdfName group) := by
    simp only [bsdfCode, closureLine, front, String.append_assoc]
    exact Program.boundName?_let (isWord_numbered (by decide) group) _
  refine bindsImage_of_boundName? bound (.inl ?_)
  rw [bsdfName, Text.head?_of_append (by decide)]
  decide

/-- What a table has behind its lights binds no image. -/
theorem filter_tableRest (count : Nat) : (lines (tableRest count)).filter bindsImage = [] := by
  -- a table of so many lights without names and expressions has the same end
  have nameless : ∀ entry ∈ List.replicate count ("", ""), IsLine entry.1 ∧ IsLine entry.2 := by
    intro entry mem
    rw [List.eq_of_mem_replicate mem]
    exact ⟨.literal rfl, .literal rfl⟩
  have binds := lightTable_binds [] nameless
  rw [lines_lightTable_eq, List.length_replicate] at binds
  have apart (i : Nat) : beginsWith "tex_" (lightName i) = false := by
    refine Text.beginsWith_of_head?_ne (by decide) ?_
    rw [lightName, Text.head?_of_append (by decide)]
    decide
  have none : (["num_lights", "lights", "light_selector"].all fun name => !beginsWith "tex_" name) =
    true := by decide
  have all := binds.filter_bindsImage (by simpa [apart] using none)
  simp only [List.filter_append, List.append_eq_nil_iff] at all
  exact all.2.2

/-- The line that binds the shader of a hit group binds no image. -/
theorem bindsImage_shaderContent (group : Nat) :
    IsLine (shaderContent group) ∧ bindsImage (shaderContent group) = false := by
  have front : " = @|ctx: ShadingContext| " = " = " ++ "@|ctx: ShadingContext| " := rfl
  have bound : boundName? (shaderContent group) = some "shader" := by
    simp only [shaderContent, closureLine, front, String.append_assoc]
    exact Program.boundName?_let (by decide) _
  have line : IsLine (shaderContent group) :=
    .append (.literal rfl) (.append (.literal rfl) (.append (.literal rfl) (.append (.literal rfl)
      (.append (Text.isLine_nat group) (.literal rfl)))))
  exact ⟨line, bindsImage_of_boundName? bound (.inl (by decide))⟩

end Stock

namespace Contribution

variable {c : Context} {s : Contribution} {restricted : Bool} {group : Nat}

/-- The lines behind breaks in the names of the lights or of the bsdf. -/
def brokenLines (s : Contribution) : List String := s.emissions.flatMap fun m => (lines m.name).tail

namespace IsTable

/-- The lines of the table. -/
theorem lines_eq (h : s.IsTable c restricted) : lines s.text
    = s.declared.flatMap (fun b => lines (declarationContent b))
      ++ (s.emissions.zipIdx.flatMap (fun p => lines (Stock.lightContent ((p.1.name, p.1.expr), p.2)))
        ++ lines (tableRest s.emissions.length)) := by
  rw [h.text_eq, Stock.lines_lightTable_eq, List.length_map, List.zipIdx_map, List.flatMap_map]
  rfl

/-- A table declares its images, and otherwise binds images only behind breaks in names. -/
theorem declares (h : s.IsTable c restricted) :
    Declares (lines s.text) s.declared s.brokenLines := by
  have lights : Declares (s.emissions.zipIdx.flatMap fun p =>
      lines (Stock.lightContent ((p.1.name, p.1.expr), p.2))) []
      (s.emissions.zipIdx.flatMap fun p => (lines p.1.name).tail) := by
    refine .flatMap_nil fun p mem => ?_
    obtain ⟨comment, first⟩ := Stock.lines_lightContent p.2
      (h.isLine_expr p.1 (List.fst_mem_of_mem_zipIdx mem)) p.1.name
    rw [first]
    exact .cons (Stock.bindsImage_lightCode ..) (.self _)
  have names : s.brokenLines = s.emissions.zipIdx.flatMap fun p => (lines p.1.name).tail := by
    have all := List.flatMap_map (l := s.emissions.zipIdx) (f := Prod.fst)
      (g := fun m : Emission => (lines m.name).tail)
    rwa [List.zipIdx_map_fst] at all
  rw [h.lines_eq, names]
  have all := (Declares.declarations s.declared).append
    (lights.append (.of_filter_eq_nil (Stock.filter_tableRest s.emissions.length)))
  simpa using all

theorem declaration_mem (h : s.IsTable c restricted) {b : Nat} (mem : b ∈ s.declared) :
    declarationContent b ∈ lines s.text := by
  rw [h.lines_eq]
  refine List.mem_append_left _ (List.mem_flatMap.mpr ⟨b, mem, ?_⟩)
  rw [Text.lines_of_isLine (Stock.declaration_eq b).2]
  exact List.mem_singleton_self _

/-- What a table declares stands in front of its lights. -/
theorem precedes (h : s.IsTable c restricted) {b i : Nat} {m : Emission} (mem : b ∈ s.declared)
    (stands : s.emissions[i]? = some m) :
    Precedes (declarationContent b) (lightCode i m.expr) (lines s.text) := by
  obtain ⟨comment, first⟩ := Stock.lines_lightContent i
    (h.isLine_expr m (List.mem_of_getElem? stands)) m.name
  have light : lightCode i m.expr ++ comment ∈ s.emissions.zipIdx.flatMap
      (fun p => lines (Stock.lightContent ((p.1.name, p.1.expr), p.2))) := by
    refine List.mem_flatMap.mpr ⟨(m, i), List.mem_zipIdx_iff_getElem?.mpr stands, ?_⟩
    rw [first]
    exact List.mem_cons_self ..
  rw [h.lines_eq]
  refine .of_mem (List.mem_flatMap.mpr ⟨b, mem, ?_⟩) (List.mem_append_left _ light)
  rw [Text.lines_of_isLine (Stock.declaration_eq b).2]
  exact List.mem_singleton_self _

end IsTable

namespace IsMaterial

/-- The lines of the block of a material. -/
theorem lines_eq (h : s.IsMaterial c group) : ∃ m comment, s.emissions = [m] ∧
    lines s.text = s.declared.flatMap (fun b => lines (declarationContent b))
      ++ ((bsdfCode group m.expr ++ comment) :: (lines m.name).tail ++ [shaderContent group]) := by
  obtain ⟨m, single, -, -, ⟨t, u, made⟩, text⟩ := h.emitted
  obtain ⟨comment, first⟩ := Stock.lines_bsdfContent group
    (Stock.Material.gives_ofObject t u m.expr made) m.name
  refine ⟨m, comment, single, ?_⟩
  rw [text, Stock.lines_materialBlock_eq, first,
    Text.lines_of_isLine (Stock.bindsImage_shaderContent group).1]

/-- The block of a material declares its images, and otherwise binds images only behind a break
in the name of the bsdf. -/
theorem declares (h : s.IsMaterial c group) : Declares (lines s.text) s.declared s.brokenLines := by
  obtain ⟨m, comment, single, parts⟩ := h.lines_eq
  have shader : Declares [shaderContent group] [] [] :=
    .cons (Stock.bindsImage_shaderContent group).2 (.of_filter_eq_nil rfl)
  have bsdf : Declares ((bsdfCode group m.expr ++ comment) :: (lines m.name).tail) []
      (lines m.name).tail := .cons (Stock.bindsImage_bsdfCode ..) (.self _)
  have all := (Declares.declarations s.declared).append (bsdf.append shader)
  rw [parts, brokenLines, single]
  simpa using all

/-- What the block of a material declares stands in front of its bsdf. -/
theorem precedes (h : s.IsMaterial c group) {b : Nat} {m : Emission} (mem : b ∈ s.declared)
    (stands : m ∈ s.emissions) :
    Precedes (declarationContent b) (bsdfCode group m.expr) (lines s.text) := by
  obtain ⟨m', comment, single, parts⟩ := h.lines_eq
  obtain rfl : m = m' := by simpa [single] using stands
  have bsdf : bsdfCode group m.expr ++ comment
      ∈ (bsdfCode group m.expr ++ comment) :: (lines m.name).tail ++ [shaderContent group] := by
    simp
  rw [parts]
  refine .of_mem (List.mem_flatMap.mpr ⟨b, mem, ?_⟩) bsdf
  rw [Text.lines_of_isLine (Stock.declaration_eq b).2]
  exact List.mem_singleton_self _

/-- The bsdf stands in the block on a line of its own. -/
theorem bsdfCode_mem (h : s.IsMaterial c group) {m : Emission} (stands : m ∈ s.emissions) :
    ∃ comment, bsdfCode group m.expr ++ comment ∈ lines s.text := by
  obtain ⟨m', comment, single, parts⟩ := h.lines_eq
  obtain rfl : m = m' := by simpa [single] using stands
  exact ⟨comment, by rw [parts]; simp⟩

end IsMaterial

end Contribution

/-! ### Programs -/

namespace Generation

open Contribution (allDeclared)

variable {e : Emitters} {c : Context} {v : VariantInfo} {kind : ShaderKind} {o : Outline}
  {t u t' : ShadingTree} {p : Program} {table block : Option Contribution}

/-- The lines of a program that come from other collaborators, and those behind breaks in the
names of its lights and of its bsdf. -/
def Outline.otherLines (o : Outline) (e : Emitters) (c : Context) (v : VariantInfo)
    (kind : ShaderKind) (p : Program) (table block : Option Contribution) : List String :=
  lines p.preamble ++ (lines (indent ++ e.device c.target)
    ++ ((if bindsDatabase v kind then lines e.database else [])
    ++ (table.toList.flatMap (·.brokenLines) ++ (block.toList.flatMap (·.brokenLines)
    ++ lines o.technique))))

/-- The lines of a body. -/
theorem Outline.lines_body (o : Outline) : (o.body e c v kind).flatMap Fragment.lines
    = (opening e c).flatMap Fragment.lines ++ ((o.lightLines e v kind).flatMap Fragment.lines
      ++ ((samplesBinding c).lines ++ ((o.materialLines kind).flatMap Fragment.lines
      ++ ((lines o.technique ++ [""]) ++ (closing v kind).flatMap Fragment.lines)))) := by
  have technique : (Fragment.source o.technique).lines = lines o.technique := rfl
  have blank : Fragment.blank.lines = [""] := rfl
  simp only [Outline.body, List.flatMap_append, List.flatMap_cons, List.flatMap_nil, technique,
    blank, List.append_assoc, List.nil_append]

theorem lines_lightLines (texts : o.lights = table.map (·.text)) :
    (o.lightLines e v kind).flatMap Fragment.lines = (if bindsDatabase v kind then lines e.database else [])
      ++ table.toList.flatMap fun s => lines s.text := by
  have source (text : String) : (Fragment.source text).lines = lines text := rfl
  rw [Outline.lightLines, texts, List.flatMap_append]
  cases table <;> split <;> simp [source]

theorem lines_materialLines (texts : o.material = block.map (·.text)) :
    (o.materialLines kind).flatMap Fragment.lines = (groupLines kind).flatMap Fragment.lines
      ++ block.toList.flatMap fun s => lines s.text := by
  have source (text : String) : (Fragment.source text).lines = lines text := rfl
  rw [Outline.materialLines, texts, List.flatMap_append]
  cases block <;> simp [source]

theorem declares_table {whole : Bool} (h : HasTable c v whole table) :
    Declares (table.toList.flatMap fun s => lines s.text) (allDeclared table.toList)
      (table.toList.flatMap (·.brokenLines)) := by
  refine .flatMap fun s mem => ?_
  unfold HasTable at h
  split at h
  · obtain ⟨s', rfl, isTable⟩ := h
    obtain rfl : s = s' := by simpa using mem
    exact isTable.declares
  · simp [h] at mem

theorem declares_block (h : HasMaterial c kind block) :
    Declares (block.toList.flatMap fun s => lines s.text) (allDeclared block.toList)
      (block.toList.flatMap (·.brokenLines)) := by
  refine .flatMap fun s mem => ?_
  cases kind with
  | hit group =>
    obtain ⟨s', rfl, isMaterial⟩ := h
    obtain rfl : s = s' := by simpa using mem
    exact isMaterial.declares
  | rayGeneration | miss | shadowHit | shadowMiss | callback =>
    obtain rfl : block = none := h
    cases mem

/-- The first lines bind nothing but what the line of the device binds. -/
theorem declares_opening (e : Emitters) (c : Context) :
    Declares ((opening e c).flatMap Fragment.lines) [] (lines (indent ++ e.device c.target)) := by
  have statement : (Fragment.statement (.free "maybe_unused" [.ident "settings"])).lines
      = ["  maybe_unused(settings);"] := by decide
  have parts : (opening e c).flatMap Fragment.lines
      = "  maybe_unused(settings);" :: (lines (indent ++ e.device c.target) ++ [""]) := by
    simp only [opening, List.flatMap_cons, List.flatMap_nil, statement]
    rfl
  have blank : Declares [""] [] [] := .of_filter_eq_nil (by decide)
  rw [parts]
  refine .cons (by decide) ?_
  simpa using (Declares.self (lines (indent ++ e.device c.target))).append blank

theorem declares_groupLines (kind : ShaderKind) :
    Declares ((groupLines kind).flatMap Fragment.lines) [] [] := by
  cases kind with
  | hit group =>
    have number : Lets (materialBinding group).lines ["material_id"] :=
      .fragment rfl (Text.isLine_int _) isLine_i32
    rw [groupLines, List.flatMap_singleton]
    exact .of_filter_eq_nil (number.filter_bindsImage (by decide))
  | rayGeneration | miss | shadowHit | shadowMiss | callback => exact .of_filter_eq_nil rfl

/-- The lines of a program that bind names of images are the declarations of its lights and its
material, one for each image, and lines of others. -/
theorem Outlined.declares (outlined : Outlined e c v kind t u t' o p)
    (contributes : Contributes c v kind o table block) :
    Declares (lines p.text) (allDeclared (table.toList ++ block.toList))
      (o.otherLines e c v kind p table block) := by
  obtain ⟨entryLine, callIsLine, callBinds⟩ := fixed_lines kind
  have entry : Declares (lines p.entry.text) [] [] := by
    rw [outlined.entry_eq, Text.lines_of_isLine entryLine]
    have none : boundName? (entryOf kind).text = none := by
      rw [← outlined.entry_eq]
      exact Program.boundName?_of_head?_ne (by rw [head?_entry]; decide)
    exact .cons (by simp [bindsImage, none]) (.of_filter_eq_nil rfl)
  have call : Declares (lines (indent ++ p.result.text) ++ ["\x7d", ""]) [] [] := by
    have line : lines (indent ++ p.result.text) = [callLine kind] := by
      rw [outlined.result_eq]
      exact Text.lines_of_isLine callIsLine
    rw [line]
    exact .cons (by simp [bindsImage, callBinds]) (.of_filter_eq_nil (by decide))
  have lights : Declares ((o.lightLines e v kind).flatMap Fragment.lines)
      (allDeclared table.toList) ((if bindsDatabase v kind then lines e.database else [])
        ++ table.toList.flatMap (·.brokenLines)) := by
    rw [lines_lightLines contributes.lights_eq]
    simpa using (Declares.self _).append (declares_table contributes.table)
  have samples : Declares (samplesBinding c).lines [] [] :=
    .of_filter_eq_nil ((samples_binds c).filter_bindsImage (by decide))
  have material : Declares ((o.materialLines kind).flatMap Fragment.lines)
      (allDeclared block.toList) (block.toList.flatMap (·.brokenLines)) := by
    rw [lines_materialLines contributes.material_eq]
    simpa using (declares_groupLines kind).append (declares_block contributes.block)
  have technique : Declares (lines o.technique ++ [""]) [] (lines o.technique) := by
    have blank : Declares [""] [] [] := .of_filter_eq_nil (by decide)
    simpa using (Declares.self (lines o.technique)).append blank
  have ending : Declares ((closing v kind).flatMap Fragment.lines) [] [] :=
    .of_filter_eq_nil ((closing_binds v kind).filter_bindsImage (by cases kind <;> rfl))
  have all := (Declares.self (lines p.preamble)).append (entry.append (((declares_opening e c).append
    (lights.append (samples.append (material.append (technique.append ending))))).append call))
  rw [Program.lines_text, outlined.body_eq, Outline.lines_body]
  simpa [Outline.otherLines, allDeclared] using all

theorem lines_some (s : Contribution) :
    (some s).toList.flatMap (fun s => lines s.text) = lines s.text := List.flatMap_singleton ..

/-- An image that a light samples is declared in front of the line of the light. -/
theorem Outlined.precedes_light {s : Contribution} (outlined : Outlined e c v kind t u t' o p)
    (contributes : Contributes c v kind o (some s) block)
    (once : Contribution.DeclareOnce (s :: block.toList)) {b i : Nat} {m : Emission}
    (stands : s.emissions[i]? = some m) (samples : Samples m.expr b) :
    Precedes (declarationContent b) (lightCode i m.expr) (lines p.text) := by
  have declared := once.before [] s block.toList rfl b ⟨m, List.mem_of_getElem? stands, samples⟩
  have here : b ∈ s.declared := by simpa [allDeclared] using declared
  have inside := contributes.isTable.precedes here stands
  apply Program.precedes_text
  rw [outlined.body_eq, Outline.lines_body, lines_lightLines contributes.lights_eq, lines_some]
  exact ((inside.append_left _).append_right _).append_left _

/-- An image that the bsdf samples is declared in front of the line of the bsdf, with the lights
or at the beginning of the block. -/
theorem Outlined.precedes_bsdf {group : Nat} {s : Contribution}
    (outlined : Outlined e c v (.hit group) t u t' o p)
    (contributes : Contributes c v (.hit group) o table (some s))
    (once : Contribution.DeclareOnce (table.toList ++ [s])) {b : Nat} {m : Emission}
    (stands : m ∈ s.emissions) (samples : Samples m.expr b) :
    Precedes (declarationContent b) (bsdfCode group m.expr) (lines p.text) := by
  have declared := once.before table.toList s [] rfl b ⟨m, stands, samples⟩
  rw [allDeclared, List.flatMap_append, List.flatMap_singleton, List.mem_append] at declared
  apply Program.precedes_text
  rw [outlined.body_eq, Outline.lines_body, lines_lightLines contributes.lights_eq,
    lines_materialLines contributes.material_eq, lines_some]
  rcases declared with lights | here
  · cases table with
    | none => cases lights
    | some s' =>
      -- the declaration is in the table, and the bsdf behind it in the block
      have mem : b ∈ s'.declared := by simpa using lights
      obtain ⟨comment, code⟩ := contributes.isMaterial.bsdfCode_mem stands
      have front := contributes.isTable.declaration_mem mem
      rw [lines_some]
      exact .append_left (.of_mem (List.mem_append_right _ front) (List.mem_append_right _
        (List.mem_append_left _ (List.mem_append_right _ code)))) _
  · have inside := contributes.isMaterial.precedes here stands
    exact (((inside.append_left _).append_right _).append_left _).append_left _ |>.append_left _

/-- What a program shows of the images of its lights and its material. -/
structure DeclaresSampled (c : Context) (kind : ShaderKind) (p : Program)
    (table block : Option Contribution) (others : List String) : Prop where
  /-- Where a property of a light or of the bsdf names a texture, the expression samples the
  image of that texture. -/
  resolved : ∀ s ∈ table.toList ++ block.toList, ∀ m ∈ s.emissions,
    m.IsExpressed c ∧ m.IsResolved c
  /-- The images that are sampled are declared, and no others. -/
  mem_declared : ∀ b, b ∈ allDeclared (table.toList ++ block.toList)
    ↔ ∃ s ∈ table.toList ++ block.toList, s.Uses b
  /-- No image is declared twice. -/
  nodup : (allDeclared (table.toList ++ block.toList)).Nodup
  /-- The lines of the program have one declaration for each of them, and otherwise names of
  images are bound by lines of others. -/
  declares : Declares (lines p.text) (allDeclared (table.toList ++ block.toList)) others
  /-- The declaration of an image stands before every light that samples it, -/
  before_light : ∀ s, table = some s → ∀ (i : Nat) m, s.emissions[i]? = some m →
    ∀ b, Samples m.expr b → Precedes (declarationContent b) (lightCode i m.expr) (lines p.text)
  /-- and before the bsdf. -/
  before_bsdf : ∀ group, kind = .hit group → ∀ s, block = some s → ∀ m ∈ s.emissions,
    ∀ b, Samples m.expr b → Precedes (declarationContent b) (bsdfCode group m.expr) (lines p.text)

/-- In a scene whose names have no breaks the stock collaborators leave no other lines that bind
images. -/
theorem filter_otherLines (unbroken : c.scene.HasUnbrokenNames) (preamble : HasUnbrokenPreamble c v)
    {b : Parts} (laid : Laid c v kind p b) (outlined : Outlined .stock c v kind t u t' o p)
    (contributes : Contributes c v kind o table block) :
    (o.otherLines .stock c v kind p table block).filter bindsImage = [] := by
  have first : (lines p.preamble).filter bindsImage = [] := by
    refine List.filter_eq_nil_iff.mpr fun line mem => ?_
    have none : boundName? line = none := by
      apply Program.boundName?_of_head?_ne
      rcases laid.head?_preamble preamble mem with head | head | head <;> simp [head]
    simp [bindsImage, none]
  have device : (lines (indent ++ Emitters.stock.device c.target)).filter bindsImage = [] :=
    (Stock.device_binds c.target).filter_bindsImage (by decide)
  have database : (if bindsDatabase v kind then lines Emitters.stock.database else []).filter
      bindsImage = [] := by
    split
    · exact Stock.database_binds.filter_bindsImage (by decide)
    · rfl
  have oneLine {s : Contribution} (h : ∀ m ∈ s.emissions, IsLine m.name) : s.brokenLines = [] :=
    List.flatMap_eq_nil_iff.mpr fun m mem => by rw [Text.lines_of_isLine (h m mem), List.tail_cons]
  have lights : table.toList.flatMap (·.brokenLines) = [] := by
    cases table with
    | none => rfl
    | some s => simp [oneLine (contributes.isTable.isLine_name unbroken)]
  have material : block.toList.flatMap (·.brokenLines) = [] := by
    cases block with
    | none => rfl
    | some s =>
      cases kind with
      | hit group => simp [oneLine (contributes.isMaterial.isLine_name unbroken)]
      | rayGeneration | miss | shadowHit | shadowMiss | callback => cases contributes.block
  have technique : (lines o.technique).filter bindsImage = [] := by
    obtain ⟨ns, binds, known, -⟩ :=
      Stock.technique_binds (Stock.ok_of_orFault outlined.technique_eq)
    have apart : Stock.Technique.names.all (fun name => !beginsWith "tex_" name) = true := by decide
    exact binds.filter_bindsImage
      (List.all_eq_true.mpr fun name mem => List.all_eq_true.mp apart name (known.subset mem))
  simp only [Outline.otherLines, List.filter_append, first, device, database, lights, material,
    technique, List.filter_nil, List.append_nil]

/-- **Programs declare the images that they sample.** Take any program for misses, hits or shadow
rays that is built, with the stock lights and materials, in a context that was loaded with not
more than `UInt32.size` images and got a scene database and a variant. Where a property of a light
or of the bsdf names a texture, the expression samples the image of the buffer that the texture
was registered with, and that image is at the path of the file of the texture. The program has one
declaration for each image that its lights and its bsdf sample, and for no other image, and the
line of the declaration stands before the lines of all that sample it. Beside these lines only the
other collaborators bind images, and lines behind breaks in names. With the stock collaborators,
and without such breaks, the declaration of an image is the only line that binds its name. -/
theorem images_declared_once {describe : String → Scene → Run Technique.Info} {scene : Scene}
    {options : Options} (loaded : (Context.load describe scene options).result = .ok c)
    (few : c.registry.imageCount ≤ UInt32.size) (d : Scene.Database) (index : Nat)
    (lights : e.lights = Emitters.stock.lights) (material : e.material = Emitters.stock.material)
    (hk : shades kind = true)
    (built : (build e (c.prepare d index) kind).step .empty = (t', .ok p)) :
    ∃ v o u table block, (c.prepare d index).variant = .ok v ∧
      Outlined e (c.prepare d index) v kind .empty u t' o p ∧
      Contributes (c.prepare d index) v kind o table block ∧
      DeclaresSampled (c.prepare d index) kind p table block
        (o.otherLines e (c.prepare d index) v kind p table block) ∧
      (e = .stock → describe = Stock.describe → scene.HasUnbrokenNames → ∀ b,
        (lines p.text).filter (fun line => boundName? line = some (ShadingTree.imageName b))
          = if b ∈ allDeclared (table.toList ++ block.toList) then [declarationContent b] else []) := by
  obtain ⟨v, o, u, selected, outlined⟩ := outlined_build hk built
  obtain ⟨table, block, contributes, chain, expressed⟩ :=
    contributes_of_outlined lights material outlined
  have prepared := (Context.load_ok loaded).prepare d index
  have once := chain.declareOnce
  have declares := outlined.declares contributes
  have resolved : ∀ s ∈ table.toList ++ block.toList, ∀ m ∈ s.emissions,
      m.IsExpressed (c.prepare d index) ∧ m.IsResolved (c.prepare d index) :=
    fun s hs m hm => ⟨expressed s hs m hm, (expressed s hs m hm).isResolved prepared few⟩
  refine ⟨v, o, u, table, block, selected, outlined, contributes,
    ⟨resolved, fun b => once.mem_allDeclared, once.nodup, declares, ?_, ?_⟩, ?_⟩
  · rintro s rfl i m stands b samples
    exact outlined.precedes_light contributes once stands samples
  · rintro group rfl s rfl m mem b samples
    exact outlined.precedes_bsdf contributes once mem samples
  · rintro rfl rfl unbroken
    have unbroken : (c.prepare d index).scene.HasUnbrokenNames := prepared.scene_eq.symm ▸ unbroken
    obtain ⟨v', b, laid⟩ := laid_build unbroken built
    obtain rfl : v = v' := Except.ok.inj (selected.symm.trans laid.variant_eq)
    have known := hasUnbrokenPreamble prepared
      (List.mem_of_getElem? (Context.variant_eq_ok.mp selected))
    exact declares.filter_boundName? once.nodup
      (filter_otherLines unbroken known laid outlined contributes)

/-- A scene whose light and bsdf name two textures of one file. -/
def sharedScene : Scene :=
  let image := (Object.ofKind "image").withProperty "filename" (.string "stone.png")
  (((Scene.empty.addTexture "ground" image).addTexture "sky" image).addLight "dome"
    ((Object.ofKind "env").withProperty "radiance" (.string "sky"))).addBsdf "floor"
      ((Object.ofKind "diffuse").withProperty "reflectance" (.string "ground"))

theorem sharedScene_built :
    ∃ c t p, (Context.load Stock.describe sharedScene .standard).result = .ok c ∧
      c.registry.imageCount = 1 ∧
      (build .stock (c.prepare ⟨1, 1⟩ 0) (.hit 0)).step .empty = (t, .ok p) := by
  have built : ((Context.load Stock.describe sharedScene .standard).bind fun c =>
      ((build .stock (c.prepare ⟨1, 1⟩ 0) (.hit 0)).runOn .empty).bind fun _ =>
        pure c.registry.imageCount).result = .ok 1 := by
    decide +kernel
  obtain ⟨c, loaded, built⟩ := Run.bind_eq_ok.mp built
  obtain ⟨p, built, count⟩ := Run.bind_eq_ok.mp built
  exact ⟨c, _, p, loaded, Except.ok.inj count, Prod.ext rfl built⟩

theorem shared_image_declared_once :
    ∃ c t p v o table block, (Context.load Stock.describe sharedScene .standard).result = .ok c ∧
      c.registry.imageCount ≤ UInt32.size ∧
      (build .stock (c.prepare ⟨1, 1⟩ 0) (.hit 0)).step .empty = (t, .ok p) ∧
      sharedScene.HasUnbrokenNames ∧
      DeclaresSampled (c.prepare ⟨1, 1⟩ 0) (.hit 0) p table block
        (Outline.otherLines o .stock (c.prepare ⟨1, 1⟩ 0) v (.hit 0) p table block) ∧
      (lines p.text).filter (fun line => boundName? line = some "tex_0")
        = [declarationContent 0] := by
  obtain ⟨c, t, p, loaded, count, built⟩ := sharedScene_built
  have few : c.registry.imageCount ≤ UInt32.size := by rw [count]; decide
  have unbroken : sharedScene.HasUnbrokenNames := ⟨by decide +kernel, by decide +kernel⟩
  obtain ⟨v, o, u, table, block, -, -, contributes, sampled, once⟩ :=
    images_declared_once loaded few ⟨1, 1⟩ 0 rfl rfl rfl built
  refine ⟨c, t, p, v, o, table, block, loaded, few, built, unbroken, sampled, ?_⟩
  -- the bsdf samples the only image there is
  obtain ⟨s, rfl, isMaterial⟩ := contributes.block
  obtain ⟨m, single, stands, properties, -⟩ := isMaterial.emitted
  have scene : (c.prepare ⟨1, 1⟩ 0).scene = sharedScene := (Context.load_ok loaded).scene_eq
  rw [scene] at stands
  have floor : m.object = ((Object.ofKind "diffuse").withProperty "reflectance"
      (.string "ground")).named "floor" := (Prod.mk.inj (Option.some.inj stands)).2.symm
  have mem : s ∈ table.toList ++ (some s).toList := List.mem_append_right _ (List.mem_singleton_self s)
  obtain ⟨buffer, isImage, samples⟩ := (sampled.resolved s mem m (by simp [single])).2
    "reflectance" (by rw [properties, floor]; decide +kernel) "ground" (by rw [floor]; decide +kernel)
  obtain rfl : buffer = 0 := by
    have lt := isImage.lt_imageCount
    have images : (c.prepare ⟨1, 1⟩ 0).registry.imageCount = 1 := count
    omega
  have declared := (sampled.mem_declared 0).mpr ⟨s, mem, m, by simp [single], samples⟩
  have only := once rfl rfl unbroken 0
  rwa [if_pos declared] at only

/-- Where the name of a light has the declaration of an image behind a break, a program that
declares the image has that line twice at least. -/
theorem Outlined.two_le_count {s : Contribution} (outlined : Outlined e c v kind t u t' o p)
    (contributes : Contributes c v kind o (some s) block) {front : String} {b : Nat}
    (named : front ++ ("\n" ++ declarationContent b) ∈ c.scene.lights.names) (line : IsLine front)
    (declared : b ∈ allDeclared ((some s).toList ++ block.toList)) :
    2 ≤ (lines p.text).count (declarationContent b) := by
  have binds := (bindsImage_declaration b).2
  have broken : declarationContent b ∈ s.brokenLines := by
    have names : s.emissions.map (·.name) = c.scene.lights.names := by
      have emitted := congrArg (List.map Prod.fst) contributes.isTable.emitted
      simpa [NameMap.names, Function.comp_def] using emitted
    rw [← names] at named
    obtain ⟨m, mem, name⟩ := List.mem_map.mp named
    refine List.mem_flatMap.mpr ⟨m, mem, ?_⟩
    rw [name, Text.lines_isLine_break line, List.tail_cons,
      Text.lines_of_isLine (Stock.declaration_eq b).2]
    exact List.mem_singleton_self _
  have other : declarationContent b ∈ o.otherLines e c v kind p (some s) block := by
    simp [Outline.otherLines, broken]
  have counted := (outlined.declares contributes).count_eq (declarationContent b)
  rw [List.count_filter binds, List.count_append, List.count_filter binds] at counted
  have first := List.one_le_count_iff.mpr (List.mem_map_of_mem declared (f := declarationContent))
  have second := List.one_le_count_iff.mpr other
  omega

/-- A scene with a light whose name has a declaration behind a break. -/
def redeclaredScene : Scene :=
  let image := (Object.ofKind "image").withProperty "filename" (.string "sky.png")
  ((Scene.empty.addTexture "sky" image).addLight "dome"
    ((Object.ofKind "env").withProperty "radiance" (.string "sky"))).addLight
      ("lamp" ++ ("\n" ++ declarationContent 0)) (Object.ofKind "point")

/-- **A break in a name declares an image again.** The program for misses samples one image, and
two of its lines declare that image. -/
theorem break_declares_again :
    ∃ c t p, (Context.load Stock.describe redeclaredScene .standard).result = .ok c ∧
      c.registry.imageCount = 1 ∧
      (build .stock (c.prepare ⟨0, 0⟩ 0) .miss).step .empty = (t, .ok p) ∧
      2 ≤ (lines p.text).count (declarationContent 0) := by
  have made : ((Context.load Stock.describe redeclaredScene .standard).bind fun c =>
      ((build .stock (c.prepare ⟨0, 0⟩ 0) .miss).runOn .empty).bind fun _ =>
        pure (c.registry.imageCount, c.technique.variants.map (·.usesLights),
          ((build .stock (c.prepare ⟨0, 0⟩ 0) .miss).step .empty).1.declared)).result
      = .ok (1, [true], [0]) := by
    decide +kernel
  obtain ⟨c, loaded, made⟩ := Run.bind_eq_ok.mp made
  obtain ⟨p, built, found⟩ := Run.bind_eq_ok.mp made
  obtain ⟨images, rest⟩ := Prod.mk.inj (Except.ok.inj found)
  obtain ⟨uses, tree⟩ := Prod.mk.inj rest
  have built : (build .stock (c.prepare ⟨0, 0⟩ 0) .miss).step .empty = (_, .ok p) := Prod.ext rfl built
  refine ⟨c, _, p, loaded, images, built, ?_⟩
  obtain ⟨v, o, u, selected, outlined⟩ := outlined_build rfl built
  obtain ⟨table, block, contributes, chain, -⟩ := contributes_of_outlined rfl rfl outlined
  have usesLights : v.usesLights = true := by
    have listed := congrArg (·[0]?) uses
    have stands : c.technique.variants[0]? = some v := Context.variant_eq_ok.mp selected
    simpa [stands] using listed
  have has := contributes.table
  rw [HasTable, if_pos usesLights] at has
  obtain ⟨s, rfl, -⟩ := has
  have declared : 0 ∈ allDeclared ((some s).toList ++ block.toList) := by
    have known : 0 ∈ ((build .stock (c.prepare ⟨0, 0⟩ 0) .miss).step .empty).1.declared := by
      rw [tree]
      exact List.mem_singleton_self _
    exact (chain.mem_declared.mp known).resolve_left (by simp [ShadingTree.empty])
  have scene : (c.prepare ⟨0, 0⟩ 0).scene = redeclaredScene := (Context.load_ok loaded).scene_eq
  have named : "lamp" ++ ("\n" ++ declarationContent 0)
      ∈ (c.prepare ⟨0, 0⟩ 0).scene.lights.names := by
    rw [scene]
    decide +kernel
  exact outlined.two_le_count contributes named (.literal rfl) declared

end Generation

end RayShader
