import RayShader.Proofs.LightTables
import RayShader.Proofs.RenamedPrograms
import RayShader.Proofs.Scopes

/-!
# Compilations of renamed scenes

Lights and bsdfs can have other names without harm to a compilation: what compiles does so
under every name, and program for program the texts are made of the same pieces
(`Generation.compile_renamed`). As long as no name has a break, every line of every program
is that of before, up to the name in the comment at its end. A name with a break adds lines
of its own to the programs, which are code (`Generation.break_adds_code`).
-/

namespace RayShader

open Program (Piece Matches)
open Stock (lightContent bsdfContent)
open Text (lines IsLine code)

/-- Where every element has a value with a follower, so has the list. -/
theorem except_mapM_follows {α β γ ε : Type} {f : α → Except ε β} {g : α → Except ε γ}
    {R : β → γ → Prop} {as : List α}
    (h : ∀ a ∈ as, ∀ b, f a = .ok b → ∃ c, g a = .ok c ∧ R b c) {bs : List β}
    (made : as.mapM f = .ok bs) : ∃ cs, as.mapM g = .ok cs ∧ List.Forall₂ R bs cs := by
  rw [except_mapM_eq_ok] at made
  simp only [except_mapM_eq_ok]
  induction made with
  | nil => exact ⟨[], .nil, .nil⟩
  | cons first _ ih =>
    obtain ⟨here, others⟩ := List.forall_mem_cons.mp h
    obtain ⟨c, made, related⟩ := here _ first
    obtain ⟨cs, each, more⟩ := ih others
    exact ⟨c :: cs, .cons made each, .cons related more⟩

/-! ### Lines of pieces -/

variable {s s' : Scene}

open Stock (isLine_lightContent isLine_bsdfContent)

namespace Program

/-- Pieces have the same code. -/
theorem Piece.code_eq {text text' : String} (h : Piece s s' text text') : code text = code text' := by
  cases h with
  | same => rfl
  | light =>
    rw [Stock.lightContent_eq, Stock.lightContent_eq]
    exact Text.code_comment ..
  | bsdf =>
    rw [Stock.bsdfContent_eq, Stock.bsdfContent_eq]
    exact Text.code_comment ..

/-- Where names have no breaks, a piece is made of the same lines, up to names. -/
theorem Piece.lines (unbroken : s.HasUnbrokenNames) (unbroken' : s'.HasUnbrokenNames)
    {text text' : String} (h : Piece s s' text text') :
    List.Forall₂ (Piece s s') (lines text) (lines text') := by
  cases h with
  | same text => exact List.forall₂_same.mpr fun line _ => .same line
  | @light i expr name name' line named named' =>
    have first := isLine_lightContent i line (unbroken.lights _ (List.mem_of_getElem? named))
    have second := isLine_lightContent i line (unbroken'.lights _ (List.mem_of_getElem? named'))
    rw [Text.lines_of_isLine first, Text.lines_of_isLine second]
    exact .cons (.light line named named') .nil
  | @bsdf group bsdf name name' line named named' =>
    have first := isLine_bsdfContent group line (unbroken.bsdfs _ (List.mem_of_getElem? named))
    have second := isLine_bsdfContent group line (unbroken'.bsdfs _ (List.mem_of_getElem? named'))
    rw [Text.lines_of_isLine first, Text.lines_of_isLine second]
    exact .cons (.bsdf line named named') .nil

theorem Matches.lines (unbroken : s.HasUnbrokenNames) (unbroken' : s'.HasUnbrokenNames)
    {ls ls' : List String} (h : Matches s s' ls ls') : List.Forall₂ (Piece s s') ls ls' := by
  obtain ⟨pieces, each, rfl, rfl⟩ := h
  induction pieces with
  | nil => exact .nil
  | cons p rest ih =>
    obtain ⟨first, others⟩ := List.forall_mem_cons.mp each
    exact List.rel_append (first.lines unbroken unbroken') (ih others)

end Program

/-! ### Programs of variants -/

namespace Generation

variable {c : Context} {lights bsdfs : NameMap Object}

/-- Slots of the same kind whose programs have matching lines. -/
structure MatchSlots (s s' : Scene) (slot slot' : ShaderKind × String) : Prop where
  /-- The slots are of the same kind. -/
  kind : slot'.1 = slot.1
  /-- The lines of the programs match. -/
  lines : Matches s s' (lines slot.2) (lines slot'.2)

section

variable (hl : List.Forall₂ Relabels c.scene.lights.entries lights.entries)
  (hb : List.Forall₂ Relabels c.scene.bsdfs.entries bsdfs.entries)

include hl hb in
theorem source_follows {kind : ShaderKind} {text : String}
    (made : (source .stock c kind).result = .ok text) :
    ∃ text', (source .stock (c.withNames lights bsdfs) kind).result = .ok text' ∧
      Matches c.scene (c.withNames lights bsdfs).scene (lines text) (lines text') := by
  obtain ⟨p, t, built, rfl⟩ := source_ok made
  obtain ⟨p', built', same⟩ := follows_build hl hb kind _ t p built
  have ran : ((build .stock (c.withNames lights bsdfs) kind).runOn .empty).result = .ok p' :=
    congrArg Prod.snd built'
  exact ⟨p'.text, Run.bind_eq_ok.mpr ⟨p', ran, rfl⟩, same⟩

include hl hb in
theorem slot_follows {s : ShaderKind × Unit} {slot : ShaderKind × String}
    (made : (Variant.fillSlot (fun kind _ => source .stock c kind) s).result = .ok slot) :
    ∃ slot', (Variant.fillSlot (fun kind _ => source .stock (c.withNames lights bsdfs) kind) s).result
        = .ok slot' ∧ MatchSlots c.scene (c.withNames lights bsdfs).scene slot slot' := by
  simp only [Variant.fillSlot, Run.result_map] at made ⊢
  cases program : (source .stock c s.1).result with
  | error f =>
    rw [program] at made
    cases made
  | ok text =>
    rw [program] at made
    obtain rfl := Except.ok.inj made
    obtain ⟨text', program', same⟩ := source_follows hl hb program
    exact ⟨(s.1, text'), by rw [program']; rfl, rfl, same⟩

include hl hb in
/-- The programs of a variant follow under other names. -/
theorem variant_follows {w : Variant String} (made : (variant .stock c).result = .ok w) :
    ∃ w', (variant .stock (c.withNames lights bsdfs)).result = .ok w' ∧
      List.Forall₂ (MatchSlots c.scene (c.withNames lights bsdfs).scene) w.slots w'.slots := by
  obtain ⟨d, hd, made⟩ := Run.bind_eq_ok.mp made
  obtain ⟨v, hv, made⟩ := Run.bind_eq_ok.mp made
  obtain ⟨w', filled, made⟩ := Run.bind_eq_ok.mp made
  obtain ⟨⟨⟩, -, made⟩ := Run.bind_eq_ok.mp made
  obtain rfl : w' = w := Except.ok.inj made
  have groups : (c.withNames lights bsdfs).hitGroups = c.hitGroups := hb.length_eq.symm
  have slots (e : Context) := congrArg Run.result
    (Variant.slots_mapM (fun kind _ => source .stock e kind) (Variant.layout v c.hitGroups))
  simp only [Run.result_map, Run.result_mapM] at slots
  have here := slots c
  rw [filled] at here
  obtain ⟨ss, each, related⟩ := except_mapM_follows (R := MatchSlots c.scene _)
    (fun s _ slot made => slot_follows hl hb made) here.symm
  have there := (slots (c.withNames lights bsdfs)).trans each
  cases filled' : ((Variant.layout v c.hitGroups).mapM fun kind _ =>
      source .stock (c.withNames lights bsdfs) kind).result with
  | error f =>
    rw [filled'] at there
    cases there
  | ok w'' =>
    rw [filled'] at there
    obtain rfl := Except.ok.inj there
    refine ⟨w'', Run.bind_eq_ok.mpr ⟨d, hd, Run.bind_eq_ok.mpr ⟨v, hv, Run.bind_eq_ok.mpr
      ⟨w'', ?_, rfl⟩⟩⟩, related⟩
    rw [groups]
    exact filled'

/-- Slots of two variants that match. -/
abbrev MatchVariants (s s' : Scene) (w w' : Variant String) : Prop :=
  List.Forall₂ (MatchSlots s s') w.slots w'.slots

include hl hb in
/-- The programs of all variants follow under other names. -/
theorem all_follows {variants : List (Variant String)}
    (made : (all .stock c).2.result = .ok variants) :
    ∃ variants', (all .stock (c.withNames lights bsdfs)).2.result = .ok variants' ∧
      List.Forall₂ (MatchVariants c.scene (c.withNames lights bsdfs).scene) variants variants' := by
  rw [result_all] at made ⊢
  refine except_mapM_follows (fun index mem w made => ?_) made
  have lt : index < c.technique.count := List.mem_range.mp mem
  rw [task_eq lt] at made
  rw [task_eq (c := c.withNames lights bsdfs) lt]
  exact variant_follows (c := { c with selected := index }) hl hb made

end

end Generation

/-! ### Loading renamed scenes -/

namespace Context

variable {c : Context} {options : Options} {lights bsdfs : NameMap Object}

theorem ofScene_withNames (technique : Technique.Info) :
    (ofScene { s with lights := lights, bsdfs := bsdfs } technique options).result
      = (ofScene s technique options).result.map (·.withNames lights bsdfs) := by
  unfold ofScene
  by_cases bad : options.samples.toNat = 0 ∨ maxSamples < options.samples.toNat
  · simp only [if_pos bad]
    rfl
  · simp only [if_neg bad]
    cases technique.variants.isEmpty <;> rfl

/-- A scene with other names loads into the context with those names. -/
theorem load_withNames (loaded : (load Stock.describe s options).result = .ok c) :
    (load Stock.describe { s with lights := lights, bsdfs := bsdfs } options).result
      = .ok (c.withNames lights bsdfs) := by
  obtain ⟨⟨⟩, -, loaded⟩ := Run.bind_eq_ok.mp loaded
  obtain ⟨technique, described, loaded⟩ := Run.bind_eq_ok.mp loaded
  obtain ⟨d, made, loaded⟩ := Run.bind_eq_ok.mp loaded
  obtain ⟨⟨⟩, registered, loaded⟩ := Run.bind_eq_ok.mp loaded
  have reached : (registerTextures d).1 = c := Except.ok.inj loaded
  have made' : (ofScene { s with lights := lights, bsdfs := bsdfs } technique options).result
      = .ok (d.withNames lights bsdfs) := by
    rw [ofScene_withNames, made]
    rfl
  have described' : (Stock.describe (resolveTechnique s options)
      { s with lights := lights, bsdfs := bsdfs }).result = .ok technique :=
    (congrArg Run.result (Stock.describe_congr rfl)).trans described
  obtain ⟨r, result, here, there⟩ := registerAll_congr (c := d) (d := d.withNames lights bsdfs)
    d.scene.textures.entries rfl rfl
  obtain ⟨state, gave⟩ := Prod.mk.inj here
  obtain ⟨state', gave'⟩ := Prod.mk.inj there
  have registered' : (registerTextures (d.withNames lights bsdfs)).2.result = .ok () :=
    gave'.trans (gave.symm.trans registered)
  have reached' : (registerTextures (d.withNames lights bsdfs)).1 = c.withNames lights bsdfs := by
    rw [← reached]
    exact state'.trans (congrArg (Context.withNames · lights bsdfs) state.symm)
  exact Run.bind_eq_ok.mpr ⟨(), rfl, Run.bind_eq_ok.mpr ⟨technique, described',
    Run.bind_eq_ok.mpr ⟨_, made', Run.bind_eq_ok.mpr ⟨(), registered', congrArg Except.ok reached'⟩⟩⟩⟩

end Context

/-! ### Compiling renamed scenes -/

namespace Generation

variable {options : Options} {d : Scene.Database} {variants : List (Variant String)}

/-- Slots of the same kind whose programs have the same code, line by line. The lines are the
same but for those of lights and bsdfs, which end with other names. -/
structure SameCode (s s' : Scene) (slot slot' : ShaderKind × String) : Prop where
  /-- The slots are of the same kind. -/
  kind : slot'.1 = slot.1
  /-- Line by line, the programs are the same but for names. -/
  lines : List.Forall₂ (Piece s s') (lines slot.2) (lines slot'.2)
  /-- Line by line, what stands in front of the comments is the same. -/
  code : (Text.lines slot'.2).map code = (Text.lines slot.2).map code

theorem MatchSlots.sameCode (unbroken : s.HasUnbrokenNames) (unbroken' : s'.HasUnbrokenNames)
    {slot slot' : ShaderKind × String} (h : MatchSlots s s' slot slot') : SameCode s s' slot slot' := by
  have pieces := h.lines.lines unbroken unbroken'
  refine ⟨h.kind, pieces, ?_⟩
  rw [← List.forall₂_eq_eq_eq, List.forall₂_map_left_iff, List.forall₂_map_right_iff]
  exact (pieces.imp fun _ _ same => same.code_eq.symm).flip

/-- **Names reach programs as comments only, as long as they have no breaks.** If a scene
compiles, so does every scene that is the same but for names of lights and bsdfs. Slot by
slot the kinds are the same, and the programs are made of the same pieces, but for names at
the ends of the lines of lights and bsdfs. If no name of either scene has a break, then line
by line the programs are the same up to those names, with the same code. -/
theorem compile_renamed (renames : s.Renames s')
    (compiled : (compile s options d).result = .ok variants) :
    ∃ variants', (compile s' options d).result = .ok variants' ∧
      List.Forall₂ (fun w w' => List.Forall₂ (MatchSlots s s') w.slots w'.slots) variants variants' ∧
      (s.HasUnbrokenNames → s'.HasUnbrokenNames → List.Forall₂ (fun w w' =>
        List.Forall₂ (SameCode s s') w.slots w'.slots) variants variants') := by
  obtain ⟨c, loaded, generated⟩ := Run.bind_eq_ok.mp compiled
  obtain rfl : c.scene = s := (Context.load_ok loaded).scene_eq
  have renamed : { c.scene with lights := s'.lights, bsdfs := s'.bsdfs } = s' := renames.others.symm
  have loaded' : (Context.load Stock.describe
      { c.scene with lights := s'.lights, bsdfs := s'.bsdfs } options).result
        = .ok (c.withNames s'.lights s'.bsdfs) := Context.load_withNames loaded
  rw [renamed] at loaded'
  obtain ⟨variants', generated', matched⟩ := all_follows (c := { c with database := some d })
    renames.lights renames.bsdfs generated
  have matched : List.Forall₂ (MatchVariants c.scene
      { c.scene with lights := s'.lights, bsdfs := s'.bsdfs }) variants variants' := matched
  rw [renamed] at matched
  exact ⟨variants', Run.bind_eq_ok.mpr ⟨_, loaded', generated'⟩, matched, fun unbroken unbroken' =>
    matched.imp fun _ _ slots => slots.imp fun _ _ same => same.sameCode unbroken unbroken'⟩

/-- A scene with a light and a bsdf of the given names. -/
def labelledScene (light bsdf : String) : Scene :=
  (Scene.empty.addLight light (.ofKind "point")).addBsdf bsdf (.ofKind "diffuse")

theorem labelled_renames (light bsdf light' bsdf' : String) :
    (labelledScene light bsdf).Renames (labelledScene light' bsdf') where
  others := rfl
  lights := .cons rfl .nil
  bsdfs := .cons rfl .nil

theorem lamp_and_floor_renamed :
    ∃ variants variants',
      (compile (labelledScene "lamp" "floor") .standard ⟨0, 0⟩).result = .ok variants ∧
      (compile (labelledScene "// sun" "ground") .standard ⟨0, 0⟩).result = .ok variants' ∧
      List.Forall₂ (fun w w' => List.Forall₂ (SameCode (labelledScene "lamp" "floor")
        (labelledScene "// sun" "ground")) w.slots w'.slots) variants variants' := by
  cases compiled : (compile (labelledScene "lamp" "floor") .standard ⟨0, 0⟩).result with
  | error f =>
    have compiles : (compile (labelledScene "lamp" "floor") .standard ⟨0, 0⟩).result.isOk = true := by
      decide +kernel
    rw [compiled] at compiles
    cases compiles
  | ok variants =>
    obtain ⟨variants', compiled', -, same⟩ :=
      compile_renamed (labelled_renames "lamp" "floor" "// sun" "ground") compiled
    exact ⟨variants, variants', rfl, compiled',
      same ⟨by decide +kernel, by decide +kernel⟩ ⟨by decide +kernel, by decide +kernel⟩⟩

end Generation

/-! ### Breaks in names -/

namespace Stock

variable {c : Context} {t u : ShadingTree}

/-- What stands behind a break in the name of a light is lines of the table. -/
theorem mem_lines_lights {restricted : Bool} {text : String}
    (h : (lights c restricted).step t = (u, .ok text)) {front behind : String}
    (named : front ++ ("\n" ++ behind) ∈ c.scene.lights.names) {line : String}
    (mem : line ∈ lines behind) : line ∈ lines text := by
  obtain ⟨w, entries, buffers, made, -, rfl⟩ := lights_step_eq_ok.mp h
  obtain ⟨-, each⟩ := Light.adds_entries restricted _ _ _ _ made
  rw [NameMap.names, ← Light.names_of_entries each] at named
  obtain ⟨⟨name, expr⟩, listed, rfl⟩ := List.mem_map.mp named
  obtain ⟨i, lt, found⟩ := List.getElem_of_mem listed
  have indexed : ((front ++ ("\n" ++ behind), expr), i) ∈ entries.zipIdx := by
    rw [List.mem_zipIdx_iff_getElem?, List.getElem?_eq_getElem lt, found]
  have broken : lightContent ((front ++ ("\n" ++ behind), expr), i)
      = (lightCode i expr ++ ("//" ++ (" " ++ front))) ++ ("\n" ++ behind) := by
    simp only [lightContent_eq, String.append_assoc]
  rw [lines_lightTable_eq]
  refine List.mem_append_right _ (List.mem_append_left _ (List.mem_flatMap.mpr ⟨_, indexed, ?_⟩))
  rw [broken, Text.lines_break]
  exact List.mem_append_right _ mem

end Stock

namespace Generation

open Program (Fragment)

variable {c : Context} {kind : ShaderKind} {p : Program} {t : ShadingTree} {v : Technique.VariantInfo}

/-- What stands behind a break in the name of a light is lines of every program that has the
table of lights. -/
theorem mem_lines_build (hk : shades kind = true) (hv : c.variant = .ok v) (uses : v.usesLights = true)
    (built : (build .stock c kind).step .empty = (t, .ok p)) {front behind : String}
    (named : front ++ ("\n" ++ behind) ∈ c.scene.lights.names) {line : String}
    (mem : line ∈ lines behind) : line ∈ lines p.text := by
  obtain ⟨v', o, u, hv', outlined⟩ := outlined_build hk built
  obtain rfl : v = v' := Except.ok.inj (hv.symm.trans hv')
  have fromLights := outlined.lights
  rw [Outline.LightsFrom, if_pos uses] at fromLights
  obtain ⟨table, answered, holds⟩ := fromLights
  have here : line ∈ (Fragment.source table).lines := Stock.mem_lines_lights answered named mem
  have fragment : Fragment.source table ∈ p.body := by
    simp [outlined.body_eq, Outline.body, Outline.lightLines, holds]
  rw [Program.lines_text]
  exact List.mem_append_right _ (List.mem_append_right _ (List.mem_append_left _
    (List.mem_flatMap.mpr ⟨_, fragment, here⟩)))

variable {options : Options} {d : Scene.Database} {variants : List (Variant String)}

/-- In a compilation, what stands behind a break in the name of a light is lines of every
program for misses, hits and shadow rays, if the variant uses lights. -/
theorem mem_lines_compile (loaded : (Context.load Stock.describe s options).result = .ok c)
    (compiled : (compile s options d).result = .ok variants) {i : Nat} {w : Variant String}
    (hw : variants[i]? = some w) (hv : c.technique.variants[i]? = some v) (uses : v.usesLights = true)
    {slot : ShaderKind × String} (filled : slot ∈ w.slots) (hk : shades slot.1 = true)
    {front behind : String} (named : front ++ ("\n" ++ behind) ∈ s.lights.names) {line : String}
    (mem : line ∈ lines behind) : line ∈ lines slot.2 := by
  obtain ⟨c', loaded', generated⟩ := Run.bind_eq_ok.mp compiled
  obtain rfl : c = c' := Except.ok.inj (loaded.symm.trans loaded')
  obtain rfl : c.scene = s := (Context.load_ok loaded).scene_eq
  obtain ⟨p, t, built, text⟩ := (built_of_all generated hw).2 slot filled
  have selected : (c.prepare d i).variant = .ok v := Context.variant_eq_ok.mpr hv
  rw [text]
  exact mem_lines_build (c := c.prepare d i) hk selected uses built named mem

/-- How lines of code begin. -/
def beginnings : List (Option Char) :=
  [none, some '/', some 's', some 'f', some '#', some ' ', some '\x7d']

theorem Laid.head?_mem {b : Parts} (h : Laid c v kind p b) (unbroken : HasUnbrokenPreamble c v)
    {line : String} (mem : line ∈ lines p.text) : line.toList.head? ∈ beginnings := by
  rw [h.lines_text, List.mem_append, List.mem_cons] at mem
  rcases mem with mem | rfl | mem
  · rcases h.head?_preamble unbroken mem with head | head | head <;> rw [head] <;> decide
  · rw [head?_entry]
    decide
  · rcases h.head?_behind mem with head | head | head <;> rw [head] <;> decide

/-- In a scene whose names have no breaks, all code begins like code. -/
theorem head?_code_mem (unbroken : s.HasUnbrokenNames)
    (compiled : (compile s options d).result = .ok variants) {w : Variant String} (hw : w ∈ variants)
    {slot : ShaderKind × String} (mem : slot ∈ w.slots) {text : String}
    (stands : text ∈ (lines slot.2).map code) : text.toList.head? ∈ beginnings := by
  obtain ⟨c, -, programs⟩ := laid_of_compile unbroken compiled
  obtain ⟨i, found⟩ := List.getElem?_of_mem hw
  obtain ⟨v, p, t, b, -, -, same, laid, preamble⟩ := programs i w found slot mem
  obtain ⟨line, here, rfl⟩ := List.mem_map.mp stands
  rw [same] at here
  have first := laid.head?_mem preamble here
  rcases Text.head?_code line with head | head <;> rw [head]
  · decide
  · exact first

/-- **A break in a name adds code.** What stands behind the break is a line of the program
for misses, and no line of any program of the scene with another name has that code. -/
theorem break_adds_code :
    (labelledScene "lamp" "floor").Renames (labelledScene "lamp\nevil()" "floor") ∧
      (∃ variants, (compile (labelledScene "lamp\nevil()" "floor") .standard ⟨0, 0⟩).result
        = .ok variants ∧ ∃ w ∈ variants, ∃ slot ∈ w.slots, "evil()" ∈ (lines slot.2).map code) ∧
      ∀ variants, (compile (labelledScene "lamp" "floor") .standard ⟨0, 0⟩).result = .ok variants →
        ∀ w ∈ variants, ∀ slot ∈ w.slots, "evil()" ∉ (lines slot.2).map code := by
  refine ⟨labelled_renames .., ?_, fun variants compiled w hw slot mem stands => ?_⟩
  · have made : ((Context.load Stock.describe (labelledScene "lamp\nevil()" "floor") .standard).bind
        fun c => (compile (labelledScene "lamp\nevil()" "floor") .standard ⟨0, 0⟩).bind fun variants =>
          pure (c.technique.variants.map (·.usesLights), variants.map fun w => w.slots.map (·.1))).result
        = .ok ([true], [[.rayGeneration, .miss, .hit 0]]) := by decide +kernel
    obtain ⟨c, loaded, made⟩ := Run.bind_eq_ok.mp made
    obtain ⟨variants, compiled, made⟩ := Run.bind_eq_ok.mp made
    obtain ⟨uses, kinds⟩ := Prod.mk.inj (Except.ok.inj made)
    obtain ⟨v, hv, uses⟩ : ∃ v, c.technique.variants[0]? = some v ∧ v.usesLights = true := by
      have first := congrArg (·[0]?) uses
      simpa using first
    obtain ⟨w, hw, kinds⟩ : ∃ w, variants[0]? = some w ∧
        w.slots.map (·.1) = [.rayGeneration, .miss, .hit 0] := by
      have first := congrArg (·[0]?) kinds
      simpa only [List.getElem?_map, List.getElem?_cons_zero, Option.map_eq_some_iff] using first
    have has : ShaderKind.miss ∈ w.slots.map (·.1) := by rw [kinds]; decide
    obtain ⟨slot, filled, miss⟩ := List.mem_map.mp has
    have named : "lamp" ++ ("\n" ++ "evil()") ∈ (labelledScene "lamp\nevil()" "floor").lights.names := by
      decide +kernel
    have line : "evil()" ∈ lines slot.2 :=
      mem_lines_compile loaded compiled hw hv uses filled (miss ▸ rfl) named (by decide)
    exact ⟨variants, compiled, w, List.mem_of_getElem? hw, slot, filled,
      List.mem_map.mpr ⟨_, line, by decide⟩⟩
  · have begins := head?_code_mem ⟨by decide +kernel, by decide +kernel⟩ compiled hw mem stands
    exact absurd begins (by decide)

end Generation

end RayShader
