import RayShader.Proofs.Compilation
import RayShader.Proofs.Layouts
import RayShader.Proofs.Operations

/-!
# Scopes of programs

A program is closed: the call at its end uses parameters of its function and names that
its body binds, each once, and no name is bound twice. This is said of the text of a
program (`Program.WellScoped`), line by line, since the collaborators contribute texts.

The lines fall into those of the preamble, the line that opens the function, the lines of
the body, and the call. Only the lines of the body are indented, and only the line that
opens the function exports one.
-/

namespace RayShader

open Generation
open Program (Lets Fragment boundName? boundNames indent)
open Technique (VariantInfo)
open Text (lines IsLine)

/-! ### Kinds of lines -/

namespace Text

/-- The line begins with the text. -/
def beginsWith (stem line : String) : Bool := stem.toList.isPrefixOf line.toList

variable {stem line : String}

theorem beginsWith_append (stem rest : String) : beginsWith stem (stem ++ rest) = true := by
  rw [beginsWith, String.toList_append, List.isPrefixOf_iff_prefix]
  exact List.prefix_append ..

/-- A line whose first character is another one does not begin with the text. -/
theorem beginsWith_of_head?_ne (hs : stem.toList ≠ []) (h : line.toList.head? ≠ stem.toList.head?) :
    beginsWith stem line = false := by
  obtain ⟨c, cs, chars⟩ := List.exists_cons_of_ne_nil hs
  rw [beginsWith, chars]
  rw [chars] at h
  cases found : line.toList with
  | nil => rfl
  | cons d ds =>
    rw [found] at h
    have other : c ≠ d := fun same => h (by simp [same])
    simp [List.isPrefixOf, other]

/-- No line begins with the text if its first character begins none. -/
theorem filter_beginsWith_eq_nil {ls : List String} (hs : stem.toList ≠ [])
    (h : ∀ line ∈ ls, line.toList.head? ≠ stem.toList.head?) : ls.filter (beginsWith stem) = [] := by
  refine List.filter_eq_nil_iff.mpr fun line mem => ?_
  rw [beginsWith_of_head?_ne hs (h line mem)]
  decide

theorem head?_of_append {stem rest : String} (hs : stem.toList ≠ []) :
    (stem ++ rest).toList.head? = stem.toList.head? := by
  rw [String.toList_append, List.head?_append_of_ne_nil _ hs]

end Text

namespace Program

open Text (beginsWith)

/-- The line opens an exported function. -/
def exports (line : String) : Bool := beginsWith "#[export]" line

/-- The line defines the function that makes the data of a new ray. -/
def definesPayload (line : String) : Bool := beginsWith "fn init_raypayload(" line

/-- A line that does not begin with a blank binds nothing. -/
theorem boundName?_of_head?_ne {line : String} (h : line.toList.head? ≠ some ' ') :
    boundName? line = none := by
  rw [boundName?, Option.map_eq_none_iff]
  cases found : "  let ".toList.isPrefixOf? line.toList with
  | none => rfl
  | some rest =>
    rw [List.isPrefixOf?_eq_some_iff_append_eq] at found
    rw [← found] at h
    exact absurd rfl h

theorem Lets.head?_eq {ls names : List String} (h : Lets ls names) {line : String} (mem : line ∈ ls) :
    line.toList.head? = none ∨ line.toList.head? = some ' ' := by
  rcases h.indented line mem with rfl | ⟨rest, rfl⟩
  · exact .inl rfl
  · exact .inr (Text.head?_of_append (by decide))

/-- The name is a parameter of the function, which the body does not bind again, or the
body binds it once. -/
def Resolves (p : Program) (name : String) : Prop :=
  if name ∈ p.entry.params.map Prod.fst then name ∉ boundNames p.text
  else (boundNames p.text).count name = 1

/-- The text of the program of a kind is well scoped, for a variant and a context. -/
structure WellScoped (c : Context) (v : VariantInfo) (kind : ShaderKind) (p : Program) : Prop where
  /-- The function is exported right behind the preamble. -/
  exported : ∃ rest, lines p.text = lines p.preamble ++ p.entry.text :: rest
  /-- No other line exports a function. -/
  exports_eq : (lines p.text).filter exports = [p.entry.text]
  /-- No name is bound twice. -/
  nodup : (boundNames p.text).Nodup
  /-- The program ends with a call on the device, and the names in the call are known. -/
  closed : ∃ function args front, p.result = .forward "device" function args ∧
    lines p.text = front ++ [indent ++ p.result.text, "\x7d", ""] ∧
    ∀ name ∈ "device" :: args, p.Resolves name
  /-- The count of samples is bound before the technique or the callback. -/
  samples : ∃ before between main after, mainText c kind = .ok main ∧ lines p.text = before
    ++ ("  let spp = " ++ (toString c.samples ++ " : i32;")) :: (between ++ (lines main ++ after))
  /-- Pixels are written unless the variant locks them. -/
  framebuffer : ∀ line ∈ lines p.text, boundName? line = some "use_framebuffer" →
    line = "  let use_framebuffer = " ++ ((if v.locksFramebuffer then "false" else "true") ++ ";")
  /-- The function that makes the data of a new ray is defined in the preamble of the
  program that makes rays, once, and nowhere else. -/
  payload : (lines p.text).filter definesPayload = (lines p.preamble).filter definesPayload ∧
    ((lines p.preamble).filter definesPayload).length = if kind = .rayGeneration then 1 else 0

end Program

/-! ### The lines of a program -/

namespace Generation

variable {c : Context} {v : VariantInfo} {kind : ShaderKind} {p : Program} {b : Parts}

/-- The values of the preamble have no breaks. -/
structure HasUnbrokenPreamble (c : Context) (v : VariantInfo) : Prop where
  /-- The kind of technique. -/
  technique : IsLine c.techniqueKind
  /-- The expression that makes the data of a new ray. -/
  initializer : IsLine (v.payloadInitializer.getD Stock.Technique.emptyPayload)

/-- The call at the end of a program. -/
def callLine (kind : ShaderKind) : String :=
  indent ++ (Program.Call.forward "device" (dispatch kind).1 (dispatch kind).2).text

/-- The lines behind the one that opens the function. -/
def Parts.behind (b : Parts) (c : Context) (v : VariantInfo) (kind : ShaderKind) : List String :=
  (b.front c).flatMap Fragment.lines
    ++ ((closing v kind).flatMap Fragment.lines ++ [callLine kind, "\x7d", ""])

/-- A kind for each form of program. -/
def forms : List ShaderKind :=
  [.rayGeneration, .miss, .hit 0, .shadowHit, .shadowMiss, .callback .before]

/-- The line that opens the function and the call have neither the number of a hit group nor
the moment of a callback. -/
theorem exists_form (kind : ShaderKind) :
    ∃ k ∈ forms, entryOf kind = entryOf k ∧ callLine kind = callLine k := by
  cases kind with
  | hit => exact ⟨.hit 0, by decide, rfl, rfl⟩
  | callback => exact ⟨.callback .before, by decide, rfl, rfl⟩
  | rayGeneration | miss | shadowHit | shadowMiss => exact ⟨_, by decide, rfl, rfl⟩

/-- The line that opens the function and the call are lines, and the call binds nothing. -/
theorem fixed_lines (kind : ShaderKind) :
    IsLine (entryOf kind).text ∧ IsLine (callLine kind) ∧ boundName? (callLine kind) = none := by
  obtain ⟨k, form, entry, call⟩ := exists_form kind
  rw [entry, call]
  simp only [IsLine, boundName?, callLine, Program.EntryPoint.toList_text,
    Program.Call.toList_text_forward, String.toList_append]
  clear entry call
  revert k
  decide +kernel

theorem head?_entry (p : Program) : p.entry.text.toList.head? = some '#' := by
  obtain ⟨rest, entry⟩ := entryText_eq p.entry
  rw [entry]
  exact Text.head?_of_append (by decide)

namespace Laid

/-- The lines of a program. -/
theorem lines_text (h : Laid c v kind p b) :
    lines p.text = lines p.preamble ++ p.entry.text :: b.behind c v kind := by
  obtain ⟨entry, call, -⟩ := fixed_lines kind
  rw [← h.entry_eq] at entry
  have ending : lines (indent ++ p.result.text) = [callLine kind] := by
    rw [h.result_eq]
    exact Text.lines_of_isLine call
  rw [Program.lines_text, Text.lines_of_isLine entry, ending, h.body_eq, List.flatMap_append,
    Parts.behind]
  simp only [List.cons_append, List.nil_append, List.append_assoc]

/-- The lines of the preamble: three that are not of a function, and in the program that
makes rays the function that makes the data of a new ray. -/
theorem lines_preamble (h : Laid c v kind p b) (unbroken : HasUnbrokenPreamble c v) :
    ∃ first second third, lines p.preamble = [first, second, third]
      ++ (if kind = .rayGeneration then ["fn init_raypayload() = "
        ++ (v.payloadInitializer.getD Stock.Technique.emptyPayload ++ ";")] else []) ∧
      ∀ line ∈ [first, second, third], line.toList.head? = some '/' ∨ line.toList.head? = some 's' := by
  have made := Stock.lines_preamble unbroken.technique c.selected v.primaryPayload.toNat
    v.secondaryPayload.toNat unbroken.initializer (decide (kind = .rayGeneration))
  simp only [decide_eq_true_eq] at made
  refine ⟨_, _, _, (congrArg lines h.preamble_eq).trans made, ?_⟩
  simp only [List.forall_mem_cons]
  refine ⟨.inl ?_, .inr ?_, .inr ?_, by simp⟩ <;> exact Text.head?_of_append (by decide)

/-- How the lines of the preamble begin. -/
theorem head?_preamble (h : Laid c v kind p b) (unbroken : HasUnbrokenPreamble c v) {line : String}
    (mem : line ∈ lines p.preamble) :
    line.toList.head? = some '/' ∨ line.toList.head? = some 's' ∨ line.toList.head? = some 'f' := by
  obtain ⟨first, second, third, preamble, heads⟩ := h.lines_preamble unbroken
  rw [preamble] at mem
  rcases List.mem_append.mp mem with mem | mem
  · rcases heads line mem with head | head
    · exact .inl head
    · exact .inr (.inl head)
  · split at mem
    · rw [List.mem_singleton.mp mem]
      exact .inr (.inr (Text.head?_of_append (by decide)))
    · cases mem

/-- How the lines behind the one that opens the function begin. -/
theorem head?_behind (h : Laid c v kind p b) {line : String} (mem : line ∈ b.behind c v kind) :
    line.toList.head? = none ∨ line.toList.head? = some ' ' ∨ line.toList.head? = some '\x7d' := by
  obtain ⟨ns, numbered, binds, -⟩ := h.names
  have call : (callLine kind).toList.head? = some ' ' := Text.head?_of_append (by decide)
  simp only [Parts.behind, List.mem_append, List.mem_cons, List.not_mem_nil, or_false] at mem
  rcases mem with mem | mem | rfl | rfl | rfl
  · exact (binds.head?_eq mem).imp_right .inl
  · exact ((closing_binds v kind).head?_eq mem).imp_right .inl
  · exact .inr (.inl call)
  · exact .inr (.inr rfl)
  · exact .inl rfl

end Laid

/-- The closing lines say whether pixels are written and whether the ray hit something. -/
theorem mem_closing {line : String} (mem : line ∈ (closing v kind).flatMap Fragment.lines) :
    line = "  let use_framebuffer = " ++ ((if v.locksFramebuffer then "false" else "true") ++ ";") ∨
      ∃ isHit : Bool, line = "  let is_hit = " ++ ((if isHit then "true" else "false") ++ ";") := by
  cases kind <;> simp only [closing, List.flatMap_cons, List.flatMap_nil, List.append_nil,
    lines_framebuffer, lines_isHit, List.mem_append, List.mem_singleton, List.not_mem_nil] at mem
  case miss | hit => exact .inl mem
  case shadowHit => exact mem.symm.imp_right fun eq => ⟨true, eq⟩
  case shadowMiss => exact mem.symm.imp_right fun eq => ⟨false, eq⟩

/-! ### Names in programs -/

/-- The words that a body may bind, in order. -/
def bodyWords : List String := frontWords ++ ["is_hit", "use_framebuffer"]

/-- The words that the body of a kind binds. -/
def boundWords (kind : ShaderKind) : List String :=
  ["device", "spp", mainWord kind] ++ (ownBound kind ++ closingNames kind)

/-- The words in the call are parameters that no body binds, or the body binds them. -/
abbrev Closed (kind : ShaderKind) : Prop := ∀ name ∈ "device" :: (dispatch kind).2,
  if name ∈ (entryOf kind).params.map Prod.fst then name ∉ bodyWords ∧ isNumbered name = false
  else name ∈ boundWords kind

theorem closed (kind : ShaderKind) : Closed kind := by
  cases kind with
  | hit =>
    have first : Closed (.hit 0) := by decide +kernel
    exact first
  | callback =>
    have before : Closed (.callback .before) := by decide +kernel
    exact before
  | rayGeneration | miss | shadowHit | shadowMiss => decide +kernel

namespace Laid

/-- The names that a program binds. -/
theorem boundNames_text (h : Laid c v kind p b) (unbroken : HasUnbrokenPreamble c v) :
    ∃ numbered, Splits (boundNames p.text) bodyWords numbered ∧ numbered.Nodup ∧
      ∀ name ∈ boundWords kind, name ∈ boundNames p.text := by
  obtain ⟨ns, numbered, binds, splits, distinct, bound⟩ := h.names
  have preamble : (lines p.preamble).filterMap boundName? = [] := by
    refine List.filterMap_eq_nil_iff.mpr fun line mem => Program.boundName?_of_head?_ne ?_
    rcases h.head?_preamble unbroken mem with head | head | head <;> simp [head]
  have entry : boundName? p.entry.text = none :=
    Program.boundName?_of_head?_ne (by rw [head?_entry]; decide)
  have call : [callLine kind, "\x7d", ""].filterMap boundName? = [] := by
    rw [List.filterMap_cons_none (fixed_lines kind).2.2]
    decide
  have names : boundNames p.text = ns ++ closingNames kind := by
    rw [boundNames, h.lines_text, List.filterMap_append, preamble, List.filterMap_cons_none entry,
      Parts.behind, List.filterMap_append, List.filterMap_append, binds.names_eq,
      (closing_binds v kind).names_eq, call, List.append_nil, List.nil_append]
  have ending : Splits (closingNames kind) ["is_hit", "use_framebuffer"] [] :=
    .ofWords (by unfold closingNames; split <;> decide) (by decide)
  refine ⟨numbered, ?_, distinct, fun name mem => ?_⟩
  · simpa only [names, bodyWords, List.append_nil] using splits.append ending
  · rw [names]
    rw [boundWords, ← List.append_assoc] at mem
    exact (List.mem_append.mp mem).elim (fun mem => List.mem_append_left _ (bound name mem))
      (List.mem_append_right _)

/-- The names in the call are known. -/
theorem resolves (h : Laid c v kind p b) (unbroken : HasUnbrokenPreamble c v) {name : String}
    (mem : name ∈ "device" :: (dispatch kind).2) : p.Resolves name := by
  obtain ⟨numbered, splits, distinct, bound⟩ := h.boundNames_text unbroken
  have known := closed kind name mem
  rw [Program.Resolves, h.entry_eq]
  split at known
  · rename_i param
    rw [if_pos param]
    -- the parameters are none of the words, and have no number either
    exact fun mem => known.1 (splits.mem_words mem known.2)
  · rename_i param
    rw [if_neg param]
    exact List.count_eq_one_of_mem (splits.nodup (by decide) distinct) (bound name known)

/-- The line of the count of samples stands before the technique or the callback. -/
theorem samples_before (h : Laid c v kind p b) :
    ∃ before between after, lines p.text = before
      ++ ("  let spp = " ++ (toString c.samples ++ " : i32;")) :: (between ++ (lines b.main ++ after)) := by
  have line : (samplesBinding c).lines = ["  let spp = " ++ (toString c.samples ++ " : i32;")] := by
    have made : (Fragment.binding "spp" (.int c.samples) (some "i32")).lines = _ :=
      Fragment.lines_binding rfl (Text.isLine_int c.samples) isLine_i32
    have stem : "  let spp = " = "  let " ++ ("spp" ++ " = ") := by decide
    rw [samplesBinding, made, stem]
    simp only [String.append_assoc]
    rfl
  have source : (Fragment.source b.main).lines = lines b.main := rfl
  refine ⟨lines p.preamble ++ p.entry.text :: ((opening .stock c).flatMap Fragment.lines
    ++ b.lights.flatMap Fragment.lines), b.own.flatMap Fragment.lines, Fragment.blank.lines
    ++ ((closing v kind).flatMap Fragment.lines ++ [callLine kind, "\x7d", ""]), ?_⟩
  rw [h.lines_text, Parts.behind, Parts.front]
  simp only [List.flatMap_append, List.flatMap_cons, List.flatMap_nil, line, source,
    List.append_assoc, List.cons_append, List.nil_append]

/-- The line that says whether pixels are written says so of the variant. -/
theorem framebuffer_eq (h : Laid c v kind p b) (unbroken : HasUnbrokenPreamble c v) {line : String}
    (mem : line ∈ lines p.text) (binds : boundName? line = some "use_framebuffer") :
    line = "  let use_framebuffer = " ++ ((if v.locksFramebuffer then "false" else "true") ++ ";") := by
  have indented : line.toList.head? = some ' ' := by
    by_contra other
    rw [Program.boundName?_of_head?_ne other] at binds
    cases binds
  -- so it is one of the body, and up to the technique no line binds that word
  rw [h.lines_text, List.mem_append, List.mem_cons] at mem
  rcases mem with mem | rfl | mem
  · rcases h.head?_preamble unbroken mem with head | head | head <;> simp [head] at indented
  · simp [head?_entry] at indented
  · simp only [Parts.behind, List.mem_append, List.mem_cons, List.not_mem_nil, or_false] at mem
    rcases mem with mem | mem | rfl | rfl | rfl
    · obtain ⟨ns, numbered, front, splits, -⟩ := h.names
      have word := splits.mem_words (front.mem_of_boundName? mem binds) (by decide)
      exact absurd word (by decide)
    · rcases mem_closing mem with rfl | ⟨isHit, rfl⟩
      · rfl
      · cases isHit <;> exact absurd binds (by decide)
    · rw [(fixed_lines kind).2.2] at binds
      cases binds
    · cases binds
    · cases binds

/-- No line behind the one that opens the function begins with the text, if no line of a
body begins so. -/
theorem filter_behind (h : Laid c v kind p b) {stem : String} {d : Char}
    (hd : stem.toList.head? = some d) (other : d ≠ ' ' ∧ d ≠ '\x7d') :
    (b.behind c v kind).filter (Text.beginsWith stem) = [] := by
  refine Text.filter_beginsWith_eq_nil (by rintro nil; simp [nil] at hd) fun line mem => ?_
  rcases h.head?_behind mem with head | head | head <;> simp [head, hd, other.1.symm, other.2.symm]

/-- Only the line that opens the function exports one. -/
theorem exports_eq (h : Laid c v kind p b) (unbroken : HasUnbrokenPreamble c v) :
    (lines p.text).filter Program.exports = [p.entry.text] := by
  have preamble : (lines p.preamble).filter Program.exports = [] := by
    refine Text.filter_beginsWith_eq_nil (by decide) fun line mem => ?_
    rcases h.head?_preamble unbroken mem with head | head | head <;> rw [head] <;> decide
  have entry : Program.exports p.entry.text = true := by
    obtain ⟨rest, entry⟩ := entryText_eq p.entry
    have stem : "#[export] fn " = "#[export]" ++ " fn " := by decide
    rw [entry, stem, String.append_assoc]
    exact Text.beginsWith_append ..
  have others : (b.behind c v kind).filter Program.exports = [] := h.filter_behind rfl (by decide)
  rw [h.lines_text, List.filter_append, preamble, List.filter_cons_of_pos entry, others,
    List.nil_append]

/-- The preamble of the program that makes rays defines the function that makes the data of
a new ray. -/
theorem length_payload (h : Laid c v kind p b) (unbroken : HasUnbrokenPreamble c v) :
    ((lines p.preamble).filter Program.definesPayload).length
      = if kind = .rayGeneration then 1 else 0 := by
  obtain ⟨first, second, third, preamble, heads⟩ := h.lines_preamble unbroken
  have statics : [first, second, third].filter Program.definesPayload = [] := by
    refine Text.filter_beginsWith_eq_nil (by decide) fun line mem => ?_
    rcases heads line mem with head | head <;> rw [head] <;> decide
  have defines (rest : String) : Program.definesPayload ("fn init_raypayload() = " ++ rest) = true := by
    have stem : "fn init_raypayload() = " = "fn init_raypayload(" ++ ") = " := by decide
    rw [stem, String.append_assoc]
    exact Text.beginsWith_append ..
  rw [preamble, List.filter_append, statics, List.nil_append]
  split
  · rw [List.filter_cons_of_pos (defines _)]
    rfl
  · rfl

/-- No line behind the preamble defines that function. -/
theorem payload_eq (h : Laid c v kind p b) :
    (lines p.text).filter Program.definesPayload = (lines p.preamble).filter Program.definesPayload := by
  have entry : ¬ Program.definesPayload p.entry.text = true := by
    rw [Program.definesPayload, Text.beginsWith_of_head?_ne (by decide) (by rw [head?_entry]; decide)]
    decide
  have others : (b.behind c v kind).filter Program.definesPayload = [] := h.filter_behind rfl (by decide)
  rw [h.lines_text, List.filter_append, List.filter_cons_of_neg entry, others, List.append_nil]

/-- A program that is laid out is well scoped. -/
theorem wellScoped (h : Laid c v kind p b) (unbroken : HasUnbrokenPreamble c v) :
    p.WellScoped c v kind := by
  constructor
  case exported => exact ⟨_, h.lines_text⟩
  case exports_eq => exact h.exports_eq unbroken
  case nodup =>
    obtain ⟨numbered, splits, distinct, -⟩ := h.boundNames_text unbroken
    exact splits.nodup (by decide) distinct
  case closed =>
    have call : callLine kind = indent ++ p.result.text := by rw [h.result_eq]; rfl
    refine ⟨_, _, lines p.preamble ++ p.entry.text :: ((b.front c).flatMap Fragment.lines
      ++ (closing v kind).flatMap Fragment.lines), h.result_eq, ?_, fun name => h.resolves unbroken⟩
    rw [h.lines_text, Parts.behind, ← call]
    simp only [List.append_assoc, List.cons_append]
  case samples =>
    obtain ⟨before, between, after, text⟩ := h.samples_before
    exact ⟨before, between, b.main, after, h.main_eq, text⟩
  case framebuffer => exact fun line => h.framebuffer_eq unbroken
  case payload => exact ⟨h.payload_eq, h.length_payload unbroken⟩

end Laid

end Generation

/-! ### Loaded scenes -/

namespace Context

variable {c : Context} {scene : Scene} {options : Options} {technique : Technique.Info}

theorem ofScene_samples (h : (ofScene scene technique options).result = .ok c) :
    c.samples = options.samples.toNat := by
  unfold ofScene at h
  by_cases bad : options.samples.toNat = 0 ∨ maxSamples < options.samples.toNat
  · simp only [if_pos bad] at h
    cases h
  · simp only [if_neg bad] at h
    cases empty : technique.variants.isEmpty <;> rw [empty] at h <;>
      exact (Except.ok.inj h).symm ▸ rfl

theorem variant_eq_ok {v : VariantInfo} :
    c.variant = .ok v ↔ c.technique.variants[c.selected]? = some v := by
  unfold variant
  cases c.technique.variants[c.selected]? <;> simp

/-- The samples of a loaded scene are those of the options. -/
theorem load_samples {describe : String → Scene → Run Technique.Info}
    (h : (load describe scene options).result = .ok c) : c.samples = options.samples.toNat := by
  obtain ⟨_, -, h⟩ := Run.bind_eq_ok.mp h
  obtain ⟨technique, -, h⟩ := Run.bind_eq_ok.mp h
  obtain ⟨d, made, h⟩ := Run.bind_eq_ok.mp h
  obtain ⟨⟨⟩, -, h⟩ := Run.bind_eq_ok.mp h
  have reached : (registerTextures d).1 = c := Except.ok.inj h
  obtain ⟨r, registered⟩ := OnlyRegisters.registerTextures d
  have samples : (registerTextures d).1.samples = d.samples := by rw [registered]
  rw [← reached, samples, ofScene_samples made]

end Context

namespace Generation

variable {c : Context} {v : VariantInfo} {scene : Scene} {options : Options} {d : Scene.Database}
  {variants : List (Variant String)}

/-- The expressions that make the data of a new ray for the stock techniques. -/
def initializers : List String :=
  ["init_pt_raypayload()", "init_ppm_photon_payload()", "init_ppm_raypayload()",
    Stock.Technique.emptyPayload]

/-- The values of the preamble are those of a stock technique. -/
theorem preamble_known (loaded : Context.Loaded Stock.describe scene options c)
    (hv : v ∈ c.technique.variants) :
    c.techniqueKind ∈ Stock.Technique.all.map Stock.Technique.kind ∧
      v.payloadInitializer.getD Stock.Technique.emptyPayload ∈ initializers := by
  obtain ⟨t, found, described⟩ := Stock.describe_ok loaded.described
  refine ⟨?_, ?_⟩
  · rw [← Stock.find?_kind_eq_some found]
    cases t <;> decide
  · cases t with
    | path =>
      obtain ⟨normals, -, described⟩ := except_bind_eq_ok.mp described
      rw [← Except.ok.inj described] at hv
      rw [List.mem_singleton.mp hv]
      exact List.mem_cons_self ..
    | ambientOcclusion | debug | lightVisibility =>
      rw [← Except.ok.inj described] at hv
      rw [List.mem_singleton.mp hv]
      decide
    | photons =>
      rw [← Except.ok.inj described] at hv
      rcases List.mem_pair.mp hv with rfl | rfl <;> decide

/-- The stock techniques have preambles without breaks. -/
theorem hasUnbrokenPreamble (loaded : Context.Loaded Stock.describe scene options c)
    (hv : v ∈ c.technique.variants) : HasUnbrokenPreamble c v := by
  obtain ⟨kind, initializer⟩ := preamble_known loaded hv
  have kinds : ∀ kind ∈ Stock.Technique.all.map Stock.Technique.kind, IsLine kind := by decide
  have values : ∀ value ∈ initializers, IsLine value := by decide
  exact ⟨kinds _ kind, values _ initializer⟩

/-- The programs of a compiled scene whose names have no breaks are laid out. -/
theorem laid_of_compile (unbroken : scene.HasUnbrokenNames)
    (compiled : (compile scene options d).result = .ok variants) :
    ∃ c, (Context.load Stock.describe scene options).result = .ok c ∧
      ∀ (i : Nat) (w : Variant String), variants[i]? = some w → ∀ slot ∈ w.slots,
        ∃ v p t b, c.technique.variants[i]? = some v ∧
          (build .stock (c.prepare d i) slot.1).step .empty = (t, .ok p) ∧ slot.2 = p.text ∧
          Laid (c.prepare d i) v slot.1 p b ∧ HasUnbrokenPreamble (c.prepare d i) v := by
  obtain ⟨c, loaded, generated⟩ := Run.bind_eq_ok.mp compiled
  have hc := Context.load_ok loaded
  refine ⟨c, loaded, fun i w hw slot mem => ?_⟩
  obtain ⟨p, t, built, text⟩ := (built_of_all generated hw).2 slot mem
  have built : (build .stock (c.prepare d i) slot.1).step .empty = (t, .ok p) := built
  obtain ⟨v, b, laid⟩ := laid_build (hc.scene_eq.symm ▸ unbroken) built
  have selected : c.technique.variants[i]? = some v := Context.variant_eq_ok.mp laid.variant_eq
  have preamble : HasUnbrokenPreamble c v := hasUnbrokenPreamble hc (List.mem_of_getElem? selected)
  exact ⟨v, p, t, b, selected, built, text, laid, ⟨preamble.technique, preamble.initializer⟩⟩

/-- **Programs are well scoped.** If a scene whose lights and bsdfs have names without
breaks is loaded and all of its programs are generated with the stock emitters, then the
samples are those of the options and a 32-bit integer, and whatever the variant and the
shader, the text of the program is well scoped: one exported function right behind the
preamble, no name bound twice, every name of the last call a parameter or bound once, the
samples bound before the technique or the callback, pixels written unless the variant locks
them, and the function for the data of new rays defined in the preamble of ray generation
alone. -/
theorem programs_well_scoped (unbroken : scene.HasUnbrokenNames)
    (compiled : (compile scene options d).result = .ok variants) :
    ∃ c, (Context.load Stock.describe scene options).result = .ok c ∧
      c.samples = options.samples.toNat ∧ 1 ≤ c.samples ∧ c.samples ≤ 0x7FFFFFFF ∧
      ∀ (i : Nat) (w : Variant String), variants[i]? = some w → ∀ slot ∈ w.slots,
        ∃ v p, c.technique.variants[i]? = some v ∧
          ((build .stock (c.prepare d i) slot.1).runOn .empty).result = .ok p ∧ slot.2 = p.text ∧
          p.WellScoped (c.prepare d i) v slot.1 := by
  obtain ⟨c, loaded, programs⟩ := laid_of_compile unbroken compiled
  have hc := Context.load_ok loaded
  have sound := Context.load_sound (hc.techniqueKind_eq ▸ hc.described) loaded
  refine ⟨c, loaded, Context.load_samples loaded, sound.one_le_samples, sound.samples_le,
    fun i w hw slot mem => ?_⟩
  obtain ⟨v, p, t, b, selected, built, text, laid, preamble⟩ := programs i w hw slot mem
  exact ⟨v, p, selected, congrArg Prod.snd built, text, laid.wellScoped preamble⟩

/-- A room with two materials, one of them with a texture, and a light. -/
def roomScene : Scene :=
  let image := (Object.ofKind "image").withProperty "filename" (.string "stone.png")
  (((Scene.empty.addTexture "ground" image).addLight "lamp" (Object.ofKind "point")).addBsdf "floor"
    ((Object.ofKind "diffuse").withProperty "reflectance" (.string "ground"))).addBsdf "wall"
      (Object.ofKind "diffuse")

/-- Photon maps, whatever the scene asks for. -/
def photonOptions : Options := { Options.standard with techniqueKind := some "ppm" }

theorem room_well_scoped :
    ∃ c variants, (compile roomScene photonOptions ⟨1, 1⟩).result = .ok variants ∧
      (variants.flatMap Variant.slots).length = 10 ∧
      (Context.load Stock.describe roomScene photonOptions).result = .ok c ∧
      ∀ (i : Nat) (w : Variant String), variants[i]? = some w → ∀ slot ∈ w.slots,
        ∃ (v : VariantInfo) (p : Program), c.technique.variants[i]? = some v ∧ slot.2 = p.text ∧
          p.WellScoped (c.prepare ⟨1, 1⟩ i) v slot.1 := by
  have unbroken : roomScene.HasUnbrokenNames := ⟨by decide +kernel, by decide +kernel⟩
  have count : ((compile roomScene photonOptions ⟨1, 1⟩).result.map
      fun variants => (variants.flatMap Variant.slots).length) = .ok 10 := by decide +kernel
  cases compiled : (compile roomScene photonOptions ⟨1, 1⟩).result with
  | error f =>
    rw [compiled] at count
    cases count
  | ok variants =>
    rw [compiled] at count
    obtain ⟨c, loaded, -, -, -, programs⟩ := programs_well_scoped unbroken compiled
    refine ⟨c, variants, rfl, Except.ok.inj count, loaded, fun i w hw slot mem => ?_⟩
    obtain ⟨v, p, selected, -, text, closed⟩ := programs i w hw slot mem
    exact ⟨v, p, selected, text, closed⟩

end Generation

end RayShader
