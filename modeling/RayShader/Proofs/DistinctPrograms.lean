import RayShader.Proofs.CompileOnce
import RayShader.Proofs.Marks
import RayShader.Proofs.Variants

/-!
# Programs differ

No two programs of a generation with the stock emitters have the same text. The preamble
gives the number of the variant away, and whether the program makes rays; the name of the
function gives away all of the shader but the hit group, the side of a shadow and the
moment of a callback. The first two are read off the end of the program, and the moment
off the lines of the callback, as what is between the name and these may be anything.

So a cache that knows nothing but texts never takes a program for another one.
-/

namespace RayShader

open Program (Fragment indent)
open Technique (Moment VariantInfo)

namespace ShaderKind

/-- The name of the function tells shaders apart, but for hit groups, shadows and callbacks. -/
theorem eq_or_of_entryPoint_eq {kind kind' : ShaderKind} (h : kind.entryPoint = kind'.entryPoint) :
    kind = kind' ∨ (∃ g g', kind = hit g ∧ kind' = hit g') ∨
      (∃ b b', kind = shadow b ∧ kind' = shadow b') ∨
      ∃ m m', kind = callback m ∧ kind' = callback m' := by
  cases kind <;> cases kind' <;> first
    | exact .inl rfl
    | exact .inr (.inl ⟨_, _, rfl, rfl⟩)
    | exact .inr (.inr (.inl ⟨true, false, rfl, rfl⟩))
    | exact .inr (.inr (.inl ⟨false, true, rfl, rfl⟩))
    | exact .inr (.inr (.inr ⟨_, _, rfl, rfl⟩))
    | simp [entryPoint] at h

end ShaderKind

namespace Generation

variable {c c' : Context} {t t' : ShadingTree} {kind : ShaderKind}

/-! ### What a program has -/

/-- The preamble of the programs of the selected variant, but for ray generation. -/
def preamble (c : Context) (v : VariantInfo) : String :=
  Stock.preambleText c.techniqueKind c.selected v.primaryPayload.toNat v.secondaryPayload.toNat

theorem gives_askHeader (rayGeneration : Bool) :
    (Emitters.stock.askHeader c rayGeneration).Gives fun text => ∃ v, c.variant = .ok v ∧
      text = preamble c v ++ if rayGeneration then Stock.initializerText
        (v.payloadInitializer.getD Stock.Technique.emptyPayload) else "" := by
  refine .bind (.any _) fun _ _ => (Stage.Gives.ofExcept _).mono fun text answered => ?_
  have answered : Stock.header c rayGeneration = .ok text := answered
  obtain ⟨v, hv, -⟩ := except_bind_eq_ok.mp answered
  rw [Stock.header_eq hv] at answered
  exact ⟨v, hv, (Except.ok.inj answered).symm⟩

theorem gives_prologue : (prologue .stock c).Gives fun lines =>
    lines = [.statement (.free "maybe_unused" [.ident "settings"]),
      .inline (Stock.device c.target), .blank] :=
  .bind (.bind (.any _) fun _ _ => .pure rfl) fun _ device => .pure (by rw [← device]; rfl)

theorem gives_techniqueLines : (techniqueLines .stock c).Gives fun lines =>
    ∃ technique, Stock.technique c = .ok technique ∧ lines = [.source technique, .blank] :=
  .bind (.bind (.any _) fun _ _ => .ofExcept _) fun technique answered =>
    .pure ⟨technique, Stock.ok_of_orFault answered, rfl⟩

theorem gives_askMaterial (group : Nat) : (Emitters.stock.askMaterial c group).Gives fun block =>
    ∃ front, block = front ++ "make_material(bsdf_" ++ toString group ++ "(ctx));" :=
  .bind (.any _) fun _ _ => fun t t' block gave => Stock.material_text group t t' block gave

theorem gives_askCallback (m : Moment) : (Emitters.stock.askCallback c m).Gives fun lines =>
    ∃ rest, lines = "  let callback = @|iter: i32| "
      ++ (Stock.callbackFunction m ++ ("(" ++ rest)) :=
  .bind (.any _) fun _ _ => (Stage.Gives.ofExcept _).mono fun _ answered =>
    Stock.callback_text (Stock.ok_of_orFault answered)

/-- The call that a program for hits ends with. -/
def hitCall : Program.Call := .forward "device" "handle_hit_shader"
  ["entity_id", "material_id", "shader", "technique", "first", "last", "spp", "use_framebuffer"]

/-- The call that a program for shadow rays ends with. -/
def shadowCall : Program.Call := .forward "device" "handle_advanced_shadow_shader"
  ["technique", "first", "last", "spp", "use_framebuffer", "is_hit"]

/-- What tells a program from others with the same name of the function. -/
def Marked (c : Context) (v : VariantInfo) : ShaderKind → Program → Prop
  | .rayGeneration, _ | .miss, _ => True
  | .hit group, p => ∃ before front technique, Stock.technique c = .ok technique ∧
      p.body = before ++ [.source (front ++ "make_material(bsdf_" ++ toString group ++ "(ctx));"),
        .source technique, .blank, framebufferBinding v] ∧ p.result = hitCall
  | .shadowHit, p => ∃ before, p.result = shadowCall ∧
      p.body = before ++ [.binding "is_hit" (.bool true) none, framebufferBinding v]
  | .shadowMiss, p => ∃ before, p.result = shadowCall ∧
      p.body = before ++ [.binding "is_hit" (.bool false) none, framebufferBinding v]
  | .callback m, p => ∃ rest, p.entry = callbackEntry m ∧
      p.body = [.statement (.free "maybe_unused" [.ident "settings"]),
        .inline (Stock.device c.target), .blank, samplesBinding c,
        .source ("  let callback = @|iter: i32| " ++ (Stock.callbackFunction m ++ ("(" ++ rest))),
        .blank]

/-- The form of the programs of a kind. -/
structure Formed (c : Context) (kind : ShaderKind) (v : VariantInfo) (p : Program) : Prop where
  /-- The variant is selected. -/
  variant_eq : c.variant = .ok v
  /-- The preamble is that of the variant. -/
  preamble_eq : p.preamble = preamble c v ++ if kind = .rayGeneration then Stock.initializerText
    (v.payloadInitializer.getD Stock.Technique.emptyPayload) else ""
  /-- The function has its name. -/
  name_eq : p.entry.name = kind.entryPoint
  /-- The program is told from others with the same name of the function. -/
  marked : Marked c v kind p

theorem formed_shadow (isHit : Bool) :
    (shadow .stock c isHit).Gives fun p => ∃ v, Formed c (.shadow isHit) v p := by
  simp only [shadow, Stage.bind_eq]
  refine .bind (.any _) fun _ _ => .bind (.ofExcept _) fun v hv =>
    .bind (gives_askHeader false) fun _ header => .bind (.any _) fun _ _ =>
    .bind (.any _) fun _ _ => .bind (.any _) fun _ _ => .pure ?_
  obtain ⟨v', hv', header⟩ := header
  obtain rfl : v = v' := Except.ok.inj (hv.symm.trans hv')
  cases isHit <;> exact ⟨v, hv, header, rfl, _, rfl, rfl⟩

theorem formed_hit (group : Nat) :
    (hit .stock c group).Gives fun p => ∃ v, Formed c (.hit group) v p := by
  simp only [hit, Stage.bind_eq]
  refine .bind (.any _) fun _ _ => .bind (gives_askHeader false) fun preamble header =>
    .bind (.any _) fun opening _ => .bind (.any _) fun database _ =>
    .bind (.ofExcept _) fun v hv => ?_
  obtain ⟨v', hv', header⟩ := header
  obtain rfl : v = v' := Except.ok.inj (hv.symm.trans hv')
  -- whatever the lines for lights, the rest of the program is the same
  have behind (lights : List Fragment) :
      Stage.Gives (fun p => ∃ v, Formed c (.hit group) v p)
        ((Emitters.stock.askMaterial c group).bind fun material =>
          (techniqueLines .stock c).bind fun technique => pure {
            preamble := preamble
            entry := hitEntry group
            body := opening ++ [.source database] ++ lights
              ++ [samplesBinding c, materialBinding group, .source material]
              ++ technique ++ [framebufferBinding v]
            result := hitCall }) := by
    refine .bind (gives_askMaterial group) fun block material =>
      .bind gives_techniqueLines fun lines technique => .pure ?_
    obtain ⟨front, rfl⟩ := material
    obtain ⟨technique, answered, rfl⟩ := technique
    exact ⟨v, hv, header, rfl, opening ++ [.source database] ++ lights
      ++ [samplesBinding c, materialBinding group], front, technique, answered, by simp, rfl⟩
  split
  · exact .bind (.any _) fun _ _ => .bind (.any _) fun lights _ => behind lights
  · exact .bind (.any _) fun lights _ => behind lights

/-- The programs of a kind have its form. -/
theorem formed_build (kind : ShaderKind) :
    (build .stock c kind).Gives fun p => ∃ v, Formed c kind v p := by
  cases kind with
  | rayGeneration =>
    simp only [build, rayGeneration, Stage.bind_eq]
    refine .bind (.any _) fun _ _ => .bind (gives_askHeader true) fun _ header =>
      .bind (.any _) fun _ _ => .bind (.any _) fun _ _ => .bind (.any _) fun _ _ => .pure ?_
    obtain ⟨v, hv, header⟩ := header
    exact ⟨v, hv, header, rfl, trivial⟩
  | miss =>
    simp only [build, miss, Stage.bind_eq]
    refine .bind (.any _) fun _ _ => .bind (.any _) fun _ _ =>
      .bind (gives_askHeader false) fun _ header => .bind (.any _) fun _ _ =>
      .bind (.any _) fun _ _ => .bind (.any _) fun _ _ => .pure ?_
    obtain ⟨v, hv, header⟩ := header
    exact ⟨v, hv, header, rfl, trivial⟩
  | hit group => exact formed_hit group
  | shadowHit => exact formed_shadow true
  | shadowMiss => exact formed_shadow false
  | callback m =>
    simp only [build, callback, Stage.bind_eq]
    refine .bind (.any _) fun _ _ => .bind (gives_askHeader false) fun _ header =>
      .bind gives_prologue fun _ opening => .bind (gives_askCallback m) fun _ lines => .pure ?_
    obtain ⟨v, hv, header⟩ := header
    obtain ⟨rest, rfl⟩ := lines
    subst opening
    exact ⟨v, hv, header, rfl, rest, rfl, rfl⟩

/-! ### Texts tell programs apart -/

variable {v v' : VariantInfo} {p p' : Program} {kind' : ShaderKind}

theorem entryText_eq (e : Program.EntryPoint) : ∃ rest,
    e.text = "#[export] fn " ++ (e.name ++ ("(" ++ rest)) := by
  refine ⟨?_, ?_⟩
  rotate_left
  · unfold Program.EntryPoint.text
    simp only [String.append_assoc]
    rfl

theorem text_eq (p : Program) : ∃ rest, p.text
    = p.preamble ++ ("\n#[export]" ++ (" fn " ++ (p.entry.name ++ ("(" ++ rest)))) := by
  have opening (s : String) : "\n" ++ ("#[export] fn " ++ s) = "\n#[export]" ++ (" fn " ++ s) := by
    simp [← String.append_assoc]
  obtain ⟨rest, entry⟩ := entryText_eq p.entry
  refine ⟨rest ++ ("\n" ++ (String.join (p.body.map Fragment.text)
    ++ (indent ++ (p.result.text ++ "\n\x7d\n")))), ?_⟩
  rw [← opening, Program.text, entry]
  simp only [String.append_assoc]

theorem initializerText_eq (initializer : String) : ∃ rest,
    Stock.initializerText initializer = "\nfn" ++ (" init_raypayload() = " ++ rest) := by
  refine ⟨initializer ++ ";", ?_⟩
  rw [← String.append_assoc]
  simp [Stock.initializerText, String.join_cons]

theorem preamble_eq_append (c : Context) (v : VariantInfo) : ∃ rest, preamble c v
    = "// Technique '" ++ (c.techniqueKind ++ ("', variant " ++ (toString c.selected
      ++ ("\n" ++ rest)))) := by
  refine ⟨.join ["static RayPayloadComponents = ", toString v.primaryPayload.toNat,
    ";\nstatic SecondaryPayloadComponents = ", toString v.secondaryPayload.toNat, ";"], ?_⟩
  simp [preamble, Stock.preambleText, String.join_cons, ← String.append_assoc]

/-- Equal texts have the same number of the variant. -/
theorem selected_eq (h : Formed c kind v p) (h' : Formed c' kind' v' p')
    (technique : c.techniqueKind = c'.techniqueKind) (same : p.text = p'.text) :
    c.selected = c'.selected := by
  obtain ⟨rest, text⟩ := text_eq p
  obtain ⟨rest', text'⟩ := text_eq p'
  obtain ⟨behind, front⟩ := preamble_eq_append c v
  obtain ⟨behind', front'⟩ := preamble_eq_append c' v'
  rw [text, text', h.preamble_eq, h'.preamble_eq, front, front', technique] at same
  simp only [String.append_assoc, String.append_right_inj] at same
  have noBreak (n : Nat) : '\n' ∉ (toString n).toList := Text.not_mem_toString_nat (by decide) n
  obtain ⟨number, -⟩ := Text.eq_of_break (noBreak c.selected) (noBreak c'.selected) (by simp)
    (by simp) same
  exact Text.toString_nat_inj number

/-- Equal texts have functions of the same name, or both make rays. -/
theorem entryPoint_eq (h : Formed c kind v p) (h' : Formed c kind' v' p')
    (same : p.text = p'.text) : kind.entryPoint = kind'.entryPoint := by
  obtain rfl : v = v' := Except.ok.inj (h.variant_eq.symm.trans h'.variant_eq)
  obtain ⟨rest, text⟩ := text_eq p
  obtain ⟨rest', text'⟩ := text_eq p'
  obtain ⟨more, initializer⟩ := initializerText_eq
    (v.payloadInitializer.getD Stock.Technique.emptyPayload)
  have noBlank : ' ' ∉ "\nfn".toList ∧ ' ' ∉ "\n#[export]".toList := by decide
  have noParenthesis (kind : ShaderKind) : '(' ∉ kind.entryPoint.toList := by
    cases kind <;> simp [ShaderKind.entryPoint]
  rw [text, text', h.preamble_eq, h'.preamble_eq, h.name_eq, h'.name_eq, initializer] at same
  simp only [String.append_assoc, String.append_right_inj] at same
  by_cases first : kind = .rayGeneration <;> by_cases second : kind' = .rayGeneration
  · rw [first, second]
  · rw [if_pos first, if_neg second, String.append_assoc, String.empty_append,
      String.append_assoc] at same
    exact absurd (Text.eq_of_break noBlank.1 noBlank.2 (by simp) (by simp) same).1 (by decide)
  · rw [if_neg first, if_pos second, String.append_assoc, String.empty_append,
      String.append_assoc] at same
    exact absurd (Text.eq_of_break noBlank.2 noBlank.1 (by simp) (by simp) same).1 (by decide)
  · rw [if_neg first, if_neg second, String.empty_append, String.empty_append,
      String.append_right_inj, String.append_right_inj] at same
    exact (Text.eq_of_break (noParenthesis kind) (noParenthesis kind') (by simp) (by simp) same).1

/-- The end of a program, given the end of its body. -/
def endText (behind : List Fragment) (result : Program.Call) : String :=
  String.join (behind.map Fragment.text) ++ indent ++ result.text ++ "\n\x7d\n"

theorem text_of_body {before behind : List Fragment} (h : p.body = before ++ behind) :
    ∃ front, p.text = front ++ endText behind p.result := by
  refine ⟨p.preamble ++ "\n" ++ p.entry.text ++ "\n" ++ String.join (before.map Fragment.text), ?_⟩
  rw [Program.text, h, endText, List.map_append, String.join_append]
  simp only [String.append_assoc]

/-- What stands behind the number of the hit group. -/
def hitEnd (technique : String) (v : VariantInfo) : String :=
  "(ctx));" ++ ("\n" ++ endText [.source technique, .blank, framebufferBinding v] hitCall)

/-- What stands behind the side of a shadow. -/
def shadowEnd (v : VariantInfo) : String := ";\n" ++ endText [framebufferBinding v] shadowCall

theorem Formed.hit_text {g : Nat} (h : Formed c (.hit g) v p) :
    ∃ front technique, Stock.technique c = .ok technique ∧ front.toList.getLast? = some '_' ∧
      p.text = front ++ (toString g ++ hitEnd technique v) := by
  obtain ⟨before, block, technique, answered, body, result⟩ := h.marked
  obtain ⟨front, text⟩ := text_of_body body
  refine ⟨front ++ (block ++ "make_material(bsdf_"), technique, answered, by simp, ?_⟩
  rw [text, result]
  simp only [endText, hitEnd, List.map_cons, String.join_cons, Fragment.text, String.append_assoc]

theorem Formed.shadow_text {b : Bool} (h : Formed c (.shadow b) v p) :
    ∃ front, front.toList.getLast? = some ' ' ∧
      p.text = front ++ ((if b then "true" else "false") ++ shadowEnd v) := by
  obtain ⟨before, result, body⟩ : ∃ before, p.result = shadowCall ∧
      p.body = before ++ [.binding "is_hit" (.bool b) none, framebufferBinding v] := by
    cases b <;> exact h.marked
  obtain ⟨front, text⟩ := text_of_body body
  refine ⟨front ++ (indent ++ ("let " ++ ("is_hit" ++ " = "))), by simp, ?_⟩
  rw [text, result]
  simp only [endText, shadowEnd, List.map_cons, String.join_cons, Fragment.text, Program.Expr.text,
    String.append_assoc]

theorem Formed.callback_text {m : Moment} (h : Formed c (.callback m) v p) :
    ∃ rest, p.text = preamble c v ++ ("\n" ++ ((callbackEntry .before).text ++ ("\n"
      ++ (String.join ([.statement (.free "maybe_unused" [.ident "settings"]),
        .inline (Stock.device c.target), .blank, samplesBinding c].map Fragment.text)
      ++ ("  let callback = @|iter: i32| " ++ (Stock.callbackFunction m ++ ("(" ++ rest))))))) := by
  obtain ⟨rest, entry, body⟩ := h.marked
  have opening : p.entry = callbackEntry .before := by rw [entry]; rfl
  have preamble_eq : p.preamble = preamble c v := by
    rw [h.preamble_eq]
    exact String.append_empty
  refine ⟨rest ++ ("\n" ++ endText [.blank] p.result), ?_⟩
  rw [Program.text, preamble_eq, opening, body]
  simp only [endText, List.map_cons, List.map_nil, String.join_cons, String.join_nil, Fragment.text,
    String.append_assoc, String.empty_append]

/-- Equal texts of programs for hits have the same hit group. -/
theorem group_eq {g g' : Nat} (h : Formed c (.hit g) v p) (h' : Formed c (.hit g') v p')
    (same : p.text = p'.text) : g = g' := by
  obtain ⟨front, technique, answered, ending, text⟩ := h.hit_text
  obtain ⟨front', technique', answered', ending', text'⟩ := h'.hit_text
  obtain rfl : technique = technique' := Except.ok.inj (answered.symm.trans answered')
  rw [text, text', ← String.append_assoc, ← String.append_assoc, String.append_left_inj] at same
  exact Text.toString_nat_inj (Text.eq_of_break_end (Text.not_mem_toString_nat (by decide) g)
    (Text.not_mem_toString_nat (by decide) g') ending ending' same)

/-- Equal texts of programs for shadow rays are both for hits, or both not. -/
theorem side_eq {b b' : Bool} (h : Formed c (.shadow b) v p) (h' : Formed c (.shadow b') v p')
    (same : p.text = p'.text) : b = b' := by
  obtain ⟨front, ending, text⟩ := h.shadow_text
  obtain ⟨front', ending', text'⟩ := h'.shadow_text
  have noBlank (b : Bool) : ' ' ∉ (if b then "true" else "false").toList := by
    cases b <;> decide
  rw [text, text', ← String.append_assoc, ← String.append_assoc, String.append_left_inj] at same
  have sides := Text.eq_of_break_end (noBlank b) (noBlank b') ending ending' same
  cases b <;> cases b' <;> simp_all

/-- Equal texts of callbacks have the same moment. -/
theorem moment_eq {m m' : Moment} (h : Formed c (.callback m) v p)
    (h' : Formed c (.callback m') v p') (same : p.text = p'.text) : m = m' := by
  obtain ⟨rest, text⟩ := h.callback_text
  obtain ⟨rest', text'⟩ := h'.callback_text
  have noParenthesis (m : Moment) : '(' ∉ (Stock.callbackFunction m).toList := by
    cases m <;> decide
  rw [text, text'] at same
  simp only [String.append_right_inj] at same
  obtain ⟨functions, -⟩ := Text.eq_of_break (noParenthesis m) (noParenthesis m') (by simp)
    (by simp) same
  cases m <;> cases m' <;> simp_all [Stock.callbackFunction]

/-- Programs of a variant with equal texts are those of the same shader. -/
theorem kind_eq_of_text_eq (h : Formed c kind v p) (h' : Formed c kind' v' p')
    (same : p.text = p'.text) : kind = kind' := by
  obtain rfl : v = v' := Except.ok.inj (h.variant_eq.symm.trans h'.variant_eq)
  rcases ShaderKind.eq_or_of_entryPoint_eq (entryPoint_eq h h' same) with
    eq | ⟨g, g', rfl, rfl⟩ | ⟨b, b', rfl, rfl⟩ | ⟨m, m', rfl, rfl⟩
  · exact eq
  · rw [group_eq h h' same]
  · rw [side_eq h h' same]
  · rw [moment_eq h h' same]

/-! ### The programs of a generation -/

theorem source_ok {e : Emitters} {text : String} (h : (source e c kind).result = .ok text) :
    ∃ p t, (build e c kind).step .empty = (t, .ok p) ∧ text = p.text := by
  obtain ⟨p, built, h⟩ := Run.bind_eq_ok.mp h
  obtain ⟨⟨⟩, -, h⟩ := Run.bind_eq_ok.mp h
  exact ⟨p, _, Prod.ext rfl built, (Except.ok.inj h).symm⟩

/-- A variant that is generated has the programs of its shaders. -/
theorem slots_variant {e : Emitters} {w : Variant String} (h : (variant e c).result = .ok w) :
    (∃ v, w.slots.map Prod.fst = kinds v c.hitGroups) ∧
      ∀ slot ∈ w.slots, (source e c slot.1).result = .ok slot.2 := by
  obtain ⟨d, -, h⟩ := Run.bind_eq_ok.mp h
  obtain ⟨v, -, h⟩ := Run.bind_eq_ok.mp h
  obtain ⟨w', filled, h⟩ := Run.bind_eq_ok.mp h
  obtain ⟨⟨⟩, -, h⟩ := Run.bind_eq_ok.mp h
  obtain rfl : w' = w := Except.ok.inj h
  have slots := congrArg Run.result
    (Variant.slots_mapM (fun kind _ => source e c kind) (Variant.layout v c.hitGroups))
  rw [Run.result_map, filled, Run.result_mapM, slots_layout] at slots
  have each := (except_mapM_eq_ok.mp slots.symm).flip
  have eachSlot : List.Forall₂ (fun slot (s : ShaderKind × Unit) =>
      (source e c slot.1).result = .ok slot.2 ∧ slot.1 = s.1) w'.slots
      ((kinds v c.hitGroups).map (·, ())) := by
    refine each.imp fun slot s filled => ?_
    rw [Variant.fillSlot, Run.result_map] at filled
    cases made : (source e c s.1).result with
    | error f =>
      rw [made] at filled
      cases filled
    | ok text =>
      rw [made] at filled
      obtain rfl := Except.ok.inj filled
      exact ⟨made, rfl⟩
  obtain ⟨programs, same⟩ := (List.forall₂_and_left ..).mp eachSlot
  refine ⟨⟨v, ?_⟩, programs⟩
  rw [List.forall₂_map_right_iff] at same
  rw [← List.forall₂_eq_eq_eq, List.forall₂_map_left_iff]
  exact same

theorem nodup_kinds (v : VariantInfo) (hitGroups : Nat) : (kinds v hitGroups).Nodup := by
  have hits : ((List.range hitGroups).map ShaderKind.hit).Nodup :=
    List.nodup_range.map fun _ _ h => ShaderKind.hit.inj h
  by_cases hs : v.shadowMode = .advanced <;> cases hb : v.hasCallback .before <;>
    cases ha : v.hasCallback .after <;>
    simp [kinds, hs, hb, ha, hits, List.nodup_append]

/-- The programs of a variant of a generation are built in the context with the variant
selected. -/
theorem built_of_all {e : Emitters} {variants : List (Variant String)}
    (h : (all e c).2.result = .ok variants) {i : Nat} {w : Variant String}
    (hw : variants[i]? = some w) :
    (w.slots.map Prod.fst).Nodup ∧ ∀ slot ∈ w.slots, ∃ p t,
      (build e { c with selected := i } slot.1).step .empty = (t, .ok p) ∧ slot.2 = p.text := by
  rw [result_all] at h
  have each := except_mapM_eq_ok.mp h
  obtain ⟨lt, rfl⟩ := List.getElem?_eq_some_iff.mp hw
  have in_range : i < c.technique.count := by
    rw [← each.length_eq, List.length_range] at lt
    exact lt
  have made := each.get (by simpa using in_range) lt
  rw [List.get_eq_getElem, List.get_eq_getElem, List.getElem_range, task_eq in_range] at made
  obtain ⟨⟨v, kinds⟩, programs⟩ := slots_variant made
  exact ⟨kinds ▸ nodup_kinds v _, fun slot mem => source_ok (programs slot mem)⟩

/-- The programs of a variant of a generation have the form of their kinds. -/
theorem formed_of_all {variants : List (Variant String)}
    (h : (all .stock c).2.result = .ok variants) {i : Nat} {w : Variant String}
    (hw : variants[i]? = some w) :
    (w.slots.map Prod.fst).Nodup ∧ ∀ slot ∈ w.slots, ∃ v p,
      Formed { c with selected := i } slot.1 v p ∧ slot.2 = p.text := by
  obtain ⟨kinds, programs⟩ := built_of_all h hw
  refine ⟨kinds, fun slot mem => ?_⟩
  obtain ⟨p, t, built, text⟩ := programs slot mem
  obtain ⟨v, formed⟩ := formed_build slot.1 _ _ _ built
  exact ⟨v, p, formed, text⟩

/-- Equal texts in a generation are those of the same shader of the same variant. -/
theorem eq_of_text_eq {variants : List (Variant String)}
    (h : (all .stock c).2.result = .ok variants) {i j : Nat} {w w' : Variant String}
    (hw : variants[i]? = some w) (hw' : variants[j]? = some w') {slot slot' : ShaderKind × String}
    (mem : slot ∈ w.slots) (mem' : slot' ∈ w'.slots) (same : slot.2 = slot'.2) :
    i = j ∧ slot.1 = slot'.1 := by
  obtain ⟨v, p, formed, text⟩ := (formed_of_all h hw).2 slot mem
  obtain ⟨v', p', formed', text'⟩ := (formed_of_all h hw').2 slot' mem'
  rw [text, text'] at same
  obtain rfl : i = j := selected_eq formed formed' rfl same
  exact ⟨rfl, kind_eq_of_text_eq formed formed' same⟩

/-- No two slots of a generation hold the same text. -/
theorem nodup_texts {variants : List (Variant String)}
    (h : (all .stock c).2.result = .ok variants) :
    ((variants.flatMap Variant.slots).map Prod.snd).Nodup := by
  rw [List.Nodup, List.pairwise_map, List.pairwise_flatMap]
  constructor
  · intro w mem
    obtain ⟨i, hw⟩ := List.mem_iff_getElem?.mp mem
    have kinds := (List.pairwise_map.mp (formed_of_all h hw).1)
    exact kinds.imp_of_mem fun first second differ same =>
      differ (eq_of_text_eq h hw hw first second same).2
  · rw [List.pairwise_iff_getElem]
    intro i j hi hj lt slot mem slot' mem' same
    have eq := (eq_of_text_eq h (List.getElem?_eq_getElem hi) (List.getElem?_eq_getElem hj) mem
      mem' same).1
    omega

/-- **Programs differ.** Whatever the context, if all variants are generated with the stock
emitters, then no two of their slots hold the same text: equal texts are those of the same
shader of the same variant. So a new cache calls a compiler that never fails once for each
slot, in order, and gives every slot the handle that the compiler gave for its own kind and
text. -/
theorem programs_differ {variants : List (Variant String)}
    (h : (all .stock c).2.result = .ok variants) :
    (∀ (i j : Nat) (w w' : Variant String), variants[i]? = some w → variants[j]? = some w' →
      ∀ kind kind' text,
      (kind, text) ∈ w.slots → (kind', text) ∈ w'.slots → i = j ∧ kind = kind') ∧
    ((variants.flatMap Variant.slots).map Prod.snd).Nodup ∧
    ∀ {σ : Type} (compiler : Compiler σ) (s : σ),
      (∀ kind source u, ∃ t handle, compiler.compile kind source u = (t, .ok handle)) →
      Set.InjOn compiler.fingerprint
        {source | ∃ slot ∈ variants.flatMap Variant.slots, slot.2 = source} →
      ∃ cache sets,
        (Cache.compileAll compiler.recording variants).step (.ofState (s, []))
          = (cache, .ok sets) ∧
        (Cache.compileAll compiler variants).step (.ofState s) = (cache.forget, .ok sets) ∧
        Compiler.Calls compiler s cache.state.2 cache.state.1 ∧
        cache.state.2.map Compiler.Call.slot = variants.flatMap Variant.slots ∧
        List.Forall₂ (fun w set => List.Forall₂ (fun slot handle => slot.1 = handle.1 ∧
          ⟨slot.1, slot.2, .ok handle.2⟩ ∈ cache.state.2) w.slots set.slots) variants sets := by
  refine ⟨fun i j w w' hw hw' kind kind' text mem mem' => ?_, nodup_texts h,
    fun compiler s succeeds distinct => ?_⟩
  · exact eq_of_text_eq h hw hw' mem mem' rfl
  · exact Cache.compileAll_of_nodup compiler s succeeds distinct (nodup_texts h)

/-- A variant of photon maps with every kind of shader. -/
def fullVariant : VariantInfo :=
  { VariantInfo.ofFeatures [.usesLights, .beforeIterationCallback, .afterIterationCallback] with
    shadowMode := .advanced }

/-- A scene with two materials that only their names tell apart. -/
def twinScene : Scene :=
  (Scene.empty.addBsdf "left" (Object.ofKind "diffuse")).addBsdf "right" (Object.ofKind "diffuse")

/-- A compiler that numbers what it compiles. -/
def numbering : Compiler Nat where
  compile _ _ count := (count + 1, .ok (count + 1))

theorem twins_differ :
    ∃ c variants cache sets,
      (Context.ofScene twinScene ⟨[fullVariant, fullVariant], []⟩
        { Options.standard with techniqueKind := some "ppm" }).result = .ok c ∧
      (all .stock { c with database := some ⟨0, 0⟩ }).2.result = .ok variants ∧
      (variants.flatMap Variant.slots).length = 16 ∧
      ((variants.flatMap Variant.slots).map Prod.snd).Nodup ∧
      (Cache.compileAll numbering variants).step (.ofState 0) = (Cache.forget cache, .ok sets) ∧
      cache.state.2.map Compiler.Call.slot = variants.flatMap Variant.slots := by
  have made : ∃ c, (Context.ofScene twinScene ⟨[fullVariant, fullVariant], []⟩
      { Options.standard with techniqueKind := some "ppm" }).result = .ok c ∧
      ((all .stock { c with database := some ⟨0, 0⟩ }).2.result.map
        fun variants => (variants.flatMap Variant.slots).length) = .ok 16 := by
    refine ⟨_, rfl, ?_⟩
    decide +kernel
  obtain ⟨c, made, count⟩ := made
  cases h : (all .stock { c with database := some ⟨0, 0⟩ }).2.result with
  | error f =>
    rw [h] at count
    cases count
  | ok variants =>
    rw [h] at count
    obtain ⟨-, texts, compiles⟩ := programs_differ h
    obtain ⟨cache, sets, -, went, -, slots, -⟩ :=
      compiles numbering 0 (fun _ _ u => ⟨u + 1, u + 1, rfl⟩) (Set.injOn_id _)
    exact ⟨c, variants, cache, sets, made, h, Except.ok.inj count, texts, went, slots⟩

end Generation

end RayShader
