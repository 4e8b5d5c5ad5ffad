import RayShader.Stock.Emitters
import RayShader.Proofs.Run
import RayShader.Proofs.Template
import RayShader.Proofs.Words

/-!
# Marks in texts

Some parts of a program say which one it is: the number of the variant in the preamble,
the name of the function, the number of the hit group behind the material. Each of these
marks stands at a known place and next to a character that it does not have itself, so it
is read off a text that is equal to another one (`eq_of_break`, `eq_of_break_end`).
-/

namespace RayShader

/-! ### Reading up to a break -/

namespace Text

variable {c : Char} {s s' t t' : String}

theorem append_break_inj {xs ys us vs : List Char} (hx : c ∉ xs) (hy : c ∉ ys)
    (h : xs ++ c :: us = ys ++ c :: vs) : xs = ys ∧ us = vs := by
  rcases List.append_eq_append_iff.mp h with ⟨more, rfl, rest⟩ | ⟨more, rfl, rest⟩
  · cases more with
    | nil => exact ⟨(List.append_nil xs).symm, (List.cons.inj rest).2⟩
    | cons d more =>
      obtain ⟨rfl, -⟩ := List.cons.inj rest
      exact absurd (List.mem_append_right xs List.mem_cons_self) hy
  · cases more with
    | nil => exact ⟨List.append_nil ys, (List.cons.inj rest).2.symm⟩
    | cons d more =>
      obtain ⟨rfl, -⟩ := List.cons.inj rest
      exact absurd (List.mem_append_right ys List.mem_cons_self) hx

/-- Texts that are equal are equal up to the first break. -/
theorem eq_of_break (hs : c ∉ s.toList) (hs' : c ∉ s'.toList) (ht : t.toList.head? = some c)
    (ht' : t'.toList.head? = some c) (h : s ++ t = s' ++ t') : s = s' ∧ t = t' := by
  obtain ⟨cs, tail⟩ := List.head?_eq_some_iff.mp ht
  obtain ⟨cs', tail'⟩ := List.head?_eq_some_iff.mp ht'
  have chars : s.toList ++ c :: cs = s'.toList ++ c :: cs' := by
    rw [← tail, ← tail', ← String.toList_append, ← String.toList_append, h]
  obtain ⟨front, rest⟩ := append_break_inj hs hs' chars
  exact ⟨String.toList_inj.mp front, String.toList_inj.mp (by rw [tail, tail', rest])⟩

/-- Texts that are equal are equal from the last break on. -/
theorem eq_of_break_end (ht : c ∉ t.toList) (ht' : c ∉ t'.toList)
    (hs : s.toList.getLast? = some c) (hs' : s'.toList.getLast? = some c)
    (h : s ++ t = s' ++ t') : t = t' := by
  obtain ⟨cs, front⟩ := List.getLast?_eq_some_iff.mp hs
  obtain ⟨cs', front'⟩ := List.getLast?_eq_some_iff.mp hs'
  have chars : t.toList.reverse ++ c :: cs.reverse = t'.toList.reverse ++ c :: cs'.reverse := by
    have whole := congrArg (List.reverse ∘ String.toList) h
    simpa [front, front'] using whole
  obtain ⟨rest, -⟩ := append_break_inj (by simpa using ht) (by simpa using ht') chars
  exact String.toList_inj.mp (List.reverse_injective rest)

end Text

/-! ### Stock contributions -/

namespace Stock

open Template
open RayShader.Technique (Moment VariantInfo)

variable {c : Context}

/-- The preamble of a program of a variant, given the technique, the number of the variant
and the components that rays carry. -/
def preambleText (technique : String) (variant primary secondary : Nat) : String :=
  .join ["// Technique '", technique, "', variant ", toString variant,
    "\nstatic RayPayloadComponents = ", toString primary,
    ";\nstatic SecondaryPayloadComponents = ", toString secondary, ";"]

/-- The line of the preamble for ray generation that makes the data of a new ray. -/
def initializerText (initializer : String) : String :=
  .join ["\nfn init_raypayload() = ", initializer, ";"]

/-- The values of the preamble. -/
def headerScope (technique : String) (variant primary secondary : Nat) (initializer : String)
    (rayGeneration : Bool) : Scope :=
  [("technique", .string technique), ("variant", .nat variant), ("primary_payload", .nat primary),
    ("secondary_payload", .nat secondary), ("initializer", .string initializer),
    ("is_ray_generation", .bool rayGeneration)]

theorem fill_header (technique : String) (variant primary secondary : Nat) (initializer : String)
    (rayGeneration : Bool) :
    fill Template.Stock.header
        (headerScope technique variant primary secondary initializer rayGeneration)
      = .ok (preambleText technique variant primary secondary
        ++ if rayGeneration then initializerText initializer else "") := by
  set scope := headerScope technique variant primary secondary initializer rayGeneration with hs
  have line : Text.trimEnd ";\n" = ";" := by decide +kernel
  -- what is trimmed is the end of the last line, whichever line that is
  obtain ⟨last, closing, trimmed⟩ : ∃ last,
      Renders scope (.cond (.holds (.name "is_ray_generation"))
        [.text "fn init_raypayload() = ", hole "initializer", .text ";\n"] []) last ∧
      Text.trimEnd (";\n" ++ last)
        = ";" ++ if rayGeneration then initializerText initializer else "" := by
    cases rayGeneration with
    | false => exact ⟨"", rfl, by simpa using line⟩
    | true =>
      have text : Node.renderAll [.text "fn init_raypayload() = ", hole "initializer", .text ";\n"]
          scope = .ok (.join ["fn init_raypayload() = ", initializer, ";\n"]) :=
        renderAll_eq (.cons rfl <| .cons rfl <| .cons rfl .nil)
      have split : ";\n" ++ String.join ["fn init_raypayload() = ", initializer, ";\n"]
          = ";" ++ "\nfn init_raypayload() = " ++ initializer ++ ";\n" := by
        simp [String.join_cons, ← String.append_assoc]
      refine ⟨_, text, ?_⟩
      rw [split, Text.trimEnd_append (by rw [line]; decide), line]
      simp [initializerText, String.join_cons, ← String.append_assoc]
  have rendered : List.Forall₂ (Renders scope) Template.Stock.header
      (["// Technique '", technique, "', variant ", toString variant,
        "\nstatic RayPayloadComponents = ", toString primary,
        ";\nstatic SecondaryPayloadComponents = ", toString secondary] ++ [";\n", last]) :=
    .cons rfl <| .cons rfl <| .cons rfl <| .cons (renders_nat rfl) <| .cons rfl <|
      .cons (renders_nat rfl) <| .cons rfl <| .cons (renders_nat rfl) <| .cons rfl <|
      .cons closing .nil
  rw [fill_of_split rendered String.join_append (by simpa [String.join_cons] using trimmed) ?_]
  · simp [preambleText, String.join_cons, String.append_assoc]
  · simp

theorem header_eq {v : VariantInfo} (hv : c.variant = .ok v) (rayGeneration : Bool) :
    header c rayGeneration = .ok (preambleText c.techniqueKind c.selected v.primaryPayload.toNat
        v.secondaryPayload.toNat
      ++ if rayGeneration then initializerText (v.payloadInitializer.getD Technique.emptyPayload)
        else "") := by
  rw [header, hv]
  exact congrArg orFault (fill_header ..)

theorem ok_of_orFault {α : Type} {r : Except Error α} {a : α} (h : orFault r = .ok a) :
    r = .ok a := by
  cases r with
  | ok b => exact congrArg Except.ok (Except.ok.inj h)
  | error e => cases h

/-- The function that a callback calls. -/
def callbackFunction : Moment → String
  | .before => "ppm_reset_photon_map"
  | .after => "ppm_shrink_radius"

/-- The line of a callback, given the last argument of the function that it calls. -/
def callbackLine (m : Moment) (argument : String) : String :=
  .join ["  let callback = @|iter: i32| ", callbackFunction m, "(device, iter, ", argument, ");"]

/-- The last argument of the function that a callback calls. -/
def Technique.Parameters.callbackArgument (p : Technique.Parameters) : Moment → String
  | .before => toString p.photons
  | .after => p.radius

theorem fill_callback (c : Context) (m : Moment) (p : Technique.Parameters) :
    fill Template.Stock.photonsCallback (Technique.scope c (m = .before) p)
      = .ok (callbackLine m (p.callbackArgument m)) := by
  have shown : List.Forall₂ (Renders (Technique.scope c (m = .before) p))
      Template.Stock.photonsCallback
      [.join (["  let callback = @|iter: i32| " ++ callbackFunction m ++ "(device, iter, ",
        p.callbackArgument m] ++ [");\n"])] := by
    cases m with
    | before => exact .cons (renderAll_eq (.cons rfl <| .cons rfl <| .cons rfl .nil)) .nil
    | after => exact .cons (renderAll_eq (.cons rfl <| .cons rfl <| .cons rfl .nil)) .nil
  have line : Text.trimEnd ");\n" = ");" := by decide +kernel
  rw [fill_nested [] _ shown line (by decide)]
  simp [callbackLine, String.join_cons, String.append_assoc]

/-- Only photon maps have callbacks, and a callback is made of the parameters. -/
theorem callback_eq_ok {m : Moment} {lines : String} :
    callback c m = .ok lines ↔ c.techniqueKind = Technique.photons.kind ∧
      ∃ t p, Technique.ofContext c = .ok (t, p) ∧ lines = callbackLine m (p.callbackArgument m) := by
  unfold callback
  by_cases photons : c.techniqueKind = Technique.photons.kind
  · rw [if_neg (by simpa using photons), except_bind_eq_ok]
    simp only [fill_callback, Except.ok.injEq, Prod.exists, photons, true_and]
    exact exists₂_congr fun _ _ => and_congr_right fun _ => eq_comm
  · rw [if_pos (by simpa using photons)]
    simp [photons]

theorem callback_text {m : Moment} {lines : String} (h : callback c m = .ok lines) :
    ∃ rest, lines = "  let callback = @|iter: i32| " ++ (callbackFunction m ++ ("(" ++ rest)) := by
  obtain ⟨-, _, p, -, rfl⟩ := callback_eq_ok.mp h
  refine ⟨"device, iter, " ++ (p.callbackArgument m ++ ");"), ?_⟩
  have paren : "(device, iter, " = "(" ++ "device, iter, " := rfl
  simp only [callbackLine, String.join_cons, String.join_nil, String.append_empty, paren,
    String.append_assoc]

/-- The block of a material ends with the number of its hit group. -/
theorem material_text (group : Nat) : (material c group).Gives fun block =>
    ∃ front, block = front ++ "make_material(bsdf_" ++ toString group ++ "(ctx));" := by
  cases found : c.scene.bsdfs.entries[group]? with
  | none =>
    intro t t' block gave
    unfold material at gave
    rw [found] at gave
    cases (Prod.mk.inj gave).2
  | some entry =>
    rw [material_eq found]
    refine .bind (.any _) fun bsdf _ => .bind (.any _) fun buffers _ => .pure
      ⟨.join [declarationText buffers, "  let bsdf_", toString group,
        " = @|ctx: ShadingContext| -> Bsdf \x7b ", bsdf, " \x7d; // ", entry.1,
        "\n  let shader = @|ctx: ShadingContext| "], ?_⟩
    simp [materialBlock, String.join_cons, String.append_assoc]

end Stock

end RayShader
